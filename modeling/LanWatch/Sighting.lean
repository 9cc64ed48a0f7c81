import LanWatch.Address
import LanWatch.Sighting.Kind
import LanWatch.Timestamp

namespace LanWatch

/-!
# Sightings

One record of one host, as a frame showed it. A record stands on its own: nothing in it refers
back to the frame.

* `Sighting` — the record;
* `Sighting.plain` and `Sighting.unknown` — records without names;
* `Sighting.addPvName` — process variable names are kept up to a limit;
* `Sighting.same` — when two records say the same thing about the same host.
-/

/-- One record of one host. -/
structure Sighting where
  mac : MacAddr
  /-- `0.0.0.0` when the frame carried no usable address. -/
  ip : Ipv4
  seen : Timestamp
  /-- The VLAN of the frame; none if it was untagged and no native VLAN is known. -/
  vlan : Option UInt16
  kind : Kind
  /-- The host name from a DHCP option. -/
  dhcpName : Option String
  /-- The host name from a NetBIOS name service packet. -/
  netbiosName : Option String
  /-- The process variables that a Channel Access search asked for. -/
  pvNames : List String
  deriving DecidableEq

namespace Sighting

/-- The most process variable names that a record keeps. -/
def maxPvNames : Nat := 32

/-- A record without names. -/
def plain (mac : MacAddr) (ip : Ipv4) (seen : Timestamp) (vlan : Option UInt16) (kind : Kind) :
    Sighting :=
  ⟨mac, ip, seen, vlan, kind, none, none, []⟩

/-- A record of a hardware address alone. -/
def unknown (mac : MacAddr) (seen : Timestamp) (vlan : Option UInt16) : Sighting :=
  plain mac .unspecified seen vlan .unknown

/-- There is room for another process variable name. -/
def hasRoom (s : Sighting) : Bool :=
  s.pvNames.length < maxPvNames

/-- Appends a process variable name if there is room for it. -/
def addPvName (s : Sighting) (name : String) : Sighting :=
  if s.hasRoom then { s with pvNames := s.pvNames ++ [name] } else s

/-- Two records say the same: same address, same kind, same hardware address. -/
def same (a b : Sighting) : Bool :=
  a.ip == b.ip && a.kind == b.kind && a.mac == b.mac

/-- Neither the time nor the VLAN nor any name counts. -/
theorem same_iff {a b : Sighting} :
    same a b = true ↔ a.ip = b.ip ∧ a.kind = b.kind ∧ a.mac = b.mac := by
  simp [same, and_assoc]

end Sighting

end LanWatch
