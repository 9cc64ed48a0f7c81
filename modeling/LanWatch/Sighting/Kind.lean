namespace LanWatch

/-!
# Kinds of sighting

What a frame told about the host that sent it. A record has exactly one kind; a table that
collects records of one host joins the kinds as bits.

* `ArpRole`, `DhcpMessage` — the finer distinctions within ARP and DHCP;
* `Kind` — all kinds;
* `Kind.bits` — the bit pattern of a kind;
* `Kind.label` — its name in reports.
-/

/-- The part that an address plays in an ARP packet. -/
inductive ArpRole where
  /-- The sender of a request or reply. -/
  | source
  /-- The host that a reply is addressed to. -/
  | destination
  /-- A sender without an address asks whether one is taken. -/
  | probe
  /-- A sender announces or defends its own address. -/
  | gratuitous
  deriving DecidableEq

/-- The messages of the DHCP message type option. -/
inductive DhcpMessage where
  | discover | offer | request | decline | ack | nack | release
  deriving DecidableEq

namespace DhcpMessage

/-- The messages in the order of their numbers, which start at one. -/
def all : List DhcpMessage :=
  [discover, offer, request, decline, ack, nack, release]

/-- The message with a given number. -/
def ofCode? (code : UInt8) : Option DhcpMessage :=
  if code = 0 then none else all[code.toNat - 1]?

/-- The number of a message. -/
def code : DhcpMessage → UInt8
  | discover => 1
  | offer => 2
  | request => 3
  | decline => 4
  | ack => 5
  | nack => 6
  | release => 7

theorem ofCode?_code (m : DhcpMessage) : ofCode? m.code = some m := by
  cases m <;> decide

/-- The bit of a message among the bits of a kind. -/
def bit : DhcpMessage → Nat
  | discover => 0x200
  | offer => 0x400
  | request => 0x800
  | decline => 0x1000
  | ack => 0x2000
  | nack => 0x4000
  | release => 0x8000

/-- The name of a message in reports. -/
def label : DhcpMessage → String
  | discover => "DISCOVER"
  | offer => "OFFER"
  | request => "REQUEST"
  | decline => "DECLINE"
  | ack => "ACK"
  | nack => "NACK"
  | release => "RELEASE"

end DhcpMessage

/-- What a frame told about the host that sent it. -/
inductive Kind where
  /-- A hardware address and nothing else of use. -/
  | unknown
  | arp (role : ArpRole)
  | udp
  /-- DHCP traffic, with its message when that could be determined. -/
  | dhcp (message : Option DhcpMessage)
  | ipBroadcast
  | channelAccess
  | pvAccess
  deriving DecidableEq

namespace Kind

/-- The bit that every DHCP kind has. -/
def dhcpBit : Nat := 0x20

/-- The bit pattern of a kind in a mask that collects kinds. -/
def bits : Kind → Nat
  | unknown => 0
  | arp .source => 1
  | arp .destination => 2
  | arp .probe => 4
  | arp .gratuitous => 8
  | udp => 0x10
  | ipBroadcast => 0x40
  | channelAccess => 0x80
  | pvAccess => 0x100
  | dhcp (some m) => dhcpBit ||| m.bit
  | dhcp none => dhcpBit ||| 0x10000

/-- The name of a kind in reports. -/
def label : Kind → String
  | unknown => "UNKNOWN"
  | arp .source => "ARP SRC"
  | arp .destination => "ARP DST"
  | arp .probe => "ARP PROBE"
  | arp .gratuitous => "ARP GRAT"
  | udp => "UDP"
  | dhcp (some m) => "DHCP " ++ m.label
  | dhcp none => "DHCP ?"
  | ipBroadcast => "IP"
  | channelAccess => "EPICS CA"
  | pvAccess => "EPICS PVA"

/-- Every kind. -/
def all : List Kind :=
  [unknown, arp .source, arp .destination, arp .probe, arp .gratuitous, udp] ++
    DhcpMessage.all.map (fun m => dhcp (some m)) ++
    [dhcp none, ipBroadcast, channelAccess, pvAccess]

/-- The list of kinds leaves none out. -/
theorem mem_all (k : Kind) : k ∈ all := by
  rcases k with _ | r | _ | m | _ | _ | _
  case arp => cases r <;> decide
  case dhcp =>
    rcases m with _ | m
    · decide
    · cases m <;> decide
  all_goals decide

/-- Different kinds have different bit patterns. -/
theorem bits_injective {j k : Kind} (h : j.bits = k.bits) : j = k := by
  have key : ∀ j ∈ all, ∀ k ∈ all, j.bits = k.bits → j = k := by decide
  exact key j (mem_all j) k (mem_all k) h

end Kind

end LanWatch
