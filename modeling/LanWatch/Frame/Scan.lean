import LanWatch.Frame.Cursor
import LanWatch.Log
import LanWatch.Sighting

namespace LanWatch

/-!
# What decoding yields

Malformed protocol data never stops the program. It degrades a record to a less specific kind,
and where that is worth a remark the decoder leaves a note.

* `Note` — a remark on a frame;
* `Scan` — a record refined by a payload, with the error that stopped the scan, if any;
* `Dissection` — the records of a whole frame.
-/

/-- A remark on a frame. -/
inductive Note where
  /-- An ARP packet that is not about Ethernet and IPv4. -/
  | foreignArp (source : MacAddr) (hardwareLength protocolLength : UInt8)
  /-- An IPv4 header that claims to be shorter than any can be. -/
  | headerLength (length : Nat) (source : Ipv4)
  /-- A DHCP message without the magic cookie. -/
  | noCookie (mac : MacAddr)
  /-- A DHCP message type that is not one byte long. -/
  | messageTypeLength (mac : MacAddr) (length : Nat)
  /-- A DHCP message type that means nothing. -/
  | messageTypeRange (mac : MacAddr) (code : UInt8)
  /-- A NetBIOS packet whose first name is a pointer. -/
  | namePointer (mac : MacAddr)
  /-- A NetBIOS name that is not first-level encoded. -/
  | undecodableName (mac : MacAddr)
  /-- A process variable name that found no room. -/
  | namesFull (mac : MacAddr)
  deriving DecidableEq

/-- The wording of a note. -/
def Note.text : Note → String
  | foreignArp source hardwareLength protocolLength =>
    "Non Ethernet/IPv4 ARP from " ++ source.text ++ " (hlen " ++
      Text.decimal hardwareLength.toNat ++ ", plen " ++ Text.decimal protocolLength.toNat ++ ")"
  | headerLength length source =>
    "Bogus IPv4 header length " ++ Text.decimal length ++ " from " ++ source.text
  | noCookie mac => "DHCP from " ++ mac.text ++ " without magic cookie"
  | messageTypeLength mac length =>
    "DHCP message type option from " ++ mac.text ++ " has length " ++ Text.decimal length
  | messageTypeRange mac code =>
    "DHCP message type " ++ Text.decimal code.toNat ++ " from " ++ mac.text ++ " out of range"
  | namePointer mac => "NetBIOS packet from " ++ mac.text ++ " starts with a pointer"
  | undecodableName mac => "Undecodable NetBIOS name from " ++ mac.text
  | namesFull mac => "PV name list full for " ++ mac.text

/-- The protocol that a note is about. -/
def Note.component : Note → Component
  | foreignArp .. => .arp
  | headerLength .. => .ipv4
  | noCookie _ | messageTypeLength .. | messageTypeRange .. => .dhcp
  | namePointer _ | undecodableName _ => .netBios
  | namesFull _ => .channelAccess

/-- Notes are for debugging only. -/
def Note.event (n : Note) : Event :=
  ⟨.debug, n.component, n.text⟩

/-- A record refined by a payload. -/
structure Scan where
  sighting : Sighting
  /-- Why the scan stopped before the end of the payload's meaning, if it did. -/
  error : Option DecodeError := none
  notes : List Note := []
  deriving DecidableEq

/-- The records of a whole frame. -/
structure Dissection where
  /-- What was decoded before any error. -/
  sightings : List Sighting := []
  error : Option DecodeError := none
  notes : List Note := []
  deriving DecidableEq

/-- A scan of a frame that yields one record. -/
def Dissection.ofScan (s : Scan) : Dissection :=
  ⟨[s.sighting], s.error, s.notes⟩

/-- Nothing but an error. -/
def Dissection.failed (e : DecodeError) : Dissection :=
  { error := some e }

/-- What is known from the link layer about every record of a frame. -/
structure LinkFacts where
  source : MacAddr
  vlan : Option UInt16
  seen : Timestamp
  deriving DecidableEq

/-- The record of a frame whose payload says nothing of use. -/
def LinkFacts.unknown (link : LinkFacts) : Sighting :=
  .unknown link.source link.seen link.vlan

end LanWatch
