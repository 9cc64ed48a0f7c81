import LanWatch.Frame.Header
import LanWatch.Frame.Scan

namespace LanWatch.Arp

/-!
# ARP

Requests and replies that map IPv4 addresses to hardware addresses. The address fields are laid out
as expected only if the fixed part at the start says so, which is therefore read first.

* `FixedPart` — the types and lengths of the addresses;
* `Body` — operation and addresses of a packet about Ethernet and IPv4;
* `Body.classify` — probe, announcement, or neither;
* `FixedPart.dissect`, `dissect` — the records of a packet.
-/

/-- The length of a packet about Ethernet and IPv4. -/
def packetLength : Nat := 28

/-- The types and lengths of the addresses of a packet. -/
structure FixedPart where
  hardwareType : UInt16
  protocolType : UInt16
  hardwareLength : UInt8
  protocolLength : UInt8
  deriving DecidableEq

namespace FixedPart

/-- The fixed part of a packet about Ethernet and IPv4. -/
def ethernetIpv4 : FixedPart := ⟨1, 0x0800, 6, 4⟩

/-- Reads the fixed part of a packet. -/
def read (payload : Bytes) : Except DecodeError FixedPart := do
  let c := Cursor.start "arp" payload
  let (hardwareType, c) ← c.u16
  let (protocolType, c) ← c.u16
  let (hardwareLength, c) ← c.u8
  let (protocolLength, _) ← c.u8
  return ⟨hardwareType, protocolType, hardwareLength, protocolLength⟩

end FixedPart

/-- Operation and addresses of a packet about Ethernet and IPv4. -/
structure Body where
  operation : UInt16
  senderMac : MacAddr
  senderIp : Ipv4
  targetMac : MacAddr
  targetIp : Ipv4
  deriving DecidableEq

/-- What a request or reply says. -/
inductive Class where
  /-- The sender has no address yet and asks who owns the target. -/
  | probe
  /-- The sender announces or defends its own address. -/
  | gratuitous
  | normal
  deriving DecidableEq

namespace Body

/-- The operation of a request. -/
def request : UInt16 := 1

/-- The operation of a reply. -/
def reply : UInt16 := 2

/-- Reads the body that follows the fixed part. Padding may follow it. -/
def ofBytes? : Bytes → Option Body
  | _ :: _ :: _ :: _ :: _ :: _ :: o₁ :: o₀ ::
    s₀ :: s₁ :: s₂ :: s₃ :: s₄ :: s₅ :: a₀ :: a₁ :: a₂ :: a₃ ::
    t₀ :: t₁ :: t₂ :: t₃ :: t₄ :: t₅ :: b₀ :: b₁ :: b₂ :: b₃ :: _ =>
    some ⟨be16 o₁ o₀, ⟨s₀, s₁, s₂, s₃, s₄, s₅⟩, ⟨a₀, a₁, a₂, a₃⟩,
      ⟨t₀, t₁, t₂, t₃, t₄, t₅⟩, ⟨b₀, b₁, b₂, b₃⟩⟩
  | _ => none

/-- The fixed part is read past, and padding is not looked at. -/
theorem ofBytes?_fixed : FixedHeader packetLength ofBytes? := by
  repeat refine .byte rfl fun _ => ?_
  exact .done fun _ => rfl

/-- A probe is recognised before an announcement. -/
def classify (b : Body) : Class :=
  if b.senderIp = .unspecified ∧ b.targetMac = .zero then .probe
  else if b.senderIp = b.targetIp ∧
      (b.targetMac = .broadcast ∨ b.targetMac = .zero ∨ b.targetMac = b.senderMac) then .gratuitous
  else .normal

/-- The record of the sender in a given role. -/
def sender (b : Body) (link : LinkFacts) (role : ArpRole) : Sighting :=
  .plain b.senderMac b.senderIp link.seen link.vlan (.arp role)

/-- The record of the target of a reply. -/
def target (b : Body) (link : LinkFacts) : Sighting :=
  .plain b.targetMac b.targetIp link.seen link.vlan (.arp .destination)

/-- The records of a packet. Operations other than request and reply tell nothing. -/
def sightings (b : Body) (link : LinkFacts) : List Sighting :=
  if b.operation = request ∨ b.operation = reply then
    match b.classify with
    | .probe => [b.sender link .probe]
    | .gratuitous => [b.sender link .gratuitous]
    | .normal =>
      if b.operation = reply then [b.sender link .source, b.target link]
      else [b.sender link .source]
  else []

end Body

/-- The records of a packet whose fixed part was read. -/
def FixedPart.dissect (fixed : FixedPart) (link : LinkFacts) (payload : Bytes) : Dissection :=
  if fixed = ethernetIpv4 then
    match Body.ofBytes? payload with
    | none => .failed (.truncated "arp" 0 packetLength payload.length)
    | some body => { sightings := body.sightings link }
  else
    { sightings := [link.unknown],
      notes := [.foreignArp link.source fixed.hardwareLength fixed.protocolLength] }

/-- The records of a packet. -/
def dissect (link : LinkFacts) (payload : Bytes) : Dissection :=
  match FixedPart.read payload with
  | .error e => .failed e
  | .ok fixed => fixed.dissect link payload

end LanWatch.Arp
