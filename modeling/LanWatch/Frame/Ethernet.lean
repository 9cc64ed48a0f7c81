import LanWatch.Frame.Arp
import LanWatch.Frame.Ipv4Packet

namespace LanWatch

/-!
# Ethernet frames

The link layer: addresses, ether-type, and at most one 802.1Q tag. From here a frame is handed to
the decoder of its payload.

* `VlanPolicy` — how tagged and untagged frames are treated on an interface;
* `EthernetHeader`, `VlanTag` — the link layer of a frame;
* `dissectPayload` — the decoder that an ether-type selects;
* `dissect` — the records of a frame;
* `classifyLog`, `Dissection.log` — what is said about a frame.
-/

/-- How tagged and untagged frames are treated on an interface. -/
structure VlanPolicy where
  /-- The VLAN of untagged frames. -/
  nativeVlan : Option UInt16 := none
  /-- Tagged frames are passed over. -/
  ignoreTagged : Bool := false
  deriving DecidableEq

namespace EtherType

/-- The ether-type of ARP. -/
def arp : UInt16 := 0x0806

/-- The ether-type of IPv4. -/
def ipv4 : UInt16 := 0x0800

/-- The ether-type that announces an 802.1Q tag. -/
def vlan : UInt16 := 0x8100

end EtherType

/-- The link layer header of a frame. -/
structure EthernetHeader where
  destination : MacAddr
  source : MacAddr
  etherType : UInt16
  deriving DecidableEq

namespace EthernetHeader

/-- The length of a header. -/
def size : Nat := 14

/-- Reads a header. -/
def ofBytes? : Bytes → Option EthernetHeader
  | d₀ :: d₁ :: d₂ :: d₃ :: d₄ :: d₅ :: s₀ :: s₁ :: s₂ :: s₃ :: s₄ :: s₅ :: t₁ :: t₀ :: _ =>
    some ⟨⟨d₀, d₁, d₂, d₃, d₄, d₅⟩, ⟨s₀, s₁, s₂, s₃, s₄, s₅⟩, be16 t₁ t₀⟩
  | _ => none

/-- Two addresses and an ether-type. -/
theorem ofBytes?_fixed : FixedHeader size ofBytes? := by
  repeat refine .byte rfl fun _ => ?_
  exact .done fun _ => rfl

end EthernetHeader

/-- The tag that may follow the header. -/
structure VlanTag where
  /-- Priority, drop eligibility and VLAN. -/
  control : UInt16
  /-- The ether-type of the payload. -/
  etherType : UInt16
  deriving DecidableEq

namespace VlanTag

/-- The length of a tag. -/
def size : Nat := 4

/-- Reads a tag. -/
def ofBytes? : Bytes → Option VlanTag
  | c₁ :: c₀ :: t₁ :: t₀ :: _ => some ⟨be16 c₁ c₀, be16 t₁ t₀⟩
  | _ => none

/-- The control field and the ether-type of the payload. -/
theorem ofBytes?_fixed : FixedHeader size ofBytes? := by
  repeat refine .byte rfl fun _ => ?_
  exact .done fun _ => rfl

/-- The VLAN: the low twelve bits of the control field. -/
def vlan (t : VlanTag) : UInt16 :=
  UInt16.ofNat (t.control.toNat % 4096)

end VlanTag

/-- The decoder that an ether-type selects. Of other frames only the source is recorded. -/
def dissectPayload (etherType : UInt16) (link : LinkFacts) (payload : Bytes) : Dissection :=
  if etherType = EtherType.arp then Arp.dissect link payload
  else if etherType = EtherType.ipv4 then dissectIpv4 link payload
  else { sightings := [link.unknown] }

/-- The records of a frame that was received at a given time. -/
def dissect (policy : VlanPolicy) (seen : Timestamp) (frame : Bytes) : Dissection :=
  match EthernetHeader.ofBytes? frame with
  | none => .failed (.truncated "ethernet" 0 EthernetHeader.size frame.length)
  | some header =>
    let payload := frame.drop EthernetHeader.size
    if header.etherType = EtherType.vlan then
      if policy.ignoreTagged then {}
      else match VlanTag.ofBytes? payload with
        | none => .failed (.truncated "802.1q" EthernetHeader.size VlanTag.size payload.length)
        | some tag =>
          dissectPayload tag.etherType ⟨header.source, some tag.vlan, seen⟩
            (payload.drop VlanTag.size)
    else dissectPayload header.etherType ⟨header.source, policy.nativeVlan, seen⟩ payload

/-! ### What is said about a frame -/

/-- The notes on a frame. -/
def Dissection.log (d : Dissection) : Log :=
  d.notes.map Note.event

/-- The message about an error that stopped decoding. -/
def stoppedText (e : DecodeError) : String :=
  "Frame decode stopped: " ++ e.message

/-- What is said when only the records of a frame are asked for. -/
def Dissection.classifyLog (d : Dissection) : Log :=
  d.log ++ d.error.toList.map fun e => ⟨.debug, .frames, stoppedText e⟩

end LanWatch
