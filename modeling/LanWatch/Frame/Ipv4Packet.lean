import LanWatch.Frame.ChannelAccess
import LanWatch.Frame.Dhcp
import LanWatch.Frame.Header
import LanWatch.Frame.NetBios

namespace LanWatch

/-!
# IPv4 and UDP

Every IPv4 packet gives one record of its source. The record starts as a plain broadcast sighting
and is refined by whatever the UDP layer reveals; it is kept even if a deeper layer is cut short.

* `Ipv4Header` — the fields of an IPv4 header that matter here;
* `Ipv4Header.payload` — the payload, within what the header claims and what was captured;
* `UdpHeader` — the two ports;
* `inspectUdp` — the protocols told apart by their ports;
* `Ipv4Header.dissect`, `dissectIpv4` — the record of a packet.
-/

/-! ### IPv4 -/

/-- The fields of an IPv4 header that matter here. -/
structure Ipv4Header where
  /-- The length of the header in words of four bytes. -/
  words : Nat
  /-- The length of header and payload together. -/
  totalLength : Nat
  protocol : UInt8
  source : Ipv4
  deriving DecidableEq

namespace Ipv4Header

/-- The length of a header without options. -/
def minLength : Nat := 20

/-- The protocol number of UDP. -/
def udp : UInt8 := 17

/-- Reads a header. -/
def ofBytes? : Bytes → Option Ipv4Header
  | versionWords :: _ :: t₁ :: t₀ :: _ :: _ :: _ :: _ :: _ :: protocol :: _ :: _ ::
    s₀ :: s₁ :: s₂ :: s₃ :: _ :: _ :: _ :: _ :: _ =>
    some ⟨versionWords.toNat % 16, (be16 t₁ t₀).toNat, protocol, ⟨s₀, s₁, s₂, s₃⟩⟩
  | _ => none

/-- Only what every header has is read here; options follow it. -/
theorem ofBytes?_fixed : FixedHeader minLength ofBytes? := by
  repeat refine .byte rfl fun _ => ?_
  exact .done fun _ => rfl

/-- The length of the header with its options. -/
def length (h : Ipv4Header) : Nat :=
  h.words * 4

/-- Where the payload of a packet of `captured` bytes ends: where the header says, but not before
    the header's own end and not after the last captured byte. -/
def payloadEnd (h : Ipv4Header) (captured : Nat) : Nat :=
  min (max h.totalLength h.length) captured

/-- The payload of a packet that is at least as long as its header. -/
def payload (h : Ipv4Header) (packet : Bytes) : Bytes :=
  (packet.take (h.payloadEnd packet.length)).drop h.length

end Ipv4Header

/-! ### UDP -/

/-- The ports of a datagram. -/
structure UdpHeader where
  source : UInt16
  destination : UInt16
  deriving DecidableEq

namespace UdpHeader

/-- The length of a header. -/
def size : Nat := 8

/-- Reads a header. -/
def ofBytes? : Bytes → Option UdpHeader
  | s₁ :: s₀ :: d₁ :: d₀ :: _ :: _ :: _ :: _ :: _ => some ⟨be16 s₁ s₀, be16 d₁ d₀⟩
  | _ => none

/-- All eight bytes have to be there, although only the ports are kept. -/
theorem ofBytes?_fixed : FixedHeader size ofBytes? := by
  repeat refine .byte rfl fun _ => ?_
  exact .done fun _ => rfl

end UdpHeader

/-- The port of DHCP clients. -/
def dhcpClientPort : UInt16 := 68

/-- The port of DHCP servers. -/
def dhcpServerPort : UInt16 := 67

/-- The port of the NetBIOS name service. -/
def netBiosPort : UInt16 := 137

/-- The port of Channel Access searches. -/
def channelAccessPort : UInt16 := 5064

/-- The port of pvAccess searches. -/
def pvAccessPort : UInt16 := 5076

/-- Refines the record of a packet by its datagram. An empty datagram tells nothing. -/
def inspectUdp (datagram : Bytes) (s : Sighting) : Scan :=
  if datagram = [] then ⟨s, none, []⟩
  else match UdpHeader.ofBytes? datagram with
    | none => ⟨s, some (.truncated "udp" 0 UdpHeader.size datagram.length), []⟩
    | some ports =>
      let body := datagram.drop UdpHeader.size
      if ports.source = dhcpClientPort ∧ ports.destination = dhcpServerPort then
        Dhcp.scan body { s with kind := .udp }
      else if ports.destination = netBiosPort then
        NetBios.scan body { s with kind := .udp }
      else if ports.destination = channelAccessPort then
        ChannelAccess.scan body { s with kind := .channelAccess }
      else if ports.destination = pvAccessPort then
        ⟨{ s with kind := .pvAccess }, none, []⟩
      else ⟨{ s with kind := .udp }, none, []⟩

/-! ### The record of a packet -/

/-- Refines the record of a packet whose header was read. -/
def Ipv4Header.refine (h : Ipv4Header) (packet : Bytes) (s : Sighting) : Scan :=
  if h.protocol = udp then
    if h.length < minLength then ⟨s, none, [.headerLength h.length h.source]⟩
    else if packet.length < h.length then
      ⟨s, some (.truncated "ipv4" 0 h.length packet.length), []⟩
    else inspectUdp (h.payload packet) s
  else ⟨s, none, []⟩

/-- The record of a packet. -/
def dissectIpv4 (link : LinkFacts) (packet : Bytes) : Dissection :=
  match Ipv4Header.ofBytes? packet with
  | none => .failed (.truncated "ipv4" 0 Ipv4Header.minLength packet.length)
  | some h =>
    .ofScan (h.refine packet (.plain link.source h.source link.seen link.vlan .ipBroadcast))

end LanWatch
