import LanWatch.Frame.Ethernet
import LanWatch.Proofs.Truncation.Payloads
import Mathlib.Data.List.Forall2

namespace LanWatch

/-!
# Records of cut frames

A frame that was cut when it was captured gives no record that the whole frame does not give, and
none that tells more. The payload of an IPv4 packet ends where the header says or where the captured
bytes end, so a cut never shows in the payload; it is seen only from the payload's own structure.

* `Blurred` — records tell no more than the first of other records;
* `inspectUdp_blurs`, `Ipv4Header.refine_blurs` — a cut datagram, and a cut packet;
* `dissectIpv4_blurred`, `Arp.dissect_blurred` — the records of a cut packet;
* `dissect_take` — the records of a cut frame.
-/

/-- Each record tells no more than the one in the same place among other records, which may be
    more. -/
structure Blurred (short long : List Sighting) : Prop where
  length_le : short.length ≤ long.length
  each : List.Forall₂ Sighting.Blurs short (long.take short.length)

namespace Blurred

theorem nil (long : List Sighting) : Blurred [] long :=
  ⟨Nat.zero_le _, .nil⟩

theorem refl (ss : List Sighting) : Blurred ss ss := by
  refine ⟨Nat.le_refl _, ?_⟩
  rw [List.take_length]
  exact List.forall₂_same.2 fun s _ => .refl s

theorem singleton {s t : Sighting} (h : s.Blurs t) : Blurred [s] [t] :=
  ⟨Nat.le_refl _, .cons h .nil⟩

end Blurred

/-! ### Datagrams -/

/-- Whatever a datagram tells, the record before it told no more. -/
theorem blurs_inspectUdp (datagram : Bytes) {s : Sighting} (hs : s.Bare) :
    s.Blurs (inspectUdp datagram s).sighting := by
  unfold inspectUdp
  split
  · exact .refl s
  · split
    · exact .refl s
    · simp only
      split
      · exact hs.blurs (Dhcp.blurs_scan _ { s with kind := .udp })
      · split
        · exact hs.blurs (NetBios.blurs_scan (s := { s with kind := .udp }) _ hs.netbiosName)
        · split
          · exact hs.blurs (ChannelAccess.blurs_scan _ { s with kind := .channelAccess })
          · split
            · exact hs.blurs (.refl { s with kind := .pvAccess })
            · exact hs.blurs (.refl { s with kind := .udp })

/-- The ports of a cut datagram select the same protocol, unless they are cut themselves. -/
theorem inspectUdp_blurs {short long : Bytes} (h : short <+: long) {s : Sighting} (hs : s.Bare) :
    (inspectUdp short s).sighting.Blurs (inspectUdp long s).sighting := by
  cases hports : UdpHeader.ofBytes? short with
  | none =>
    have hnothing : (inspectUdp short s).sighting = s := by
      unfold inspectUdp
      split
      · rfl
      · rw [hports]
    rw [hnothing]
    exact blurs_inspectUdp long hs
  | some ports =>
    have hlong := UdpHeader.ofBytes?_fixed.of_prefix h hports
    have hshortNonempty : short ≠ [] := by
      rintro rfl
      cases hports
    have hlongNonempty : long ≠ [] := by
      rintro rfl
      cases hlong
    have hbody := List.IsPrefix.drop h UdpHeader.size
    simp only [inspectUdp, if_neg hshortNonempty, if_neg hlongNonempty, hports, hlong]
    split
    · exact Dhcp.scan_blurs hbody _
    · split
      · exact NetBios.scan_blurs hbody hs.netbiosName
      · split
        · exact ChannelAccess.scan_blurs hbody _
        · exact .refl _

/-! ### Packets -/

namespace Ipv4Header

/-- Clamping to the captured bytes is no more than cutting there. -/
theorem payload_eq (h : Ipv4Header) (packet : Bytes) :
    h.payload packet = (packet.take (max h.totalLength h.length)).drop h.length := by
  rw [payload, payloadEnd, ← List.take_take, List.take_length]

/-- A cut takes away from the end of the payload, if it reaches the payload at all. -/
theorem payload_cut (h : Ipv4Header) {short long : Bytes} (hcut : short <+: long) :
    h.payload short <+: h.payload long := by
  rw [payload_eq, payload_eq]
  exact (hcut.take _).drop _

/-- A packet whose header is cut tells nothing but its source. -/
theorem refine_blurs (h : Ipv4Header) {short long : Bytes} (hcut : short <+: long) {s : Sighting}
    (hs : s.Bare) : (h.refine short s).sighting.Blurs (h.refine long s).sighting := by
  have hlength := hcut.length_le
  unfold refine
  split
  · split
    · exact .refl s
    · split
      · split
        · exact .refl s
        · exact blurs_inspectUdp _ hs
      · -- What is long enough before the cut is long enough without it.
        rw [if_neg (by omega)]
        exact inspectUdp_blurs (h.payload_cut hcut) hs
  · exact .refl s

end Ipv4Header

/-- The record of a cut packet is one of the whole packet, told less. -/
theorem dissectIpv4_blurred (link : LinkFacts) {short long : Bytes} (h : short <+: long) :
    Blurred (dissectIpv4 link short).sightings (dissectIpv4 link long).sightings := by
  unfold dissectIpv4
  cases hheader : Ipv4Header.ofBytes? short with
  | none => exact .nil _
  | some header =>
    rw [Ipv4Header.ofBytes?_fixed.of_prefix h hheader]
    exact .singleton (header.refine_blurs h ⟨rfl, rfl, rfl, rfl⟩)

namespace Arp

/-- The fixed part has a length of its own, so it is all there or not at all. -/
theorem FixedPart.read_of_cut {short long : Bytes} (h : short <+: long) {fixed : FixedPart}
    (hread : FixedPart.read short = .ok fixed) : FixedPart.read long = .ok fixed := by
  unfold FixedPart.read at hread ⊢
  refine Cursor.steady_u16.bind (Cursor.cut_start "arp" h) (fun _ c₁ d₁ hcut₁ hread => ?_) hread
  refine Cursor.steady_u16.bind hcut₁ (fun _ c₂ d₂ hcut₂ hread => ?_) hread
  refine Cursor.steady_u8.bind hcut₂ (fun _ c₃ d₃ hcut₃ hread => ?_) hread
  exact Cursor.steady_u8.bind hcut₃ (fun _ _ _ _ hread => hread) hread

/-- The records of a packet are all there, or none of them is. -/
theorem dissect_blurred (link : LinkFacts) {short long : Bytes} (h : short <+: long) :
    Blurred (dissect link short).sightings (dissect link long).sightings := by
  unfold dissect
  cases hfixed : FixedPart.read short with
  | error e => exact .nil _
  | ok fixed =>
    rw [FixedPart.read_of_cut h hfixed]
    simp only [FixedPart.dissect]
    split
    · cases hbody : Body.ofBytes? short with
      | none => exact .nil _
      | some body =>
        rw [Body.ofBytes?_fixed.of_prefix h hbody]
        exact .refl _
    · exact .refl _

end Arp

/-! ### Frames -/

theorem dissectPayload_blurred (etherType : UInt16) (link : LinkFacts) {short long : Bytes}
    (h : short <+: long) : Blurred (dissectPayload etherType link short).sightings
      (dissectPayload etherType link long).sightings := by
  -- One case for each decoder.
  unfold dissectPayload
  split
  · exact Arp.dissect_blurred link h
  · split
    · exact dissectIpv4_blurred link h
    · exact .refl _

/-- A cut in the link layer leaves no record at all, and one behind it leaves the decoder as it was.
    -/
theorem dissect_blurred (policy : VlanPolicy) (seen : Timestamp) {short long : Bytes}
    (h : short <+: long) :
    Blurred (dissect policy seen short).sightings (dissect policy seen long).sightings := by
  unfold dissect
  cases hheader : EthernetHeader.ofBytes? short with
  | none => exact .nil _
  | some header =>
    rw [EthernetHeader.ofBytes?_fixed.of_prefix h hheader]
    have hpayload := List.IsPrefix.drop h EthernetHeader.size
    simp only
    split
    · split
      · exact .refl _
      · cases htag : VlanTag.ofBytes? (short.drop EthernetHeader.size) with
        | none => exact .nil _
        | some tag =>
          rw [VlanTag.ofBytes?_fixed.of_prefix hpayload htag]
          exact dissectPayload_blurred _ _ (hpayload.drop VlanTag.size)
    · exact dissectPayload_blurred _ _ hpayload

/-- However a frame was cut, it gives no more records than the whole frame, and each of them tells
    no more than the one in the same place: hardware address, address, VLAN and time are the same,
    process variables are the first of the other's, a NetBIOS name is the other's name, a DHCP name
    is there only where the other has one, and the kind is the same, that of any packet, or one of
    DHCP like the other's. -/
theorem dissect_take (policy : VlanPolicy) (seen : Timestamp) (frame : Bytes) (n : Nat) :
    (dissect policy seen (frame.take n)).sightings.length ≤
        (dissect policy seen frame).sightings.length ∧
      List.Forall₂ Sighting.Blurs (dissect policy seen (frame.take n)).sightings
        ((dissect policy seen frame).sightings.take
          (dissect policy seen (frame.take n)).sightings.length) := by
  have hblurred := dissect_blurred policy seen ⟨frame.drop n, List.take_append_drop n frame⟩
  exact ⟨hblurred.length_le, hblurred.each⟩

end LanWatch
