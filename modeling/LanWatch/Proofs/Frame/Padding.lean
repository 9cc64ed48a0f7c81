import LanWatch.Frame.Packet
import LanWatch.Proofs.Frame.Sightings

namespace LanWatch

/-!
# Padding

Short packets are padded by the link layer, so a captured frame may be longer than what its sender
wrote. Every packet tells where it ends: ARP by its fixed form, IPv4 by its header. If all of the
packet was captured, the bytes after its end are not read, whatever they are.

* `Packet.Complete` — all of a packet was captured;
* `Arp.dissect_append`, `Ipv4Header.refine_append` — padding after a complete packet;
* `carried_append` — a frame with padding carries the packet with the padding;
* `Carried.Complete` — all of what a frame carries was captured;
* `dissect_append_padding` — the records of a frame with padding.
-/

/-- All of a packet was captured. -/
inductive Packet.Complete (p : Packet) : Prop where
  /-- Of other protocols nothing is read. -/
  | other (harp : p.etherType ≠ EtherType.arp) (hipv4 : p.etherType ≠ EtherType.ipv4)
  | arp (htype : p.etherType = EtherType.arp) (hlength : 28 ≤ p.bytes.length)
  /-- Of ARP packets that are not about Ethernet and IPv4, only the fixed part is read. -/
  | foreignArp (htype : p.etherType = EtherType.arp) (hlength : 6 ≤ p.bytes.length)
      (hforeign : Arp.FixedPart.read p.bytes ≠ .ok .ethernetIpv4)
  /-- The header is all there, with its options, and so is all that it claims to be there. The two
      lengths in a header need not agree. -/
  | ipv4 (htype : p.etherType = EtherType.ipv4) {h : Ipv4Header}
      (hread : Ipv4Header.ofBytes? p.bytes = some h) (hlength : h.length ≤ p.bytes.length)
      (htotal : h.totalLength ≤ p.bytes.length)

/-! ### ARP -/

namespace Arp

theorem FixedPart.read_of_length {payload : Bytes} (h : 6 ≤ payload.length) :
    ∃ fixed, FixedPart.read payload = .ok fixed := by
  match payload, h with
  | _ :: _ :: _ :: _ :: _ :: _ :: _, _ => exact ⟨_, rfl⟩

/-- Padding behind a complete packet is not looked at. -/
theorem dissect_append (link : LinkFacts) {payload : Bytes} (hlength : 6 ≤ payload.length)
    (hbody : FixedPart.read payload = .ok .ethernetIpv4 → 28 ≤ payload.length) (padding : Bytes) :
    dissect link (payload ++ padding) = dissect link payload := by
  have hcut : payload <+: payload ++ padding := List.prefix_append _ _
  obtain ⟨fixed, hfixed⟩ := FixedPart.read_of_length hlength
  unfold dissect
  rw [hfixed, FixedPart.read_of_cut hcut hfixed]
  simp only [FixedPart.dissect]
  by_cases hown : fixed = .ethernetIpv4
  · rw [if_pos hown, if_pos hown]
    cases hread : Body.ofBytes? payload with
    | none =>
      -- The addresses are all there, so they are read.
      have hshort := (Body.ofBytes?_fixed.eq_none_iff payload).1 hread
      have hlong := hbody (by rw [hfixed, hown])
      rw [packetLength] at hshort
      omega
    | some body => rw [Body.ofBytes?_fixed.of_prefix hcut hread]
  · rw [if_neg hown, if_neg hown]

end Arp

/-! ### IPv4 -/

namespace Ipv4Header

/-- What a header claims to be there is the same with padding, also if it claims less than its own
    length. -/
theorem payload_append (h : Ipv4Header) {packet : Bytes} (hlength : h.length ≤ packet.length)
    (htotal : h.totalLength ≤ packet.length) (padding : Bytes) :
    h.payload (packet ++ padding) = h.payload packet := by
  rw [payload_eq, payload_eq, List.take_append_of_le_length (Nat.max_le.2 ⟨htotal, hlength⟩)]

/-- The payload ends where the header says, and padding begins behind that. -/
theorem refine_append (h : Ipv4Header) {packet : Bytes} (hlength : h.length ≤ packet.length)
    (htotal : h.totalLength ≤ packet.length) (padding : Bytes) (s : Sighting) :
    h.refine (packet ++ padding) s = h.refine packet s := by
  have hlong : h.length ≤ (packet ++ padding).length := by
    rw [List.length_append]
    omega
  unfold refine
  rw [if_neg (Nat.not_lt.2 hlength), if_neg (Nat.not_lt.2 hlong),
    h.payload_append hlength htotal padding]

end Ipv4Header

/-! ### Frames -/

/-- The records of a packet that was all captured do not depend on what follows it. -/
theorem Packet.dissect_append {p : Packet} (h : p.Complete) (seen : Timestamp) (padding : Bytes) :
    { p with bytes := p.bytes ++ padding }.dissect seen = p.dissect seen := by
  unfold dissect dissectPayload
  simp only
  cases h with
  | other harp hipv4 => rw [if_neg harp, if_neg hipv4, if_neg harp, if_neg hipv4]
  | arp htype hlength =>
    rw [if_pos htype, if_pos htype]
    exact Arp.dissect_append _ (Nat.le_trans (by decide) hlength) (fun _ => hlength) padding
  | foreignArp htype hlength hforeign =>
    rw [if_pos htype, if_pos htype]
    exact Arp.dissect_append _ hlength (fun hown => absurd hown hforeign) padding
  | ipv4 htype hread hlength htotal =>
    have hne : p.etherType ≠ EtherType.arp := by
      rw [htype]
      decide
    rw [if_neg hne, if_pos htype, if_neg hne, if_pos htype]
    unfold dissectIpv4
    rw [hread, Ipv4Header.ofBytes?_fixed.of_prefix (List.prefix_append _ padding) hread]
    simp only
    rw [Ipv4Header.refine_append _ hlength htotal padding]

/-- What a frame carries, with padding after it. -/
def Carried.pad (padding : Bytes) : Carried → Carried
  | packet p => packet { p with bytes := p.bytes ++ padding }
  | c => c

/-- If its link layer is all there, a frame with padding carries what it carries without, followed by
    the padding. -/
theorem carried_append {policy : VlanPolicy} {frame : Bytes}
    (hwhole : ∀ e, carried policy frame ≠ .cut e) (padding : Bytes) :
    carried policy (frame ++ padding) = (carried policy frame).pad padding := by
  have hcut : frame <+: frame ++ padding := List.prefix_append _ _
  unfold carried at hwhole ⊢
  cases hheader : EthernetHeader.ofBytes? frame with
  | none =>
    rw [hheader] at hwhole
    exact absurd rfl (hwhole _)
  | some header =>
    have hpayload : (frame ++ padding).drop EthernetHeader.size =
        frame.drop EthernetHeader.size ++ padding :=
      List.drop_append_of_le_length (EthernetHeader.size_le_of_ofBytes? hheader)
    rw [EthernetHeader.ofBytes?_fixed.of_prefix hcut hheader]
    simp only [hheader] at hwhole ⊢
    rw [hpayload]
    by_cases htagged : header.etherType = EtherType.vlan
    · rw [if_pos htagged] at hwhole
      rw [if_pos htagged, if_pos htagged]
      by_cases hignored : policy.ignoreTagged = true
      · rw [if_pos hignored, if_pos hignored]
        rfl
      · rw [if_neg hignored] at hwhole
        rw [if_neg hignored, if_neg hignored]
        cases htag : VlanTag.ofBytes? (frame.drop EthernetHeader.size) with
        | none =>
          rw [htag] at hwhole
          exact absurd rfl (hwhole _)
        | some tag =>
          have hbytes : (frame.drop EthernetHeader.size ++ padding).drop VlanTag.size =
              (frame.drop EthernetHeader.size).drop VlanTag.size ++ padding :=
            List.drop_append_of_le_length (VlanTag.size_le_of_ofBytes? htag)
          rw [VlanTag.ofBytes?_fixed.of_prefix (List.prefix_append _ padding) htag]
          simp only
          rw [hbytes]
          rfl
    · rw [if_neg htagged, if_neg htagged]
      rfl

/-- All of what a frame carries was captured. Nothing more is read of a frame that is passed over. -/
def Carried.Complete : Carried → Prop
  | nothing => True
  | cut _ => False
  | packet p => p.Complete

/-- If the link layer of a frame and its packet were captured to their ends, padding after them
    changes neither the records nor the error, whatever the padding is and however the frame is
    treated. -/
theorem dissect_append_padding (policy : VlanPolicy) (seen : Timestamp) {frame : Bytes}
    (h : (carried policy frame).Complete) (padding : Bytes) :
    dissect policy seen (frame ++ padding) = dissect policy seen frame := by
  have hwhole : ∀ e, carried policy frame ≠ .cut e := by
    intro e he
    rw [he] at h
    exact h
  rw [dissect_eq, dissect_eq, carried_append hwhole]
  cases hcarried : carried policy frame with
  | nothing => rfl
  | cut e => exact absurd hcarried (hwhole e)
  | packet p =>
    rw [hcarried] at h
    exact Packet.dissect_append h seen padding

/-- A search that is followed by what looks like another search. -/
theorem dissect_append_padding_of_search :
    (carried { nativeVlan := some 1 } searchFrame).Complete ∧
      dissect { nativeVlan := some 1 } ⟨1, 2⟩ (searchFrame ++ [0x00, 0x06, 0xff, 0xff]) =
        { sightings := [searchSighting] } := by
  have hcomplete : (carried { nativeVlan := some 1 } searchFrame).Complete :=
    Packet.Complete.ipv4 rfl rfl (by decide) (by decide)
  refine ⟨hcomplete, ?_⟩
  rw [dissect_append_padding { nativeVlan := some 1 } ⟨1, 2⟩ hcomplete [0x00, 0x06, 0xff, 0xff]]
  decide +kernel

end LanWatch
