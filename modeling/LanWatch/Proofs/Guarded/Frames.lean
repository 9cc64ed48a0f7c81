import LanWatch.Proofs.Guarded.Payloads

namespace LanWatch

/-!
# Decoding stays within its domains

Whatever bytes a frame consists of, and wherever it is cut: decoding it under guard meets no fault,
and yields what decoding without guard yields. In particular every loop ends within its rounds.

* `Bytes.Addressable.drop`, `Bytes.Addressable.take` — parts of a frame lie in memory as well;
* `Guarded.inspectUdp_eq`, `Guarded.dissectIpv4_eq`, `Guarded.dissectArp_eq` — the layers;
* `Guarded.dissect_within_domains` — the whole frame.
-/

/-- What is left of bytes can be addressed as the bytes could. -/
theorem Bytes.Addressable.drop {bytes : Bytes} (h : bytes.Addressable) (n : Nat) :
    Bytes.Addressable (List.drop n bytes) := by
  unfold Bytes.Addressable at h ⊢
  rw [List.length_drop]
  exact Nat.lt_of_le_of_lt (Nat.sub_le _ _) h

/-- The beginning of bytes can be addressed as the bytes could. -/
theorem Bytes.Addressable.take {bytes : Bytes} (h : bytes.Addressable) (n : Nat) :
    Bytes.Addressable (List.take n bytes) := by
  unfold Bytes.Addressable at h ⊢
  rw [List.length_take]
  exact Nat.lt_of_le_of_lt (Nat.min_le_right _ _) h

namespace Guarded

/-! ### UDP and IPv4 -/

/-- Eight bytes are checked for before the ports are read, and every scan is without faults. -/
theorem inspectUdp_eq {datagram : Bytes} (h : datagram.Addressable) (s : Sighting) :
    inspectUdp datagram s = .ok (LanWatch.inspectUdp datagram s) := by
  unfold inspectUdp LanWatch.inspectUdp
  split
  · rfl
  cases hports : UdpHeader.ofBytes? datagram with
  | none => rfl
  | some ports =>
    -- A header was there, so the body starts within the datagram.
    have hsize : UdpHeader.size ≤ datagram.length := by
      refine Nat.le_of_not_lt fun hlt => ?_
      rw [(UdpHeader.ofBytes?_fixed.eq_none_iff datagram).2 hlt] at hports
      cases hports
    have hbody := h.drop UdpHeader.size
    simp only [sliceFrom_of_le hsize, ok_bind, scanDhcp_eq hbody, scanNetBios_eq hbody,
      scanChannelAccess_eq hbody]
    split
    · rfl
    · split
      · rfl
      · split
        · rfl
        · split <;> rfl

/-- The payload of a packet that is at least as long as its header lies within the packet. -/
theorem payload_eq (h : Ipv4Header) {packet : Bytes} (hle : h.length ≤ packet.length) :
    slice packet h.length (h.payloadEnd packet.length) = .ok (h.payload packet) := by
  have hfirst : h.length ≤ h.payloadEnd packet.length :=
    Nat.le_min.2 ⟨Nat.le_max_right _ _, hle⟩
  exact slice_of_le hfirst (Nat.min_le_right _ _)

/-- A header has at most 15 words, so neither its length nor the end of its payload overflows. -/
theorem refine_eq {h : Ipv4Header} (hwords : h.words < 16) {packet : Bytes}
    (hpacket : packet.Addressable) (s : Sighting) :
    refine h packet s = .ok (h.refine packet s) := by
  have hword : word (h.words * 4) = .ok h.length :=
    word_of_lt (Nat.lt_trans (Nat.mul_lt_mul_of_pos_right hwords (by decide)) (by decide))
  unfold refine Ipv4Header.refine
  split
  · rw [hword, ok_bind]
    split
    · rfl
    · split
      · rfl
      · rename_i hle
        have hle := Nat.le_of_not_lt hle
        rw [clamp_of_le hle, ok_bind]
        have hpayload := payload_eq h hle
        unfold Ipv4Header.payloadEnd at hpayload
        rw [hpayload, ok_bind]
        exact inspectUdp_eq ((hpacket.take _).drop _) s
  · rfl

/-- A header length is a number of four bits. -/
theorem words_lt_of_ofBytes? {packet : Bytes} {h : Ipv4Header}
    (hheader : Ipv4Header.ofBytes? packet = some h) : h.words < 16 := by
  unfold Ipv4Header.ofBytes? at hheader
  split at hheader
  · cases hheader
    exact Nat.mod_lt _ (by decide)
  · cases hheader

/-- Twenty bytes are checked for before the fields are read at their places. -/
theorem dissectIpv4_eq (link : LinkFacts) {packet : Bytes} (hpacket : packet.Addressable) :
    dissectIpv4 link packet = .ok (LanWatch.dissectIpv4 link packet) := by
  unfold dissectIpv4 LanWatch.dissectIpv4
  cases hheader : Ipv4Header.ofBytes? packet with
  | none => rfl
  | some h =>
    simp only [refine_eq (words_lt_of_ofBytes? hheader) hpacket, ok_bind]
    rfl

/-! ### ARP -/

/-- Six bytes, each read under its own check. -/
theorem gives_arpFixedPart {payload : Bytes} (h : payload.Addressable) :
    (arpFixedPart payload).Gives (Arp.FixedPart.read payload) := by
  unfold arpFixedPart Arp.FixedPart.read
  refine (Reader.agrees_readU16 (Reader.fits_start "arp" h)).bind ?_
  intro hardwareType r hr
  refine (Reader.agrees_readU16 hr).bind ?_
  intro protocolType r hr
  refine (Reader.agrees_readU8 hr).bind ?_
  intro hardwareLength r hr
  refine (Reader.agrees_readU8 hr).bind ?_
  intro protocolLength r hr
  rfl

/-- The length is checked before the body is read at its places. -/
theorem dissectArp_eq (link : LinkFacts) {payload : Bytes} (h : payload.Addressable) :
    dissectArp link payload = .ok (Arp.dissect link payload) := by
  have hfixed : (arpFixedPart payload).run = .ok (Arp.FixedPart.read payload) :=
    gives_arpFixedPart h
  unfold dissectArp Arp.dissect
  rw [hfixed, ok_bind]
  cases Arp.FixedPart.read payload <;> rfl

/-! ### Frames -/

theorem dissectPayload_eq (etherType : UInt16) (link : LinkFacts) {payload : Bytes}
    (h : payload.Addressable) :
    dissectPayload etherType link payload =
      .ok (LanWatch.dissectPayload etherType link payload) := by
  -- One case for each decoder.
  unfold dissectPayload LanWatch.dissectPayload
  split
  · exact dissectArp_eq link h
  · split
    · exact dissectIpv4_eq link h
    · rfl

/-- Decoding any frame that memory can hold, under any policy and at any time, meets no operation
    outside of its domain and no endless loop, and yields what decoding without guard yields. -/
theorem dissect_within_domains (policy : VlanPolicy) (seen : Timestamp) {frame : Bytes}
    (h : frame.Addressable) :
    dissect policy seen frame = .ok (LanWatch.dissect policy seen frame) := by
  unfold dissect LanWatch.dissect
  cases hheader : EthernetHeader.ofBytes? frame with
  | none => rfl
  | some header =>
    -- A header was there, so its payload starts within the frame.
    have hsize : EthernetHeader.size ≤ frame.length := by
      refine Nat.le_of_not_lt fun hlt => ?_
      rw [(EthernetHeader.ofBytes?_fixed.eq_none_iff frame).2 hlt] at hheader
      cases hheader
    simp only [sliceFrom_of_le hsize, sub_of_le hsize, ok_bind]
    split
    · split
      · rfl
      cases htag : VlanTag.ofBytes? (frame.drop EthernetHeader.size) with
      | none =>
        simp only
        rw [List.length_drop]
        rfl
      | some tag =>
        -- And so does the payload after a tag.
        have htagged : EthernetHeader.size + VlanTag.size ≤ frame.length := by
          refine Nat.le_of_not_lt fun hlt => ?_
          have hshort : (frame.drop EthernetHeader.size).length < VlanTag.size := by
            rw [List.length_drop]
            omega
          rw [(VlanTag.ofBytes?_fixed.eq_none_iff _).2 hshort] at htag
          cases htag
        have hword : word (EthernetHeader.size + VlanTag.size) =
          .ok (EthernetHeader.size + VlanTag.size) := word_of_lt (by decide)
        simp only [hword, sliceFrom_of_le htagged, ok_bind, List.drop_drop]
        exact dissectPayload_eq _ _ (h.drop _)
    · exact dissectPayload_eq _ _ (h.drop _)

/-- A frame that is cut within its tag: what is left of it is computed, and is two bytes. -/
theorem dissect_within_domains_of_cut_tag :
    Bytes.Addressable (List.replicate 12 0 ++ [0x81, 0x00, 0x00, 0x05]) ∧
      dissect {} .epoch (List.replicate 12 0 ++ [0x81, 0x00, 0x00, 0x05]) =
        .ok { error := some (.truncated "802.1q" 14 4 2) } := by
  have haddressable : Bytes.Addressable (List.replicate 12 0 ++ [0x81, 0x00, 0x00, 0x05]) := by
    unfold Bytes.Addressable
    decide
  refine ⟨haddressable, ?_⟩
  rw [dissect_within_domains {} .epoch haddressable]
  exact congrArg Except.ok (by decide)

end Guarded

end LanWatch
