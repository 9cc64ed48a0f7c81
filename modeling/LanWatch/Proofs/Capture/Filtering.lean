import LanWatch.Capture.Filter
import LanWatch.Frame.Packet
import LanWatch.Proofs.Capture.Storing
import LanWatch.Proofs.Frame.Datagrams

namespace LanWatch

/-!
# What the capture filter holds back

The filter looks at bytes at fixed places of a frame, the decoders read the frame from its
beginning. Both find the same ether-type: where the filter would look past the end of a frame, there
is no header or no tag to read. So the filter lets all frames pass whose packet goes to the decoder of
ARP, and holds nothing back that this decoder would have told.

* `Filter.isBroadcast_iff`, `Filter.isArp_iff` — what the filter sees, in terms of the frame;
* `arpDissection?` — what the decoder of ARP tells of a frame;
* `arpDissection?_of_mem` — records of ARP come from no other decoder;
* `filter_agrees_with_dissect` — the filter lets pass broadcasts and ARP, and all that ARP tells.
-/

/-! ### What the filter sees -/

/-- Two bytes that are not all there are no two given bytes. -/
theorem take_two_ne_of_short {bytes : Bytes} {n : Nat} (h : bytes.length < n + 2) (hi lo : UInt8) :
    (bytes.drop n).take 2 ≠ [hi, lo] := by
  intro heq
  have hlength := congrArg List.length heq
  rw [List.length_take, List.length_drop, List.length_cons, List.length_singleton] at hlength
  omega

namespace Filter

/-- A frame is a broadcast exactly if its first six bytes say so. -/
theorem isBroadcast_iff (frame : Bytes) :
    isBroadcast frame = true ↔ 6 ≤ frame.length ∧ ∀ b ∈ frame.take 6, b = 0xff := by
  have hbroadcast : MacAddr.broadcast.bytes = List.replicate 6 0xff := rfl
  have hlength : (frame.take 6).length = 6 ↔ 6 ≤ frame.length := by
    rw [List.length_take]
    omega
  rw [isBroadcast, hbroadcast, beq_iff_eq, List.eq_replicate_iff, hlength]

/-- A frame is about ARP exactly if its ether-type says so, or that behind its tag. -/
theorem isArp_eq_true_iff (frame : Bytes) :
    isArp frame = true ↔ (frame.drop 12).take 2 = [0x08, 0x06] ∨
      (frame.drop 12).take 2 = [0x81, 0x00] ∧ (frame.drop 16).take 2 = [0x08, 0x06] := by
  simp [isArp]

/-- The filter finds ARP exactly where the packet of a frame is found to be one of ARP, unless tagged
    frames are passed over. -/
theorem isArp_iff (native : Option UInt16) (frame : Bytes) :
    isArp frame = true ↔
      ∃ p, carried ⟨native, false⟩ frame = .packet p ∧ p.etherType = EtherType.arp := by
  rw [isArp_eq_true_iff]
  unfold carried
  cases hheader : EthernetHeader.ofBytes? frame with
  | none =>
    -- Without a header there are no bytes where the filter looks for an ether-type.
    have hshort := (EthernetHeader.ofBytes?_fixed.eq_none_iff frame).1 hheader
    have hne := take_two_ne_of_short (n := 12) hshort
    constructor
    · rintro (h | ⟨h, -⟩)
      · exact absurd h (hne _ _)
      · exact absurd h (hne _ _)
    · rintro ⟨p, hp, -⟩
      cases hp
  | some header =>
    have harp : header.etherType = EtherType.arp ↔ (frame.drop 12).take 2 = [0x08, 0x06] :=
      EthernetHeader.etherType_eq_iff hheader 0x08 0x06
    have hvlan : header.etherType = EtherType.vlan ↔ (frame.drop 12).take 2 = [0x81, 0x00] :=
      EthernetHeader.etherType_eq_iff hheader 0x81 0x00
    rw [← harp, ← hvlan]
    simp only
    by_cases htagged : header.etherType = EtherType.vlan
    · have hne : header.etherType ≠ EtherType.arp := by
        rw [htagged]
        decide
      have hinner : ((frame.drop EthernetHeader.size).drop 2).take 2 = (frame.drop 16).take 2 := by
        rw [List.drop_drop]
        rfl
      rw [if_pos htagged, if_neg (by decide), ← hinner]
      cases htag : VlanTag.ofBytes? (frame.drop EthernetHeader.size) with
      | none =>
        -- A tag that is cut short ends before the ether-type after it.
        have hshort := (VlanTag.ofBytes?_fixed.eq_none_iff _).1 htag
        constructor
        · rintro (h | ⟨-, h⟩)
          · exact absurd h hne
          · exact absurd h (take_two_ne_of_short (n := 2) hshort _ _)
        · rintro ⟨p, hp, -⟩
          cases hp
      | some tag =>
        have hsame : tag.etherType = EtherType.arp ↔
            ((frame.drop EthernetHeader.size).drop 2).take 2 = [0x08, 0x06] :=
          VlanTag.etherType_eq_iff htag 0x08 0x06
        rw [← hsame]
        constructor
        · rintro (h | ⟨-, h⟩)
          · exact absurd h hne
          · exact ⟨_, rfl, h⟩
        · rintro ⟨p, hp, h⟩
          obtain rfl := Carried.packet.inj hp
          exact .inr ⟨htagged, h⟩
    · rw [if_neg htagged]
      constructor
      · rintro (h | ⟨h, -⟩)
        · exact ⟨_, rfl, h⟩
        · exact absurd h htagged
      · rintro ⟨p, hp, h⟩
        obtain rfl := Carried.packet.inj hp
        exact .inl h

/-- An ARP packet on the link layer is accepted, tagged or not. -/
theorem accepts_of_carried {policy : VlanPolicy} {frame : Bytes} {p : Packet}
    (hcarried : carried policy frame = .packet p) (harp : p.etherType = EtherType.arp) :
    broadcastOrArp.accepts frame = true := by
  have hfound := (isArp_iff policy.nativeVlan frame).2 ⟨p, carried_of_policy hcarried, harp⟩
  rw [accepts, hfound, Bool.or_true]

end Filter

/-! ### What the decoder of ARP tells -/

/-- The kind is one that a packet of ARP tells. -/
def Kind.isArp : Kind → Bool
  | arp _ => true
  | _ => false

/-- What the decoder of ARP tells of a frame: records, error and notes, if the packet of the frame
    goes there. -/
def arpDissection? (policy : VlanPolicy) (f : Frame) : Option Dissection :=
  match carried policy f.data with
  | .packet p =>
    if p.etherType = EtherType.arp then some (Arp.dissect ⟨p.source, p.vlan, f.seen⟩ p.bytes)
    else none
  | _ => none

/-- The decoder of ARP gets the packet that the link layer carries. -/
theorem dissect_of_carried_arp {policy : VlanPolicy} {frame : Bytes} {p : Packet}
    (hcarried : carried policy frame = .packet p) (harp : p.etherType = EtherType.arp)
    (seen : Timestamp) :
    dissect policy seen frame = Arp.dissect ⟨p.source, p.vlan, seen⟩ p.bytes := by
  rw [dissect_eq, hcarried]
  exact if_pos harp

/-- What the decoder of ARP tells is all that is told of the frame. -/
theorem dissect_of_arpDissection? {policy : VlanPolicy} {f : Frame} {d : Dissection}
    (h : arpDissection? policy f = some d) : dissect policy f.seen f.data = d := by
  unfold arpDissection? at h
  split at h
  · rename_i p hcarried
    split at h
    · rename_i harp
      obtain rfl := Option.some.inj h
      exact dissect_of_carried_arp hcarried harp f.seen
    · cases h
  · cases h

/-- Only a frame that is accepted dissects as ARP. -/
theorem accepts_of_arpDissection? {policy : VlanPolicy} {f : Frame}
    (h : arpDissection? policy f ≠ none) : Filter.broadcastOrArp.accepts f.data = true := by
  unfold arpDissection? at h
  split at h
  · rename_i p hcarried
    split at h
    · rename_i harp
      exact Filter.accepts_of_carried hcarried harp
    · exact absurd rfl h
  · exact absurd rfl h

/-- Whatever a datagram tells, it is not a record of ARP. -/
theorem isArp_inspectUdp (datagram : Bytes) {s : Sighting} (hs : s.kind = .ipBroadcast) :
    (inspectUdp datagram s).sighting.kind.isArp = false := by
  by_cases hshort : datagram.length < 8
  · rw [(inspectUdp_of_short hshort s).1, hs]
    rfl
  · have hfits := inspectUdp_fitsPorts (Nat.le_of_not_lt hshort) s
    generalize (inspectUdp datagram s).sighting.kind = kind at hfits ⊢
    cases hfits <;> rfl

/-- No datagram gives a kind of ARP. -/
theorem isArp_refine (h : Ipv4Header) (packet : Bytes) {s : Sighting} (hs : s.kind = .ipBroadcast) :
    (h.refine packet s).sighting.kind.isArp = false := by
  have hplain : s.kind.isArp = false := by
    rw [hs]
    rfl
  unfold Ipv4Header.refine
  split
  · split
    · exact hplain
    · split
      · exact hplain
      · exact isArp_inspectUdp _ hs
  · exact hplain

/-- Records of ARP come from the decoder of ARP. -/
theorem arpDissection?_of_mem {policy : VlanPolicy} {f : Frame} {s : Sighting}
    (hs : s ∈ (dissect policy f.seen f.data).sightings) (harp : s.kind.isArp = true) :
    arpDissection? policy f ≠ none := by
  rw [dissect_eq] at hs
  unfold arpDissection?
  cases hcarried : carried policy f.data with
  | nothing =>
    rw [hcarried] at hs
    cases hs
  | cut e =>
    rw [hcarried] at hs
    cases hs
  | packet p =>
    rw [hcarried] at hs
    simp only [Carried.dissect, Packet.dissect, dissectPayload] at hs ⊢
    by_cases htype : p.etherType = EtherType.arp
    · rw [if_pos htype]
      exact Option.some_ne_none _
    · -- Only ARP gives records of ARP: a datagram has a kind of its own.
      rw [if_neg htype] at hs
      split at hs
      · unfold dissectIpv4 at hs
        split at hs
        · cases hs
        · rename_i h _
          obtain rfl := List.mem_singleton.1 hs
          rw [isArp_refine h _ rfl] at harp
          cases harp
      · obtain rfl := List.mem_singleton.1 hs
        cases harp

/-! ### What the filter holds back -/

theorem filter_isArp_sightingsOf (policy : VlanPolicy) (frames : List Frame) :
    (sightingsOf policy (frames.filter fun f => Filter.broadcastOrArp.accepts f.data)).filter
        (·.kind.isArp) = (sightingsOf policy frames).filter (·.kind.isArp) := by
  -- By induction on the frames: one that is held back has no records of ARP.
  induction frames with
  | nil => rfl
  | cons f fs ih =>
    have hall : sightingsOf policy (f :: fs) =
        (dissect policy f.seen f.data).sightings ++ sightingsOf policy fs := List.flatMap_cons
    rw [List.filter_cons]
    by_cases haccepts : Filter.broadcastOrArp.accepts f.data = true
    · rw [if_pos haccepts, hall, List.filter_append, ← ih, ← List.filter_append]
      rfl
    · have hnone : (dissect policy f.seen f.data).sightings.filter (·.kind.isArp) = [] := by
        rw [List.filter_eq_nil_iff]
        intro s hs harp
        exact haccepts (accepts_of_arpDissection? (arpDissection?_of_mem hs harp))
      rw [if_neg haccepts, hall, List.filter_append, hnone, ih, List.nil_append]

/-- So the filter takes no record of ARP away, and the records stay in order. -/
theorem filterMap_arpDissection? (policy : VlanPolicy) (frames : List Frame) :
    (frames.filter fun f => Filter.broadcastOrArp.accepts f.data).filterMap
        (arpDissection? policy) = frames.filterMap (arpDissection? policy) := by
  rw [List.filterMap_filter]
  apply List.filterMap_congr
  intro f _
  by_cases haccepts : Filter.broadcastOrArp.accepts f.data = true
  · rw [if_pos haccepts]
  · have hnone : arpDissection? policy f = none := by
      by_contra htold
      exact haccepts (accepts_of_arpDissection? htold)
    rw [if_neg haccepts, hnone]

/-- The filter lets a frame pass exactly if it is addressed to every host, or if its packet goes to the
    decoder of ARP when tagged frames are not passed over. So frames that are filtered before they
    are dissected lose no record of ARP, and nothing else that the decoder of ARP tells. -/
theorem filter_agrees_with_dissect :
    (∀ (native : Option UInt16) (frame : Bytes), Filter.broadcastOrArp.accepts frame = true ↔
      (6 ≤ frame.length ∧ ∀ b ∈ frame.take 6, b = 0xff) ∨
        ∃ p, carried ⟨native, false⟩ frame = .packet p ∧ p.etherType = 0x0806 ∧
          ∀ seen, dissect ⟨native, false⟩ seen frame =
            Arp.dissect ⟨p.source, p.vlan, seen⟩ p.bytes) ∧
    ∀ (policy : VlanPolicy) (frames : List Frame),
      let kept := frames.filter fun f => Filter.broadcastOrArp.accepts f.data
      (sightingsOf policy kept).filter (·.kind.isArp) =
        (sightingsOf policy frames).filter (·.kind.isArp) ∧
      kept.filterMap (arpDissection? policy) = frames.filterMap (arpDissection? policy) ∧
      ∀ f d, arpDissection? policy f = some d → dissect policy f.seen f.data = d := by
  -- The filter looks at the destination and at the two places of the ether-type.
  refine ⟨fun native frame => ?_, fun policy frames => ⟨?_, ?_, fun f d => dissect_of_arpDissection?⟩⟩
  · have hbroadcast := Filter.isBroadcast_iff frame
    have harp := Filter.isArp_iff native frame
    rw [Filter.accepts, Bool.or_eq_true, hbroadcast, harp]
    constructor
    · rintro (h | ⟨p, hcarried, htype⟩)
      · exact .inl h
      · exact .inr ⟨p, hcarried, htype, dissect_of_carried_arp hcarried htype⟩
    · rintro (h | ⟨p, hcarried, htype, -⟩)
      · exact .inl h
      · exact .inr ⟨p, hcarried, htype⟩
  · exact filter_isArp_sightingsOf policy frames
  · exact filterMap_arpDissection? policy frames

/-- A reply to one host, in a tag, and a packet to one host: the filter holds back the packet, and both
    records of the reply are left. -/
theorem filter_agrees_with_dissect_of_tagged_reply :
    let link : Bytes := [2, 0, 0, 0, 0, 2, 2, 0, 0, 0, 0, 1]
    let reply : Bytes := [0, 1, 8, 0, 6, 4, 0, 2, 2, 0, 0, 0, 0, 1, 10, 0, 0, 1,
      2, 0, 0, 0, 0, 2, 10, 0, 0, 2]
    let frames : List Frame :=
      [⟨⟨1, 0⟩, link ++ [0x81, 0, 0, 5, 8, 6] ++ reply⟩, ⟨⟨2, 0⟩, link ++ [8, 0] ++ reply⟩]
    let kept := frames.filter fun f => Filter.broadcastOrArp.accepts f.data
    kept = frames.take 1 ∧
      ((sightingsOf {} kept).filter (·.kind.isArp)).map Sighting.ip = [⟨10, 0, 0, 1⟩, ⟨10, 0, 0, 2⟩] ∧
      (kept.filterMap (arpDissection? {})).length = 1 := by
  intro link reply frames kept
  obtain ⟨hrecords, htold, -⟩ := filter_agrees_with_dissect.2 {} frames
  refine ⟨by decide, ?_, ?_⟩
  · rw [hrecords]
    decide +kernel
  · rw [htold]
    decide +kernel

end LanWatch
