import LanWatch.Frame.Ethernet

namespace LanWatch

/-!
# What a frame carries

A frame is dissected in two stages. The link layer tells what the frame carries: a packet, whose
ether-type selects a decoder, or nothing that can be decoded. The decoder then sees the packet and
what the link layer told about it, but no more of the frame.

* `Packet`, `Packet.dissect` — a packet, and the records that its decoder yields;
* `Carried`, `carried` — what a frame carries;
* `carried_of_policy` — a packet that is found is found by whoever passes no frame over;
* `dissect_eq` — the records of a frame are those of what it carries;
* `EthernetHeader.etherType_eq_iff`, `VlanTag.etherType_eq_iff` — where the ether-types stand.
-/

/-! ### Headers and tags that are all there -/

/-- A header that was read is all there. -/
theorem EthernetHeader.size_le_of_ofBytes? {frame : Bytes} {header : EthernetHeader}
    (h : ofBytes? frame = some header) : size ≤ frame.length := by
  apply Nat.le_of_not_lt
  intro hshort
  rw [(ofBytes?_fixed.eq_none_iff frame).2 hshort] at h
  cases h

theorem VlanTag.size_le_of_ofBytes? {bytes : Bytes} {tag : VlanTag}
    (h : ofBytes? bytes = some tag) : size ≤ bytes.length := by
  apply Nat.le_of_not_lt
  intro hshort
  rw [(ofBytes?_fixed.eq_none_iff bytes).2 hshort] at h
  cases h

/-- The ether-type of a frame stands after the two addresses. -/
theorem EthernetHeader.etherType_eq_iff {frame : Bytes} {header : EthernetHeader}
    (h : ofBytes? frame = some header) (hi lo : UInt8) :
    header.etherType = be16 hi lo ↔ (frame.drop 12).take 2 = [hi, lo] := by
  unfold ofBytes? at h
  split at h
  · obtain rfl := Option.some.inj h
    simp [be16_inj]
  · cases h

/-- The ether-type of a tag stands after its control field. -/
theorem VlanTag.etherType_eq_iff {bytes : Bytes} {tag : VlanTag} (h : ofBytes? bytes = some tag)
    (hi lo : UInt8) : tag.etherType = be16 hi lo ↔ (bytes.drop 2).take 2 = [hi, lo] := by
  unfold ofBytes? at h
  split at h
  · obtain rfl := Option.some.inj h
    simp [be16_inj]
  · cases h

/-! ### Packets -/

/-- A packet, and what the link layer tells about it. -/
structure Packet where
  source : MacAddr
  vlan : Option UInt16
  /-- The ether-type of the tag, or of the frame if it has none. -/
  etherType : UInt16
  bytes : Bytes
  deriving DecidableEq

/-- The records of a packet whose frame was received at a given time. -/
def Packet.dissect (p : Packet) (seen : Timestamp) : Dissection :=
  dissectPayload p.etherType ⟨p.source, p.vlan, seen⟩ p.bytes

/-- What a frame carries. -/
inductive Carried where
  /-- The frame is passed over. -/
  | nothing
  /-- The link layer is not all there. -/
  | cut (error : DecodeError)
  | packet (p : Packet)
  deriving DecidableEq

/-- The records of what a frame carries. -/
def Carried.dissect (seen : Timestamp) : Carried → Dissection
  | nothing => {}
  | cut e => .failed e
  | packet p => p.dissect seen

/-- What a frame carries: after the header, or after the one tag that may follow the header. -/
def carried (policy : VlanPolicy) (frame : Bytes) : Carried :=
  match EthernetHeader.ofBytes? frame with
  | none => .cut (.truncated "ethernet" 0 EthernetHeader.size frame.length)
  | some header =>
    let payload := frame.drop EthernetHeader.size
    if header.etherType = EtherType.vlan then
      if policy.ignoreTagged then .nothing
      else match VlanTag.ofBytes? payload with
        | none => .cut (.truncated "802.1q" EthernetHeader.size VlanTag.size payload.length)
        | some tag =>
          .packet ⟨header.source, some tag.vlan, tag.etherType, payload.drop VlanTag.size⟩
    else .packet ⟨header.source, policy.nativeVlan, header.etherType, payload⟩

/-- A packet that is found where tagged frames may be passed over is found where they are not. -/
theorem carried_of_policy {policy : VlanPolicy} {frame : Bytes} {p : Packet}
    (h : carried policy frame = .packet p) :
    carried ⟨policy.nativeVlan, false⟩ frame = .packet p := by
  unfold carried at h ⊢
  cases hheader : EthernetHeader.ofBytes? frame with
  | none =>
    rw [hheader] at h
    cases h
  | some header =>
    simp only [hheader] at h ⊢
    by_cases htagged : header.etherType = EtherType.vlan
    · rw [if_pos htagged] at h ⊢
      by_cases hignored : policy.ignoreTagged = true
      · rw [if_pos hignored] at h
        cases h
      · rw [if_neg hignored] at h
        rw [if_neg (by decide)]
        exact h
    · rw [if_neg htagged] at h ⊢
      exact h

/-- The records of a frame are those of what it carries. -/
theorem dissect_eq (policy : VlanPolicy) (seen : Timestamp) (frame : Bytes) :
    dissect policy seen frame = (carried policy frame).dissect seen := by
  unfold dissect carried
  cases EthernetHeader.ofBytes? frame with
  | none => rfl
  | some header =>
    simp only
    split
    · split
      · rfl
      · cases VlanTag.ofBytes? (frame.drop EthernetHeader.size) <;> rfl
    · rfl

end LanWatch
