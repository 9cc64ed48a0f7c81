import LanWatch.Proofs.Frame.Emission

namespace LanWatch

/-!
# Address resolution, from the bytes of a frame

A frame is its two addresses, a tag or none, the type of its packet, the packet, and padding. What
a packet of ARP tells is decided by its operation and by which of its addresses are equal. The cases
overlap, and a probe comes before an announcement.

* `Envelope`, `Envelope.frame` — what stands around a packet, and a frame as it stands on the wire;
* `Envelope.dissect_frame` — a frame gives the records of its packet;
* `Arp.Body.sightings_probe` and its like — the records of each class;
* `dissect_arp` — the records of a frame with a packet of ARP.
-/

/-! ### Frames -/

/-- What stands around the packet of a frame. -/
structure Envelope where
  destination : MacAddr
  source : MacAddr
  /-- The control field of the tag, if there is one. -/
  tag : Option UInt16
  deriving DecidableEq

namespace Envelope

/-- The bytes of the tag. -/
def tagBytes (e : Envelope) : Bytes :=
  match e.tag with
  | none => []
  | some control => [0x81, 0x00, highByte control, lowByte control]

/-- A frame with a packet of a given type. Padding counts as part of the packet. -/
def frame (e : Envelope) (etherType : UInt16) (packet : Bytes) : Bytes :=
  e.destination.bytes ++ e.source.bytes ++ e.tagBytes ++
    [highByte etherType, lowByte etherType] ++ packet

/-- The VLAN of a frame, on an interface with a given VLAN for frames without a tag. -/
def vlan (e : Envelope) (native : Option UInt16) : Option UInt16 :=
  match e.tag with
  | none => native
  | some control => some (control % 4096)

/-- A frame carries its packet, unless it is one with a tag where such frames are passed over. A
    packet without a tag must not be of the type that announces one. -/
theorem carried_frame {e : Envelope} {policy : VlanPolicy} {etherType : UInt16} (packet : Bytes)
    (hread : e.tag.isSome → policy.ignoreTagged = false)
    (htype : e.tag = none → etherType ≠ EtherType.vlan) :
    carried policy (e.frame etherType packet) =
      .packet ⟨e.source, e.vlan policy.nativeVlan, etherType, packet⟩ := by
  obtain ⟨destination, source, tag⟩ := e
  have hspelled := be16_high_low etherType
  cases tag with
  | none =>
    have hheader : EthernetHeader.ofBytes? (frame ⟨destination, source, none⟩ etherType packet) =
        some ⟨destination, source, etherType⟩ :=
      congrArg (fun number => some (EthernetHeader.mk destination source number)) hspelled
    unfold carried
    rw [hheader]
    simp only
    rw [if_neg (htype rfl)]
    rfl
  | some control =>
    -- The header shows the type of the tag, and the type of the packet stands behind the control
    -- field.
    have hheader : EthernetHeader.ofBytes?
        (frame ⟨destination, source, some control⟩ etherType packet) =
          some ⟨destination, source, EtherType.vlan⟩ := rfl
    have htag : VlanTag.ofBytes? ((frame ⟨destination, source, some control⟩ etherType packet).drop
        EthernetHeader.size) = some ⟨control, etherType⟩ := by
      show some (VlanTag.mk (be16 _ _) (be16 _ _)) = _
      rw [be16_high_low, hspelled]
    have hvlan := VlanTag.vlan_eq_mod ⟨control, etherType⟩
    unfold carried
    rw [hheader]
    simp only
    rw [if_pos trivial, if_neg (by simp [hread rfl]), htag]
    simp only [hvlan]
    rfl

/-- So its records are those of the packet. -/
theorem dissect_frame {e : Envelope} {policy : VlanPolicy} {etherType : UInt16} (packet : Bytes)
    (hread : e.tag.isSome → policy.ignoreTagged = false)
    (htype : e.tag = none → etherType ≠ EtherType.vlan) (seen : Timestamp) :
    dissect policy seen (e.frame etherType packet) =
      dissectPayload etherType ⟨e.source, e.vlan policy.nativeVlan, seen⟩ packet := by
  rw [dissect_eq, carried_frame packet hread htype]
  rfl

end Envelope

/-! ### Packets of ARP -/

namespace Arp.Body

variable {b : Body} (link : LinkFacts)

/-- A probe gives one record, whatever its operation. -/
theorem sightings_probe (htold : b.operation = 1 ∨ b.operation = 2) (hprobe : b.IsProbe) :
    b.sightings link = [b.sender link .probe] := by
  rw [sightings_eq link htold, classify_eq, if_pos hprobe]

/-- An announcement gives one record, if it is no probe. -/
theorem sightings_gratuitous (htold : b.operation = 1 ∨ b.operation = 2) (hprobe : ¬b.IsProbe)
    (hgratuitous : b.IsGratuitous) : b.sightings link = [b.sender link .gratuitous] := by
  rw [sightings_eq link htold, classify_eq, if_neg hprobe, if_pos hgratuitous]

/-- Any other request gives one record, and any other reply gives two. -/
theorem sightings_normal (htold : b.operation = 1 ∨ b.operation = 2) (hprobe : ¬b.IsProbe)
    (hgratuitous : ¬b.IsGratuitous) :
    b.sightings link =
      b.sender link .source :: if b.operation = 2 then [b.target link] else [] := by
  rw [sightings_eq link htold, classify_eq, if_neg hprobe, if_neg hgratuitous]

end Arp.Body

/-! ### Frames with a packet of ARP -/

/-- Whatever the addresses, the operation, the tag and the padding of a frame are: a packet of ARP
    that is all there is decoded without error. Operations other than request and reply tell
    nothing. Of the others a probe tells of its sender, and so does an announcement that is no
    probe; any other packet tells of its sender, and a reply of its target, too. Of a packet that
    is not about Ethernet and IPv4 the sender of the frame is recorded. -/
theorem dissect_arp (policy : VlanPolicy) (seen : Timestamp) (e : Envelope)
    (hread : e.tag.isSome → policy.ignoreTagged = false) :
    let vlan := e.vlan policy.nativeVlan
    (∀ (b : Arp.Body) (padding : Bytes),
      let d := dissect policy seen (e.frame 0x0806 (b.encode ++ padding))
      let sender role := Sighting.plain b.senderMac b.senderIp seen vlan (.arp role)
      let target := Sighting.plain b.targetMac b.targetIp seen vlan (.arp .destination)
      d.error = none ∧
      (b.operation ≠ 1 → b.operation ≠ 2 → d.sightings = []) ∧
      (b.operation = 1 ∨ b.operation = 2 →
        (b.IsProbe → d.sightings = [sender .probe]) ∧
        (¬b.IsProbe → b.IsGratuitous → d.sightings = [sender .gratuitous]) ∧
        (¬b.IsProbe → ¬b.IsGratuitous →
          d.sightings = sender .source :: if b.operation = 2 then [target] else []))) ∧
    ∀ packet : Bytes, 6 ≤ packet.length → packet.take 6 ≠ [0x00, 0x01, 0x08, 0x00, 0x06, 0x04] →
      (dissect policy seen (e.frame 0x0806 packet)).sightings = [.unknown e.source seen vlan] ∧
      (dissect policy seen (e.frame 0x0806 packet)).error = none := by
  intro vlan
  have hframe : ∀ packet, dissect policy seen (e.frame 0x0806 packet) =
      Arp.dissect ⟨e.source, vlan, seen⟩ packet := fun packet =>
    Envelope.dissect_frame packet hread (fun _ => by decide) seen
  constructor
  · intro b padding d
    have hd : d = { sightings := b.sightings ⟨e.source, vlan, seen⟩ } :=
      (hframe _).trans (Arp.dissect_encode _ b padding)
    rw [hd]
    refine ⟨rfl, fun hrequest hreply => ?_, fun htold => ⟨fun hprobe => ?_, fun hprobe h => ?_,
      fun hprobe h => ?_⟩⟩
    · exact Arp.Body.sightings_other _ hrequest hreply
    · exact Arp.Body.sightings_probe _ htold hprobe
    · exact Arp.Body.sightings_gratuitous _ htold hprobe h
    · exact Arp.Body.sightings_normal _ htold hprobe h
  · intro packet hlength hforeign
    rw [hframe]
    exact Arp.dissect_foreign _ hlength hforeign

/-- An answer of `10.0.0.1` to `10.0.0.2`, with a tag of VLAN 5 and priority 7 and with padding. -/
theorem dissect_arp_of_tagged_answer :
    let e : Envelope := ⟨⟨2, 0, 0, 0, 0, 2⟩, ⟨2, 0, 0, 0, 0, 1⟩, some 0xe005⟩
    let answer : Arp.Body :=
      ⟨2, ⟨2, 0, 0, 0, 0, 1⟩, ⟨10, 0, 0, 1⟩, ⟨2, 0, 0, 0, 0, 2⟩, ⟨10, 0, 0, 2⟩⟩
    let d := dissect { nativeVlan := some 1 } ⟨1, 2⟩ (e.frame 0x0806 (answer.encode ++ [0, 0, 0]))
    e.tag.isSome ∧ ¬answer.IsProbe ∧ ¬answer.IsGratuitous ∧ d.error = none ∧
      d.sightings = [.plain ⟨2, 0, 0, 0, 0, 1⟩ ⟨10, 0, 0, 1⟩ ⟨1, 2⟩ (some 5) (.arp .source),
        .plain ⟨2, 0, 0, 0, 0, 2⟩ ⟨10, 0, 0, 2⟩ ⟨1, 2⟩ (some 5) (.arp .destination)] := by
  intro e answer d
  have hprobe : ¬answer.IsProbe := by decide
  have hgratuitous : ¬answer.IsGratuitous := by decide
  obtain ⟨hbody, -⟩ := dissect_arp { nativeVlan := some 1 } ⟨1, 2⟩ e fun _ => rfl
  obtain ⟨herror, -, htold⟩ := hbody answer [0, 0, 0]
  obtain ⟨-, -, hnormal⟩ := htold (.inr rfl)
  exact ⟨rfl, hprobe, hgratuitous, herror, hnormal hprobe hgratuitous⟩

end LanWatch
