import LanWatch.Frame.Packet

namespace LanWatch

/-!
# Frames with and without a tag

A tag tells the VLAN of a frame and nothing else. The decoders below the link layer copy the VLAN
into their records and never look at it, and they see neither the frame nor where in it their packet
began. So a tag that is put into a frame shows in the records only as their VLAN.

* `Sighting.onVlan`, `Dissection.onVlan` — records with another VLAN;
* `Dhcp.scan_onVlan`, `NetBios.scan_onVlan`, `ChannelAccess.scan_onVlan` — a payload tells the same
    on every VLAN;
* `Packet.dissect_onVlan` — so does a packet;
* `insertTag`, `carried_insertTag` — a tagged frame carries the packet of the untagged one;
* `dissect_insertTag` — the records of a tagged frame.
-/

/-! ### Another VLAN -/

/-- The same record on another VLAN. -/
def Sighting.onVlan (vlan : Option UInt16) (s : Sighting) : Sighting :=
  { s with vlan }

/-- The same scan of a record on another VLAN. -/
def Scan.onVlan (vlan : Option UInt16) (scan : Scan) : Scan :=
  { scan with sighting := scan.sighting.onVlan vlan }

/-- The same records on another VLAN, with the same error and the same notes. -/
def Dissection.onVlan (vlan : Option UInt16) (d : Dissection) : Dissection :=
  { d with sightings := d.sightings.map (Sighting.onVlan vlan) }

/-- The same packet on another VLAN. -/
def Packet.onVlan (vlan : Option UInt16) (p : Packet) : Packet :=
  { p with vlan }

variable (vlan : Option UInt16)

/-! ### Payloads -/

namespace Dhcp

/-- The kind that a message type gives does not depend on the VLAN. -/
theorem applyMessageType_onVlan (value : Bytes) (s : Sighting) :
    applyMessageType value (s.onVlan vlan) =
      ((applyMessageType value s).1.onVlan vlan, (applyMessageType value s).2) := by
  unfold applyMessageType
  split
  · split <;> rfl
  · rfl

theorem refine_onVlan (ending : Ending) (is : List Item) (s : Sighting) :
    refine ending is (s.onVlan vlan) = (refine ending is s).onVlan vlan := by
  -- By induction on the items: each changes the record in the same way on every VLAN, and stops
  -- both scans or none.
  induction is generalizing s with
  | nil => rfl
  | cons i is ih =>
    cases i with
    | pad => exact ih s
    | option code value =>
      simp only [refine]
      split
      · split
        · rfl
        · exact ih { s with dhcpName := some (hostName value) }
      · split
        · rw [applyMessageType_onVlan]
          simp only
          rw [ih]
          rfl
        · exact ih s

/-- Options say nothing of VLANs. -/
theorem scan_onVlan (body : Bytes) (s : Sighting) :
    scan body (s.onVlan vlan) = (scan body s).onVlan vlan := by
  unfold scan
  simp only
  split
  · rfl
  · split
    · rfl
    · split
      · exact refine_onVlan vlan _ _ { s with kind := .dhcp none }
      · rfl

end Dhcp

namespace NetBios

/-- A NetBIOS name says nothing of VLANs. -/
theorem scan_onVlan (body : Bytes) (s : Sighting) :
    scan body (s.onVlan vlan) = (scan body s).onVlan vlan := by
  unfold scan apply
  split
  · rfl
  · rfl
  · rfl
  · split
    · rfl
    · split <;> rfl

end NetBios

namespace ChannelAccess

/-- Whether a name still fits depends on the names alone. -/
theorem addPvName_onVlan (name : String) (s : Sighting) :
    (s.onVlan vlan).addPvName name = (s.addPvName name).onVlan vlan := by
  have hroom : (s.onVlan vlan).hasRoom = s.hasRoom := rfl
  unfold Sighting.addPvName
  rw [hroom]
  split <;> rfl

theorem refine_onVlan (ending : Ending) (ms : List Message) (s : Sighting) :
    refine ending ms (s.onVlan vlan) = (refine ending ms s).onVlan vlan := by
  -- By induction on the messages. There is as much room for names on every VLAN.
  induction ms generalizing s with
  | nil => rfl
  | cons m ms ih =>
    cases m with
    | version payload => exact ih s
    | search payload =>
      have hroom : (s.onVlan vlan).hasRoom = s.hasRoom := rfl
      simp only [refine]
      split
      · exact ih s
      · rw [hroom]
        split
        · rw [addPvName_onVlan]
          exact ih _
        · rw [ih]
          rfl

/-- Searches say nothing of VLANs. -/
theorem scan_onVlan (body : Bytes) (s : Sighting) :
    scan body (s.onVlan vlan) = (scan body s).onVlan vlan :=
  refine_onVlan vlan _ _ s

end ChannelAccess

/-! ### Packets -/

/-- Ports and length of a datagram decide what is scanned, and no scan looks at the VLAN. -/
theorem inspectUdp_onVlan (datagram : Bytes) (s : Sighting) :
    inspectUdp datagram (s.onVlan vlan) = (inspectUdp datagram s).onVlan vlan := by
  unfold inspectUdp
  split
  · rfl
  · split
    · rfl
    · simp only
      -- One case for each protocol that the ports may select.
      split
      · exact Dhcp.scan_onVlan vlan _ { s with kind := .udp }
      · split
        · exact NetBios.scan_onVlan vlan _ { s with kind := .udp }
        · split
          · exact ChannelAccess.scan_onVlan vlan _ { s with kind := .channelAccess }
          · split <;> rfl

/-- A header is checked before its datagram is looked at, and neither check is about the VLAN. -/
theorem Ipv4Header.refine_onVlan (h : Ipv4Header) (packet : Bytes) (s : Sighting) :
    h.refine packet (s.onVlan vlan) = (h.refine packet s).onVlan vlan := by
  unfold refine
  split
  · split
    · rfl
    · split
      · rfl
      · exact inspectUdp_onVlan vlan _ s
  · rfl

/-- The record of a packet starts with the VLAN that the link layer tells. -/
theorem dissectIpv4_onVlan (link : LinkFacts) (packet : Bytes) :
    dissectIpv4 { link with vlan } packet = (dissectIpv4 link packet).onVlan vlan := by
  unfold dissectIpv4
  cases Ipv4Header.ofBytes? packet with
  | none => rfl
  | some h =>
    have hrefine := h.refine_onVlan vlan packet
      (.plain link.source h.source link.seen link.vlan .ipBroadcast)
    exact congrArg Dissection.ofScan hrefine

namespace Arp

/-- Each record of a body has the VLAN that the link layer tells. -/
theorem Body.sightings_onVlan (b : Body) (link : LinkFacts) :
    b.sightings { link with vlan } = (b.sightings link).map (Sighting.onVlan vlan) := by
  unfold sightings
  split
  · split
    · rfl
    · rfl
    · split <;> rfl
  · rfl

/-- The fixed part decides alone whether there is a body. -/
theorem dissect_onVlan (link : LinkFacts) (payload : Bytes) :
    dissect { link with vlan } payload = (dissect link payload).onVlan vlan := by
  unfold dissect
  cases FixedPart.read payload with
  | error e => rfl
  | ok fixed =>
    simp only [FixedPart.dissect]
    split
    · cases Body.ofBytes? payload with
      | none => rfl
      | some body =>
        simp only
        rw [body.sightings_onVlan]
        rfl
    · rfl

end Arp

/-- Whatever decoder a payload goes to, its records are the same on every VLAN. -/
theorem dissectPayload_onVlan (etherType : UInt16) (link : LinkFacts) (payload : Bytes) :
    dissectPayload etherType { link with vlan } payload =
      (dissectPayload etherType link payload).onVlan vlan := by
  unfold dissectPayload
  by_cases harp : etherType = EtherType.arp
  · rw [if_pos harp, if_pos harp]
    exact Arp.dissect_onVlan vlan link payload
  · rw [if_neg harp, if_neg harp]
    by_cases hipv4 : etherType = EtherType.ipv4
    · rw [if_pos hipv4, if_pos hipv4]
      exact dissectIpv4_onVlan vlan link payload
    · rw [if_neg hipv4, if_neg hipv4]
      rfl

/-- So the VLAN that the link layer tells is the only trace of the tag. -/
theorem Packet.dissect_onVlan (p : Packet) (seen : Timestamp) :
    (p.onVlan vlan).dissect seen = (p.dissect seen).onVlan vlan :=
  dissectPayload_onVlan vlan p.etherType ⟨p.source, p.vlan, seen⟩ p.bytes

/-! ### Frames -/

/-- A frame announces a tag: the ether-type after its two addresses is that of a tag. -/
def AnnouncesTag (frame : Bytes) : Prop :=
  (frame.drop 12).take 2 = [0x81, 0x00]

instance (frame : Bytes) : Decidable (AnnouncesTag frame) :=
  inferInstanceAs (Decidable ((frame.drop 12).take 2 = [0x81, 0x00]))

/-- A frame with a tag of a given control field put between its addresses and its ether-type. -/
def insertTag (control : UInt16) (frame : Bytes) : Bytes :=
  frame.take 12 ++ [0x81, 0x00, highByte control, lowByte control] ++ frame.drop 12

/-- The low twelve bits are a remainder. -/
theorem VlanTag.vlan_eq_mod (t : VlanTag) : t.vlan = t.control % 4096 := by
  apply UInt16.toNat_inj.1
  have h := t.control.toNat_lt
  rw [vlan, UInt16.toNat_ofNat', UInt16.toNat_mod]
  exact Nat.mod_eq_of_lt (by omega)

/-- A frame without a tag carries its packet on the native VLAN, whether or not tagged frames are
    passed over. -/
theorem carried_of_untagged {frame : Bytes} (huntagged : ¬AnnouncesTag frame) (native : Option UInt16)
    (ignore ignore' : Bool) : carried ⟨native, ignore⟩ frame = carried ⟨native, ignore'⟩ frame := by
  unfold carried
  cases hheader : EthernetHeader.ofBytes? frame with
  | none => rfl
  | some header =>
    have hne : header.etherType ≠ EtherType.vlan := fun h =>
      huntagged ((EthernetHeader.etherType_eq_iff hheader 0x81 0x00).1 h)
    simp only
    rw [if_neg hne, if_neg hne]

section InsertTag

variable {frame : Bytes} {header : EthernetHeader} (control : UInt16)

/-- With a tag in it, a frame has the ether-type that announces tags. -/
theorem EthernetHeader.ofBytes?_insertTag (h : ofBytes? frame = some header) :
    ofBytes? (insertTag control frame) = some { header with etherType := EtherType.vlan } := by
  unfold ofBytes? at h
  split at h
  · obtain rfl := Option.some.inj h
    rfl
  · cases h

/-- The ether-type of a frame becomes that of the tag. -/
theorem VlanTag.ofBytes?_insertTag (h : EthernetHeader.ofBytes? frame = some header) :
    ofBytes? ((insertTag control frame).drop EthernetHeader.size) =
      some ⟨control, header.etherType⟩ := by
  unfold EthernetHeader.ofBytes? at h
  split at h
  · obtain rfl := Option.some.inj h
    exact congrArg (fun number => some (VlanTag.mk number _)) (be16_high_low control)
  · cases h

/-- What follows the tag is what followed the header. -/
theorem drop_insertTag (h : EthernetHeader.ofBytes? frame = some header) :
    ((insertTag control frame).drop EthernetHeader.size).drop VlanTag.size =
      frame.drop EthernetHeader.size := by
  unfold EthernetHeader.ofBytes? at h
  split at h
  · rfl
  · cases h

/-- A tag that is put into a frame leaves the packet as it was, but for its VLAN. -/
theorem carried_insertTag (hlength : EthernetHeader.size ≤ frame.length)
    (huntagged : ¬AnnouncesTag frame) (c d : VlanPolicy) :
    ∃ p, carried c frame = .packet p ∧ carried d (insertTag control frame) =
      if d.ignoreTagged then .nothing else .packet (p.onVlan (some (control % 4096))) := by
  cases hheader : EthernetHeader.ofBytes? frame with
  | none =>
    have hshort := (EthernetHeader.ofBytes?_fixed.eq_none_iff frame).1 hheader
    omega
  | some header =>
    have hne : header.etherType ≠ EtherType.vlan := fun h =>
      huntagged ((EthernetHeader.etherType_eq_iff hheader 0x81 0x00).1 h)
    refine ⟨⟨header.source, c.nativeVlan, header.etherType, frame.drop EthernetHeader.size⟩, ?_, ?_⟩
    · simp only [carried, hheader]
      rw [if_neg hne]
    · have hvlan := VlanTag.vlan_eq_mod ⟨control, header.etherType⟩
      simp only [carried, EthernetHeader.ofBytes?_insertTag control hheader,
        VlanTag.ofBytes?_insertTag control hheader, drop_insertTag control hheader, hvlan]
      rfl

end InsertTag

/-- However a frame goes on, and however its packet is malformed: a tag that is put into it gives
    every record the VLAN of the tag, and changes neither the records otherwise nor the error.
    Where tagged frames are passed over, nothing is left of the frame, and frames without a tag are
    not touched. -/
theorem dissect_insertTag {frame : Bytes} (hlength : 14 ≤ frame.length)
    (huntagged : ¬AnnouncesTag frame) (control : UInt16) (seen : Timestamp) (c d : VlanPolicy) :
    (d.ignoreTagged = false →
      dissect d seen (insertTag control frame) =
        (dissect c seen frame).onVlan (some (control % 4096))) ∧
    (d.ignoreTagged = true → dissect d seen (insertTag control frame) = {}) ∧
    ∀ other, ¬AnnouncesTag other → ∀ native ignore ignore',
      dissect ⟨native, ignore⟩ seen other = dissect ⟨native, ignore'⟩ seen other := by
  obtain ⟨p, hpacket, htagged⟩ := carried_insertTag control hlength huntagged c d
  refine ⟨fun hseen => ?_, fun hignored => ?_, fun other hother native ignore ignore' => ?_⟩
  · rw [dissect_eq, dissect_eq, htagged, hpacket, if_neg (by simp [hseen])]
    rw [Carried.dissect, Carried.dissect]
    exact p.dissect_onVlan (some (control % 4096)) seen
  · rw [dissect_eq, htagged, if_pos hignored]
    rfl
  · rw [dissect_eq, dissect_eq, carried_of_untagged hother native ignore ignore']

/-- A frame from `10.0.0.7` with a datagram of which three bytes were captured. -/
def cutDatagramFrame : Bytes :=
  [0xff, 0xff, 0xff, 0xff, 0xff, 0xff, 0x02, 0x00, 0x00, 0x00, 0x00, 0x01, 0x08, 0x00,
    0x45, 0x00, 0x00, 0x1c, 0x00, 0x00, 0x00, 0x00, 0x40, 0x11, 0x00, 0x00, 0x0a, 0x00, 0x00, 0x07,
    0xff, 0xff, 0xff, 0xff, 0x00, 0x44, 0x00]

/-- With a tag of VLAN 5 and priority 7 in it, the error is still said to be at the beginning of the
    datagram. -/
theorem dissect_insertTag_of_cut_datagram :
    14 ≤ cutDatagramFrame.length ∧ ¬AnnouncesTag cutDatagramFrame ∧
      dissect { nativeVlan := some 1 } ⟨1, 2⟩ (insertTag 0xe005 cutDatagramFrame) =
        { sightings := [.plain ⟨2, 0, 0, 0, 0, 1⟩ ⟨10, 0, 0, 7⟩ ⟨1, 2⟩ (some 5) .ipBroadcast],
          error := some (.truncated "udp" 0 8 3) } ∧
      dissect { ignoreTagged := true } ⟨1, 2⟩ (insertTag 0xe005 cutDatagramFrame) = {} := by
  have hlength : 14 ≤ cutDatagramFrame.length := by decide
  have huntagged : ¬AnnouncesTag cutDatagramFrame := by decide
  refine ⟨hlength, huntagged, ?_, ?_⟩
  · have hsame := (dissect_insertTag hlength huntagged 0xe005 ⟨1, 2⟩ {} { nativeVlan := some 1 }).1 rfl
    rw [hsame]
    decide +kernel
  · exact (dissect_insertTag hlength huntagged 0xe005 ⟨1, 2⟩ {} { ignoreTagged := true }).2.1 rfl

end LanWatch
