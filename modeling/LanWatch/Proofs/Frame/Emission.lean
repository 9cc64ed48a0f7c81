import LanWatch.Proofs.Frame.Tagging
import LanWatch.Proofs.Truncation.Frames

namespace LanWatch

/-!
# How many records a frame gives

A host is recorded even if its packet is damaged further on. So the number of records of a frame
can be told from the link layer, the type of the packet and, for ARP, the fields at fixed places.
Whatever goes wrong in UDP or above, there is one record of an IPv4 packet.

* `Arp.Body.encode` — a packet of ARP as it stands in a frame;
* `Arp.Body.sightings_eq`, `Arp.dissect_foreign` — what a packet about Ethernet and IPv4 tells, and
  what one about other addresses does;
* `Arp.Silent`, `Arp.TellsBoth`, `Arp.length_dissect` — packets with no record, and with two;
* `dissectIpv4_emission` — the record of an IPv4 packet;
* `packetBytes`, `typeBytes`, `LinkSilent` — what the link layer says, as bytes of the frame;
* `exists_carried` — the same for what a frame carries;
* `Silent`, `TellsBoth`, `dissect_emission` — the records of a frame.
-/

/-- The four bytes of an address in wire order. -/
def Ipv4.bytes (a : Ipv4) : Bytes :=
  [a.b0, a.b1, a.b2, a.b3]

/-! ### Packets of ARP -/

namespace Arp

/-- How the fixed part of a packet about Ethernet and IPv4 is written. -/
def ownPrefix : Bytes :=
  [0x00, 0x01, 0x08, 0x00, 0x06, 0x04]

namespace Body

/-- A packet about Ethernet and IPv4 as it stands in a frame. -/
def encode (b : Body) : Bytes :=
  ownPrefix ++ [highByte b.operation, lowByte b.operation] ++ b.senderMac.bytes ++
    b.senderIp.bytes ++ b.targetMac.bytes ++ b.targetIp.bytes

/-- A sender without an address asks for the owner of one. -/
def IsProbe (b : Body) : Prop :=
  b.senderIp = ⟨0, 0, 0, 0⟩ ∧ b.targetMac = ⟨0, 0, 0, 0, 0, 0⟩

/-- A sender tells its own address to every host, to none, or to itself. -/
def IsGratuitous (b : Body) : Prop :=
  b.senderIp = b.targetIp ∧ (b.targetMac = ⟨0xff, 0xff, 0xff, 0xff, 0xff, 0xff⟩ ∨
    b.targetMac = ⟨0, 0, 0, 0, 0, 0⟩ ∨ b.targetMac = b.senderMac)

instance (b : Body) : Decidable b.IsProbe :=
  inferInstanceAs (Decidable (_ ∧ _))

instance (b : Body) : Decidable b.IsGratuitous :=
  inferInstanceAs (Decidable (_ ∧ _))

end Body

/-- A packet tells of no host: it is cut short within what its form asks for, or it is neither a
    request nor a reply. -/
inductive Silent (packet : Bytes) : Prop where
  | short (h : packet.length < 6)
  | cut (hown : packet.take 6 = ownPrefix) (h : packet.length < 28)
  | operation (b : Body) (padding : Bytes) (hbytes : packet = b.encode ++ padding)
      (hrequest : b.operation ≠ 1) (hreply : b.operation ≠ 2)

/-- A packet tells of two hosts: it is an answer of one to the other. -/
def TellsBoth (packet : Bytes) : Prop :=
  ∃ (b : Body) (padding : Bytes), packet = b.encode ++ padding ∧ b.operation = 2 ∧
    ¬b.IsProbe ∧ ¬b.IsGratuitous

/-- The body is read back, whatever padding follows it. -/
theorem ofBytes?_encode (b : Body) (padding : Bytes) :
    Body.ofBytes? (b.encode ++ padding) = some b := by
  simp [Body.encode, ownPrefix, MacAddr.bytes, Ipv4.bytes, Body.ofBytes?, be16_high_low]

/-- A packet has 28 bytes, and then its padding. -/
theorem length_encode (b : Body) (padding : Bytes) :
    (b.encode ++ padding).length = 28 + padding.length := by
  rw [List.length_append]
  rfl

/-- Packets that begin alike have the same body. -/
theorem encode_inj {b b' : Body} {padding padding' : Bytes}
    (h : b.encode ++ padding = b'.encode ++ padding') : b = b' := by
  have hread := ofBytes?_encode b padding
  rw [h, ofBytes?_encode] at hread
  exact (Option.some.inj hread).symm

/-- Where the fixed part is the expected one and no byte is missing, there is a body. -/
theorem exists_encode_eq {packet : Bytes} (hown : packet.take 6 = ownPrefix)
    (hlength : 28 ≤ packet.length) :
    ∃ (b : Body) (padding : Bytes), packet = b.encode ++ padding := by
  cases hread : Body.ofBytes? packet with
  -- A body is read from any 28 bytes, and the fixed part that it does not keep is the one given.
  | none =>
    have hshort := (Body.ofBytes?_fixed.eq_none_iff packet).1 hread
    rw [packetLength] at hshort
    omega
  | some b =>
    refine ⟨b, packet.drop 28, ?_⟩
    unfold Body.ofBytes? at hread
    split at hread
    · obtain rfl := Option.some.inj hread
      -- The six bytes of the fixed part are those that say Ethernet and IPv4.
      simp only [List.take_succ_cons, List.take_zero, ownPrefix, List.cons.injEq, and_true] at hown
      simp [Body.encode, ownPrefix, MacAddr.bytes, Ipv4.bytes, highByte_be16, lowByte_be16, hown]
    · cases hread

/-- Six bytes are read before anything is told, and without them there is an error. -/
theorem FixedPart.read_of_short {packet : Bytes} (h : packet.length < 6) :
    ∃ e, FixedPart.read packet = .error e := by
  match packet, h with
  | [], _ => exact ⟨_, rfl⟩
  | [_], _ => exact ⟨_, rfl⟩
  | [_, _], _ => exact ⟨_, rfl⟩
  | [_, _, _], _ => exact ⟨_, rfl⟩
  | [_, _, _, _], _ => exact ⟨_, rfl⟩
  | [_, _, _, _, _], _ => exact ⟨_, rfl⟩

/-- The fixed part is read from the first six bytes. -/
theorem FixedPart.exists_read {packet : Bytes} (h : 6 ≤ packet.length) :
    ∃ fixed, FixedPart.read packet = .ok fixed ∧
      (fixed = ethernetIpv4 ↔ packet.take 6 = ownPrefix) := by
  match packet, h with
  | h₁ :: h₀ :: p₁ :: p₀ :: hardware :: protocol :: _, _ =>
    refine ⟨⟨be16 h₁ h₀, be16 p₁ p₀, hardware, protocol⟩, rfl, ?_⟩
    have hethernet : (1 : UInt16) = be16 0x00 0x01 := by decide
    have hipv4 : (0x0800 : UInt16) = be16 0x08 0x00 := by decide
    simp [ethernetIpv4, ownPrefix, hethernet, hipv4, be16_inj, and_assoc]

/-- A packet is cut short, or it is about other addresses, or it has a body. -/
theorem packet_cases (packet : Bytes) :
    packet.length < 6 ∨
    6 ≤ packet.length ∧ packet.take 6 ≠ ownPrefix ∨
    6 ≤ packet.length ∧ packet.take 6 = ownPrefix ∧ packet.length < 28 ∨
    ∃ (b : Body) (padding : Bytes), packet = b.encode ++ padding := by
  by_cases hshort : packet.length < 6
  · exact .inl hshort
  · have hfixed : 6 ≤ packet.length := Nat.le_of_not_lt hshort
    by_cases hown : packet.take 6 = ownPrefix
    · by_cases hcut : packet.length < 28
      · exact .inr (.inr (.inl ⟨hfixed, hown, hcut⟩))
      · exact .inr (.inr (.inr (exists_encode_eq hown (Nat.le_of_not_lt hcut))))
    · exact .inr (.inl ⟨hfixed, hown⟩)

/-- A packet of Ethernet and IPv4 gives the records of its body. -/
theorem dissect_encode (link : LinkFacts) (b : Body) (padding : Bytes) :
    dissect link (b.encode ++ padding) = { sightings := b.sightings link } := by
  have hread : FixedPart.read (b.encode ++ padding) = .ok .ethernetIpv4 := rfl
  rw [dissect, hread]
  simp only [FixedPart.dissect, if_pos, ofBytes?_encode]

/-- A packet is silent exactly if its operation is neither request nor reply. -/
theorem silent_encode_iff (b : Body) (padding : Bytes) :
    Silent (b.encode ++ padding) ↔ ¬(b.operation = 1 ∨ b.operation = 2) := by
  have hlength := length_encode b padding
  rw [not_or]
  constructor
  · rintro (h | ⟨-, h⟩ | ⟨b', padding', hbytes, hrequest, hreply⟩)
    · omega
    · omega
    · obtain rfl := encode_inj hbytes
      exact ⟨hrequest, hreply⟩
  · rintro ⟨hrequest, hreply⟩
    exact .operation b padding rfl hrequest hreply

/-- A packet tells of two hosts exactly if it is a reply that is neither probe nor announcement. -/
theorem tellsBoth_encode_iff (b : Body) (padding : Bytes) :
    TellsBoth (b.encode ++ padding) ↔ b.operation = 2 ∧ ¬b.IsProbe ∧ ¬b.IsGratuitous := by
  constructor
  · rintro ⟨b', padding', hbytes, htells⟩
    obtain rfl := encode_inj hbytes
    exact htells
  · intro htells
    exact ⟨b, padding, rfl, htells⟩

/-- Probes and announcements are told apart from other packets as their descriptions say. -/
theorem Body.classify_eq (b : Body) : b.classify =
    if b.IsProbe then .probe else if b.IsGratuitous then .gratuitous else .normal :=
  rfl

/-- A body is ordinary exactly if it is neither a probe nor an announcement. -/
theorem Body.classify_eq_normal_iff (b : Body) :
    b.classify = .normal ↔ ¬b.IsProbe ∧ ¬b.IsGratuitous := by
  rw [classify_eq]
  by_cases hprobe : b.IsProbe
  · simp [hprobe]
  · by_cases hgratuitous : b.IsGratuitous <;> simp [hprobe, hgratuitous]

/-- Other operations give no record. -/
theorem Body.sightings_other {b : Body} (link : LinkFacts) (hrequest : b.operation ≠ 1)
    (hreply : b.operation ≠ 2) : b.sightings link = [] := by
  unfold sightings request reply
  rw [if_neg (not_or.2 ⟨hrequest, hreply⟩)]

/-- What is told of a packet that is a request or a reply depends on its class. -/
theorem Body.sightings_eq {b : Body} (link : LinkFacts)
    (htold : b.operation = 1 ∨ b.operation = 2) :
    b.sightings link =
      match b.classify with
      | .probe => [b.sender link .probe]
      | .gratuitous => [b.sender link .gratuitous]
      | .normal => b.sender link .source :: if b.operation = 2 then [b.target link] else [] := by
  unfold sightings request reply
  rw [if_pos htold]
  cases b.classify with
  | probe => rfl
  | gratuitous => rfl
  | normal => by_cases hreply : b.operation = 2 <;> simp [hreply]

/-- How many records a body gives, by its operation and its class. -/
theorem Body.length_sightings (b : Body) (link : LinkFacts) :
    (b.sightings link).length =
      if b.operation = 1 ∨ b.operation = 2 then
        if b.operation = 2 ∧ b.classify = .normal then 2 else 1
      else 0 := by
  by_cases htold : b.operation = 1 ∨ b.operation = 2
  · rw [sightings_eq link htold, if_pos htold]
    cases b.classify with
    | probe => simp
    | gratuitous => simp
    | normal => by_cases hreply : b.operation = 2 <;> simp [hreply]
  · obtain ⟨hrequest, hreply⟩ := not_or.1 htold
    rw [sightings_other link hrequest hreply, if_neg htold]
    rfl

/-- Of a packet about other addresses only the sender of the frame is recorded, however little
    follows the fixed part. -/
theorem dissect_foreign (link : LinkFacts) {packet : Bytes} (hlength : 6 ≤ packet.length)
    (hforeign : packet.take 6 ≠ ownPrefix) :
    (dissect link packet).sightings = [link.unknown] ∧ (dissect link packet).error = none := by
  -- Only the fixed part is read, so nothing has to follow it.
  obtain ⟨fixed, hread, hown⟩ := FixedPart.exists_read hlength
  have hne : fixed ≠ .ethernetIpv4 := fun h => hforeign (hown.1 h)
  rw [dissect, hread]
  simp [FixedPart.dissect, hne]

/-- A packet that has no body tells of no host, or of the sender of the frame alone. -/
theorem dissect_of_no_body (link : LinkFacts) {packet : Bytes}
    (hbody : ∀ (b : Body) (padding : Bytes), packet ≠ b.encode ++ padding) :
    ((dissect link packet).sightings = [] ∧ Silent packet) ∨
      ((dissect link packet).sightings = [link.unknown] ∧ (dissect link packet).error = none ∧
        ¬Silent packet) := by
  -- The packet is too short, foreign, cut, or a body, and the last is excluded.
  rcases packet_cases packet with hshort | ⟨hfixed, hforeign⟩ | ⟨hfixed, hown, hcut⟩ | ⟨b, p, h⟩
  · obtain ⟨e, hread⟩ := FixedPart.read_of_short hshort
    rw [dissect, hread]
    exact .inl ⟨rfl, .short hshort⟩
  · obtain ⟨hsightings, herror⟩ := dissect_foreign link hfixed hforeign
    refine .inr ⟨hsightings, herror, ?_⟩
    rintro (h | ⟨hown, -⟩ | ⟨b, padding, hbytes, -, -⟩)
    · omega
    · exact hforeign hown
    · exact hbody b padding hbytes
  · obtain ⟨fixed, hread, hfixedOwn⟩ := FixedPart.exists_read hfixed
    -- The fixed part is there and its own, so the rest is what was cut.
    have hnone : Body.ofBytes? packet = none := (Body.ofBytes?_fixed.eq_none_iff packet).2 hcut
    rw [dissect, hread]
    simp only [FixedPart.dissect, if_pos (hfixedOwn.2 hown), hnone]
    exact .inl ⟨rfl, .cut hown hcut⟩
  · exact absurd h (hbody b p)

/-- The number of records of a packet. An error leaves none. -/
theorem length_dissect (link : LinkFacts) (packet : Bytes) :
    ((dissect link packet).sightings.length = 0 ↔ Silent packet) ∧
    ((dissect link packet).sightings.length = 2 ↔ TellsBoth packet) ∧
    (dissect link packet).sightings.length ≤ 2 ∧
    ((dissect link packet).error ≠ none → (dissect link packet).sightings = []) := by
  -- A packet with a body tells as much as the body; without one it is silent or foreign.
  by_cases hbody : ∃ (b : Body) (padding : Bytes), packet = b.encode ++ padding
  · obtain ⟨b, padding, rfl⟩ := hbody
    have hlength := b.length_sightings link
    rw [dissect_encode, silent_encode_iff, tellsBoth_encode_iff, ← b.classify_eq_normal_iff]
    by_cases htold : b.operation = 1 ∨ b.operation = 2
    · by_cases hboth : b.operation = 2 ∧ b.classify = .normal
      · rw [if_pos htold, if_pos hboth] at hlength
        simp [hlength, hboth]
      · rw [if_pos htold, if_neg hboth] at hlength
        simp [hlength, htold, hboth]
    · -- Other operations tell nothing, whatever the addresses are.
      obtain ⟨hrequest, hreply⟩ := not_or.1 htold
      rw [if_neg htold] at hlength
      simp [List.eq_nil_of_length_eq_zero hlength, hrequest, hreply]
  · push Not at hbody
    -- To tell of both hosts a packet needs a body.
    have hnotBoth : ¬TellsBoth packet := by
      rintro ⟨b, padding, hbytes, -⟩
      exact hbody b padding hbytes
    rcases dissect_of_no_body link hbody with ⟨hnone, hsilent⟩ | ⟨hsender, herror, htold⟩
    · simp [hnone, hsilent, hnotBoth]
    · simp [hsender, herror, htold, hnotBoth]

end Arp

/-! ### IPv4 packets -/

/-- The record only grows more specific from the header on. -/
theorem Ipv4Header.blurs_refine (h : Ipv4Header) (packet : Bytes) {s : Sighting} (hs : s.Bare) :
    s.Blurs (h.refine packet s).sighting := by
  unfold refine
  split
  · split
    · exact .refl s
    · split
      · exact .refl s
      · exact blurs_inspectUdp _ hs
  · exact .refl s

/-- The source of a packet is in its bytes 12 to 15. -/
theorem Ipv4Header.source_bytes {packet : Bytes} {h : Ipv4Header}
    (hread : ofBytes? packet = some h) : h.source.bytes = (packet.drop 12).take 4 := by
  unfold ofBytes? at hread
  split at hread
  · obtain rfl := Option.some.inj hread
    rfl
  · cases hread

/-- The source of a frame is in its bytes 6 to 11. -/
theorem EthernetHeader.source_bytes {frame : Bytes} {h : EthernetHeader}
    (hread : ofBytes? frame = some h) : h.source.bytes = (frame.drop 6).take 6 := by
  unfold ofBytes? at hread
  split at hread
  · obtain rfl := Option.some.inj hread
    rfl
  · cases hread

/-- A packet that is shorter than its header gives no record. -/
theorem dissectIpv4_of_short (link : LinkFacts) {packet : Bytes} (h : packet.length < 20) :
    (dissectIpv4 link packet).sightings = [] := by
  rw [dissectIpv4, (Ipv4Header.ofBytes?_fixed.eq_none_iff packet).2 h]
  rfl

/-- Whatever is wrong with the options of a header, and with all that follows it, there is a record
    of the source. -/
theorem dissectIpv4_emission (link : LinkFacts) {packet : Bytes} (h : 20 ≤ packet.length) :
    ∃ s, (dissectIpv4 link packet).sightings = [s] ∧ s.mac = link.source ∧
      s.ip.bytes = (packet.drop 12).take 4 := by
  cases hread : Ipv4Header.ofBytes? packet with
  | none =>
    have hshort := (Ipv4Header.ofBytes?_fixed.eq_none_iff packet).1 hread
    rw [Ipv4Header.minLength] at hshort
    omega
  | some header =>
    have hblurs := header.blurs_refine packet
      (s := .plain link.source header.source link.seen link.vlan .ipBroadcast) ⟨rfl, rfl, rfl, rfl⟩
    refine ⟨_, by rw [dissectIpv4, hread]; rfl, hblurs.mac.symm, ?_⟩
    rw [← hblurs.ip, ← Ipv4Header.source_bytes hread]
    rfl

/-! ### The link layer -/

/-- Where the packet of a frame begins: after the header, or after the tag. -/
def packetStart (frame : Bytes) : Nat :=
  if AnnouncesTag frame then 18 else 14

/-- The packet of a frame. -/
def packetBytes (frame : Bytes) : Bytes :=
  frame.drop (packetStart frame)

/-- The type of the packet, which stands before it. -/
def typeBytes (frame : Bytes) : Bytes :=
  (frame.drop (packetStart frame - 2)).take 2

/-- No packet is read from a frame. -/
inductive LinkSilent (policy : VlanPolicy) (frame : Bytes) : Prop where
  | short (h : frame.length < 14)
  | ignored (htagged : AnnouncesTag frame) (h : policy.ignoreTagged = true)
  | cutTag (htagged : AnnouncesTag frame) (h : frame.length < 18)

/-- On the link layer a frame falls silent for three reasons: it is too short for its header, it is
    too short for its tag, or its tag is not wanted. -/
theorem linkSilent_iff (policy : VlanPolicy) (frame : Bytes) : LinkSilent policy frame ↔
    frame.length < 14 ∨ AnnouncesTag frame ∧ (policy.ignoreTagged = true ∨ frame.length < 18) := by
  constructor
  · rintro (h | ⟨htagged, h⟩ | ⟨htagged, h⟩)
    · exact .inl h
    · exact .inr ⟨htagged, .inl h⟩
    · exact .inr ⟨htagged, .inr h⟩
  · rintro (h | ⟨htagged, h | h⟩)
    · exact .short h
    · exact .ignored htagged h
    · exact .cutTag htagged h

instance (policy : VlanPolicy) (frame : Bytes) : Decidable (LinkSilent policy frame) :=
  decidable_of_iff _ (linkSilent_iff policy frame).symm

/-- Nothing of such a frame reaches a decoder. -/
theorem sightings_of_linkSilent {policy : VlanPolicy} {frame : Bytes} (h : LinkSilent policy frame)
    (seen : Timestamp) : (dissect policy seen frame).sightings = [] := by
  unfold dissect
  cases hheader : EthernetHeader.ofBytes? frame with
  | none => rfl
  | some header =>
    have hlength : 14 ≤ frame.length := EthernetHeader.size_le_of_ofBytes? hheader
    have hvlan : header.etherType = EtherType.vlan ↔ AnnouncesTag frame :=
      EthernetHeader.etherType_eq_iff hheader 0x81 0x00
    simp only
    -- One case for each way to fall silent.
    rcases h with hshort | ⟨htagged, hignored⟩ | ⟨htagged, hcut⟩
    · -- The header was read, so the frame is not that short.
      omega
    · rw [if_pos (hvlan.2 htagged), if_pos hignored]
    · rw [if_pos (hvlan.2 htagged)]
      have hnone : VlanTag.ofBytes? (frame.drop EthernetHeader.size) = none := by
        rw [VlanTag.ofBytes?_fixed.eq_none_iff, List.length_drop, EthernetHeader.size, VlanTag.size]
        omega
      rw [hnone]
      split <;> rfl

/-- The packet of any other frame stands where its start is said to be, and so do its type and its
    source. -/
theorem exists_carried {policy : VlanPolicy} {frame : Bytes} (h : ¬LinkSilent policy frame) :
    ∃ p, carried policy frame = .packet p ∧ p.bytes = packetBytes frame ∧
      p.source.bytes = (frame.drop 6).take 6 ∧
      ∀ hi lo, p.etherType = be16 hi lo ↔ typeBytes frame = [hi, lo] := by
  -- The three ways to fall silent are excluded one by one where the frame is read.
  have hlength : 14 ≤ frame.length := by
    by_contra hshort
    exact h (.short (Nat.lt_of_not_le hshort))
  unfold carried
  cases hheader : EthernetHeader.ofBytes? frame with
  | none =>
    have hshort : frame.length < 14 := (EthernetHeader.ofBytes?_fixed.eq_none_iff frame).1 hheader
    omega
  | some header =>
    have hvlan : header.etherType = EtherType.vlan ↔ AnnouncesTag frame :=
      EthernetHeader.etherType_eq_iff hheader 0x81 0x00
    have hsource := EthernetHeader.source_bytes hheader
    simp only
    -- Behind a tag the packet starts four bytes later.
    by_cases htagged : AnnouncesTag frame
    · have hstart : packetStart frame = 18 := if_pos htagged
      have hseen : policy.ignoreTagged ≠ true := fun hignored => h (.ignored htagged hignored)
      rw [if_pos (hvlan.2 htagged), if_neg hseen, packetBytes, typeBytes, hstart]
      cases htag : VlanTag.ofBytes? (frame.drop EthernetHeader.size) with
      | none =>
        have hshort := (VlanTag.ofBytes?_fixed.eq_none_iff _).1 htag
        rw [List.length_drop, EthernetHeader.size, VlanTag.size] at hshort
        exact absurd (.cutTag htagged (by omega)) h
      | some tag =>
        have htype := VlanTag.etherType_eq_iff htag
        rw [List.drop_drop] at htype
        exact ⟨_, rfl, List.drop_drop, hsource, htype⟩
    · have hstart : packetStart frame = 14 := if_neg htagged
      rw [if_neg (mt hvlan.1 htagged), packetBytes, typeBytes, hstart]
      exact ⟨_, rfl, rfl, hsource, EthernetHeader.etherType_eq_iff hheader⟩

/-! ### Frames -/

/-- A frame gives no record. -/
inductive Silent (policy : VlanPolicy) (frame : Bytes) : Prop where
  | link (h : LinkSilent policy frame)
  | ipv4 (htype : typeBytes frame = [0x08, 0x00]) (h : (packetBytes frame).length < 20)
  | arp (htype : typeBytes frame = [0x08, 0x06]) (h : Arp.Silent (packetBytes frame))

/-- A frame gives two records. -/
def TellsBoth (policy : VlanPolicy) (frame : Bytes) : Prop :=
  ¬LinkSilent policy frame ∧ typeBytes frame = [0x08, 0x06] ∧ Arp.TellsBoth (packetBytes frame)

/-- Only the type of the packet tells what else may keep a frame from giving a record. -/
theorem silent_iff {policy : VlanPolicy} {frame : Bytes} (hlink : ¬LinkSilent policy frame) :
    Silent policy frame ↔
      typeBytes frame = [0x08, 0x00] ∧ (packetBytes frame).length < 20 ∨
      typeBytes frame = [0x08, 0x06] ∧ Arp.Silent (packetBytes frame) := by
  constructor
  · rintro (h | ⟨htype, h⟩ | ⟨htype, h⟩)
    · exact absurd h hlink
    · exact .inl ⟨htype, h⟩
    · exact .inr ⟨htype, h⟩
  · rintro (⟨htype, h⟩ | ⟨htype, h⟩)
    · exact .ipv4 htype h
    · exact .arp htype h

/-- A frame gives no record if its link layer, its IPv4 header or its packet of ARP is not all there
    or not to be read, and two if it is an answer of one host to another. Any other frame gives one
    record, whatever is wrong with it. Only of IPv4 packets is there a record beside an error, and
    of every IPv4 packet with a header there is one, with the source of the frame and of the
    packet. -/
theorem dissect_emission (policy : VlanPolicy) (seen : Timestamp) (frame : Bytes) :
    let d := dissect policy seen frame
    (d.sightings.length = 0 ↔ Silent policy frame) ∧
    (d.sightings.length = 2 ↔ TellsBoth policy frame) ∧
    (¬Silent policy frame → ¬TellsBoth policy frame → d.sightings.length = 1) ∧
    (d.error ≠ none → d.sightings ≠ [] → typeBytes frame = [0x08, 0x00]) ∧
    (¬LinkSilent policy frame → typeBytes frame = [0x08, 0x00] → 20 ≤ (packetBytes frame).length →
      ∃ s, d.sightings = [s] ∧ s.mac.bytes = (frame.drop 6).take 6 ∧
        s.ip.bytes = ((packetBytes frame).drop 12).take 4) := by
  intro d
  by_cases hlink : LinkSilent policy frame
  · have hnone : d.sightings = [] := sightings_of_linkSilent hlink seen
    simp [hnone, Silent.link hlink, hlink, TellsBoth]
  obtain ⟨p, hcarried, hbytes, hsource, htype⟩ := exists_carried hlink
  have harp : p.etherType = EtherType.arp ↔ typeBytes frame = [0x08, 0x06] := htype 0x08 0x06
  have hipv4 : p.etherType = EtherType.ipv4 ↔ typeBytes frame = [0x08, 0x00] := htype 0x08 0x00
  have hd : d = dissectPayload p.etherType ⟨p.source, p.vlan, seen⟩ (packetBytes frame) := by
    rw [← hbytes]
    exact (dissect_eq policy seen frame).trans (by rw [hcarried]; rfl)
  -- One case for each decoder that the type may select.
  by_cases harpType : typeBytes frame = [0x08, 0x06]
  · have hother : typeBytes frame ≠ [0x08, 0x00] := by simp [harpType]
    have hsilent : Silent policy frame ↔ Arp.Silent (packetBytes frame) := by
      simp [silent_iff hlink, harpType]
    have hboth : TellsBoth policy frame ↔ Arp.TellsBoth (packetBytes frame) := by
      simp [TellsBoth, hlink, harpType]
    obtain ⟨hzero, htwo, hle, herror⟩ :=
      Arp.length_dissect ⟨p.source, p.vlan, seen⟩ (packetBytes frame)
    rw [hd, dissectPayload, if_pos (harp.2 harpType), hsilent, hboth]
    refine ⟨hzero, htwo, fun hnotSilent hnotBoth => ?_, fun he hne => absurd (herror he) hne,
      fun _ htype => absurd htype hother⟩
    have hsome := mt hzero.1 hnotSilent
    have hfewer := mt htwo.1 hnotBoth
    omega
  have hnotBoth : ¬TellsBoth policy frame := fun h => harpType h.2.1
  by_cases hipv4Type : typeBytes frame = [0x08, 0x00]
  · have hsilent : Silent policy frame ↔ (packetBytes frame).length < 20 := by
      simp [silent_iff hlink, hipv4Type]
    rw [hd, dissectPayload, if_neg (mt harp.1 harpType), if_pos (hipv4.2 hipv4Type), hsilent]
    by_cases hshort : (packetBytes frame).length < 20
    · have hnone := dissectIpv4_of_short ⟨p.source, p.vlan, seen⟩ hshort
      simp [hnone, hnotBoth, hshort, hipv4Type]
    · obtain ⟨s, hs, hmac, hip⟩ :=
        dissectIpv4_emission ⟨p.source, p.vlan, seen⟩ (Nat.le_of_not_lt hshort)
      have hmacBytes : s.mac.bytes = (frame.drop 6).take 6 := by rw [hmac, hsource]
      simp [hs, hnotBoth, hshort, hipv4Type, hmacBytes, hip]
  · have hsilent : ¬Silent policy frame := by
      simp [silent_iff hlink, hipv4Type, harpType]
    rw [hd, dissectPayload, if_neg (mt harp.1 harpType), if_neg (mt hipv4.1 hipv4Type)]
    simp [hsilent, hnotBoth, hipv4Type]

/-- The host of a datagram that is cut within its ports is recorded. -/
theorem dissect_emission_of_cut_datagram :
    ¬LinkSilent {} cutDatagramFrame ∧ typeBytes cutDatagramFrame = [0x08, 0x00] ∧
      20 ≤ (packetBytes cutDatagramFrame).length ∧
      (dissect {} ⟨1, 2⟩ cutDatagramFrame).error = some (.truncated "udp" 0 8 3) ∧
      ∃ s, (dissect {} ⟨1, 2⟩ cutDatagramFrame).sightings = [s] ∧
        s.mac.bytes = [2, 0, 0, 0, 0, 1] ∧ s.ip.bytes = [10, 0, 0, 7] := by
  have hlink : ¬LinkSilent {} cutDatagramFrame := by
    rintro (h | ⟨h, -⟩ | ⟨h, -⟩)
    · exact absurd h (by decide)
    · exact absurd h (by decide)
    · exact absurd h (by decide)
  have htype : typeBytes cutDatagramFrame = [0x08, 0x00] := by decide
  have hlength : 20 ≤ (packetBytes cutDatagramFrame).length := by decide
  obtain ⟨-, -, -, -, hrecord⟩ := dissect_emission {} ⟨1, 2⟩ cutDatagramFrame
  exact ⟨hlink, htype, hlength, by decide +kernel, hrecord hlink htype hlength⟩

end LanWatch
