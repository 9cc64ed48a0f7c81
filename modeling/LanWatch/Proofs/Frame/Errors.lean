import LanWatch.Proofs.Frame.Datagrams
import LanWatch.Proofs.Truncation.Ends

namespace LanWatch

/-!
# What the error of a frame tells

The error of a frame tells the layer in which decoding stopped. Each layer is given its own part of
the frame: the frame itself, its packet, the data of the packet, or the body of the datagram in it.
Whether the check that failed was made by a cursor or by hand, the place and the count of bytes in
the error reach to the end of that part. Only a host name in a message of DHCP can be in error
otherwise.

* `FrameLayer`, `FrameLayer.given`, `FrameLayer.Reached` — the layers, their parts of a frame, and
  which of them a frame has;
* `CarriesDatagram`, `CarriesLongHostName` — what a frame must carry for its layers to be reached;
* `FrameFault` — the errors that a frame may have;
* `fault_inspectUdp`, `fault_dissectIpv4`, `fault_dissect` — it has no others;
* `dissect_error_tells_end` — what an error tells, and when it is that of a host name;
* `ignored_frame_has_no_error` — a frame that is passed over for its tag.
-/

open IpPacket

/-! ### Layers -/

/-- The layers in which decoding may stop. -/
inductive FrameLayer where
  | ethernet
  | tag
  | arp
  | ipv4
  | udp
  | dhcp
  | netBios
  | channelAccess
  deriving DecidableEq

/-- A frame carries a datagram: its packet is one of UDP, and is all there as far as its header. -/
structure CarriesDatagram (frame : Bytes) : Prop where
  type_eq : typeBytes frame = [0x08, 0x00]
  minLength_le : 20 ≤ (packetBytes frame).length
  isUdp : IsUdp (packetBytes frame)
  words_ge : 5 ≤ headerWords (packetBytes frame)
  header_le : 4 * headerWords (packetBytes frame) ≤ (packetBytes frame).length

/-- The datagram of a frame. -/
def datagram (frame : Bytes) : Bytes :=
  data (packetBytes frame)

/-- The datagram of a frame has its ports, and comes from one port and goes to another. -/
def IsBetween (frame : Bytes) (source destination : Nat) : Prop :=
  CarriesDatagram frame ∧ 8 ≤ (datagram frame).length ∧
    numberAt (datagram frame) 0 = source ∧ numberAt (datagram frame) 2 = destination

namespace FrameLayer

/-- The name of a layer in errors. -/
def name : FrameLayer → String
  | ethernet => "ethernet"
  | tag => "802.1q"
  | arp => "arp"
  | ipv4 => "ipv4"
  | udp => "udp"
  | dhcp => "dhcp"
  | netBios => "netbios"
  | channelAccess => "epics-ca"

/-- No two layers share a name. -/
theorem name_injective {l l' : FrameLayer} (h : l.name = l'.name) : l = l' := by
  cases l <;> cases l' <;> first | rfl | exact absurd h (by decide)

/-- The part of a frame that a layer is given. The tag is read from the frame itself. -/
def given (frame : Bytes) : FrameLayer → Bytes
  | ethernet | tag => frame
  | arp | ipv4 => packetBytes frame
  | udp => datagram frame
  | dhcp | netBios | channelAccess => (datagram frame).drop 8

/-- A frame has a layer. -/
def Reached (frame : Bytes) : FrameLayer → Prop
  | ethernet => True
  | tag => AnnouncesTag frame
  | arp => typeBytes frame = [0x08, 0x06]
  | ipv4 => typeBytes frame = [0x08, 0x00]
  | udp => CarriesDatagram frame
  | dhcp => IsBetween frame 68 67
  | netBios => ∃ source, IsBetween frame source 137
  | channelAccess => ∃ source, IsBetween frame source 5064

end FrameLayer

/-- A frame carries a message of DHCP with a host name that is longer than a record keeps. -/
def CarriesLongHostName (frame : Bytes) : Prop :=
  IsBetween frame 68 67 ∧ Dhcp.HasLongHostName ((datagram frame).drop 8)

/-- A frame is passed over for its tag. -/
def PassedOver (policy : VlanPolicy) (frame : Bytes) : Prop :=
  AnnouncesTag frame ∧ policy.ignoreTagged = true

/-- The errors that a frame may have. -/
inductive FrameFault (policy : VlanPolicy) (frame : Bytes) : DecodeError → Prop where
  /-- A layer ends too early. -/
  | cut {e : DecodeError} (layer : FrameLayer) (hreached : layer.Reached frame)
    (h : e.PassesEnd layer.name (layer.given frame)) : FrameFault policy frame e
  /-- A host name is too long. -/
  | tooLong {e : DecodeError} (hseen : ¬PassedOver policy frame) (h : CarriesLongHostName frame)
    (hlong : Dhcp.TooLong e) : FrameFault policy frame e

/-! ### Packets -/

/-- The fixed part of a packet is read by a cursor, and the body is checked as a whole. -/
theorem Arp.passesEnd_dissect (link : LinkFacts) (packet : Bytes) :
    ∀ e ∈ (dissect link packet).error, e.PassesEnd "arp" packet := by
  unfold dissect
  split
  · rename_i hread
    rintro e' ⟨⟩
    exact (honest_read packet).of_error hread
  · unfold FixedPart.dissect
    split
    · split
      · rename_i hnone
        rintro e ⟨⟩
        exact ⟨rfl, (Body.ofBytes?_fixed.eq_none_iff packet).1 hnone, Nat.zero_add _⟩
      · exact nofun
    · exact nofun

section

variable {policy : VlanPolicy} {frame : Bytes}

theorem fault_inspectUdp (hseen : ¬PassedOver policy frame) (h : CarriesDatagram frame)
    (s : Sighting) :
    ∀ e ∈ (inspectUdp (datagram frame) s).error, FrameFault policy frame e := by
  -- One case for each protocol that reads the rest of a datagram by its ports.
  intro e he
  by_cases hshort : (datagram frame).length < 8
  · rw [(inspectUdp_of_short hshort s).2] at he
    split at he
    · cases he
    · obtain rfl := Option.some.inj he
      exact .cut .udp h ⟨rfl, hshort, Nat.zero_add _⟩
  have hports := Nat.le_of_not_lt hshort
  rw [inspectUdp_eq hports] at he
  split at he
  · rename_i hdhcp
    have hreached : IsBetween frame 68 67 := ⟨h, hports, hdhcp⟩
    rcases Dhcp.error_scan_cases ((datagram frame).drop 8) { s with kind := .udp } with
      hall | ⟨-, e', he', hlong⟩
    · exact .cut .dhcp hreached (hall e he)
    · rw [he'] at he
      obtain rfl := Option.some.inj he
      have hname := (Dhcp.tooLong_scan_iff _ _).1 ⟨e', he', hlong⟩
      exact .tooLong hseen ⟨hreached, hname⟩ hlong
  · split at he
    · rename_i hname
      exact .cut .netBios ⟨_, h, hports, rfl, hname⟩ (NetBios.passesEnd_scan _ _ e he)
    · split at he
      · rename_i hsearch
        exact .cut .channelAccess ⟨_, h, hports, rfl, hsearch⟩
          (ChannelAccess.passesEnd_scan _ _ e he)
      · split at he <;> cases he

theorem fault_dissectIpv4 (hseen : ¬PassedOver policy frame)
    (htype : typeBytes frame = [0x08, 0x00]) (link : LinkFacts) :
    ∀ e ∈ (dissectIpv4 link (packetBytes frame)).error, FrameFault policy frame e := by
  -- One case for each point at which the reading of a packet may end.
  intro e he
  unfold dissectIpv4 at he
  by_cases hshort : (packetBytes frame).length < 20
  · rw [(Ipv4Header.ofBytes?_fixed.eq_none_iff _).2 hshort] at he
    obtain rfl := Option.some.inj he
    exact .cut .ipv4 htype ⟨rfl, hshort, Nat.zero_add _⟩
  · -- The fixed part is read. The header may still be cut; if it is not, the datagram is read.
    have hlength := Nat.le_of_not_lt hshort
    obtain ⟨source, hread⟩ := Ipv4Header.ofBytes?_eq hlength
    rw [hread] at he
    simp only [Dissection.ofScan] at he
    rcases Ipv4Header.refine_cases (packetBytes frame) source
      (.plain link.source source link.seen link.vlan .ipBroadcast) with
      ⟨-, -, herror⟩ | ⟨-, -, hcut, -, herror⟩ | ⟨hudp, hwords, hheader, hrefine⟩
    · rw [herror] at he
      cases he
    · rw [herror] at he
      obtain rfl := Option.some.inj he
      exact .cut .ipv4 htype ⟨rfl, hcut, Nat.zero_add _⟩
    · rw [hrefine] at he
      exact fault_inspectUdp hseen ⟨htype, hlength, hudp, hwords, hheader⟩ _ e he

/-! ### Frames -/

/-- From a frame of which no packet is read, the header or the tag is missing, or the tag is enough
    to pass the frame over. -/
theorem carried_of_linkSilent (h : LinkSilent policy frame) :
    frame.length < 14 ∧ carried policy frame = .cut (.truncated "ethernet" 0 14 frame.length) ∨
    AnnouncesTag frame ∧ policy.ignoreTagged = true ∧ carried policy frame = .nothing ∨
    AnnouncesTag frame ∧ 14 ≤ frame.length ∧ frame.length < 18 ∧
      carried policy frame = .cut (.truncated "802.1q" 14 4 (frame.length - 14)) := by
  unfold carried
  cases hheader : EthernetHeader.ofBytes? frame with
  | none => exact .inl ⟨(EthernetHeader.ofBytes?_fixed.eq_none_iff frame).1 hheader, rfl⟩
  | some header =>
    have hlength : 14 ≤ frame.length := EthernetHeader.size_le_of_ofBytes? hheader
    have hvlan : header.etherType = EtherType.vlan ↔ AnnouncesTag frame :=
      EthernetHeader.etherType_eq_iff hheader 0x81 0x00
    rw [linkSilent_iff] at h
    -- The header was read, so the tag was ignored or cut.
    rcases h with hshort | ⟨htagged, h⟩
    · omega
    · simp only
      rw [if_pos (hvlan.2 htagged)]
      by_cases hignored : policy.ignoreTagged = true
      · rw [if_pos hignored]
        exact .inr (.inl ⟨htagged, hignored, rfl⟩)
      · have hcut : frame.length < 18 := h.resolve_left hignored
        have hnone : VlanTag.ofBytes? (frame.drop EthernetHeader.size) = none := by
          rw [VlanTag.ofBytes?_fixed.eq_none_iff, List.length_drop, EthernetHeader.size, VlanTag.size]
          omega
        rw [if_neg hignored, hnone, List.length_drop]
        exact .inr (.inr ⟨htagged, hlength, hcut, rfl⟩)

/-- A frame that falls silent on the link layer has an error there, or was passed over. -/
theorem fault_of_linkSilent (h : LinkSilent policy frame) (seen : Timestamp) :
    ∀ e ∈ (dissect policy seen frame).error, FrameFault policy frame e := by
  rw [dissect_eq]
  rcases carried_of_linkSilent h with ⟨hshort, hcarried⟩ | ⟨-, -, hcarried⟩ |
    ⟨htagged, hheader, hcut, hcarried⟩
  · rw [hcarried]
    rintro e ⟨⟩
    -- The frame is cut in the header of the link layer.
    exact .cut .ethernet trivial ⟨rfl, hshort, Nat.zero_add _⟩
  · rw [hcarried]
    exact nofun
  · -- The tag is looked for in the frame, behind the header.
    have hmissing : frame.length - 14 < 4 := by omega
    have hend : 14 + (frame.length - 14) = frame.length := Nat.add_sub_cancel' hheader
    rw [hcarried]
    rintro e ⟨⟩
    exact .cut .tag htagged ⟨rfl, hmissing, hend⟩

/-- Whatever a frame holds and however it is treated, its error is one that it may have. -/
theorem fault_dissect (policy : VlanPolicy) (seen : Timestamp) (frame : Bytes) :
    ∀ e ∈ (dissect policy seen frame).error, FrameFault policy frame e := by
  by_cases hlink : LinkSilent policy frame
  · exact fault_of_linkSilent hlink seen
  have hseen : ¬PassedOver policy frame := fun h => hlink (.ignored h.1 h.2)
  obtain ⟨p, hcarried, hbytes, -, htype⟩ := exists_carried hlink
  -- The link layer passes the packet on, and the ether-type says whose error it may be.
  rw [dissect_eq, hcarried, Carried.dissect, Packet.dissect, dissectPayload, hbytes]
  split
  · rename_i harp
    have hreached : FrameLayer.arp.Reached frame := (htype 0x08 0x06).1 harp
    intro e he
    exact .cut .arp hreached (Arp.passesEnd_dissect _ _ e he)
  · split
    · rename_i hipv4
      exact fault_dissectIpv4 hseen ((htype 0x08 0x00).1 hipv4) _
    · rintro _ ⟨⟩

/-- A frame with such a host name has a header, and a tag if it announces one. -/
theorem not_linkSilent_of_longHostName (h : CarriesLongHostName frame)
    (hseen : ¬PassedOver policy frame) : ¬LinkSilent policy frame := by
  have hlength := h.1.1.minLength_le
  rw [packetBytes, List.length_drop] at hlength
  rintro (hshort | ⟨htagged, hignored⟩ | ⟨htagged, hcut⟩)
  · omega
  · exact hseen ⟨htagged, hignored⟩
  · rw [packetStart, if_pos htagged] at hlength
    omega

/-- The error about such a host name is told of the frame. -/
theorem error_of_longHostName (h : CarriesLongHostName frame) (hseen : ¬PassedOver policy frame)
    (seen : Timestamp) : ∃ e ∈ (dissect policy seen frame).error, Dhcp.TooLong e := by
  have hlink := not_linkSilent_of_longHostName h hseen
  obtain ⟨⟨hcarries, hports, hdhcp⟩, hname⟩ := h
  obtain ⟨link, hdissect⟩ := exists_dissectIpv4 hlink hcarries.type_eq seen
  obtain ⟨source, hread⟩ := Ipv4Header.ofBytes?_eq hcarries.minLength_le
  rw [hdissect, dissectIpv4, hread]
  rcases Ipv4Header.refine_cases (packetBytes frame) source
    (.plain link.source source link.seen link.vlan .ipBroadcast) with
    ⟨hother, -, -⟩ | ⟨-, -, hcut, -, -⟩ | ⟨-, -, -, hrefine⟩
  -- A packet that carries a datagram is one of UDP, and its header is all there.
  · rcases hother with hother | hwords
    · exact absurd hcarries.isUdp hother
    · exact absurd hcarries.words_ge (Nat.not_le.2 hwords)
  · exact absurd hcarries.header_le (Nat.not_le.2 hcut)
  · simp only [Dissection.ofScan, hrefine]
    rw [← datagram, inspectUdp_eq hports, if_pos hdhcp]
    exact (Dhcp.tooLong_scan_iff _ _).2 hname

end

/-- Whatever a frame holds and however it is treated: if its error is that of missing bytes, it
    tells of one layer of the frame and of the bytes that are there, which are fewer than needed and
    reach to the end of what the layer is given. The error is that of a field which is too long
    exactly if the frame carries a datagram from port 68 to port 67 with a message of DHCP, if there
    is a host name of more than 253 bytes among the complete items of that message, and if the frame
    is not passed over for its tag. -/
theorem dissect_error_tells_end (policy : VlanPolicy) (seen : Timestamp) (frame : Bytes) :
    let error := (dissect policy seen frame).error
    (∀ name offset needed available, error = some (.truncated name offset needed available) →
      available < needed ∧ ∃! layer : FrameLayer, name = layer.name ∧ layer.Reached frame ∧
        offset + available = (layer.given frame).length) ∧
    ((∃ field length capacity, error = some (.fieldTooLong field length capacity)) ↔
      CarriesLongHostName frame ∧ ¬PassedOver policy frame) := by
  intro error
  have hfault := fault_dissect policy seen frame
  refine ⟨?_, ?_, ?_⟩
  · intro name offset needed available herror
    -- An error about the end names its layer; the other kind names a field.
    rcases hfault _ herror with ⟨layer, hreached, hname, hless, hend⟩ | ⟨-, -, length, hlong, -⟩
    · exact ⟨hless, layer, ⟨hname, hreached, hend⟩,
        fun other hother => FrameLayer.name_injective (hother.1.symm.trans hname)⟩
    · cases hlong
  · rintro ⟨field, length, capacity, herror⟩
    rcases hfault _ herror with ⟨layer, -, hpasses⟩ | ⟨hseen, hcarries, -⟩
    · exact absurd hpasses id
    · exact ⟨hcarries, hseen⟩
  · -- A long host name behind everything that was read is always told.
    rintro ⟨hcarries, hseen⟩
    obtain ⟨e, he, length, rfl, -⟩ := error_of_longHostName hcarries hseen seen
    exact ⟨_, _, _, he⟩

/-- A message whose only option is a host name of 254 bytes. -/
def longNameMessage : Dhcp.Message where
  header := List.replicate 236 0
  items := [.option 12 (List.replicate 254 0x41)]
  tail := .marked []
  header_length := rfl
  items_fit := by
    rw [List.forall_mem_singleton]
    exact ⟨by decide, by decide, by rw [List.length_replicate]; decide⟩
  tail_fits := trivial

/-- A frame with a tag of VLAN 5, in which the client `10.0.0.7` sends that message to a server. -/
def longNameFrame : Bytes :=
  [0xff, 0xff, 0xff, 0xff, 0xff, 0xff, 0x02, 0x00, 0x00, 0x00, 0x00, 0x01, 0x81, 0x00, 0x00, 0x05,
    0x08, 0x00, 0x45, 0x00, 0x02, 0x0d, 0x00, 0x00, 0x00, 0x00, 0x40, 0x11, 0x00, 0x00, 0x0a, 0x00,
    0x00, 0x07, 0xff, 0xff, 0xff, 0xff, 0x00, 0x44, 0x00, 0x43, 0x01, 0xf9, 0x00, 0x00] ++
  longNameMessage.encode

/-- Where tagged frames are passed over, not even that frame is in error. -/
theorem ignored_frame_has_no_error :
    CarriesLongHostName longNameFrame ∧
      (dissect ⟨none, true⟩ ⟨1700000000, 250000⟩ longNameFrame).error = none := by
  have hbody : longNameMessage.encode = (datagram longNameFrame).drop 8 := by decide +kernel
  have hports : 8 ≤ (datagram longNameFrame).length := by decide +kernel
  have hcarries : CarriesDatagram longNameFrame :=
    ⟨by decide +kernel, by decide +kernel, by decide +kernel, by decide +kernel, by decide +kernel⟩
  refine ⟨⟨⟨hcarries, hports, by decide +kernel, by decide +kernel⟩,
    longNameMessage, hbody, _, List.mem_singleton_self _, ?_⟩, rfl⟩
  rw [List.length_replicate]
  decide

end LanWatch
