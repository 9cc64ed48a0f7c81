import LanWatch.Proofs.Frame.Emission
import LanWatch.Proofs.Frame.Sightings

namespace LanWatch

/-!
# The kind of an IPv4 record

The record of an IPv4 packet is one of a plain broadcast, unless all of the header and eight bytes
of a datagram are there. Then the two ports decide. Three lengths take part: the length of the
header, the length that the header gives for all of the packet, and what was captured of it.

* `numberAt` — a number by its place;
* `IpPacket.headerWords`, `IpPacket.data` — the length of the header, and what follows it;
* `Kind.FitsPorts` — the kinds that two ports may lead to;
* `Ipv4Header.ofBytes?_eq`, `Ipv4Header.payload_eq_data` — the header by the places of its fields;
* `inspectUdp_of_short`, `inspectUdp_eq` — datagrams without and with ports;
* `dissect_ipv4_kind` — the kind of the record of a frame, and the error of one that has no ports.
-/

/-! ### Places in a packet -/

/-- The number that two bytes spell, the first of which stands at a given place. -/
def numberAt (bytes : Bytes) (place : Nat) : Nat :=
  (be16 (bytes.getD place 0) (bytes.getD (place + 1) 0)).toNat

namespace IpPacket

/-- The length of the header in words of four bytes, as the header says. -/
def headerWords (packet : Bytes) : Nat :=
  (packet.getD 0 0).toNat % 16

/-- The protocol of the packet is UDP. -/
def IsUdp (packet : Bytes) : Prop :=
  packet.getD 9 0 = 17

instance (packet : Bytes) : Decidable (IsUdp packet) :=
  inferInstanceAs (Decidable (packet.getD 9 0 = 17))

/-- What follows the header, up to the end that the header tells. That end counts neither before the
    end of the header nor after that of the packet. -/
def data (packet : Bytes) : Bytes :=
  let header := 4 * headerWords packet
  packet.extract header (min (max (numberAt packet 2) header) packet.length)

end IpPacket

/-- The kinds of a datagram between two ports. -/
inductive Kind.FitsPorts (source destination : Nat) : Kind → Prop where
  | dhcp (message : Option DhcpMessage) (hsource : source = 68) (hdestination : destination = 67) :
    FitsPorts source destination (.dhcp message)
  | channelAccess (hdestination : destination = 5064) : FitsPorts source destination .channelAccess
  | pvAccess (hdestination : destination = 5076) : FitsPorts source destination .pvAccess
  | udp (hdhcp : ¬(source = 68 ∧ destination = 67)) (hchannelAccess : destination ≠ 5064)
    (hpvAccess : destination ≠ 5076) : FitsPorts source destination .udp

namespace Kind.FitsPorts

variable {source destination : Nat} {kind : Kind}

/-- Two ports tell which kind it is, up to the message of DHCP. -/
theorem iffs (h : kind.FitsPorts source destination) :
    ((∃ message, kind = .dhcp message) ↔ source = 68 ∧ destination = 67) ∧
    (kind = .channelAccess ↔ destination = 5064) ∧
    (kind = .pvAccess ↔ destination = 5076) ∧
    (kind = .udp ↔
      ¬(source = 68 ∧ destination = 67) ∧ destination ≠ 5064 ∧ destination ≠ 5076) := by
  cases h with
  | dhcp message hsource hdestination => simp [hsource, hdestination]
  | channelAccess hdestination => simp [hdestination]
  | pvAccess hdestination => simp [hdestination]
  | udp hdhcp hchannelAccess hpvAccess => simpa [hchannelAccess, hpvAccess] using hdhcp

/-- A kind that the ports select is not that of a plain broadcast. -/
theorem ne_ipBroadcast (h : kind.FitsPorts source destination) : kind ≠ .ipBroadcast := by
  cases h <;> exact Kind.noConfusion

end Kind.FitsPorts

/-! ### Headers -/

/-- The fields of a header stand at fixed places. -/
theorem Ipv4Header.ofBytes?_eq {packet : Bytes} (h : 20 ≤ packet.length) :
    ∃ source, ofBytes? packet =
      some ⟨IpPacket.headerWords packet, numberAt packet 2, packet.getD 9 0, source⟩ := by
  cases hread : ofBytes? packet with
  | none => exact absurd ((ofBytes?_fixed.eq_none_iff packet).1 hread) (Nat.not_lt.2 h)
  | some header =>
    unfold ofBytes? at hread
    split at hread
    · obtain rfl := Option.some.inj hread
      exact ⟨_, rfl⟩
    · cases hread

/-- So do the ports of a datagram. -/
theorem UdpHeader.ofBytes?_eq {datagram : Bytes} (h : 8 ≤ datagram.length) :
    ∃ ports, ofBytes? datagram = some ports ∧ ports.source.toNat = numberAt datagram 0 ∧
      ports.destination.toNat = numberAt datagram 2 := by
  cases hread : ofBytes? datagram with
  | none => exact absurd ((ofBytes?_fixed.eq_none_iff datagram).1 hread) (Nat.not_lt.2 h)
  | some ports =>
    unfold ofBytes? at hread
    split at hread
    · obtain rfl := Option.some.inj hread
      exact ⟨_, rfl, rfl, rfl⟩
    · cases hread

/-- Both accounts take the payload from the end of the header to where the lengths say. -/
theorem Ipv4Header.payload_eq_data (packet : Bytes) (protocol : UInt8) (source : Ipv4) :
    (⟨IpPacket.headerWords packet, numberAt packet 2, protocol, source⟩ : Ipv4Header).payload
      packet = IpPacket.data packet := by
  rw [payload, payloadEnd, length, IpPacket.data, List.extract_eq_take_drop, List.drop_take,
    Nat.mul_comm]

/-! ### Datagrams -/

/-- A datagram without ports tells nothing. It is an error only if there is a part of it. -/
theorem inspectUdp_of_short {datagram : Bytes} (h : datagram.length < 8) (s : Sighting) :
    (inspectUdp datagram s).sighting = s ∧
      (inspectUdp datagram s).error =
        if datagram.length = 0 then none else some (.truncated "udp" 0 8 datagram.length) := by
  unfold inspectUdp
  by_cases hnil : datagram = []
  · simp [hnil]
  · have hlength : datagram.length ≠ 0 := mt List.length_eq_zero_iff.1 hnil
    rw [if_neg hnil, if_neg hlength, (UdpHeader.ofBytes?_fixed.eq_none_iff datagram).2 h]
    exact ⟨rfl, rfl⟩

/-- The ports of a datagram, as numbers at their places, decide which protocol reads the rest. -/
theorem inspectUdp_eq {datagram : Bytes} (h : 8 ≤ datagram.length) (s : Sighting) :
    inspectUdp datagram s =
      if numberAt datagram 0 = 68 ∧ numberAt datagram 2 = 67 then
        Dhcp.scan (datagram.drop 8) { s with kind := .udp }
      else if numberAt datagram 2 = 137 then
        NetBios.scan (datagram.drop 8) { s with kind := .udp }
      else if numberAt datagram 2 = 5064 then
        ChannelAccess.scan (datagram.drop 8) { s with kind := .channelAccess }
      else if numberAt datagram 2 = 5076 then ⟨{ s with kind := .pvAccess }, none, []⟩
      else ⟨{ s with kind := .udp }, none, []⟩ := by
  obtain ⟨ports, hports, hsource, hdestination⟩ := UdpHeader.ofBytes?_eq h
  have hne : datagram ≠ [] := by
    rintro rfl
    cases h
  -- A port is compared as a word, and read at its place as a number.
  have hport : ∀ port : UInt16, ports.destination = port ↔ numberAt datagram 2 = port.toNat := by
    intro port
    rw [← hdestination, UInt16.toNat_inj]
  have hdhcp : ports.source = dhcpClientPort ∧ ports.destination = dhcpServerPort ↔
      numberAt datagram 0 = 68 ∧ numberAt datagram 2 = 67 := by
    rw [hport, ← hsource, ← UInt16.toNat_inj]
    rfl
  have hchannelAccess : ports.destination = channelAccessPort ↔ numberAt datagram 2 = 5064 :=
    hport channelAccessPort
  have hpvAccess : ports.destination = pvAccessPort ↔ numberAt datagram 2 = 5076 :=
    hport pvAccessPort
  have hnetBios : ports.destination = netBiosPort ↔ numberAt datagram 2 = 137 := hport netBiosPort
  unfold inspectUdp
  rw [if_neg hne, hports]
  simp only [hdhcp, hnetBios, hchannelAccess, hpvAccess]
  rfl

/-- The ports of a datagram decide about the kind of the record, however the rest of it is decoded.
    A NetBIOS name is told of a record of generic UDP. -/
theorem inspectUdp_fitsPorts {datagram : Bytes} (h : 8 ≤ datagram.length) (s : Sighting) :
    (inspectUdp datagram s).sighting.kind.FitsPorts (numberAt datagram 0)
      (numberAt datagram 2) := by
  rw [inspectUdp_eq h]
  -- The ports are tried in the order of the decoders, so a later one knows that the earlier ones
  -- did not fit.
  split
  · rename_i hboth
    have htells := Dhcp.tells_scan (datagram.drop 8) { s with kind := .udp }
    obtain ⟨message, hkind⟩ := htells.kind
    rw [hkind]
    exact .dhcp message hboth.1 hboth.2
  · rename_i hother
    split
    · rename_i hname
      rw [NetBios.kind_scan]
      exact .udp hother (by omega) (by omega)
    · split
      · rename_i hsearch
        rw [(ChannelAccess.tells_scan (datagram.drop 8) { s with kind := .channelAccess }).rest]
        exact .channelAccess hsearch
      · split
        · rename_i hsearch
          exact .pvAccess hsearch
        · exact .udp hother ‹_› ‹_›

/-! ### Packets -/

namespace IpPacket

/-- How far a packet is read, with the kind of its record and the error. -/
inductive Outcome (packet : Bytes) : Kind → Option DecodeError → Prop where
  /-- No datagram is looked for. -/
  | plain (h : ¬IsUdp packet ∨ headerWords packet < 5) : Outcome packet .ipBroadcast none
  /-- The header is cut. -/
  | cut (hudp : IsUdp packet) (hwords : 5 ≤ headerWords packet)
    (hcut : packet.length < 4 * headerWords packet) :
    Outcome packet .ipBroadcast (some (.truncated "ipv4" 0 (4 * headerWords packet) packet.length))
  /-- Nothing follows the header. -/
  | empty (hudp : IsUdp packet) (hwords : 5 ≤ headerWords packet)
    (hheader : 4 * headerWords packet ≤ packet.length) (hempty : (data packet).length = 0) :
    Outcome packet .ipBroadcast none
  /-- A part of a datagram's own header follows. -/
  | part (hudp : IsUdp packet) (hwords : 5 ≤ headerWords packet)
    (hheader : 4 * headerWords packet ≤ packet.length) (hsome : 1 ≤ (data packet).length)
    (hshort : (data packet).length ≤ 7) :
    Outcome packet .ipBroadcast (some (.truncated "udp" 0 8 (data packet).length))
  /-- There are two ports. -/
  | ports {kind : Kind} {error : Option DecodeError} (hudp : IsUdp packet)
    (hwords : 5 ≤ headerWords packet) (hheader : 4 * headerWords packet ≤ packet.length)
    (hlength : 8 ≤ (data packet).length)
    (hfits : kind.FitsPorts (numberAt (data packet) 0) (numberAt (data packet) 2)) :
    Outcome packet kind error

namespace Outcome

variable {packet : Bytes} {kind : Kind} {error : Option DecodeError}

/-- The packet stays a plain broadcast for four reasons, of which each is one of the cases. -/
theorem kind_eq_ipBroadcast_iff (h : Outcome packet kind error) : kind = .ipBroadcast ↔
    ¬IsUdp packet ∨ headerWords packet < 5 ∨ packet.length < 4 * headerWords packet ∨
      (data packet).length < 8 := by
  cases h with
  | plain h =>
    rw [← or_assoc]
    exact iff_of_true rfl (.inl h)
  | cut hudp hwords hcut => simp [hcut]
  | empty hudp hwords hheader hempty => simp [hempty]
  | part hudp hwords hheader hsome hshort =>
    have hshort : (data packet).length < 8 := Nat.lt_succ_of_le hshort
    simp [hshort]
  | ports hudp hwords hheader hlength hfits =>
    simp only [hfits.ne_ipBroadcast, false_iff, not_or, not_not, Nat.not_lt]
    exact ⟨hudp, hwords, hheader, hlength⟩

/-- The error of a plain record. Where nothing follows the header, there is none. -/
theorem error_of_ipBroadcast (h : Outcome packet kind error) (hkind : kind = .ipBroadcast) :
    (error ≠ none ↔ IsUdp packet ∧ 5 ≤ headerWords packet ∧
      (packet.length < 4 * headerWords packet ∨
        1 ≤ (data packet).length ∧ (data packet).length ≤ 7)) ∧
    ∀ e ∈ error,
      packet.length < 4 * headerWords packet ∧
        e = .truncated "ipv4" 0 (4 * headerWords packet) packet.length ∨
      4 * headerWords packet ≤ packet.length ∧ e = .truncated "udp" 0 8 (data packet).length := by
  -- Of the ways to stay a plain broadcast only the cut header and the ports in part are errors.
  cases h with
  | plain h =>
    refine ⟨?_, nofun⟩
    simp only [ne_eq, not_true_eq_false, false_iff]
    rintro ⟨hudp, hwords, -⟩
    -- Neither of the two conditions on the header holds together with the one for an error.
    rcases h with h | h
    · exact h hudp
    · omega
  | cut hudp hwords hcut =>
    refine ⟨iff_of_true nofun ⟨hudp, hwords, .inl hcut⟩, ?_⟩
    rintro e ⟨⟩
    exact .inl ⟨hcut, rfl⟩
  | empty hudp hwords hheader hempty =>
    refine ⟨?_, nofun⟩
    simp only [ne_eq, not_true_eq_false, false_iff]
    rintro ⟨-, -, h⟩
    -- An empty payload has none of the one to seven bytes that an error needs.
    omega
  | part hudp hwords hheader hsome hshort =>
    refine ⟨iff_of_true nofun ⟨hudp, hwords, .inr ⟨hsome, hshort⟩⟩, ?_⟩
    rintro e ⟨⟩
    exact .inr ⟨hheader, rfl⟩
  | ports hudp hwords hheader hlength hfits => exact absurd hkind hfits.ne_ipBroadcast

/-- Where the ports were read, they select the kind. -/
theorem fitsPorts (h : Outcome packet kind error) (hkind : kind ≠ .ipBroadcast) :
    kind.FitsPorts (numberAt (data packet) 0) (numberAt (data packet) 2) := by
  cases h with
  | ports hudp hwords hheader hlength hfits => exact hfits
  | _ => exact absurd rfl hkind

end Outcome

end IpPacket

open IpPacket

/-- A packet has no datagram to look for, or its header is cut, or the datagram is looked at. -/
theorem Ipv4Header.refine_cases (packet : Bytes) (source : Ipv4) (s : Sighting) :
    let h : Ipv4Header := ⟨headerWords packet, numberAt packet 2, packet.getD 9 0, source⟩
    (¬IsUdp packet ∨ headerWords packet < 5) ∧ (h.refine packet s).sighting = s ∧
      (h.refine packet s).error = none ∨
    IsUdp packet ∧ 5 ≤ headerWords packet ∧ packet.length < 4 * headerWords packet ∧
      (h.refine packet s).sighting = s ∧ (h.refine packet s).error =
        some (.truncated "ipv4" 0 (4 * headerWords packet) packet.length) ∨
    IsUdp packet ∧ 5 ≤ headerWords packet ∧ 4 * headerWords packet ≤ packet.length ∧
      h.refine packet s = inspectUdp (data packet) s := by
  intro h
  have hpayload : h.payload packet = data packet := payload_eq_data packet _ source
  have hlength : h.length = 4 * headerWords packet := Nat.mul_comm _ _
  unfold refine
  rw [hpayload, hlength, minLength]
  -- The questions are asked in the order of the decoder: the protocol, the header length, the bytes
  -- at hand.
  by_cases hudp : h.protocol = udp
  · rw [if_pos hudp]
    have hudp : IsUdp packet := hudp
    by_cases hwords : 4 * headerWords packet < 20
    · rw [if_pos hwords]
      exact .inl ⟨.inr (by omega), rfl, rfl⟩
    · rw [if_neg hwords]
      by_cases hcut : packet.length < 4 * headerWords packet
      · rw [if_pos hcut]
        exact .inr (.inl ⟨hudp, by omega, hcut, rfl, rfl⟩)
      · rw [if_neg hcut]
        exact .inr (.inr ⟨hudp, by omega, Nat.le_of_not_lt hcut, rfl⟩)
  · rw [if_neg hudp]
    exact .inl ⟨.inl hudp, rfl, rfl⟩

/-- What a header comes to, one case after another. -/
theorem Ipv4Header.refine_outcome (packet : Bytes) (source : Ipv4) {s : Sighting}
    (hs : s.kind = .ipBroadcast) :
    let h : Ipv4Header := ⟨headerWords packet, numberAt packet 2, packet.getD 9 0, source⟩
    Outcome packet (h.refine packet s).sighting.kind (h.refine packet s).error := by
  dsimp only
  rcases refine_cases packet source s with ⟨hplain, hsame, herror⟩ |
    ⟨hudp, hwords, hcut, hsame, herror⟩ | ⟨hudp, hwords, hheader, hrefine⟩
  · rw [hsame, herror, hs]
    exact .plain hplain
  · rw [hsame, herror, hs]
    exact .cut hudp hwords hcut
  · rw [hrefine]
    -- Without all ports the record stays as it is, and an error is told unless nothing follows the
    -- header.
    by_cases hshort : (data packet).length < 8
    · obtain ⟨hsame, herror⟩ := inspectUdp_of_short hshort s
      rw [hsame, herror, hs]
      split
      · rename_i hempty
        exact .empty hudp hwords hheader hempty
      · exact .part hudp hwords hheader (by omega) (by omega)
    · have hfits := inspectUdp_fitsPorts (Nat.le_of_not_lt hshort) s
      exact .ports hudp hwords hheader (Nat.le_of_not_lt hshort) hfits

/-- A packet with a header gives one record, of the kind that its bytes say. -/
theorem dissectIpv4_outcome (link : LinkFacts) {packet : Bytes} (hlength : 20 ≤ packet.length) :
    ∃ s, (dissectIpv4 link packet).sightings = [s] ∧
      Outcome packet s.kind (dissectIpv4 link packet).error := by
  obtain ⟨source, hread⟩ := Ipv4Header.ofBytes?_eq hlength
  have houtcome := Ipv4Header.refine_outcome packet source
    (s := .plain link.source source link.seen link.vlan .ipBroadcast) rfl
  rw [dissectIpv4, hread]
  exact ⟨_, rfl, houtcome⟩

/-! ### Frames -/

/-- The packet of a frame of type IPv4 goes to the decoder of such packets. -/
theorem exists_dissectIpv4 {policy : VlanPolicy} {frame : Bytes} (hlink : ¬LinkSilent policy frame)
    (htype : typeBytes frame = [0x08, 0x00]) (seen : Timestamp) :
    ∃ link, dissect policy seen frame = dissectIpv4 link (packetBytes frame) := by
  obtain ⟨p, hcarried, hbytes, -, hp⟩ := exists_carried hlink
  have hipv4 : p.etherType = EtherType.ipv4 := (hp 0x08 0x00).2 htype
  have harp : p.etherType ≠ EtherType.arp := by
    rw [hipv4]
    decide
  refine ⟨⟨p.source, p.vlan, seen⟩, ?_⟩
  rw [dissect_eq, hcarried, Carried.dissect, Packet.dissect, dissectPayload, if_neg harp,
    if_pos hipv4, hbytes]

/-- The record of a frame with an IPv4 header of twenty bytes is one of a plain broadcast if its
    packet is not one of UDP, if the header is said to be shorter than that, if it is longer than
    what was captured, or if fewer than eight bytes follow it. The error of such a record is that of
    a header or a datagram of which only a part is there. Otherwise the record is of DHCP, of a
    Channel Access search or of a pvAccess search if the ports are those of it, and of generic UDP
    if not. -/
theorem dissect_ipv4_kind {policy : VlanPolicy} {frame : Bytes} (seen : Timestamp)
    (hlink : ¬LinkSilent policy frame) (htype : typeBytes frame = [0x08, 0x00])
    (hlength : 20 ≤ (packetBytes frame).length) :
    let packet := packetBytes frame
    let header := 4 * headerWords packet
    let data := packet.extract header (min (max (numberAt packet 2) header) packet.length)
    let d := dissect policy seen frame
    ∃ s, d.sightings = [s] ∧
      (s.kind = .ipBroadcast ↔
        ¬IsUdp packet ∨ headerWords packet < 5 ∨ packet.length < header ∨ data.length < 8) ∧
      (s.kind = .ipBroadcast →
        (d.error ≠ none ↔ IsUdp packet ∧ 5 ≤ headerWords packet ∧
          (packet.length < header ∨ 1 ≤ data.length ∧ data.length ≤ 7)) ∧
        ∀ e ∈ d.error,
          packet.length < header ∧ e = .truncated "ipv4" 0 header packet.length ∨
          header ≤ packet.length ∧ e = .truncated "udp" 0 8 data.length) ∧
      (s.kind ≠ .ipBroadcast →
        ((∃ message, s.kind = .dhcp message) ↔ numberAt data 0 = 68 ∧ numberAt data 2 = 67) ∧
        (s.kind = .channelAccess ↔ numberAt data 2 = 5064) ∧
        (s.kind = .pvAccess ↔ numberAt data 2 = 5076) ∧
        (s.kind = .udp ↔ ¬(numberAt data 0 = 68 ∧ numberAt data 2 = 67) ∧
          numberAt data 2 ≠ 5064 ∧ numberAt data 2 ≠ 5076)) := by
  intro packet header data d
  obtain ⟨link, hd⟩ := exists_dissectIpv4 hlink htype seen
  obtain ⟨s, hs, houtcome⟩ := dissectIpv4_outcome link hlength
  rw [← hd] at hs houtcome
  exact ⟨s, hs, houtcome.kind_eq_ipBroadcast_iff, houtcome.error_of_ipBroadcast,
    fun hkind => (houtcome.fitsPorts hkind).iffs⟩

/-- The tagged search is for port 5064, and all of it is there. -/
theorem dissect_ipv4_kind_of_search :
    ¬LinkSilent {} searchFrame ∧ typeBytes searchFrame = [0x08, 0x00] ∧
      20 ≤ (packetBytes searchFrame).length ∧
      ∃ s, (dissect {} ⟨1, 2⟩ searchFrame).sightings = [s] ∧ s.kind = .channelAccess := by
  have hlink : ¬LinkSilent {} searchFrame := by decide
  have htype : typeBytes searchFrame = [0x08, 0x00] := by decide
  have hlength : 20 ≤ (packetBytes searchFrame).length := by decide
  obtain ⟨s, hs, hbroadcast, -, hports⟩ := dissect_ipv4_kind ⟨1, 2⟩ hlink htype hlength
  have hkind : s.kind ≠ .ipBroadcast := mt hbroadcast.1 (by decide)
  obtain ⟨-, hsearch, -⟩ := hports hkind
  exact ⟨hlink, htype, hlength, s, hs, hsearch.2 (by decide)⟩

end LanWatch
