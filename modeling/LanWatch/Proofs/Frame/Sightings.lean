import LanWatch.Proofs.Frame.Telling
import LanWatch.Proofs.Truncation.Frames

namespace LanWatch

/-!
# The form of a record

A record passes through the decoders of several layers, each of which may change its kind and add
names before it fails or hands the record on. Whichever way that goes, the names of a record are
those of its kind, and what comes from the link layer is what the frame says.

* `Sighting.NamesFit` — the names of a record stand where they belong and have their form;
* `inspectUdp_namesFit` — that holds after every datagram;
* `Sighting.WellFormed` — a record of a frame with given link layer facts;
* `wellFormed_dissectPayload` — every decoder yields such records;
* `wellFormed_of_mem_dissect` — what holds of every record of every frame.
-/

/-! ### Names -/

/-- The names of a record stand only in a record of their kind, and have the form of such names. -/
structure Sighting.NamesFit (s : Sighting) : Prop where
  pvNames_length : s.pvNames.length ≤ 32
  pvNames_kind : s.pvNames ≠ [] → s.kind = .channelAccess
  pvNames_form : ∀ name ∈ s.pvNames,
    name ≠ "" ∧ '\x00' ∉ name.toList ∧ name.length ≤ 255
  dhcpName_kind : s.dhcpName.isSome → ∃ message, s.kind = .dhcp message
  dhcpName_form : ∀ name ∈ s.dhcpName, '\x00' ∉ name.toList ∧ name.length ≤ 253
  netbiosName_kind : s.netbiosName.isSome → s.kind = .udp
  netbiosName_form : ∀ name ∈ s.netbiosName,
    name ≠ "" ∧ name.length ≤ 15 ∧ ∀ c ∈ name.toList.getLast?, c ≠ ' ' ∧ c ≠ '\x00'

/-- A record has no names. -/
structure Sighting.Nameless (s : Sighting) : Prop where
  pvNames : s.pvNames = []
  dhcpName : s.dhcpName = none
  netbiosName : s.netbiosName = none

namespace Sighting

variable {s t : Sighting}

theorem nameless_plain (mac : MacAddr) (ip : Ipv4) (seen : Timestamp) (vlan : Option UInt16)
    (kind : Kind) : (plain mac ip seen vlan kind).Nameless :=
  ⟨rfl, rfl, rfl⟩

/-- A record that nothing was added to has no names. -/
theorem Bare.nameless (h : s.Bare) : s.Nameless :=
  ⟨h.pvNames, h.dhcpName, h.netbiosName⟩

/-- The kind of a record is not one of its names. -/
theorem Nameless.withKind (h : s.Nameless) (kind : Kind) : ({ s with kind } : Sighting).Nameless :=
  ⟨h.pvNames, h.dhcpName, h.netbiosName⟩

/-- Without names nothing can be in the wrong place. -/
theorem Nameless.namesFit (h : s.Nameless) : s.NamesFit where
  pvNames_length := by
    rw [h.pvNames]
    -- Without names there is nothing to fit.
    exact Nat.zero_le _
  pvNames_kind hne := absurd h.pvNames hne
  pvNames_form name hname := by
    rw [h.pvNames] at hname
    cases hname
  dhcpName_kind hsome := by
    rw [h.dhcpName] at hsome
    cases hsome
  dhcpName_form name hname := by
    rw [h.dhcpName] at hname
    cases hname
  netbiosName_kind hsome := by
    rw [h.netbiosName] at hsome
    cases hsome
  netbiosName_form name hname := by
    rw [h.netbiosName] at hname
    cases hname

end Sighting

/-- Options add at most a host name, and only beside a kind of DHCP. -/
theorem Dhcp.Tells.namesFit {s t : Sighting} (h : Tells s t) (hs : s.Nameless) : t.NamesFit := by
  obtain ⟨message, hrest⟩ := h.rest
  have hplain : ({ s with kind := .dhcp message } : Sighting).NamesFit :=
    (hs.withKind _).namesFit
  rw [hrest]
  refine { hplain with dhcpName_kind := fun _ => ⟨message, rfl⟩, dhcpName_form := ?_ }
  intro name hname
  rcases h.dhcpName with hsame | ⟨value, hlength, hvalue⟩
  · rw [hsame, hs.dhcpName] at hname
    cases hname
  · rw [hvalue] at hname
    obtain rfl := Option.some.inj hname
    obtain ⟨hnul, hle⟩ := hostName_form value
    exact ⟨hnul, Nat.le_trans hle hlength⟩

/-- Searches add at most the names that a record has room for. -/
theorem ChannelAccess.Tells.namesFit {s t : Sighting} (h : Tells s t) (hs : s.Nameless)
    (hkind : s.kind = .channelAccess) : t.NamesFit := by
  have hplain := hs.namesFit
  have hroom := h.room (by
    rw [hs.pvNames]
    exact Nat.zero_le _)
  rw [h.rest]
  refine { hplain with
    pvNames_length := hroom, pvNames_kind := fun _ => hkind, pvNames_form := ?_ }
  intro n hn
  rcases h.pvNames n hn with hold | ⟨payload, rfl, hne⟩
  · rw [hs.pvNames] at hold
    cases hold
  · exact ⟨hne, name_form payload⟩

/-- A name query adds at most one name, and keeps the kind of a datagram. -/
theorem NetBios.namesFit_scan (body : Bytes) {s : Sighting} (hs : s.Nameless)
    (hkind : s.kind = .udp) : (scan body s).sighting.NamesFit := by
  have hplain := hs.namesFit
  rcases scan_cases body s with hsame | ⟨label, name, hlabel, hne, hnamed⟩
  · rw [hsame]
    exact hplain
  · obtain ⟨hlength, hend⟩ := name?_form hlabel
    rw [hnamed]
    refine { hplain with netbiosName_kind := fun _ => hkind, netbiosName_form := ?_ }
    intro n hn
    obtain rfl := Option.some.inj hn
    refine ⟨hne, hlength, fun c hc => ?_⟩
    have hpadding := hend c hc
    -- What is no padding is neither of the two padding characters.
    constructor
    · rintro rfl
      cases hpadding
    · rintro rfl
      cases hpadding

/-! ### Datagrams -/

/-- Whatever a datagram tells, the names of the record fit its kind. The kind is one of a payload
    that says something. -/
theorem inspectUdp_namesFit (datagram : Bytes) {s : Sighting} (hs : s.Bare) :
    (inspectUdp datagram s).sighting.NamesFit ∧
      (inspectUdp datagram s).sighting.kind ≠ .unknown := by
  have hnameless := hs.nameless
  have hbroadcast : s.NamesFit ∧ s.kind ≠ .unknown := by
    refine ⟨hnameless.namesFit, ?_⟩
    rw [hs.kind]
    exact Kind.noConfusion
  unfold inspectUdp
  split
  · exact hbroadcast
  · split
    · exact hbroadcast
    · simp only
      -- One case for each protocol that the ports may select.
      split
      · have htells := Dhcp.tells_scan (datagram.drop UdpHeader.size) { s with kind := .udp }
        obtain ⟨message, hkind⟩ := htells.kind
        refine ⟨htells.namesFit (hnameless.withKind _), ?_⟩
        rw [hkind]
        exact Kind.noConfusion
      · split
        · refine ⟨NetBios.namesFit_scan _ (hnameless.withKind _) rfl, ?_⟩
          rw [NetBios.kind_scan]
          exact Kind.noConfusion
        · split
          · have htells :=
              ChannelAccess.tells_scan (datagram.drop UdpHeader.size) { s with kind := .channelAccess }
            refine ⟨htells.namesFit (hnameless.withKind _) rfl, ?_⟩
            rw [htells.rest]
            exact Kind.noConfusion
          · split
            · exact ⟨(hnameless.withKind _).namesFit, Kind.noConfusion⟩
            · exact ⟨(hnameless.withKind _).namesFit, Kind.noConfusion⟩

/-! ### Packets -/

/-- A record of a frame with given link layer facts. -/
structure Sighting.WellFormed (link : LinkFacts) (s : Sighting) : Prop where
  names : s.NamesFit
  seen : s.seen = link.seen
  vlan : s.vlan = link.vlan
  /-- Only ARP tells of hosts other than the sender of the frame. -/
  mac : (∀ role, s.kind ≠ .arp role) → s.mac = link.source
  ip : s.kind = .unknown → s.ip = .unspecified

namespace Sighting

variable {link : LinkFacts}

/-- The record of an unknown payload is plain. -/
theorem wellFormed_unknown (link : LinkFacts) : link.unknown.WellFormed link where
  names := (nameless_plain _ _ _ _ _).namesFit
  seen := rfl
  vlan := rfl
  mac _ := rfl
  ip _ := rfl

/-- A record of a host that is named by ARP. -/
theorem wellFormed_arp (link : LinkFacts) (mac : MacAddr) (ip : Ipv4) (role : ArpRole) :
    (plain mac ip link.seen link.vlan (.arp role)).WellFormed link where
  names := (nameless_plain _ _ _ _ _).namesFit
  seen := rfl
  vlan := rfl
  mac h := absurd rfl (h role)
  ip h := Kind.noConfusion h

/-- What is found out about a record of the sender leaves the sender as it was. -/
theorem Blurs.wellFormed {s t : Sighting} (hblurs : s.Blurs t) (hseen : s.seen = link.seen)
    (hvlan : s.vlan = link.vlan) (hmac : s.mac = link.source) (hnames : t.NamesFit)
    (hkind : t.kind ≠ .unknown) : t.WellFormed link where
  names := hnames
  seen := hblurs.seen ▸ hseen
  vlan := hblurs.vlan ▸ hvlan
  mac _ := hblurs.mac ▸ hmac
  ip h := absurd h hkind

end Sighting

/-- What the layers above the link layer add fits the kind that they give. -/
theorem Ipv4Header.wellFormed_refine (h : Ipv4Header) (packet : Bytes) {link : LinkFacts}
    {s : Sighting} (hs : s.Bare) (hseen : s.seen = link.seen) (hvlan : s.vlan = link.vlan)
    (hmac : s.mac = link.source) : (h.refine packet s).sighting.WellFormed link := by
  -- A record that nothing refined is well formed as it stands.
  have hbroadcast : s.WellFormed link := by
    refine (Sighting.Blurs.refl s).wellFormed hseen hvlan hmac hs.nameless.namesFit ?_
    rw [hs.kind]
    exact Kind.noConfusion
  unfold refine
  split
  · split
    · exact hbroadcast
    · split
      · exact hbroadcast
      · -- The ports refine the record only if the header and they are there.
        obtain ⟨hnames, hkind⟩ := inspectUdp_namesFit (h.payload packet) hs
        exact (blurs_inspectUdp _ hs).wellFormed hseen hvlan hmac hnames hkind
  · exact hbroadcast

/-- The only record of a packet, if its header is there. -/
theorem wellFormed_dissectIpv4 (link : LinkFacts) (packet : Bytes) :
    ∀ s ∈ (dissectIpv4 link packet).sightings, s.WellFormed link := by
  intro s hs
  unfold dissectIpv4 at hs
  split at hs
  · cases hs
  · rename_i h _
    obtain rfl := List.mem_singleton.1 hs
    exact h.wellFormed_refine packet ⟨rfl, rfl, rfl, rfl⟩ rfl rfl rfl

/-- A body gives plain records, each of them of a role in ARP. -/
theorem Arp.Body.wellFormed_sightings (b : Body) (link : LinkFacts) :
    ∀ s ∈ b.sightings link, s.WellFormed link := by
  intro s hs
  have hsender : ∀ role, (b.sender link role).WellFormed link :=
    Sighting.wellFormed_arp link b.senderMac b.senderIp
  unfold sightings at hs
  -- One case for each class of a request or a reply.
  split at hs
  · split at hs
    · obtain rfl := List.mem_singleton.1 hs
      exact hsender .probe
    · obtain rfl := List.mem_singleton.1 hs
      exact hsender .gratuitous
    · split at hs
      · rcases List.mem_cons.1 hs with rfl | hs
        · exact hsender .source
        · obtain rfl := List.mem_singleton.1 hs
          exact Sighting.wellFormed_arp link b.targetMac b.targetIp .destination
      · obtain rfl := List.mem_singleton.1 hs
        exact hsender .source
  · cases hs

/-- A foreign packet gives an unknown record, and every other one those of its body. -/
theorem Arp.wellFormed_dissect (link : LinkFacts) (payload : Bytes) :
    ∀ s ∈ (dissect link payload).sightings, s.WellFormed link := by
  intro s hs
  unfold dissect FixedPart.dissect at hs
  split at hs
  · cases hs
  · split at hs
    · split at hs
      · cases hs
      · rename_i body _
        exact body.wellFormed_sightings link s hs
    · obtain rfl := List.mem_singleton.1 hs
      exact Sighting.wellFormed_unknown link

theorem wellFormed_dissectPayload (etherType : UInt16) (link : LinkFacts) (payload : Bytes) :
    ∀ s ∈ (dissectPayload etherType link payload).sightings, s.WellFormed link := by
  -- One case for each decoder.
  unfold dissectPayload
  split
  · exact Arp.wellFormed_dissect link payload
  · split
    · exact wellFormed_dissectIpv4 link payload
    · intro s hs
      obtain rfl := List.mem_singleton.1 hs
      exact Sighting.wellFormed_unknown link

/-! ### Frames -/

/-- The VLAN of a tag is the low twelve bits of its control field. -/
theorem VlanTag.vlan_eq_and (t : VlanTag) : t.vlan = t.control &&& 0x0fff := by
  apply UInt16.toNat_inj.1
  rw [UInt16.toNat_and, show (0x0fff : UInt16).toNat = 2 ^ 12 - 1 from rfl,
    Nat.and_two_pow_sub_one_eq_mod, VlanTag.vlan, UInt16.toNat_ofNat']
  have hlt := t.control.toNat_lt
  omega

/-- Every record of every frame has the time of the frame. It has the VLAN of the tag if the frame
    is tagged, and the native VLAN otherwise. Its names fit its kind. A record of unknown kind has
    no address, and every record that ARP does not tell of is one of the sender of the frame. -/
theorem wellFormed_of_mem_dissect (policy : VlanPolicy) (seen : Timestamp) (frame : Bytes) :
    ∀ s ∈ (dissect policy seen frame).sightings,
      ∃ header, EthernetHeader.ofBytes? frame = some header ∧
        s.seen = seen ∧
        (header.etherType = EtherType.vlan →
          ∃ tag, VlanTag.ofBytes? (frame.drop EthernetHeader.size) = some tag ∧
            s.vlan = some (tag.control &&& 0x0fff)) ∧
        (header.etherType ≠ EtherType.vlan → s.vlan = policy.nativeVlan) ∧
        s.NamesFit ∧
        (s.kind = .unknown → s.ip = .unspecified) ∧
        ((∀ role, s.kind ≠ .arp role) → s.mac = header.source) := by
  intro s hs
  unfold dissect at hs
  split at hs
  · cases hs
  · rename_i header hheader
    refine ⟨header, hheader, ?_⟩
    -- The VLAN comes from the tag if there is one, and is the native one otherwise.
    simp only at hs
    split at hs
    case isTrue htagged =>
      split at hs
      · cases hs
      · split at hs
        · cases hs
        · rename_i tag htag
          have hwell := wellFormed_dissectPayload _ _ _ s hs
          refine ⟨hwell.seen, fun _ => ⟨tag, htag, ?_⟩, fun hne => absurd htagged hne,
            hwell.names, hwell.ip, hwell.mac⟩
          rw [hwell.vlan, ← tag.vlan_eq_and]
    case isFalse huntagged =>
      have hwell := wellFormed_dissectPayload _ _ _ s hs
      exact ⟨hwell.seen, fun htagged => absurd htagged huntagged, fun _ => hwell.vlan,
        hwell.names, hwell.ip, hwell.mac⟩

/-- A frame with a tag of VLAN 5 and priority 7, in which the host `10.0.0.7` searches for a process
    variable. The last byte of its name is no UTF-8, and the name is padded. -/
def searchFrame : Bytes :=
  [0xff, 0xff, 0xff, 0xff, 0xff, 0xff, 0x02, 0x00, 0x00, 0x00, 0x00, 0x01, 0x81, 0x00, 0xe0, 0x05,
    0x08, 0x00, 0x45, 0x00, 0x00, 0x34, 0x00, 0x00, 0x00, 0x00, 0x40, 0x11, 0x00, 0x00,
    0x0a, 0x00, 0x00, 0x07, 0xff, 0xff, 0xff, 0xff, 0x80, 0x00, 0x13, 0xc8, 0x00, 0x20, 0x00, 0x00,
    0x00, 0x06, 0x00, 0x08, 0x00, 0x00, 0x00, 0x00, 0x00, 0x00, 0x00, 0x00, 0x00, 0x00, 0x00, 0x00,
    0x58, 0x46, 0x3a, 0xff, 0x00, 0x00, 0x00, 0x00]

/-- The record of that frame. -/
def searchSighting : Sighting :=
  { mac := ⟨2, 0, 0, 0, 0, 1⟩, ip := ⟨10, 0, 0, 7⟩, seen := ⟨1, 2⟩, vlan := some 5,
    kind := .channelAccess, dhcpName := none, netbiosName := none, pvNames := ["XF:\ufffd"] }

/-- A tagged search: its record comes of the frame, with names that fit its kind and the VLAN of its
    tag. -/
theorem wellFormed_of_tagged_search :
    searchSighting ∈ (dissect { nativeVlan := some 1 } ⟨1, 2⟩ searchFrame).sightings ∧
      searchSighting.NamesFit ∧
      ∃ header, EthernetHeader.ofBytes? searchFrame = some header ∧
        header.etherType = EtherType.vlan ∧ searchSighting.mac = header.source ∧
        ∃ tag, VlanTag.ofBytes? (searchFrame.drop EthernetHeader.size) = some tag ∧
          searchSighting.vlan = some (tag.control &&& 0x0fff) := by
  have hmem : searchSighting ∈
      (dissect { nativeVlan := some 1 } ⟨1, 2⟩ searchFrame).sightings := by
    decide +kernel
  obtain ⟨header, hheader, -, htagged, -, hnames, -, hmac⟩ :=
    wellFormed_of_mem_dissect { nativeVlan := some 1 } ⟨1, 2⟩ searchFrame searchSighting hmem
  obtain rfl := Option.some.inj hheader
  exact ⟨hmem, hnames, _, rfl, rfl, hmac nofun, htagged rfl⟩

end LanWatch
