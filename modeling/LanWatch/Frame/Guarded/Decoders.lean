import LanWatch.Frame.Ethernet
import LanWatch.Frame.Guarded

namespace LanWatch.Guarded

/-!
# Decoding under guard

The decoders of a frame and of its payloads, read by read and with every index, slice and difference
written out as an operation that can fault. The loops over options and messages are given a number
of rounds, and taking more of them is a fault too.

* `takeOption`, `scanOptions`, `scanDhcp` — DHCP;
* `name?`, `firstName`, `scanNetBios` — NetBIOS;
* `takeName`, `scanMessages`, `scanChannelAccess` — Channel Access;
* `inspectUdp`, `refine`, `dissectIpv4` — UDP and IPv4;
* `arpFixedPart`, `dissectArp` — ARP;
* `dissect` — a frame.
-/

/-- The bytes before the first one that ends a field, cut at a limit. -/
def field (ends : UInt8 → Bool) (limit : Nat) (bytes : Bytes) : Except Fault Bytes :=
  slice bytes 0 (min (bytes.findIdx ends) limit)

/-! ### DHCP -/

/-- The host name in an option value. -/
def hostName (value : Bytes) : Guarded String := do
  if Dhcp.maxHostName < value.length then
    throw (.fieldTooLong "dhcp hostname" value.length Dhcp.maxHostName)
  return Text.decodeLossy (← field (· == 0) value.length value)

/-- The value of an option, after its code. -/
def optionValue (r : Reader) : Guarded (Bytes × Reader) := do
  let (length, r) ← r.readU8
  r.readBytes length.toNat

/-- Takes an option into a record, and goes on with the options after it. -/
def takeOption (code : UInt8) (value : Bytes) (s : Sighting) (next : Sighting → Except Fault Scan) :
    Except Fault Scan := do
  if code = Dhcp.hostNameCode then
    orStop (hostName value) s fun name => next { s with dhcpName := some name }
  else if code = Dhcp.messageTypeCode then
    let (s, notes) := Dhcp.applyMessageType value s
    return (← next s).noted notes
  else next s

/-- Takes the options that lie ahead into a record. -/
def scanOptions (rounds : Nat) (r : Reader) (s : Sighting) : Except Fault Scan :=
  match rounds with
  | 0 => .error .endless
  | rounds + 1 => do
    if ← r.atEnd then return ⟨s, none, []⟩
    orStop r.readU8 s fun (code, r) =>
      if code = Dhcp.padCode then scanOptions rounds r s
      else if code = Dhcp.endCode then return ⟨s, none, []⟩
      else orStop (optionValue r) s fun (value, r) =>
        takeOption code value s fun s => scanOptions rounds r s

/-- The cookie of a message, after the fixed header. -/
def cookie (body : Bytes) : Guarded (Bytes × Reader) := do
  let r ← (Reader.start "dhcp" body).skip Dhcp.headerLength
  r.readBytes Dhcp.magicCookie.length

/-- Scans the body of a DHCP datagram. It takes at most one round for each byte, and one to see that
    there are no more. -/
def scanDhcp (body : Bytes) (s : Sighting) : Except Fault Scan :=
  let s := { s with kind := .dhcp none }
  orStop (cookie body) s fun (cookie, r) =>
    if cookie = Dhcp.magicCookie then scanOptions (body.length + 1) r s
    else return ⟨s, none, [.noCookie s.mac]⟩

/-! ### NetBIOS -/

/-- The half byte of a letter. -/
def nibble? (letter : UInt8) : Except Fault (Option Nat) := do
  if 0x41 ≤ letter.toNat ∧ letter.toNat ≤ 0x50 then return some (← sub letter.toNat 0x41)
  else return none

/-- Bytes in chunks of two. A byte that is left over belongs to none. -/
def chunks : Bytes → List Bytes
  | b₀ :: b₁ :: rest => [b₀, b₁] :: chunks rest
  | _ => []

/-- The bytes of chunks of two letters. -/
def decodeChunks : List Bytes → Except Fault (Option Bytes)
  | [] => return some []
  | pair :: rest => do
    match ← nibble? (← byteAt pair 0) with
    | none => return none
    | some high =>
      match ← nibble? (← byteAt pair 1) with
      | none => return none
      | some low => return (← decodeChunks rest).map (UInt8.ofNat (high * 16 + low) :: ·)

/-- The name in a label. -/
def name? (label : Bytes) : Except Fault (Option String) := do
  let encoded ← field NetBios.endsName NetBios.encodedLength label
  if encoded.length % 2 ≠ 0 then return none
  return (← decodeChunks (chunks encoded)).map NetBios.nameText

/-- The first name of a packet. -/
def firstName (body : Bytes) : Guarded NetBios.FirstName := do
  let r ← (Reader.start "netbios" body).skip 4
  let (questions, r) ← r.readU16
  let (answers, r) ← r.readU16
  let r ← r.skip (← sub NetBios.headerLength 8)
  if questions = 0 ∧ answers = 0 then
    return .absent
  let (length, r) ← r.readU8
  if NetBios.isPointer length then
    return .pointer
  let (label, _) ← r.readBytes length.toNat
  return .label label

/-- Scans the body of a NetBIOS datagram. -/
def scanNetBios (body : Bytes) (s : Sighting) : Except Fault Scan :=
  orStop (firstName body) s fun
    | .absent => return ⟨s, none, []⟩
    | .pointer => return ⟨s, none, [.namePointer s.mac]⟩
    | .label label => do return NetBios.apply (← name? label) s

/-! ### Channel Access -/

/-- Command and payload length of the next message. -/
def messageHeader (r : Reader) : Guarded (UInt16 × Nat × Reader) := do
  let (header, r) ← r.readBytes ChannelAccess.headerLength
  let command := be16 (← byteAt header 0) (← byteAt header 1)
  let length := be16 (← byteAt header 2) (← byteAt header 3)
  return (command, length.toNat, r)

/-- The name that a search asks for, after its header. -/
def searchedName (r : Reader) (length : Nat) : Guarded (String × Reader) := do
  let (payload, r) ← r.readBytes length
  return (Text.decodeLossy (← field (· == 0) ChannelAccess.maxName payload), r)

/-- Takes a name into a record, and goes on with the messages after it. -/
def takeName (name : String) (s : Sighting) (next : Sighting → Except Fault Scan) :
    Except Fault Scan := do
  if name = "" then next s
  else if s.hasRoom then next (s.addPvName name)
  else return (← next s).noted [.namesFull s.mac]

/-- Takes the messages that lie ahead into a record. -/
def scanMessages (rounds : Nat) (r : Reader) (s : Sighting) : Except Fault Scan :=
  match rounds with
  | 0 => .error .endless
  | rounds + 1 => do
    if ← r.atEnd then return ⟨s, none, []⟩
    orStop (messageHeader r) s fun (command, length, r) =>
      if command = ChannelAccess.versionCommand then
        orStop (r.skip length) s fun r => scanMessages rounds r s
      else if command = ChannelAccess.searchCommand then
        orStop (searchedName r length) s fun (name, r) =>
          takeName name s fun s => scanMessages rounds r s
      else return ⟨s, none, []⟩

/-- Scans the body of a Channel Access datagram. -/
def scanChannelAccess (body : Bytes) (s : Sighting) : Except Fault Scan :=
  scanMessages (body.length + 1) (Reader.start "epics-ca" body) s

/-! ### UDP and IPv4 -/

/-- Refines the record of a packet by its datagram. -/
def inspectUdp (datagram : Bytes) (s : Sighting) : Except Fault Scan := do
  if datagram = [] then return ⟨s, none, []⟩
  match UdpHeader.ofBytes? datagram with
  | none => return ⟨s, some (.truncated "udp" 0 UdpHeader.size datagram.length), []⟩
  | some ports =>
    let body ← sliceFrom datagram UdpHeader.size
    if ports.source = dhcpClientPort ∧ ports.destination = dhcpServerPort then
      scanDhcp body { s with kind := .udp }
    else if ports.destination = netBiosPort then
      scanNetBios body { s with kind := .udp }
    else if ports.destination = channelAccessPort then
      scanChannelAccess body { s with kind := .channelAccess }
    else if ports.destination = pvAccessPort then
      return ⟨{ s with kind := .pvAccess }, none, []⟩
    else return ⟨{ s with kind := .udp }, none, []⟩

/-- Refines the record of a packet whose header was read. -/
def refine (h : Ipv4Header) (packet : Bytes) (s : Sighting) : Except Fault Scan := do
  if h.protocol = Ipv4Header.udp then
    let length ← word (h.words * 4)
    if length < Ipv4Header.minLength then
      return ⟨s, none, [.headerLength length h.source]⟩
    else if packet.length < length then
      return ⟨s, some (.truncated "ipv4" 0 length packet.length), []⟩
    else
      let last ← clamp h.totalLength length packet.length
      inspectUdp (← slice packet length last) s
  else return ⟨s, none, []⟩

/-- The record of a packet. -/
def dissectIpv4 (link : LinkFacts) (packet : Bytes) : Except Fault Dissection := do
  match Ipv4Header.ofBytes? packet with
  | none => return .failed (.truncated "ipv4" 0 Ipv4Header.minLength packet.length)
  | some h =>
    return .ofScan
      (← refine h packet (.plain link.source h.source link.seen link.vlan .ipBroadcast))

/-! ### ARP -/

/-- The fixed part of a packet. -/
def arpFixedPart (payload : Bytes) : Guarded Arp.FixedPart := do
  let r := Reader.start "arp" payload
  let (hardwareType, r) ← r.readU16
  let (protocolType, r) ← r.readU16
  let (hardwareLength, r) ← r.readU8
  let (protocolLength, _) ← r.readU8
  return ⟨hardwareType, protocolType, hardwareLength, protocolLength⟩

/-- The records of a packet. -/
def dissectArp (link : LinkFacts) (payload : Bytes) : Except Fault Dissection := do
  match ← (arpFixedPart payload).run with
  | .error e => return .failed e
  | .ok fixed => return fixed.dissect link payload

/-! ### Frames -/

/-- The decoder that an ether-type selects. -/
def dissectPayload (etherType : UInt16) (link : LinkFacts) (payload : Bytes) :
    Except Fault Dissection :=
  if etherType = EtherType.arp then dissectArp link payload
  else if etherType = EtherType.ipv4 then dissectIpv4 link payload
  else return { sightings := [link.unknown] }

/-- The records of a frame that was received at a given time. -/
def dissect (policy : VlanPolicy) (seen : Timestamp) (frame : Bytes) : Except Fault Dissection := do
  match EthernetHeader.ofBytes? frame with
  | none => return .failed (.truncated "ethernet" 0 EthernetHeader.size frame.length)
  | some header =>
    if header.etherType = EtherType.vlan then
      if policy.ignoreTagged then return {}
      match VlanTag.ofBytes? (← sliceFrom frame EthernetHeader.size) with
      | none =>
        let available ← sub frame.length EthernetHeader.size
        return .failed (.truncated "802.1q" EthernetHeader.size VlanTag.size available)
      | some tag =>
        let offset ← word (EthernetHeader.size + VlanTag.size)
        dissectPayload tag.etherType ⟨header.source, some tag.vlan, seen⟩
          (← sliceFrom frame offset)
    else
      dissectPayload header.etherType ⟨header.source, policy.nativeVlan, seen⟩
        (← sliceFrom frame EthernetHeader.size)

end LanWatch.Guarded
