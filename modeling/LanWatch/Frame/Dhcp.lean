import LanWatch.Frame.Scan
import LanWatch.Text.Utf8

namespace LanWatch.Dhcp

/-!
# DHCP

Messages from clients to servers, searched for two options: the client's host name and the type
of the message. A message is a fixed header, a magic cookie, and a list of options.

* `Item` — an option, or a pad byte between options;
* `Ending` — how a list of options ends;
* `Item.encode` — an item as it stands in a message;
* `items` — the options of a message, up to its end;
* `refine` — what options tell about the host;
* `scan` — both together, for the body of a datagram.
-/

/-! ### The layout of a message -/

/-- The length of the fixed header, which the cookie follows. -/
def headerLength : Nat := 236

/-- The four bytes that tell DHCP from its predecessor. -/
def magicCookie : Bytes := [0x63, 0x82, 0x53, 0x63]

/-- The option code of a pad byte. -/
def padCode : UInt8 := 0

/-- The option code of the host name. -/
def hostNameCode : UInt8 := 12

/-- The option code of the message type. -/
def messageTypeCode : UInt8 := 53

/-- The option code that ends the list. -/
def endCode : UInt8 := 255

/-- The longest host name that is kept, which is the limit for a domain name. -/
def maxHostName : Nat := 253

/-- One item of the option list. -/
inductive Item where
  | pad
  | option (code : UInt8) (value : Bytes)
  deriving DecidableEq

/-- How the option list of a message ends. -/
inductive Ending where
  /-- The message is over. -/
  | exhausted
  /-- An end marker, whatever follows. -/
  | marked
  /-- An option that is not all there. -/
  | cut (error : DecodeError)
  deriving DecidableEq

/-- The error of a list that ends in a cut option. -/
def Ending.error? : Ending → Option DecodeError
  | cut e => some e
  | _ => none

/-- An item as it stands in a message. A value has at most 255 bytes. -/
def Item.encode : Item → Bytes
  | pad => [padCode]
  | option code value => code :: UInt8.ofNat value.length :: value

/-! ### Reading options -/

/-- The next item, or none at the end marker. -/
def item (c : Cursor) : Except DecodeError (Option Item × Cursor) :=
  match c.u8 with
  | .error e => .error e
  | .ok (code, c) =>
    if code = padCode then .ok (some .pad, c)
    else if code = endCode then .ok (none, c)
    else match c.u8 with
      | .error e => .error e
      | .ok (length, c) =>
        match c.take length.toNat with
        | .error e => .error e
        | .ok (value, c) => .ok (some (.option code value), c)

/-- Reading an item moves on by at least a byte. -/
theorem remaining_of_item {c c' : Cursor} {i : Option Item} (h : item c = .ok (i, c')) :
    c'.remaining < c.remaining := by
  unfold item at h
  split at h
  · simp at h
  · rename_i code c₁ h₁
    have := Cursor.remaining_of_u8 h₁
    split at h
    · simp only [Except.ok.injEq, Prod.mk.injEq] at h
      obtain ⟨-, rfl⟩ := h
      omega
    · split at h
      · simp only [Except.ok.injEq, Prod.mk.injEq] at h
        obtain ⟨-, rfl⟩ := h
        omega
      · split at h
        · simp at h
        · rename_i length c₂ h₂
          have := Cursor.remaining_of_u8 h₂
          split at h
          · simp at h
          · rename_i value c₃ h₃
            have := Cursor.remaining_of_take h₃
            simp only [Except.ok.injEq, Prod.mk.injEq] at h
            obtain ⟨-, rfl⟩ := h
            omega

/-- The items up to the end of the list, and how it ends. -/
def items (c : Cursor) : List Item × Ending :=
  if c.atEnd then ([], .exhausted)
  else match h : item c with
    | .error e => ([], .cut e)
    | .ok (none, _) => ([], .marked)
    | .ok (some i, c') =>
      have : c'.remaining < c.remaining := remaining_of_item h
      let (is, ending) := items c'
      (i :: is, ending)
termination_by c.remaining

/-- At the end of the body there are no more options. -/
theorem items_of_atEnd {c : Cursor} (h : c.atEnd = true) : items c = ([], .exhausted) := by
  rw [items, if_pos h]

/-- A read that fails ends the options. -/
theorem items_of_error {c : Cursor} {e : DecodeError} (h : ¬ c.atEnd = true)
    (hitem : item c = .error e) : items c = ([], .cut e) := by
  rw [items, if_neg h]
  split <;> simp_all

/-- The mark of the end ends the options. -/
theorem items_of_marked {c c' : Cursor} (h : ¬ c.atEnd = true) (hitem : item c = .ok (none, c')) :
    items c = ([], .marked) := by
  rw [items, if_neg h]
  split <;> simp_all

/-- An option is followed by those behind it. -/
theorem items_of_item {c c' : Cursor} {i : Item} (h : ¬ c.atEnd = true)
    (hitem : item c = .ok (some i, c')) : items c = (i :: (items c').1, (items c').2) := by
  rw [items, if_neg h]
  split <;> simp_all

/-! ### What options tell -/

/-- The host name in an option value. Some clients end it with a NUL. -/
def hostName (value : Bytes) : String :=
  Text.decodeLossy value.untilNul

/-- Takes a message type option into a record, unless it is malformed. -/
def applyMessageType (value : Bytes) (s : Sighting) : Sighting × List Note :=
  match value with
  | [code] =>
    match DhcpMessage.ofCode? code with
    | some m => ({ s with kind := .dhcp (some m) }, [])
    | none => (s, [.messageTypeRange s.mac code])
  | _ => (s, [.messageTypeLength s.mac value.length])

/-- Takes items into a record, in order. A host name that is too long stops the scan. -/
def refine (ending : Ending) : List Item → Sighting → Scan
  | [], s => ⟨s, ending.error?, []⟩
  | .pad :: is, s => refine ending is s
  | .option code value :: is, s =>
    if code = hostNameCode then
      if maxHostName < value.length then
        ⟨s, some (.fieldTooLong "dhcp hostname" value.length maxHostName), []⟩
      else refine ending is { s with dhcpName := some (hostName value) }
    else if code = messageTypeCode then
      let (s, notes) := applyMessageType value s
      let scan := refine ending is s
      { scan with notes := notes ++ scan.notes }
    else refine ending is s

/-- Scans the body of a datagram. The record is of an undetermined DHCP kind until a valid message
    type is seen, so a scan that stops early leaves it so. -/
def scan (body : Bytes) (s : Sighting) : Scan :=
  let s := { s with kind := .dhcp none }
  match (Cursor.start "dhcp" body).skip headerLength with
  | .error e => ⟨s, some e, []⟩
  | .ok c =>
    match c.take magicCookie.length with
    | .error e => ⟨s, some e, []⟩
    | .ok (cookie, c) =>
      if cookie = magicCookie then
        let (is, ending) := items c
        refine ending is s
      else ⟨s, none, [.noCookie s.mac]⟩

end LanWatch.Dhcp
