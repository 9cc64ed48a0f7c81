import LanWatch.Proofs.Truncation.Payloads

namespace LanWatch.Dhcp

/-!
# Messages of DHCP and what they tell

Every body that begins like a message of DHCP is one, and in one way only: a list of items, and then
nothing, an end marker, or an option that is cut short. What a message tells of a host can be read
off its items. Later ones overrule earlier ones, up to a host name that is too long to be kept.

* `Item.Fits`, `Tail`, `Message`, `Message.encode` — messages, and their bytes;
* `item_encode`, `items_encode` — what was written is read;
* `item_cases`, `exists_items` — what is read was written;
* `existsUnique_message` — which bodies are messages;
* `counted`, `lastMessage?`, `lastHostName?`, `Message.error?` — what a message tells;
* `refine_sighting`, `refine_error` — how items are taken into a record;
* `scan_encode` — the scan of a message.
-/

/-! ### Messages -/

/-- An option has a code that is neither a pad nor the end marker, and a value whose length fits in
    a byte. -/
def Item.Fits : Item → Prop
  | pad => True
  | option code value => code ≠ padCode ∧ code ≠ endCode ∧ value.length ≤ 255

/-- What follows the items of a message. -/
inductive Tail where
  | nothing
  /-- The end marker, whatever follows it. -/
  | marked (after : Bytes)
  /-- The beginning of an option that is cut short. -/
  | begun (part : Bytes)
  deriving DecidableEq

namespace Tail

/-- The bytes of a tail. -/
def bytes : Tail → Bytes
  | nothing => []
  | marked after => endCode :: after
  | begun part => part

/-- What is begun is an option, and it is neither missing nor all there. -/
def Fits : Tail → Prop
  | begun part => part ≠ [] ∧ ∃ code value, (Item.option code value).Fits ∧
      part <+: (Item.option code value).encode ∧ part ≠ (Item.option code value).encode
  | _ => True

/-- The error of reading an option that is cut short at a given offset: its length is missing, or
    some of its value. -/
def error? (offset : Nat) : Tail → Option DecodeError
  | begun [_] => some (.truncated "dhcp" (offset + 1) 1 0)
  | begun (_ :: length :: value) =>
    some (.truncated "dhcp" (offset + 2) length.toNat value.length)
  | _ => none

end Tail

/-- A message of DHCP. -/
structure Message where
  header : Bytes
  items : List Item
  tail : Tail
  header_length : header.length = headerLength
  items_fit : ∀ i ∈ items, i.Fits
  tail_fits : tail.Fits

/-- A message as it stands in a datagram. -/
def Message.encode (m : Message) : Bytes :=
  m.header ++ (magicCookie ++ (m.items.flatMap Item.encode ++ m.tail.bytes))

/-- An option that is cut short is cut before its length, or within its value. -/
theorem Tail.fits_begun_iff (part : Bytes) :
    (begun part).Fits ↔ ∃ code, code ≠ padCode ∧ code ≠ endCode ∧
      (part = [code] ∨ ∃ length value, part = code :: length :: value ∧
        value.length < length.toNat) := by
  constructor
  · rintro ⟨hne, code, value, ⟨hpad, hend, hlength⟩, hprefix, hcut⟩
    have htoNat : (UInt8.ofNat value.length).toNat = value.length :=
      UInt8.toNat_ofNat_of_lt' (Nat.lt_succ_of_le hlength)
    match part, hne, hprefix, hcut with
    | [c], _, hprefix, _ =>
      obtain ⟨rfl, -⟩ := List.cons_prefix_cons.1 hprefix
      exact ⟨c, hpad, hend, .inl rfl⟩
    | c :: length :: more, _, hprefix, hcut =>
      obtain ⟨hcode, hrest⟩ := List.cons_prefix_cons.1 hprefix
      obtain ⟨hlengthByte, hmore⟩ := List.cons_prefix_cons.1 hrest
      refine ⟨c, hcode ▸ hpad, hcode ▸ hend, .inr ⟨length, more, rfl, ?_⟩⟩
      -- As long as the value, what is there of it would be all of it.
      rw [hlengthByte, htoNat]
      refine Nat.lt_of_le_of_ne hmore.length_le fun hsame => hcut ?_
      rw [hcode, hlengthByte, hmore.eq_of_length hsame]
      rfl
  · rintro ⟨code, hpad, hend, rfl | ⟨length, value, rfl, hshort⟩⟩
    · exact ⟨List.cons_ne_nil _ _, code, [], ⟨hpad, hend, by decide⟩, ⟨[0], rfl⟩,
        fun h => by cases h⟩
    · -- Filled up with zeros, the value is one that the option may have had.
      have hlt := length.toNat_lt
      have hpadded : (value ++ List.replicate (length.toNat - value.length) 0).length =
          length.toNat := by
        rw [List.length_append, List.length_replicate]
        omega
      have hencode : (Item.option code
          (value ++ List.replicate (length.toNat - value.length) 0)).encode =
            code :: length :: (value ++ List.replicate (length.toNat - value.length) 0) := by
        rw [Item.encode, hpadded, UInt8.ofNat_toNat]
      refine ⟨List.cons_ne_nil _ _, code, value ++ List.replicate (length.toNat - value.length) 0,
        ⟨hpad, hend, by omega⟩, ?_, ?_⟩
      · rw [hencode]
        exact ⟨_, rfl⟩
      · rw [hencode]
        intro h
        have hsame := congrArg List.length h
        simp only [List.length_cons, hpadded] at hsame
        omega

/-! ### Reading what was written -/

/-- An option that was written is read, and the bytes behind it are left. -/
theorem item_encode {i : Item} (h : i.Fits) (layer : String) (offset : Nat) (rest : Bytes) :
    item ⟨layer, offset, i.encode ++ rest⟩ =
      .ok (some i, ⟨layer, offset + i.encode.length, rest⟩) := by
  cases i with
  | pad => rfl
  | option code value =>
    obtain ⟨hpad, hend, hlength⟩ := h
    have htoNat : (UInt8.ofNat value.length).toNat = value.length :=
      UInt8.toNat_ofNat_of_lt' (Nat.lt_succ_of_le hlength)
    have hread := Cursor.take_append layer (offset + 1 + 1) value rest rfl
    have hend' : offset + (value.length + 1 + 1) = offset + 1 + 1 + value.length := by omega
    simp only [item, Item.encode, List.cons_append, Cursor.u8, Cursor.advance, List.drop,
      if_neg hpad, if_neg hend, htoNat, hread, List.length_cons, hend']

/-- What is left after the items is no item, and tells why. -/
theorem items_tail {tail : Tail} (h : tail.Fits) (offset : Nat) :
    (items ⟨"dhcp", offset, tail.bytes⟩).1 = [] ∧
      (items ⟨"dhcp", offset, tail.bytes⟩).2.error? = tail.error? offset := by
  cases tail with
  | nothing =>
    rw [items_of_atEnd rfl]
    exact ⟨rfl, rfl⟩
  | marked after =>
    have hitem : item ⟨"dhcp", offset, endCode :: after⟩ =
        .ok (none, ⟨"dhcp", offset + 1, after⟩) :=
      rfl
    rw [Tail.bytes, items_of_marked (Cursor.not_atEnd_cons _ _ _ _) hitem]
    exact ⟨rfl, rfl⟩
  | begun part =>
    -- Reading stops at the length if that is missing, and otherwise within the value.
    obtain ⟨code, hpad, hend, rfl | ⟨length, value, rfl, hshort⟩⟩ := (Tail.fits_begun_iff part).1 h
    · have hitem : item ⟨"dhcp", offset, [code]⟩ =
          .error (.truncated "dhcp" (offset + 1) 1 0) := by
        simp only [item, Cursor.u8, Cursor.advance, if_neg hpad, if_neg hend, List.drop]
        rfl
      rw [Tail.bytes, items_of_error (Cursor.not_atEnd_cons _ _ _ _) hitem]
      exact ⟨rfl, rfl⟩
    · have htake : (⟨"dhcp", offset + 1 + 1, value⟩ : Cursor).take length.toNat =
          .error (.truncated "dhcp" (offset + 2) length.toNat value.length) :=
        Cursor.take_eq_error_iff.2 ⟨hshort, rfl⟩
      have hitem : item ⟨"dhcp", offset, code :: length :: value⟩ =
          .error (.truncated "dhcp" (offset + 2) length.toNat value.length) := by
        simp only [item, Cursor.u8, Cursor.advance, if_neg hpad, if_neg hend, List.drop, htake]
      rw [Tail.bytes, items_of_error (Cursor.not_atEnd_cons _ _ _ _) hitem]
      exact ⟨rfl, rfl⟩

theorem items_encode {is : List Item} (his : ∀ i ∈ is, i.Fits) {tail : Tail} (htail : tail.Fits)
    (offset : Nat) :
    (items ⟨"dhcp", offset, is.flatMap Item.encode ++ tail.bytes⟩).1 = is ∧
      (items ⟨"dhcp", offset, is.flatMap Item.encode ++ tail.bytes⟩).2.error? =
        tail.error? (offset + (is.flatMap Item.encode).length) := by
  -- By induction on the items: each is read, and leaves the others ahead.
  induction is generalizing offset with
  | nil => exact items_tail htail offset
  | cons i is ih =>
    rw [List.forall_mem_cons] at his
    obtain ⟨hitems, herror⟩ := ih his.2 (offset + i.encode.length)
    have hmore : ¬(⟨"dhcp", offset,
        i.encode ++ (is.flatMap Item.encode ++ tail.bytes)⟩ : Cursor).atEnd = true := by
      cases i <;> exact Cursor.not_atEnd_cons _ _ _ _
    rw [List.flatMap_cons, List.append_assoc, items_of_item hmore (item_encode his.1 _ _ _), hitems,
      herror, List.length_append, Nat.add_assoc]
    exact ⟨rfl, rfl⟩

/-! ### Writing what was read -/

/-- What is read is an item, the end marker, or the beginning of an option. -/
theorem item_cases {c : Cursor} (hmore : ¬c.atEnd = true) :
    (∃ i c', i.Fits ∧ c.rest = i.encode ++ c'.rest ∧ item c = .ok (some i, c')) ∨
    (∃ c', c.rest = endCode :: c'.rest ∧ item c = .ok (none, c')) ∨
    ∃ e, (Tail.begun c.rest).Fits ∧ item c = .error e := by
  obtain ⟨layer, offset, rest⟩ := c
  -- The three cases follow the first byte: a pad, the end mark, or the code of an option.
  cases rest with
  | nil => exact absurd rfl hmore
  | cons code rest =>
    by_cases hpad : code = padCode
    · subst hpad
      exact .inl ⟨.pad, _, trivial, rfl, rfl⟩
    by_cases hend : code = endCode
    · subst hend
      exact .inr (.inl ⟨_, rfl, rfl⟩)
    have hbegun := Tail.fits_begun_iff (code :: rest)
    -- An option needs a length byte and that many bytes of value.
    simp only [item, Cursor.u8, Cursor.advance, List.drop, if_neg hpad, if_neg hend]
    cases rest with
    | nil => exact .inr (.inr ⟨_, hbegun.2 ⟨code, hpad, hend, .inl rfl⟩, rfl⟩)
    | cons length rest =>
      have hlt := length.toNat_lt
      simp only [List.drop]
      by_cases hvalue : length.toNat ≤ rest.length
      · -- The value is all there, so its length is the one that it was announced with.
        have htake : (rest.take length.toNat).length = length.toNat := List.length_take_of_le hvalue
        have hread : (⟨layer, offset + 1 + 1, rest⟩ : Cursor).take length.toNat =
            .ok (rest.take length.toNat, ⟨layer, offset + 1 + 1 + length.toNat,
              rest.drop length.toNat⟩) :=
          Cursor.take_eq_ok_iff.2 ⟨hvalue, rfl, rfl⟩
        rw [hread]
        refine .inl ⟨.option code (rest.take length.toNat), _, ⟨hpad, hend, by omega⟩, ?_, rfl⟩
        rw [Item.encode, htake, UInt8.ofNat_toNat, List.cons_append, List.cons_append,
          List.take_append_drop]
      · -- The value is cut off, so the tail is an option that has begun.
        have hcut : (⟨layer, offset + 1 + 1, rest⟩ : Cursor).take length.toNat = .error _ :=
          Cursor.take_eq_error_iff.2 ⟨Nat.lt_of_not_le hvalue, rfl⟩
        rw [hcut]
        exact .inr (.inr ⟨_, hbegun.2 ⟨code, hpad, hend, .inr ⟨length, rest, rfl,
          Nat.lt_of_not_le hvalue⟩⟩, rfl⟩)

/-- By the recursion over the items: whatever bytes follow the cookie, they are items and a tail. -/
theorem exists_items (c : Cursor) : ∃ (is : List Item) (tail : Tail),
    (∀ i ∈ is, i.Fits) ∧ tail.Fits ∧ c.rest = is.flatMap Item.encode ++ tail.bytes := by
  -- Induction on the scan; in each case the other outcomes of the item contradict the one it had.
  induction c using items.induct with
  | case1 c hend =>
    exact ⟨[], .nothing, List.forall_mem_nil _, trivial, List.isEmpty_iff.1 hend⟩
  | case2 c hmore e hitem =>
    rcases item_cases hmore with ⟨i, c', -, -, h⟩ | ⟨c', -, h⟩ | ⟨e, hfits, -⟩
    · rw [hitem] at h
      cases h
    · rw [hitem] at h
      cases h
    · exact ⟨[], .begun c.rest, List.forall_mem_nil _, hfits, rfl⟩
  | case3 c hmore c' hitem =>
    rcases item_cases hmore with ⟨i, c', -, -, h⟩ | ⟨c', hrest, -⟩ | ⟨e, -, h⟩
    · rw [hitem] at h
      cases h
    · exact ⟨[], .marked c'.rest, List.forall_mem_nil _, trivial, hrest⟩
    · rw [hitem] at h
      cases h
  | case4 c hmore i c' hitem hless is' ending hitems ih =>
    rcases item_cases hmore with ⟨j, d, hfits, hrest, h⟩ | ⟨c', -, h⟩ | ⟨e, -, h⟩
    · rw [hitem] at h
      simp only [Except.ok.injEq, Prod.mk.injEq, Option.some.injEq] at h
      obtain ⟨rfl, rfl⟩ := h
      obtain ⟨is, tail, his, htail, hbytes⟩ := ih
      refine ⟨i :: is, tail, List.forall_mem_cons.2 ⟨hfits, his⟩, htail, ?_⟩
      rw [hrest, hbytes, List.flatMap_cons, List.append_assoc]
    · rw [hitem] at h
      cases h
    · rw [hitem] at h
      cases h

/-! ### Which bodies are messages -/

/-- A tail is known by its bytes: what is begun does not begin with the end marker. -/
theorem Tail.eq_of_bytes_eq {t u : Tail} (ht : t.Fits) (hu : u.Fits) (h : t.bytes = u.bytes) :
    t = u := by
  -- A tail that has begun is neither empty nor marked, since its first byte is no end mark.
  have hbegun : ∀ {part}, (begun part).Fits → part ≠ [] ∧ ∀ after, part ≠ endCode :: after := by
    intro part hfits
    obtain ⟨code, -, hend, rfl | ⟨length, value, rfl, -⟩⟩ := (fits_begun_iff part).1 hfits
    · exact ⟨List.cons_ne_nil _ _, fun after h => hend (List.cons.inj h).1⟩
    · exact ⟨List.cons_ne_nil _ _, fun after h => hend (List.cons.inj h).1⟩
  cases t <;> cases u <;> simp only [bytes] at h
  case nothing.nothing => rfl
  case nothing.marked => cases h
  case nothing.begun part => exact absurd h.symm (hbegun hu).1
  case marked.nothing => cases h
  case marked.marked => rw [(List.cons.inj h).2]
  case marked.begun => exact absurd h.symm ((hbegun hu).2 _)
  case begun.nothing => exact absurd h (hbegun ht).1
  case begun.marked => exact absurd h ((hbegun ht).2 _)
  case begun.begun => rw [h]

/-- Different messages have different bytes, since the items are what is read. -/
theorem encode_injective {m n : Message} (h : m.encode = n.encode) : m = n := by
  obtain ⟨header, is, tail, hheader, his, htail⟩ := m
  obtain ⟨header', is', tail', hheader', his', htail'⟩ := n
  simp only [Message.encode] at h
  obtain ⟨rfl, hrest⟩ := List.append_inj h (hheader.trans hheader'.symm)
  have hoptions := List.append_cancel_left hrest
  obtain rfl : is = is' := by
    rw [← (items_encode his htail 0).1, hoptions, (items_encode his' htail' 0).1]
  obtain rfl := Tail.eq_of_bytes_eq htail htail' (List.append_cancel_left hoptions)
  rfl

/-- A body is a message exactly if it is long enough and has the cookie, and then it is only one. -/
theorem existsUnique_message (body : Bytes) : (∃! m : Message, m.encode = body) ↔
    headerLength ≤ body.length ∧ magicCookie <+: body.drop headerLength := by
  constructor
  · rintro ⟨m, rfl, -⟩
    rw [Message.encode, List.drop_left' m.header_length, List.length_append, m.header_length]
    exact ⟨Nat.le_add_right _ _, List.prefix_append _ _⟩
  · rintro ⟨hlength, options, hoptions⟩
    obtain ⟨is, tail, his, htail, hbytes⟩ := exists_items ⟨"dhcp", 0, options⟩
    have hheader : (body.take headerLength).length = headerLength := List.length_take_of_le hlength
    have hencode : (⟨body.take headerLength, is, tail, hheader, his, htail⟩ : Message).encode =
        body := by
      rw [Message.encode, ← hbytes, hoptions, List.take_append_drop]
    exact ⟨_, hencode, fun n hn => encode_injective (hn.trans hencode.symm)⟩

/-! ### What items tell -/

/-- The length of a host name that is too long to be kept. -/
def Item.tooLong? : Item → Option Nat
  | pad => none
  | option code value =>
    if code = hostNameCode ∧ maxHostName < value.length then some value.length else none

/-- The text of a host name, which ends at the first NUL. -/
def Item.hostName? : Item → Option String
  | pad => none
  | option code value =>
    if code = hostNameCode then some (Text.decodeLossy value.untilNul) else none

/-- The message that a message type of one byte stands for. -/
def Item.message? : Item → Option DhcpMessage
  | option code [number] =>
    if code = messageTypeCode then DhcpMessage.all.find? fun m => m.code = number else none
  | _ => none

/-- The items that count: those before the first host name that is too long. -/
def counted (is : List Item) : List Item :=
  is.takeWhile fun i => i.tooLong?.isNone

/-- The message that the last message type tells. -/
def lastMessage? (is : List Item) : Option DhcpMessage :=
  (is.filterMap Item.message?).getLast?

/-- The host name that was given last. -/
def lastHostName? (is : List Item) : Option String :=
  (is.filterMap Item.hostName?).getLast?

theorem getLast?_filterMap_cons {α β : Type} (f : α → Option β) (a : α) (as : List α) :
    ((a :: as).filterMap f).getLast? = (as.filterMap f).getLast?.or (f a) := by
  cases h : f a with
  | none => simp [h]
  | some b => cases hlast : (as.filterMap f).getLast? <;> simp [h, List.getLast?_cons, hlast]

/-- The message with a number is the one that has the number in the table. -/
theorem find?_code (number : UInt8) :
    (DhcpMessage.all.find? fun m => m.code = number) = DhcpMessage.ofCode? number := by
  have key : ∀ n < 256, (DhcpMessage.all.find? fun m => m.code = UInt8.ofNat n) =
      DhcpMessage.ofCode? (UInt8.ofNat n) := by
    decide +kernel
  have h := key number.toNat number.toNat_lt
  rwa [UInt8.ofNat_toNat] at h

/-! ### Taking items into a record -/

/-- A message type gives the message that it stands for, or leaves the one that was given. -/
theorem applyMessageType_eq (value : Bytes) {s : Sighting} {message : Option DhcpMessage}
    (hs : s.kind = .dhcp message) : (applyMessageType value s).1 =
      { s with kind := .dhcp ((Item.option messageTypeCode value).message?.or message) } := by
  match value with
  | [] => simp [applyMessageType, Item.message?, ← hs]
  | [number] =>
    rw [applyMessageType, Item.message?, if_pos rfl, find?_code]
    cases DhcpMessage.ofCode? number with
    | none => simp [← hs]
    | some m => rfl
  | _ :: _ :: _ => simp [applyMessageType, Item.message?, ← hs]

/-- Only a message type tells a message. -/
theorem message?_eq_none {code : UInt8} (h : code ≠ messageTypeCode) (value : Bytes) :
    (Item.option code value).message? = none := by
  rcases value with _ | ⟨number, _ | ⟨second, rest⟩⟩
  · rfl
  · exact if_neg h
  · rfl

/-- What an item makes of a record: nothing if it stops the scan, and otherwise its message and its
    host name take the place of earlier ones. -/
theorem result?_eq (i : Item) {s : Sighting} {message : Option DhcpMessage}
    (hs : s.kind = .dhcp message) :
    i.result? s = if i.tooLong?.isSome then none else some { s with
      kind := .dhcp (i.message?.or message), dhcpName := i.hostName?.or s.dhcpName } := by
  -- The option that counts is the message type or the host name; the two codes differ.
  cases i with
  | pad => simp [Item.result?, Item.tooLong?, Item.message?, Item.hostName?, ← hs]
  | option code value =>
    by_cases hname : code = hostNameCode
    · subst hname
      have hmessage := message?_eq_none (show hostNameCode ≠ messageTypeCode by decide) value
      by_cases hlong : maxHostName < value.length
      · simp [Item.result?, Item.tooLong?, hlong]
      · simp [Item.result?, Item.tooLong?, Item.hostName?, hostName, hmessage, hlong, ← hs]
    · by_cases htype : code = messageTypeCode
      · subst htype
        rw [Item.result?, if_neg hname, if_pos rfl, applyMessageType_eq value hs]
        simp [Item.tooLong?, Item.hostName?, hname]
      · have hmessage := message?_eq_none htype value
        simp [Item.result?, Item.tooLong?, Item.hostName?, hmessage, hname, htype, ← hs]

/-- By induction on the items: those that follow overrule what was told before. -/
theorem refine_sighting (ending : Ending) (is : List Item) {s : Sighting}
    {message : Option DhcpMessage} (hs : s.kind = .dhcp message) :
    (refine ending is s).sighting = { s with
      kind := .dhcp ((lastMessage? (counted is)).or message),
      dhcpName := (lastHostName? (counted is)).or s.dhcpName } := by
  -- The state of the induction is the message so far, since a later message type replaces it.
  induction is generalizing s message with
  | nil => simp [refine, counted, lastMessage?, lastHostName?, ← hs]
  | cons i is ih =>
    rw [sighting_refine_cons, result?_eq i hs]
    by_cases hlong : i.tooLong?.isSome = true
    · -- The item stops the scan, and no item counts from here on.
      have hcounted : counted (i :: is) = [] := by
        rw [counted, List.takeWhile_cons_of_neg (by simp [← Option.not_isSome, hlong])]
      simp [hlong, hcounted, lastMessage?, lastHostName?, ← hs]
    · have hcounted : counted (i :: is) = i :: counted is := by
        rw [counted, List.takeWhile_cons_of_pos (by simp [← Option.not_isSome, hlong]), ← counted]
      rw [if_neg hlong, hcounted]
      simp only
      rw [@ih _ (i.message?.or message) rfl]
      simp only [lastMessage?, lastHostName?, getLast?_filterMap_cons, Option.or_assoc]

/-- The error is that of the first name which is too long, and if there is none that of the ending.
    -/
theorem refine_error (ending : Ending) (is : List Item) (s : Sighting) :
    (refine ending is s).error = ((is.findSome? Item.tooLong?).map fun length =>
      .fieldTooLong "dhcp hostname" length maxHostName).or ending.error? := by
  induction is generalizing s with
  | nil => rfl
  -- The sighting changes on the way and the error does not depend on it.
  | cons i is ih =>
    cases i with
    | pad => exact ih s
    | option code value =>
      rw [refine, List.findSome?_cons, Item.tooLong?]
      by_cases hname : code = hostNameCode
      · by_cases hlong : maxHostName < value.length
        · rw [if_pos hname, if_pos hlong, if_pos ⟨hname, hlong⟩]
          rfl
        · rw [if_pos hname, if_neg hlong, if_neg fun h => hlong h.2]
          exact ih _
      · have hkept : ¬(code = hostNameCode ∧ maxHostName < value.length) := fun h => hname h.1
        rw [if_neg hname, if_neg hkept]
        split
        · exact ih _
        · exact ih s

/-! ### The scan of a message -/

/-- Why the scan of a message stops early: a host name that is too long, or an option that is cut
    short. -/
def Message.error? (m : Message) : Option DecodeError :=
  ((m.items.findSome? Item.tooLong?).map fun length =>
    .fieldTooLong "dhcp hostname" length maxHostName).or
      (m.tail.error? (headerLength + magicCookie.length + (m.items.flatMap Item.encode).length))

/-- The scan of a message refines the record by its options, and by how they end. -/
theorem scan_eq_refine (m : Message) (s : Sighting) : ∃ ending,
    ending.error? = m.tail.error?
      (headerLength + magicCookie.length + (m.items.flatMap Item.encode).length) ∧
    scan m.encode s = refine ending m.items { s with kind := .dhcp none } := by
  obtain ⟨hitems, herror⟩ :=
    items_encode m.items_fit m.tail_fits (headerLength + magicCookie.length)
  refine ⟨_, herror, ?_⟩
  have hskip := Cursor.skip_append "dhcp" 0 m.header
    (magicCookie ++ (m.items.flatMap Item.encode ++ m.tail.bytes)) m.header_length
  have htake := Cursor.take_append "dhcp" headerLength magicCookie
    (m.items.flatMap Item.encode ++ m.tail.bytes) rfl
  rw [Nat.zero_add] at hskip
  simp only [scan, Message.encode, Cursor.start, hskip, htake, hitems]
  rfl

/-- Whatever a message consists of: its record has the message of the last message type and the last
    host name among the items that count, and is otherwise as it was. The scan stops early only at a
    host name that is too long or at an option that is cut short. Every body with a header and the
    cookie is such a message, in one way. -/
theorem scan_encode (m : Message) (s : Sighting) :
    (scan m.encode s).sighting = { s with
      kind := .dhcp (lastMessage? (counted m.items)),
      dhcpName := (lastHostName? (counted m.items)).or s.dhcpName } ∧
    (scan m.encode s).error = m.error? ∧
    ∀ body : Bytes, (∃! n : Message, n.encode = body) ↔
      headerLength ≤ body.length ∧ magicCookie <+: body.drop headerLength := by
  obtain ⟨ending, herror, hscan⟩ := scan_eq_refine m s
  refine ⟨?_, ?_, existsUnique_message⟩
  · rw [hscan, refine_sighting ending m.items rfl, Option.or_none]
  · rw [hscan, refine_error, herror]
    rfl

end LanWatch.Dhcp
