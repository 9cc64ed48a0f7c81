import LanWatch.Frame.Guarded.Decoders
import LanWatch.Proofs.Guarded.Reads

namespace LanWatch.Guarded

/-!
# The decoders of payloads stay within their domains

What DHCP, NetBIOS and Channel Access datagrams tell is the same under guard as without it. The
loops end within their rounds, because every round reads at least a byte.

* `field_eq` — a field up to its terminator is always within its bytes;
* `scanOptions_eq`, `scanDhcp_eq` — DHCP;
* `name?_eq`, `scanNetBios_eq` — NetBIOS;
* `scanMessages_eq`, `scanChannelAccess_eq` — Channel Access.
-/

/-- The end of a field is sought among the bytes, so the slice lies within them. -/
theorem field_eq (ends : UInt8 → Bool) (limit : Nat) (bytes : Bytes) :
    field ends limit bytes = .ok ((bytes.untilByte ends).take limit) := by
  have hle : bytes.findIdx ends ≤ bytes.length := List.findIdx_le_length
  unfold field Bytes.untilByte
  rw [slice_of_le (Nat.zero_le _) (by omega), List.takeWhile_eq_take_findIdx_not, List.take_take,
    List.drop_zero, Nat.min_comm]
  simp only [Bool.not_not]

theorem toNat_lt_addressable (n : UInt8) : n.toNat < Nat.pow 2 63 :=
  Nat.lt_trans n.toNat_lt (by decide)

theorem ok_bind {α β : Type} (a : α) (f : α → Except Fault β) : (Except.ok a >>= f) = f a := rfl

/-! ### DHCP -/

/-- A value is cut within its own length, so only the check of that length can stop it. -/
theorem hostName_eq (value : Bytes) :
    hostName value =
      if Dhcp.maxHostName < value.length then
        throw (.fieldTooLong "dhcp hostname" value.length Dhcp.maxHostName)
      else pure (Dhcp.hostName value) := by
  unfold hostName
  rw [field_eq, List.take_of_length_le (Bytes.untilByte_length_le _ _)]
  split <;> rfl

/-- After a code that is neither a pad nor the end marker, the value is read as in an item. -/
theorem optionValue_cases {c : Cursor} {r : Reader} (hr : r.Fits) {code : UInt8}
    (hcode : c.u8 = .ok (code, r.cursor)) (hpad : code ≠ Dhcp.padCode)
    (hend : code ≠ Dhcp.endCode) :
    (∃ value r', r'.Fits ∧ optionValue r = pure (value, r') ∧
      Dhcp.item c = .ok (some (.option code value), r'.cursor)) ∨
    ∃ e, optionValue r = throw e ∧ Dhcp.item c = .error e := by
  unfold optionValue Dhcp.item
  rw [hcode]
  simp only [if_neg hpad, if_neg hend]
  -- Length and value are read one after the other, and either read may be the one that fails.
  obtain ⟨length, r', hr', hx, hy⟩ | ⟨e, hx, hy⟩ := Reader.agrees_readU8 hr
  · rw [hx, hy]
    obtain ⟨value, r'', hr'', hx', hy'⟩ | ⟨e, hx', hy'⟩ :=
      Reader.agrees_readBytes hr' (toNat_lt_addressable length)
    · exact .inl ⟨value, r'', hr'', hx', by simp only [hy']⟩
    · exact .inr ⟨e, hx', by simp only [hy']⟩
  · exact .inr ⟨e, by rw [hx]; rfl, by rw [hy]⟩

/-- An option is taken as `refine` takes it, if what comes after it is. -/
theorem takeOption_eq {ending : Dhcp.Ending} {is : List Dhcp.Item}
    {next : Sighting → Except Fault Scan} (hnext : ∀ s, next s = .ok (Dhcp.refine ending is s))
    (code : UInt8) (value : Bytes) (s : Sighting) :
    takeOption code value s next =
      .ok (Dhcp.refine ending (.option code value :: is) s) := by
  rw [takeOption, Dhcp.refine]
  simp only [hnext, hostName_eq]
  split
  · split <;> rfl
  · split <;> rfl

theorem scanOptions_eq (rounds : Nat) {r : Reader} (hr : r.Fits)
    (hrounds : r.cursor.remaining < rounds) (s : Sighting) :
    scanOptions rounds r s =
      .ok (Dhcp.refine (Dhcp.items r.cursor).2 (Dhcp.items r.cursor).1 s) := by
  -- By induction on the rounds: each one reads an item, which leaves less for the others.
  induction rounds generalizing r s with
  | zero => exact absurd hrounds (Nat.not_lt_zero _)
  | succ rounds ih =>
    rw [scanOptions, hr.atEnd_eq, ok_bind]
    by_cases hatEnd : r.cursor.atEnd = true
    · rw [if_pos hatEnd, Dhcp.items_of_atEnd hatEnd]
      rfl
    rw [if_neg hatEnd]
    -- The item is told from its code: a pad, the end marker, or an option with a value.
    obtain ⟨code, r', hr', hx, hy⟩ | ⟨e, hx, hy⟩ := Reader.agrees_readU8 hr
    · have hless := Cursor.remaining_of_u8 hy
      rw [hx, orStop_pure]
      by_cases hpad : code = Dhcp.padCode
      · have hitem : Dhcp.item r.cursor = .ok (some .pad, r'.cursor) := by
          unfold Dhcp.item
          rw [hy]
          exact if_pos hpad
        rw [Dhcp.items_of_item hatEnd hitem]
        simp only [if_pos hpad]
        exact ih hr' (by omega) s
      simp only [if_neg hpad]
      by_cases hend : code = Dhcp.endCode
      · have hitem : Dhcp.item r.cursor = .ok (none, r'.cursor) := by
          unfold Dhcp.item
          rw [hy]
          simp only [if_neg hpad, if_pos hend]
        rw [Dhcp.items_of_marked hatEnd hitem]
        simp only [if_pos hend]
        rfl
      simp only [if_neg hend]
      obtain ⟨value, r'', hr'', hx', hitem⟩ | ⟨e, hx', hitem⟩ := optionValue_cases hr' hy hpad hend
      · have hless' := Dhcp.remaining_of_item hitem
        rw [Dhcp.items_of_item hatEnd hitem, hx', orStop_pure]
        exact takeOption_eq (ih hr'' (by omega)) code value s
      · rw [Dhcp.items_of_error hatEnd hitem, hx']
        rfl
    · have hitem : Dhcp.item r.cursor = .error e := by
        unfold Dhcp.item
        rw [hy]
      rw [Dhcp.items_of_error hatEnd hitem, hx]
      rfl

/-- The scan as a whole is without faults, and is the scan of the decoder. -/
theorem scanDhcp_eq {body : Bytes} (h : body.Addressable) (s : Sighting) :
    scanDhcp body s = .ok (Dhcp.scan body s) := by
  have hstart := Reader.fits_start "dhcp" h
  unfold scanDhcp cookie Reader.skip Dhcp.scan Cursor.skip
  rw [← Reader.cursor_start]
  obtain ⟨header, r, hr, hx, hy⟩ | ⟨e, hx, hy⟩ := Reader.agrees_readBytes hstart
    (show Dhcp.headerLength < Nat.pow 2 63 by decide)
  · rw [hx, hy]
    have hless := Cursor.remaining_of_take hy
    obtain ⟨cookie, r', hr', hx', hy'⟩ | ⟨e, hx', hy'⟩ := Reader.agrees_readBytes hr
      (show Dhcp.magicCookie.length < Nat.pow 2 63 by decide)
    · have hless' := Cursor.remaining_of_take hy'
      -- What lies ahead of the cookie is less than the body, so the rounds suffice.
      have hbody : (Reader.start "dhcp" body).cursor.remaining = body.length := rfl
      simp only [pure_bind, hx', orStop_pure, Except.map, hy']
      split
      · rw [scanOptions_eq (body.length + 1) hr' (by omega)]
      · rfl
    · simp only [pure_bind, hx', orStop_throw, Except.map, hy']
  · rw [hx, hy]
    rfl

/-! ### NetBIOS -/

/-- The subtraction is made only where the letter is large enough. -/
theorem nibble?_eq (letter : UInt8) : nibble? letter = .ok (NetBios.nibble? letter) := by
  unfold nibble? NetBios.nibble?
  split
  · rename_i h
    rw [sub_of_le h.1]
    rfl
  · rfl

/-- Every chunk has two letters. -/
theorem decodeChunks_eq : ∀ {letters : Bytes}, letters.length % 2 = 0 →
    decodeChunks (chunks letters) = .ok (NetBios.decodePairs letters)
  | [], _ => rfl
  | [_], h => absurd h (by rw [List.length_singleton]; decide)
  | high :: low :: rest, h => by
    -- Without two letters at a time the indices would be out of range.
    have hrest : rest.length % 2 = 0 := by
      rw [List.length_cons, List.length_cons] at h
      omega
    have ih := decodeChunks_eq hrest
    rw [chunks, decodeChunks, byteAt_of_getElem? (b := high) rfl, byteAt_of_getElem? (b := low) rfl]
    simp only [ok_bind, nibble?_eq, ih, NetBios.decodePairs]
    cases NetBios.nibble? high with
    | none => rfl
    | some h =>
      cases NetBios.nibble? low with
      | none => rfl
      | some l => cases NetBios.decodePairs rest <;> rfl

/-- An odd number of letters is no encoding. -/
theorem decodePairs_of_odd : ∀ {letters : Bytes}, letters.length % 2 ≠ 0 →
    NetBios.decodePairs letters = none
  | [], h => absurd rfl h
  | [_], _ => rfl
  | high :: low :: rest, h => by
    have hrest : rest.length % 2 ≠ 0 := by
      rw [List.length_cons, List.length_cons] at h
      omega
    rw [NetBios.decodePairs, decodePairs_of_odd hrest]
    cases NetBios.nibble? high with
    | none => rfl
    | some h => cases NetBios.nibble? low <;> rfl

/-- The label is cut within its bounds, and an even number of letters comes in pairs. -/
theorem name?_eq (label : Bytes) : name? label = .ok (NetBios.name? label) := by
  unfold name? NetBios.name?
  rw [field_eq, ok_bind]
  split
  · rename_i hodd
    rw [decodePairs_of_odd hodd]
    rfl
  · rename_i heven
    rw [decodeChunks_eq (Decidable.not_not.1 heven)]
    rfl

/-- Four numbers, then the flags and the number of names, and at last the name: each read is within
    bounds or an error. -/
theorem gives_firstName {body : Bytes} (h : body.Addressable) :
    (firstName body).Gives (NetBios.firstName body) := by
  unfold firstName NetBios.firstName
  -- Reader and cursor take the same reads in the same order.
  refine Reader.gives_skip (Reader.fits_start "netbios" h) (by decide) ?_
  intro r hr
  refine (Reader.agrees_readU16 hr).bind ?_
  intro questions r hr
  refine (Reader.agrees_readU16 hr).bind ?_
  intro answers r hr
  refine Reader.gives_skip hr (by decide) ?_
  intro r hr
  dsimp only
  split
  · rfl
  refine (Reader.agrees_readU8 hr).bind ?_
  intro length r hr
  dsimp only
  split
  · rfl
  refine (Reader.agrees_readBytes hr (toNat_lt_addressable length)).bind ?_
  intro label r hr
  rfl

/-- The scan as a whole is without faults, and is the scan of the decoder. -/
theorem scanNetBios_eq {body : Bytes} (h : body.Addressable) (s : Sighting) :
    scanNetBios body s = .ok (NetBios.scan body s) := by
  have hfirst : (firstName body).run = .ok (NetBios.firstName body) := gives_firstName h
  unfold scanNetBios orStop NetBios.scan
  rw [hfirst, ok_bind]
  cases NetBios.firstName body with
  | error e => rfl
  | ok first =>
    cases first with
    | absent => rfl
    | pointer => rfl
    | label label =>
      simp only [name?_eq]
      rfl

/-! ### Channel Access -/

/-- A header of sixteen bytes holds the four bytes that are looked at. -/
theorem command_eq {header : Bytes} (h : header.length = ChannelAccess.headerLength) :
    ∃ b₀ b₁ b₂ b₃, byteAt header 0 = .ok b₀ ∧ byteAt header 1 = .ok b₁ ∧
      byteAt header 2 = .ok b₂ ∧ byteAt header 3 = .ok b₃ ∧
      ChannelAccess.command header = (be16 b₀ b₁, (be16 b₂ b₃).toNat) := by
  match header, h with
  | b₀ :: b₁ :: b₂ :: b₃ :: _, _ => exact ⟨b₀, b₁, b₂, b₃, rfl, rfl, rfl, rfl, rfl⟩

/-- The header of a message is read as `message` reads it. -/
theorem messageHeader_cases {r : Reader} (hr : r.Fits) :
    (∃ command length r' header, r'.Fits ∧ length < Nat.pow 2 63 ∧
      messageHeader r = pure (command, length, r') ∧
      r.cursor.take ChannelAccess.headerLength = .ok (header, r'.cursor) ∧
      ChannelAccess.command header = (command, length)) ∨
    ∃ e, messageHeader r = throw e ∧
      r.cursor.take ChannelAccess.headerLength = .error e := by
  unfold messageHeader
  obtain ⟨header, r', hr', hx, hy⟩ | ⟨e, hx, hy⟩ := Reader.agrees_readBytes hr
    (show ChannelAccess.headerLength < Nat.pow 2 63 by decide)
  · obtain ⟨hle, hheader, -⟩ := Cursor.take_eq_ok_iff.1 hy
    -- All four bytes that are indexed are there.
    have hlength : header.length = ChannelAccess.headerLength := by
      rw [hheader, List.length_take]
      exact Nat.min_eq_left hle
    obtain ⟨b₀, b₁, b₂, b₃, h₀, h₁, h₂, h₃, hcommand⟩ := command_eq hlength
    refine .inl ⟨_, _, r', header, hr', ?_, ?_, hy, hcommand⟩
    · exact Nat.lt_trans (be16 b₂ b₃).toNat_lt (by decide)
    · rw [hx]
      simp only [pure_bind, h₀, h₁, h₂, h₃, liftM_ok]
  · exact .inr ⟨e, by rw [hx]; rfl, hy⟩

/-- The payload is there, or the read of it fails as the cursor's does. -/
theorem searchedName_cases {r : Reader} (hr : r.Fits) {length : Nat} (h : length < Nat.pow 2 63) :
    (∃ payload r', r'.Fits ∧ searchedName r length = pure (ChannelAccess.name payload, r') ∧
      r.cursor.take length = .ok (payload, r'.cursor)) ∨
    ∃ e, searchedName r length = throw e ∧ r.cursor.take length = .error e := by
  unfold searchedName
  obtain ⟨payload, r', hr', hx, hy⟩ | ⟨e, hx, hy⟩ := Reader.agrees_readBytes hr h
  · refine .inl ⟨payload, r', hr', ?_, hy⟩
    rw [hx]
    simp only [pure_bind, field_eq]
    rfl
  · exact .inr ⟨e, by rw [hx]; rfl, hy⟩

/-- A name is taken as `refine` takes it, if what comes after it is. -/
theorem takeName_eq {ending : ChannelAccess.Ending} {ms : List ChannelAccess.Message}
    {next : Sighting → Except Fault Scan}
    (hnext : ∀ s, next s = .ok (ChannelAccess.refine ending ms s)) (payload : Bytes)
    (s : Sighting) :
    takeName (ChannelAccess.name payload) s next =
      .ok (ChannelAccess.refine ending (.search payload :: ms) s) := by
  rw [takeName, ChannelAccess.refine]
  simp only [hnext]
  split
  · rfl
  · split <;> rfl

/-- A message whose header was read. -/
theorem message_of_header {c c' : Cursor} {header : Bytes} {command : UInt16} {length : Nat}
    (hheader : c.take ChannelAccess.headerLength = .ok (header, c'))
    (hcommand : ChannelAccess.command header = (command, length)) :
    ChannelAccess.message c =
      if command = ChannelAccess.versionCommand ∨ command = ChannelAccess.searchCommand then
        (c'.take length).map fun (payload, c) =>
          (some (if command = ChannelAccess.versionCommand then .version payload
            else .search payload), c)
      else .ok (none, c') := by
  unfold ChannelAccess.message
  rw [hheader]
  simp only [hcommand]
  split
  · cases c'.take length <;> rfl
  · rfl

theorem scanMessages_eq (rounds : Nat) {r : Reader} (hr : r.Fits)
    (hrounds : r.cursor.remaining < rounds) (s : Sighting) :
    scanMessages rounds r s =
      .ok (ChannelAccess.refine (ChannelAccess.messages r.cursor).2
        (ChannelAccess.messages r.cursor).1 s) := by
  -- By induction on the rounds: each one reads a message, which leaves less for the others.
  induction rounds generalizing r s with
  | zero => exact absurd hrounds (Nat.not_lt_zero _)
  | succ rounds ih =>
    rw [scanMessages, hr.atEnd_eq, ok_bind]
    by_cases hatEnd : r.cursor.atEnd = true
    · rw [if_pos hatEnd, ChannelAccess.messages_of_atEnd hatEnd]
      rfl
    rw [if_neg hatEnd]
    -- The message is told from its command: a version, a search, or one that ends the list.
    obtain ⟨command, length, r', header, hr', hlength, hx, hy, hcommand⟩ | ⟨e, hx, hy⟩ :=
      messageHeader_cases hr
    · have hheader := message_of_header hy hcommand
      rw [hx, orStop_pure]
      by_cases hversion : command = ChannelAccess.versionCommand
      · rw [if_pos (.inl hversion)] at hheader
        simp only [if_pos hversion] at hheader ⊢
        unfold Reader.skip
        obtain ⟨payload, r'', hr'', hx', hy'⟩ | ⟨e, hx', hy'⟩ := Reader.agrees_readBytes hr' hlength
        · rw [hy'] at hheader
          have hless : r''.cursor.remaining < r.cursor.remaining :=
            ChannelAccess.remaining_of_message hheader
          rw [ChannelAccess.messages_of_message hatEnd hheader, hx']
          exact ih hr'' (by omega) s
        · rw [hy'] at hheader
          rw [ChannelAccess.messages_of_error hatEnd hheader, hx']
          rfl
      simp only [if_neg hversion] at hheader ⊢
      by_cases hsearch : command = ChannelAccess.searchCommand
      · rw [if_pos (.inr hsearch)] at hheader
        simp only [if_pos hsearch]
        obtain ⟨payload, r'', hr'', hx', hy'⟩ | ⟨e, hx', hy'⟩ := searchedName_cases hr' hlength
        · rw [hy'] at hheader
          have hless : r''.cursor.remaining < r.cursor.remaining :=
            ChannelAccess.remaining_of_message hheader
          rw [ChannelAccess.messages_of_message hatEnd hheader, hx', orStop_pure]
          exact takeName_eq (ih hr'' (by omega)) payload s
        · rw [hy'] at hheader
          rw [ChannelAccess.messages_of_error hatEnd hheader, hx']
          rfl
      · rw [if_neg (not_or.2 ⟨hversion, hsearch⟩)] at hheader
        rw [ChannelAccess.messages_of_foreign hatEnd hheader]
        simp only [if_neg hsearch]
        rfl
    · have hmessage : ChannelAccess.message r.cursor = .error e := by
        unfold ChannelAccess.message
        rw [hy]
      rw [ChannelAccess.messages_of_error hatEnd hmessage, hx]
      rfl

/-- The scan as a whole is without faults, and is the scan of the decoder. -/
theorem scanChannelAccess_eq {body : Bytes} (h : body.Addressable) (s : Sighting) :
    scanChannelAccess body s = .ok (ChannelAccess.scan body s) := by
  unfold scanChannelAccess ChannelAccess.scan
  exact scanMessages_eq (body.length + 1) (Reader.fits_start _ h) (Nat.lt_succ_self _) s

end LanWatch.Guarded
