import LanWatch.Proofs.Payload.ChannelAccess
import LanWatch.Proofs.Text.Cutting

namespace LanWatch.ChannelAccess

/-!
# Names beyond the limit

The limit for the name of a process variable counts bytes, and the bytes are cut before they are
read. A name that goes beyond the limit is kept up to it if the limit lies between two characters.
If it lies inside one, the name keeps a replacement in place of that character: then it is neither a
beginning of the name that was sent nor within the limit.

* `kept`, `name_padded` — what is kept of a name, however it is padded;
* `prefix_kept_iff` — it is a beginning of the name within the limit, unless a character is cut;
* `pvNames_scan` — where a record has the names of a datagram;
* `kept_of_search` — the name that a record gets from any search in any datagram;
* `cut_name_not_prefix` — a name that loses half a character at the limit.
-/

/-! ### A name and its padding -/

/-- What is kept of a name: the characters in front of the limit, and a replacement for the
    character that the limit lies inside. -/
def kept (text : String) : String :=
  String.ofList (Text.takeBytes maxName text.toList ++
    if Text.CutsCharacter maxName text.toList then [Text.Utf8.replacement] else [])

/-- What is kept is the beginning that fits, and a mark where a character was cut. -/
theorem toList_kept (text : String) : (kept text).toList = Text.takeBytes maxName text.toList ++
    if Text.CutsCharacter maxName text.toList then [Text.Utf8.replacement] else [] :=
  String.toList_ofList

/-- Padding ends a name at its first byte. -/
theorem untilNul_padded {bytes : Bytes} (h : 0 ∉ bytes) (padding : Nat) :
    (bytes ++ List.replicate padding 0).untilNul = bytes := by
  have hall : ∀ b ∈ bytes, (!b == 0) = true := by
    intro b hb
    have hne : b ≠ 0 := fun hzero => h (hzero ▸ hb)
    simpa using hne
  rw [Bytes.untilNul, Bytes.untilByte, List.takeWhile_append_of_pos hall]
  cases padding <;> simp [List.replicate_succ]

/-- A text without NUL has no byte that is zero. -/
theorem nul_notMem_utf8 {text : String} (h : '\x00' ∉ text.toList) : 0 ∉ Text.utf8 text := by
  have hbyte := Text.mem_decodeLossy_iff (c := '\x00') (by decide) (Text.utf8 text)
  rw [Text.decodeLossy_utf8] at hbyte
  exact mt hbyte.2 h

/-- The padding is not read, so the limit cuts the bytes of the name alone. -/
theorem name_padded {text : String} (h : '\x00' ∉ text.toList) (padding : Nat) :
    name (Text.utf8 text ++ List.replicate padding 0) = kept text := by
  rw [name, untilNul_padded (nul_notMem_utf8 h), Text.decodeLossy_take]
  rfl

/-! ### What is kept -/

section Kept

variable {text : String}

/-- A name that fits is kept as it is. -/
theorem kept_eq_self (h : Text.Utf8.width text ≤ maxName) : kept text = text := by
  rw [← Text.byteLength_eq_width] at h
  have hwhole : ¬Text.CutsCharacter maxName text.toList := fun hcut => Nat.not_lt.2 h hcut.2
  rw [kept, if_neg hwhole, List.append_nil, Text.takeBytes_of_le h, String.ofList_toList]

/-- The first character of a name has four bytes at most, so the limit is behind it. -/
theorem kept_ne_empty (h : text ≠ "") : kept text ≠ "" := by
  intro hempty
  have hnone := congrArg String.toList hempty
  rw [toList_kept] at hnone
  cases hchars : text.toList with
  | nil => exact h (String.toList_injective hchars)
  | cons c cs =>
    have hfits : c.utf8Size ≤ maxName := Nat.le_trans c.utf8Size_le_four (by decide)
    rw [hchars, Text.takeBytes, if_pos hfits] at hnone
    cases hnone

/-- A search for a name is never one without a name. -/
theorem name?_padded (hne : text ≠ "") (hnul : '\x00' ∉ text.toList) (padding : Nat) :
    (Message.search (Text.utf8 text ++ List.replicate padding 0)).name? = some (kept text) := by
  rw [name?_search, name_padded hnul, if_neg (kept_ne_empty hne)]

/-- The mark takes three bytes where a character was cut. -/
theorem width_kept (text : String) : Text.Utf8.width (kept text) =
    Text.byteLength (Text.takeBytes maxName text.toList) +
      if Text.CutsCharacter maxName text.toList then 3 else 0 := by
  rw [← Text.byteLength_eq_width, toList_kept, Text.byteLength_append]
  split <;> rfl

/-- What is kept of a name that is cut inside a character reaches up to the limit, or beyond. -/
theorem width_kept_of_cut (h : Text.CutsCharacter maxName text.toList) :
    maxName ≤ Text.Utf8.width (kept text) ∧ Text.Utf8.width (kept text) ≤ maxName + 2 := by
  have hnear := h.near
  have hless := h.1
  rw [width_kept, if_pos h]
  omega

/-- A replacement may happen to be the character that it stands for, but then it does not fit. -/
theorem prefix_kept_iff (text : String) :
    ((kept text).toList <+: text.toList ∧ Text.Utf8.width (kept text) ≤ maxName) ↔
      ¬Text.CutsCharacter maxName text.toList := by
  constructor
  · rintro ⟨hbegins, hfits⟩ hcut
    -- Nothing longer than the characters in front of the limit is a beginning that fits.
    rw [← Text.byteLength_eq_width] at hfits
    have hlongest := (Text.prefix_takeBytes hbegins hfits).length_le
    rw [toList_kept, if_pos hcut, List.length_append, List.length_singleton] at hlongest
    omega
  · intro hwhole
    have hfits := Text.byteLength_takeBytes_le maxName text.toList
    rw [width_kept, toList_kept, if_neg hwhole, if_neg hwhole, List.append_nil]
    exact ⟨Text.takeBytes_isPrefix _ _, hfits⟩

end Kept

/-! ### The names of a record -/

/-- After the names that it has, a record gets those of a datagram, as many as it has room for. -/
theorem pvNames_scan (d : Datagram) (s : Sighting) : (scan d.encode s).sighting.pvNames =
    s.pvNames ++ d.names.take (Sighting.maxPvNames - s.pvNames.length) := by
  obtain ⟨hmessages, -⟩ := messages_encode d.messages d.tail_fits 0
  have hnames : (d.messages.map Sent.message).filterMap Message.name? = d.names := by
    rw [List.filterMap_map]
    rfl
  rw [scan, sighting_refine, foldl_apply, Datagram.encode, Cursor.start, hmessages, hnames]

/-- A search for any name, padded with any number of NULs and sent anywhere in any datagram: if the
    record still has room, the name is kept up to the limit of 255 bytes. All of it is kept if it
    fits. What is kept is a beginning of the name within the limit exactly if the limit does not lie
    inside a character; if it does, there is a replacement at the end. -/
theorem kept_of_search {d : Datagram} {before after : List Sent} {search : Sent} {text : String}
    {padding : Nat} (hmessages : d.messages = before ++ search :: after)
    (hsearch : search.message = .search (Text.utf8 text ++ List.replicate padding 0))
    (hne : text ≠ "") (hnul : '\x00' ∉ text.toList) {s : Sighting}
    (hroom : s.pvNames.length + (before.filterMap fun m => m.message.name?).length < 32) :
    let earlier := before.filterMap fun m => m.message.name?
    let front := Text.takeBytes 255 text.toList
    let cut := 255 < Text.Utf8.width text ∧
      ∀ start, start <+: text.toList → Text.byteLength start ≠ 255
    ∃ kept later,
      (scan d.encode s).sighting.pvNames = s.pvNames ++ earlier ++ kept :: later ∧
      (Text.Utf8.width text ≤ 255 → kept = text) ∧
      (kept.toList <+: text.toList ∧ Text.Utf8.width kept ≤ 255 ↔ ¬cut) ∧
      (¬cut → kept.toList = front) ∧
      (cut → kept.toList = front ++ ['\ufffd'] ∧
        255 ≤ Text.Utf8.width kept ∧ Text.Utf8.width kept ≤ 257) := by
  intro earlier front cut
  have hcut : Text.CutsCharacter maxName text.toList ↔ cut := by
    rw [Text.cutsCharacter_iff, Text.byteLength_eq_width]
    rfl
  have hname : search.message.name? = some (kept text) := by
    rw [hsearch, name?_padded hne hnul]
  have hnames : d.names = earlier ++ kept text :: after.filterMap fun m => m.message.name? := by
    rw [Datagram.names, hmessages, List.filterMap_append, List.filterMap_cons, hname]
  -- The names of the searches before it leave room for this one.
  obtain ⟨left, hleft⟩ : ∃ left, Sighting.maxPvNames - s.pvNames.length =
      earlier.length + (left + 1) := by
    have hlimit : Sighting.maxPvNames = 32 := rfl
    have hearlier : earlier.length = (before.filterMap fun m => m.message.name?).length := rfl
    exact ⟨31 - s.pvNames.length - earlier.length, by omega⟩
  refine ⟨kept text, (after.filterMap fun m => m.message.name?).take left, ?_, kept_eq_self,
    ?_, ?_, ?_⟩
  · rw [pvNames_scan, hnames, hleft, List.take_length_add_append, List.take_succ_cons,
      List.append_assoc]
  · rw [← hcut]
    exact prefix_kept_iff text
  · intro hwhole
    rw [toList_kept, if_neg (mt hcut.1 hwhole), List.append_nil]
    rfl
  · intro h
    rw [toList_kept, if_pos (hcut.2 h)]
    exact ⟨rfl, width_kept_of_cut (hcut.2 h)⟩

/-- Parameters that say nothing. -/
def noParameters : Bytes :=
  List.replicate 12 0

theorem length_noParameters : noParameters.length = 12 := rfl

/-- A search for a name. -/
def searchOf (payload : Bytes) (h : payload.length ≤ 65535) : Sent :=
  ⟨.search payload, noParameters, length_noParameters, h⟩

/-- A datagram with one search. -/
def searchFor (payload : Bytes) (h : payload.length ≤ 65535) : Datagram where
  messages := [searchOf payload h]
  tail := .nothing
  tail_fits := trivial

/-- A record without names. -/
def unnamed : Sighting :=
  .plain ⟨2, 0, 0, 0, 0, 1⟩ ⟨10, 0, 0, 7⟩ ⟨1, 2⟩ none .channelAccess

/-- A name of one character with two bytes, padded with two NULs, is kept. -/
theorem kept_of_short_search :
    ∃ kept later,
      (scan (searchFor (Text.utf8 "é" ++ List.replicate 2 0) (by decide)).encode
        unnamed).sighting.pvNames = kept :: later ∧ kept = "é" := by
  have hfits : (Text.utf8 "é" ++ List.replicate 2 0).length ≤ 65535 := by decide
  have hmessages : (searchFor _ hfits).messages = [] ++ searchOf _ hfits :: [] := rfl
  have hsearch : (searchOf _ hfits).message =
      .search (Text.utf8 "é" ++ List.replicate 2 0) := rfl
  have hroom : unnamed.pvNames.length +
      (([] : List Sent).filterMap fun m => m.message.name?).length < 32 := by decide
  obtain ⟨kept, later, hnames, hwhole, -⟩ :=
    kept_of_search hmessages hsearch (by decide) (by decide) hroom
  exact ⟨kept, later, hnames, hwhole (by decide)⟩

/-- A name of 256 bytes, of which the last two are one character. -/
def longName : String :=
  String.ofList (List.replicate 254 'A' ++ ['é'])

/-- The name character by character: the last one takes the bytes 255 and 256. -/
theorem toList_longName : longName.toList = List.replicate 254 'A' ++ ['é'] :=
  String.toList_ofList

/-- The limit lies inside the last character of that name: what is kept of it has 257 bytes and is
    no beginning of it. -/
theorem cut_name_not_prefix :
    longName ≠ "" ∧ '\x00' ∉ longName.toList ∧
      ∃ fits kept, (scan (searchFor (Text.utf8 longName) fits).encode unnamed).sighting.pvNames =
          [kept] ∧ ¬kept.toList <+: longName.toList ∧ Text.Utf8.width kept = 257 := by
  have hne : longName ≠ "" := by decide +kernel
  have hnul : '\x00' ∉ longName.toList := by
    rw [toList_longName, List.mem_append, List.mem_replicate]
    decide
  have hfits : (Text.utf8 longName).length ≤ 65535 := by
    rw [Text.length_utf8, toList_longName]
    decide +kernel
  have hname : (Message.search (Text.utf8 longName)).name? = some (kept longName) := by
    have hpadded := name?_padded hne hnul 0
    rwa [List.replicate_zero, List.append_nil] at hpadded
  have hnames : (searchFor (Text.utf8 longName) hfits).names = [kept longName] := by
    rw [Datagram.names, searchFor, List.filterMap_cons, searchOf, hname]
    rfl
  have hkept : (kept longName).toList = List.replicate 254 'A' ++ ['\ufffd'] := by
    rw [toList_kept, toList_longName]
    decide +kernel
  have hwidth : Text.Utf8.width (kept longName) = 257 := by
    rw [width_kept, toList_longName]
    decide +kernel
  refine ⟨hne, hnul, hfits, kept longName, ?_, ?_, hwidth⟩
  · rw [pvNames_scan, hnames]
    rfl
  · rw [hkept, toList_longName, List.prefix_append_right_inj]
    decide

end LanWatch.ChannelAccess
