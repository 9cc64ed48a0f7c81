import LanWatch.Frame.Arp
import LanWatch.Proofs.Payload.ChannelAccess
import LanWatch.Proofs.Payload.Dhcp

namespace LanWatch

/-!
# Reads that pass the end

A read that fails tells its place in the layer, how many bytes it asked for, and how many were left.
A cursor keeps count of its place, so the bytes that were left reach from that place to the end of
what the layer was given, and fewer were left than asked for. This holds of every decoder that reads
by a cursor, however many reads it makes before the one that fails.

* `DecodeError.PassesEnd` — the error of a read that passes the end of its layer;
* `Cursor.In` — a cursor that has kept count;
* `Honest`, `Honest.bind` — what was decoded, or such an error;
* `Cursor.In.honest_take`, `Cursor.In.honest_u8`, `Cursor.In.honest_u16`, `Cursor.In.honest_skip` —
  the reads;
* `Arp.honest_read`, `NetBios.honest_firstName` — decoders that make a fixed number of reads;
* `Dhcp.passesEnd_items`, `ChannelAccess.passesEnd_messages` — decoders that read on to the end;
* `NetBios.passesEnd_scan`, `ChannelAccess.passesEnd_scan`, `Dhcp.error_scan_cases` — the errors of
  a body;
* `Dhcp.HasLongHostName`, `Dhcp.tooLong_scan_iff` — the one error that is not of this kind.
-/

/-- The error is that of a read in a layer: more bytes were needed than the available ones, and
    those reach to the end of what the layer was given. -/
def DecodeError.PassesEnd (layer : String) (given : Bytes) : DecodeError → Prop
  | truncated l offset needed available =>
    l = layer ∧ available < needed ∧ offset + available = given.length
  | fieldTooLong .. => False

/-- A cursor stands in a layer that was given some bytes, and what it has ahead reaches to the end
    of them. -/
structure Cursor.In (layer : String) (given : Bytes) (c : Cursor) : Prop where
  layer_eq : c.layer = layer
  offset_add_remaining : c.offset + c.remaining = given.length

/-- What was decoded is as expected, or decoding stopped at a read that passes the end. -/
def Honest {α : Type} (layer : String) (given : Bytes) (expected : α → Prop) :
    Except DecodeError α → Prop
  | .ok a => expected a
  | .error e => e.PassesEnd layer given

section

variable {layer : String} {given : Bytes} {α β : Type}

/-- An honest computation that succeeds gives what is expected of it. -/
theorem Honest.of_ok {expected : α → Prop} {x : Except DecodeError α} {a : α}
    (h : Honest layer given expected x) (hx : x = .ok a) : expected a := by
  rw [hx] at h
  exact h

/-- An honest computation that fails tells of a read that passes the end. -/
theorem Honest.of_error {expected : α → Prop} {x : Except DecodeError α} {e : DecodeError}
    (h : Honest layer given expected x) (hx : x = .error e) : e.PassesEnd layer given := by
  rw [hx] at h
  exact h

/-- What follows an honest read is honest if it is wherever the read may have led. -/
theorem Honest.bind {expected : α → Prop} {expected' : β → Prop} {x : Except DecodeError α}
    {f : α → Except DecodeError β} (hx : Honest layer given expected x)
    (hf : ∀ a, expected a → Honest layer given expected' (f a)) :
    Honest layer given expected' (x >>= f) := by
  cases x with
  | error e => exact hx
  | ok a => exact hf a hx

/-! ### Reads -/

namespace Cursor

/-- Bytes that are passed over have to be there. -/
theorem skip_eq_ok_iff {c c' : Cursor} {n : Nat} :
    c.skip n = .ok c' ↔ n ≤ c.remaining ∧ c' = c.advance n := by
  by_cases h : n ≤ c.remaining
  · simp [skip, take, h, Except.map, eq_comm]
  · simp [skip, take, h, Except.map]

/-- A layer begins with nothing behind and everything ahead. -/
theorem in_start (layer : String) (given : Bytes) : (start layer given).In layer given :=
  ⟨rfl, Nat.zero_add _⟩

namespace In

variable {c : Cursor}

/-- A move over bytes that lie ahead stays in the layer. -/
theorem advance (h : c.In layer given) {n : Nat} (hn : n ≤ c.remaining) :
    (c.advance n).In layer given := by
  refine ⟨h.layer_eq, ?_⟩
  have hends := h.offset_add_remaining
  rw [advance_remaining]
  show c.offset + n + (c.remaining - n) = given.length
  omega

/-- The error of a read for which too few bytes lie ahead. -/
theorem short (h : c.In layer given) {n : Nat} (hn : c.remaining < n) :
    (c.short n).PassesEnd layer given :=
  ⟨h.layer_eq, hn, h.offset_add_remaining⟩

/-- A read of some bytes, which either lie ahead or do not. -/
theorem honest_take (h : c.In layer given) (n : Nat) :
    Honest layer given (fun r => r.2.In layer given) (c.take n) := by
  rw [take]
  split
  · rename_i hn
    exact h.advance hn
  · rename_i hn
    exact h.short (Nat.lt_of_not_le hn)

/-- The same for bytes that are passed over. -/
theorem honest_skip (h : c.In layer given) (n : Nat) :
    Honest layer given (fun c' => c'.In layer given) (c.skip n) := by
  have htake := h.honest_take n
  rw [skip]
  cases hread : c.take n with
  | error e => exact htake.of_error hread
  | ok r => exact htake.of_ok hread

/-- A read of one byte. -/
theorem honest_u8 (h : c.In layer given) :
    Honest layer given (fun r => r.2.In layer given) c.u8 := by
  rw [u8]
  split
  · rename_i b rest hrest
    exact h.advance (by simp [remaining, hrest])
  · rename_i hnone
    refine h.short ?_
    cases hrest : c.rest with
    | nil => simp [remaining, hrest]
    | cons b rest => exact absurd hrest (hnone b rest)

/-- A read of a number of two bytes. -/
theorem honest_u16 (h : c.In layer given) :
    Honest layer given (fun r => r.2.In layer given) c.u16 := by
  rw [u16]
  split
  · rename_i hi lo rest hrest
    exact h.advance (by simp [remaining, hrest])
  · rename_i hnone
    refine h.short ?_
    -- One byte alone is no number either.
    rcases hrest : c.rest with _ | ⟨hi, _ | ⟨lo, rest⟩⟩
    · simp [remaining, hrest]
    · simp [remaining, hrest]
    · exact absurd hrest (hnone hi lo rest)

end In

end Cursor

end

/-! ### Decoders that make a fixed number of reads -/

/-- The fixed part of an ARP packet is four reads, one after another. -/
theorem Arp.honest_read (payload : Bytes) :
    Honest "arp" payload (fun _ => True) (FixedPart.read payload) := by
  unfold FixedPart.read
  refine (Cursor.in_start "arp" payload).honest_u16.bind fun (_, c) h => ?_
  refine Cursor.In.honest_u16 (c := c) h |>.bind fun (_, c) h => ?_
  refine Cursor.In.honest_u8 (c := c) h |>.bind fun (_, c) h => ?_
  exact Cursor.In.honest_u8 (c := c) h |>.bind fun _ _ => trivial

/-- A name query is read up to its first name, and each of these reads is honest. -/
theorem NetBios.honest_firstName (body : Bytes) :
    Honest "netbios" body (fun _ => True) (firstName body) := by
  unfold firstName
  refine ((Cursor.in_start "netbios" body).honest_skip 4).bind fun c h => ?_
  refine h.honest_u16.bind fun (questions, c) h => ?_
  refine Cursor.In.honest_u16 (c := c) h |>.bind fun (answers, c) h => ?_
  refine (Cursor.In.honest_skip (c := c) h _).bind fun c h => ?_
  -- A packet without a name, or with a pointer in place of it, is not read any further.
  dsimp only
  split
  · trivial
  · refine h.honest_u8.bind fun (length, c) h => ?_
    dsimp only
    split
    · trivial
    · exact (Cursor.In.honest_take (c := c) h _).bind fun _ _ => trivial

/-! ### Decoders that read on to the end -/

section Loops

variable {layer : String} {given : Bytes} {c : Cursor}

/-- An option is a code, a length and that many bytes. -/
theorem Dhcp.honest_item (h : c.In layer given) :
    Honest layer given (fun r => r.2.In layer given) (item c) := by
  -- Each read of the item is honest at a cursor of the layer, and a read that succeeds leaves such
  -- a cursor.
  unfold item
  split
  · rename_i hread
    exact h.honest_u8.of_error hread
  · rename_i code c₁ hread
    have h₁ : c₁.In layer given := h.honest_u8.of_ok hread
    split
    · exact h₁
    · split
      · exact h₁
      · split
        · rename_i hread
          exact h₁.honest_u8.of_error hread
        · rename_i length c₂ hread
          have h₂ : c₂.In layer given := h₁.honest_u8.of_ok hread
          split
          · rename_i hread
            exact (h₂.honest_take _).of_error hread
          · rename_i hread
            exact (h₂.honest_take _).of_ok hread

/-- By the recursion over the items: each leaves a cursor that has kept count. -/
theorem Dhcp.passesEnd_items (h : c.In layer given) :
    ∀ e ∈ (items c).2.error?, e.PassesEnd layer given := by
  induction c using items.induct with
  -- Induction on the scan: the cursor stays in the layer from item to item.
  | case1 c hend =>
    rw [items_of_atEnd hend]
    rintro _ ⟨⟩
  | case2 c hmore e hitem =>
    rw [items_of_error hmore hitem]
    rintro e' ⟨⟩
    exact (honest_item h).of_error hitem
  | case3 c hmore c' hitem =>
    rw [items_of_marked hmore hitem]
    rintro _ ⟨⟩
  | case4 c hmore i c' hitem hless is ending hitems ih =>
    rw [items_of_item hmore hitem]
    exact ih ((honest_item h).of_ok hitem)

/-- A message is a header, and the payload of which the header tells the length. -/
theorem ChannelAccess.honest_message (h : c.In layer given) :
    Honest layer given (fun r => r.2.In layer given) (message c) := by
  -- The header is one read and the body another, each honest where it starts.
  unfold message
  split
  · rename_i hread
    exact (h.honest_take _).of_error hread
  · rename_i header c₁ hread
    have h₁ : c₁.In layer given := (h.honest_take _).of_ok hread
    dsimp only
    split
    · split
      · rename_i hread
        exact (h₁.honest_take _).of_error hread
      · rename_i hread
        exact (h₁.honest_take _).of_ok hread
    · exact h₁

/-- By the recursion over the messages, as for items. -/
theorem ChannelAccess.passesEnd_messages (h : c.In layer given) :
    ∀ e ∈ (messages c).2.error?, e.PassesEnd layer given := by
  induction c using messages.induct with
  -- Induction on the scan: the cursor stays in the layer from message to message.
  | case1 c hend =>
    rw [messages_of_atEnd hend]
    rintro _ ⟨⟩
  | case2 c hmore e hmessage =>
    rw [messages_of_error hmore hmessage]
    rintro e' ⟨⟩
    exact (honest_message h).of_error hmessage
  | case3 c hmore c' hmessage =>
    rw [messages_of_foreign hmore hmessage]
    rintro _ ⟨⟩
  | case4 c hmore m c' hmessage hless ms ending hmessages ih =>
    rw [messages_of_message hmore hmessage]
    exact ih ((honest_message h).of_ok hmessage)

end Loops

/-! ### Bodies of datagrams -/

theorem NetBios.passesEnd_scan (body : Bytes) (s : Sighting) :
    ∀ e ∈ (scan body s).error, e.PassesEnd "netbios" body := by
  unfold scan
  split
  · rename_i hread
    rintro e' ⟨⟩
    exact (honest_firstName body).of_error hread
  · exact nofun
  · exact nofun
  · unfold apply
    split
    · exact nofun
    · split <;> exact nofun

theorem ChannelAccess.passesEnd_scan (body : Bytes) (s : Sighting) :
    ∀ e ∈ (scan body s).error, e.PassesEnd "epics-ca" body := by
  rw [scan, refine_error]
  exact passesEnd_messages (Cursor.in_start "epics-ca" body)

namespace Dhcp

/-- A body is a message of DHCP, and among its complete items there is a host name that is longer
    than a record keeps. -/
def HasLongHostName (body : Bytes) : Prop :=
  ∃ m : Message, m.encode = body ∧ ∃ value, .option 12 value ∈ m.items ∧ 253 < value.length

/-- The error of a host name that is too long. -/
def TooLong (e : DecodeError) : Prop :=
  ∃ length, e = .fieldTooLong "dhcp hostname" length 253 ∧ 253 < length

/-- A field that is too long is no read that passes the end. -/
theorem not_passesEnd_of_tooLong {e : DecodeError} (h : TooLong e) (layer : String)
    (given : Bytes) : ¬e.PassesEnd layer given := by
  obtain ⟨length, rfl, -⟩ := h
  exact id

/-- Of the errors of items, the one about a host name comes first, wherever the items end. -/
theorem error_refine_cases (ending : Ending) (is : List Item) (s : Sighting) :
    (∃ e, (refine ending is s).error = some e ∧ TooLong e ∧
      ∃ value, .option 12 value ∈ is ∧ 253 < value.length) ∨
    (refine ending is s).error = ending.error? ∧
      ∀ value, .option 12 value ∈ is → ¬253 < value.length := by
  rw [refine_error]
  -- The first item whose host name is too long decides the error; without one it is that of the
  -- tail.
  cases hfirst : is.findSome? Item.tooLong? with
  | some length =>
    obtain ⟨i, hi, hlong⟩ := List.exists_of_findSome?_eq_some hfirst
    cases i with
    | pad => cases hlong
    | option code value =>
      rw [Item.tooLong?] at hlong
      split at hlong
      · rename_i h
        obtain ⟨rfl, hlength⟩ := h
        obtain rfl := Option.some.inj hlong
        exact .inl ⟨_, rfl, ⟨_, rfl, hlength⟩, value, hi, hlength⟩
      · cases hlong
  | none =>
    refine .inr ⟨rfl, fun value hi hlength => ?_⟩
    -- No item is too long, so a long host name would be found first.
    have hnone := List.findSome?_eq_none_iff.1 hfirst _ hi
    rw [Item.tooLong?, if_pos ⟨rfl, hlength⟩] at hnone
    cases hnone

/-- A body whose header and cookie can be read is a message. -/
theorem exists_message_of_cookie {body : Bytes} {c c' : Cursor}
    (hheader : (Cursor.start "dhcp" body).skip headerLength = .ok c)
    (hcookie : c.take magicCookie.length = .ok (magicCookie, c')) :
    ∃ m : Message, m.encode = body := by
  obtain ⟨hlength, rfl⟩ := Cursor.skip_eq_ok_iff.1 hheader
  obtain ⟨-, hbytes, -⟩ := Cursor.take_eq_ok_iff.1 hcookie
  refine ((existsUnique_message body).2 ⟨hlength, ?_⟩).exists
  rw [hbytes]
  exact List.take_prefix _ _

/-- What is left of a message after its items is no host name. -/
theorem Tail.not_tooLong (tail : Tail) (offset : Nat) : ∀ e ∈ tail.error? offset, ¬TooLong e := by
  unfold error?
  split
  · rintro e ⟨⟩ ⟨_, he, -⟩
    cases he
  · rintro e ⟨⟩ ⟨_, he, -⟩
    cases he
  · exact nofun

/-- A body is read as far as the items, and then its items are read. -/
theorem error_scan_cases (body : Bytes) (s : Sighting) :
    (∀ e ∈ (scan body s).error, e.PassesEnd "dhcp" body) ∨
      (∃ m : Message, m.encode = body) ∧ ∃ e, (scan body s).error = some e ∧ TooLong e := by
  unfold scan
  simp only
  split
  · rename_i hread
    -- The header is cut off, so the error is about the end of the body.
    refine .inl ?_
    rintro e' ⟨⟩
    exact ((Cursor.in_start "dhcp" body).honest_skip _).of_error hread
  · rename_i c hheader
    have hc : c.In "dhcp" body := ((Cursor.in_start "dhcp" body).honest_skip _).of_ok hheader
    split
    · rename_i hread
      refine .inl ?_
      rintro e' ⟨⟩
      exact (hc.honest_take _).of_error hread
    · rename_i cookie c' hread
      have hc' : c'.In "dhcp" body := (hc.honest_take _).of_ok hread
      split
      · rename_i hcookie
        subst hcookie
        -- Behind the cookie every error is that of the first overlong host name or of the tail.
        rcases error_refine_cases (items c').2 (items c').1 { s with kind := .dhcp none } with
          ⟨e, he, hlong, -⟩ | ⟨he, -⟩
        · exact .inr ⟨exists_message_of_cookie hheader hread, e, he, hlong⟩
        · refine .inl ?_
          rw [he]
          exact passesEnd_items hc'
      · -- Without the cookie nothing more is read.
        exact .inl nofun

/-- The one other error is found in just those messages that have such a host name. -/
theorem tooLong_scan_iff (body : Bytes) (s : Sighting) :
    (∃ e ∈ (scan body s).error, TooLong e) ↔ HasLongHostName body := by
  constructor
  · rintro ⟨e, he, hlong⟩
    rcases error_scan_cases body s with hall | ⟨⟨m, rfl⟩, -⟩
    · -- An error about the end of the body is not one about a host name.
      exact absurd (hall e he) (not_passesEnd_of_tooLong hlong _ _)
    · -- The error is about an item, and then about a host name, or it is that of the tail.
      obtain ⟨ending, hending, hscan⟩ := scan_eq_refine m s
      rw [hscan] at he
      rcases error_refine_cases ending m.items { s with kind := .dhcp none } with
        ⟨-, -, -, hvalue⟩ | ⟨hsame, -⟩
      · exact ⟨m, rfl, hvalue⟩
      · rw [hsame, hending] at he
        exact absurd hlong (m.tail.not_tooLong _ e he)
  · rintro ⟨m, rfl, value, hvalue, hlength⟩
    obtain ⟨ending, -, hscan⟩ := scan_eq_refine m s
    rw [hscan]
    rcases error_refine_cases ending m.items { s with kind := .dhcp none } with
      ⟨e, he, hlong, -⟩ | ⟨-, hnone⟩
    · exact ⟨e, he, hlong⟩
    · exact absurd hlength (hnone value hvalue)

end Dhcp

end LanWatch
