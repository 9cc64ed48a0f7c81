import LanWatch.Proofs.Text.Characters
import LanWatch.Report.Upsert
import LanWatch.Sql.Token

namespace LanWatch

/-!
# The words of an upsert statement

A statement that is written by `Upsert.render` is read back word by word. Above all that holds of
its texts, whatever they say: what is escaped in writing is what would otherwise close a text, and
reading takes it back.

* `Sql.tokensFrom?_append` — a separator keeps what stands before it apart from what follows;
* `Sql.tokensFrom?_escaped` — a text is read back as it was before it was escaped;
* `SqlValue.tokens`, `SqlUpdate.tokens`, `Upsert.tokens` — the words of each part of a statement;
* `Upsert.tokens?_render` — these are the words that are read.
-/

namespace Sql

variable {st : State} {c d : Char} {cs ds : List Char} {ts us : List Token}

/-! ### Separators -/

/-- A character that separates tokens belongs neither to a word nor to a number, and opens no
    literal. -/
theorem not_inWord_of_separates (h : separates c = true) :
    inWord c = false ∧ inNumber c = false ∧ c ≠ quote := by
  simp only [separates, isMark, Char.isWhitespace, Bool.or_eq_true, decide_eq_true_eq, beq_iff_eq,
    or_assoc] at h
  rcases h with rfl | rfl | rfl | rfl | rfl | rfl | rfl | rfl | rfl | rfl <;> decide

/-- A separator belongs to no word that may end before it. -/
theorem continue?_of_separates (hended : st.ended? = some ts) (hc : separates c = true) :
    st.continue? c = none := by
  obtain ⟨hword, hnumber, hquote⟩ := not_inWord_of_separates hc
  cases st with
  | between => rfl
  | word cs => simp [State.continue?, hword]
  | number cs => simp [State.continue?, hnumber]
  | closing cs => simp [State.continue?, hquote]
  | sign => cases hended
  | inside cs => cases hended
  | escaped cs => cases hended

/-- A token that has ended is given out, and reading goes on between tokens. -/
theorem tokensFrom?_of_ended (hended : st.ended? = some ts) (hc : separates c = true) :
    tokensFrom? st (c :: cs) = (tokensFrom? .between (c :: cs)).map (ts ++ ·) := by
  have hbetween : State.between.ended? = some [] := rfl
  rw [tokensFrom?, tokensFrom?, continue?_of_separates hended hc,
    continue?_of_separates hbetween hc]
  simp only [hc, or_true, if_true, hended, hbetween]
  cases begin? c with
  | none => rfl
  | some r => simp [Option.map_map, Function.comp_def]

/-- What starts with a separator is read apart from what stands before it. By induction on the
    characters before it, from whatever state they are read. -/
theorem tokensFrom?_append (hcs : tokensFrom? st cs = some ts) (hd : separates d = true) :
    tokensFrom? st (cs ++ d :: ds) = (tokensFrom? .between (d :: ds)).map (ts ++ ·) := by
  induction cs generalizing st ts with
  | nil => exact tokensFrom?_of_ended hcs hd
  | cons c cs ih =>
    rw [tokensFrom?] at hcs
    rw [List.cons_append, tokensFrom?]
    cases hnext : st.continue? c with
    | some st' =>
      simp only [hnext] at hcs ⊢
      exact ih hcs
    | none =>
      simp only [hnext] at hcs ⊢
      -- The character does not go on with the word before it, so a new one begins there, in both
      -- texts alike.
      split at hcs
      · rename_i hapart
        rw [if_pos hapart]
        cases hended : st.ended? with
        | none => simp [hended] at hcs
        | some before =>
          cases hbegin : begin? c with
          | none => simp [hended, hbegin] at hcs
          | some r =>
            simp only [hended, hbegin, Option.map_eq_some_iff] at hcs ⊢
            obtain ⟨after, hrest, rfl⟩ := hcs
            rw [ih hrest, Option.map_map]
            simp [Function.comp_def]
      · cases hcs

/-- What a character between words begins is read on. -/
theorem tokensFrom?_begin (hc : begin? c = some (ts, st)) (cs : List Char) :
    tokensFrom? .between (c :: cs) = (tokensFrom? st cs).map (ts ++ ·) := by
  rw [tokensFrom?]
  simp [State.continue?, State.ended?, hc]

/-- A blank between tokens is passed over. -/
theorem tokensFrom?_blank (cs : List Char) :
    tokensFrom? .between (' ' :: cs) = tokensFrom? .between cs := by
  have hbegin : begin? ' ' = some ([], .between) := by decide
  rw [tokensFrom?_begin hbegin]
  simp

/-- A mark is a token of its own. -/
theorem tokensFrom?_mark (hc : isMark c = true) (cs : List Char) :
    tokensFrom? .between (c :: cs) = (tokensFrom? .between cs).map (.mark c :: ·) := by
  have hvisible : c.isWhitespace = false := by
    simp only [isMark, Bool.or_eq_true, beq_iff_eq, or_assoc] at hc
    rcases hc with rfl | rfl | rfl | rfl | rfl | rfl <;> decide
  have hbegin : begin? c = some ([.mark c], .between) := by simp [begin?, hvisible, hc]
  rw [tokensFrom?_begin hbegin]
  rfl

/-! ### Words, numbers and texts -/

/-- The rest of a word, by induction on it. -/
theorem tokensFrom?_word (h : ∀ c ∈ cs, inWord c = true) (begun : List Char) :
    tokensFrom? (.word begun) cs = some [.ofWord (begun ++ cs)] := by
  induction cs generalizing begun with
  | nil => simp [tokensFrom?, State.ended?]
  | cons c cs ih =>
    have hc : inWord c = true := h c (by simp)
    simp only [tokensFrom?, State.continue?, hc, if_true]
    rw [ih (fun d hd => h d (by simp [hd]))]
    simp

/-- The rest of a number, by induction on it. -/
theorem tokensFrom?_number (h : ∀ c ∈ cs, inNumber c = true) (begun : List Char) :
    tokensFrom? (.number begun) cs = some [.literal (.number (String.ofList (begun ++ cs)))] := by
  induction cs generalizing begun with
  | nil => simp [tokensFrom?, State.ended?]
  | cons c cs ih =>
    have hc : inNumber c = true := h c (by simp)
    simp only [tokensFrom?, State.continue?, hc, if_true]
    rw [ih (fun d hd => h d (by simp [hd]))]
    simp

/-- What is written for a text is read back as the text, whatever was read of it before. By
    induction on the text: a backslash and a quote follow a backslash, all other characters stand
    for themselves. -/
theorem tokensFrom?_escaped (begun cs : List Char) :
    tokensFrom? (.inside begun) (cs.flatMap SqlValue.escapeChar ++ [quote]) =
      some [.literal (.text (String.ofList (begun ++ cs)))] := by
  induction cs generalizing begun with
  | nil => simp [tokensFrom?, State.continue?, State.ended?, quote]
  | cons c cs ih =>
    -- A backslash and a quote are each written with a backslash before them, which the reader drops
    -- again.
    by_cases hbackslash : c = '\\'
    · subst hbackslash
      simp [SqlValue.escapeChar, tokensFrom?, State.continue?, unescape, ih]
    by_cases hquote : c = '\x27'
    · subst hquote
      simp [SqlValue.escapeChar, tokensFrom?, State.continue?, unescape, ih]
    -- Any other character is written and read as it is.
    have hplain : SqlValue.escapeChar c = [c] := by simp [SqlValue.escapeChar, hbackslash, hquote]
    have hnext : (State.inside begun).continue? c = some (.inside (begun ++ [c])) := by
      simp [State.continue?, quote, hbackslash, hquote]
    rw [List.flatMap_cons, hplain, List.singleton_append, List.cons_append, tokensFrom?, hnext]
    simp only
    rw [ih, List.append_assoc, List.singleton_append]

/-- What was quoted is read back as the text that it was. -/
theorem tokensFrom?_quote (s : String) :
    tokensFrom? .between (SqlValue.quote s).toList = some [.literal (.text s)] := by
  have hwritten : (SqlValue.quote s).toList =
      quote :: (s.toList.flatMap SqlValue.escapeChar ++ [quote]) := by
    simp [SqlValue.quote, quote]
  have hopens : begin? quote = some ([], .inside []) := by decide
  rw [hwritten, tokensFrom?_begin hopens, tokensFrom?_escaped]
  simp

/-- A letter begins a word, and a digit begins a number. -/
theorem begin?_of_inWord (hc : inWord c = true) :
    begin? c = some ([], if c.isDigit then .number [c] else .word [c]) := by
  have hjoins : separates c = false := by
    -- A character that separates tokens is none of a word, and neither is a quote nor a minus.
    cases hsep : separates c with
    | false => rfl
    | true =>
      rw [(not_inWord_of_separates hsep).1] at hc
      cases hc
  have hquote : c ≠ quote := by
    rintro rfl
    revert hc
    decide
  have hminus : c ≠ '-' := by
    rintro rfl
    revert hc
    decide
  simp only [separates, Bool.or_eq_false_iff] at hjoins
  cases hdigit : c.isDigit <;> simp [begin?, hjoins, hquote, hminus, hdigit, hc]

/-- A text that is read as one name: it does not start with a digit, and is not read as a value. -/
def isName (s : String) : Bool :=
  match s.toList with
  | [] => false
  | c :: cs => !c.isDigit && (c :: cs).all inWord && s != "NULL"

theorem tokensFrom?_name {s : String} (h : isName s = true) :
    tokensFrom? .between s.toList = some [.word s] := by
  unfold isName at h
  cases hs : s.toList with
  | nil => simp [hs] at h
  | cons c cs =>
    simp only [hs, Bool.and_eq_true, Bool.not_eq_true', List.all_eq_true, bne_iff_ne] at h
    obtain ⟨⟨hletter, hword⟩, hvalue⟩ := h
    have hbegin := begin?_of_inWord (hword c List.mem_cons_self)
    have hrest := tokensFrom?_word (fun d hd => hword d (List.mem_cons_of_mem c hd)) [c]
    have hof : Token.ofWord (c :: cs) = .word s := by
      rw [← hs, Token.ofWord, String.ofList_toList, if_neg hvalue]
    rw [hletter] at hbegin
    rw [tokensFrom?_begin hbegin]
    simp [hrest, hof]

/-- A digit may stand in a word, though not at its beginning. -/
theorem inWord_of_isDigit (hc : c.isDigit = true) : inWord c = true := by
  simp [inWord, Char.isAlphanum, hc]

/-- A digit begins a number, which takes in all that may stand in one. -/
theorem tokensFrom?_numeral (hc : c.isDigit = true) (hcs : ∀ d ∈ cs, inNumber d = true) :
    tokensFrom? .between (c :: cs) = some [.literal (.number (String.ofList (c :: cs)))] := by
  have hbegin := begin?_of_inWord (inWord_of_isDigit hc)
  rw [hc] at hbegin
  rw [tokensFrom?_begin hbegin]
  simp [tokensFrom?_number hcs]

/-- A sign belongs to the number if a digit follows it. -/
theorem tokensFrom?_negative (hc : c.isDigit = true) (hcs : ∀ d ∈ cs, inNumber d = true) :
    tokensFrom? .between ('-' :: c :: cs) =
      some [.literal (.number (String.ofList ('-' :: c :: cs)))] := by
  have hsign : begin? '-' = some ([], .sign) := by decide
  have hnext : State.sign.continue? c = some (.number ['-', c]) := by simp [State.continue?, hc]
  rw [tokensFrom?_begin hsign, tokensFrom?, hnext]
  simp [tokensFrom?_number hcs]

/-- A number in decimal is one token. -/
theorem tokensFrom?_decimal (n : Nat) :
    tokensFrom? .between (Text.decimal n).toList = some [.literal (.number (Text.decimal n))] := by
  have hdigit := Text.isDigit_of_mem_decimalDigits n
  rw [Text.decimal, String.toList_ofList]
  cases hn : Text.decimalDigits n with
  | nil => exact absurd hn (Text.decimalDigits_ne_nil n)
  | cons c cs =>
    rw [hn] at hdigit
    refine tokensFrom?_numeral (hdigit c (by simp)) fun d hd => ?_
    simp [inNumber, hdigit d (by simp [hd])]

/-- A time with its fraction is one token, with or without a sign. -/
theorem tokensFrom?_timestamp (t : Timestamp) :
    tokensFrom? .between t.text.toList = some [.literal (.number t.text)] := by
  cases hn : Text.decimalDigits t.secs.toInt.natAbs with
  | nil => exact absurd hn (Text.decimalDigits_ne_nil _)
  | cons c cs =>
    -- The digits before the point, the point and those behind it are all read as one number.
    have hdigit := Text.isDigit_of_mem_decimalDigits t.secs.toInt.natAbs
    rw [hn] at hdigit
    have hc : c.isDigit = true := hdigit c (by simp)
    have hrest : ∀ d ∈ cs ++ '.' :: (Text.paddedDecimal 6 t.micros.toNat).toList,
        inNumber d = true := by
      intro d hd
      simp only [List.mem_append, List.mem_cons] at hd
      rcases hd with hd | rfl | hd
      · simp [inNumber, hdigit d (by simp [hd])]
      · decide
      · simp [inNumber, Text.isDigit_of_mem_paddedDecimal _ _ d hd]
    have hof : String.ofList t.text.toList = t.text := String.ofList_toList
    rw [← hof]
    -- A minus sign belongs to the number only where a digit follows it.
    by_cases hneg : t.secs.toInt < 0
    · have htext : t.text.toList =
          '-' :: c :: (cs ++ '.' :: (Text.paddedDecimal 6 t.micros.toNat).toList) := by
        simp [Timestamp.text, Text.signedDecimal, hneg, Text.decimal, hn]
      rw [htext, String.toList_ofList, tokensFrom?_negative hc hrest]
    · have htext : t.text.toList =
          c :: (cs ++ '.' :: (Text.paddedDecimal 6 t.micros.toNat).toList) := by
        simp [Timestamp.text, Text.signedDecimal, hneg, Text.decimal, hn]
      rw [htext, String.toList_ofList, tokensFrom?_numeral hc hrest]

/-- Texts that are put together with commas between them are read one after another. By induction
    on the list of them. -/
theorem tokensFrom?_join {α : Type} (write : α → String) (words : α → List Token) {as : List α}
    (hread : ∀ a ∈ as, tokensFrom? .between (write a).toList = some (words a)) (hne : as ≠ []) :
    tokensFrom? .between (Text.join ", " (as.map write)).toList =
      some (List.intercalate [.mark ','] (as.map words)) := by
  -- A comma is a mark of its own, so the parts are read apart.
  have hcomma : isMark ',' = true := by decide
  induction as with
  | nil => exact absurd rfl hne
  | cons a as ih =>
    have ha := hread a (by simp)
    cases as with
    | nil => simpa [Text.join] using ha
    | cons b bs =>
      have hrest := ih (fun b hb => hread b (by simp [hb])) (by simp)
      have hwritten : (Text.join ", " ((a :: b :: bs).map write)).toList =
          (write a).toList ++ ',' :: ' ' :: (Text.join ", " ((b :: bs).map write)).toList := by
        rw [List.map_cons, Text.join_cons_of_ne_nil _ _ (by simp)]
        simp
      rw [hwritten, tokensFrom?_append ha (by decide), tokensFrom?_mark hcomma,
        tokensFrom?_blank, hrest]
      simp

end Sql

/-! ### Statements -/

open Sql

/-- The words of a value. -/
def SqlValue.tokens : SqlValue → List Token
  | text s => [.literal (.text s)]
  | number n => [.literal (.number (Text.decimal n))]
  | null => [.literal .null]
  | unixTime t => [.word "FROM_UNIXTIME", .mark '(', .literal (.number t.text), .mark ')']

/-- A value is rendered as its tokens, one case for each kind of value. -/
theorem SqlValue.tokensFrom?_render (v : SqlValue) :
    tokensFrom? .between v.render.toList = some v.tokens := by
  cases v with
  | text s => exact tokensFrom?_quote s
  | number n => exact tokensFrom?_decimal n
  | null => decide
  | unixTime t =>
    have hopen : isMark '(' = true := by decide
    have hclose : tokensFrom? .between [')'] = some [.mark ')'] := by decide
    have hwritten : (render (unixTime t)).toList =
        "FROM_UNIXTIME".toList ++ '(' :: (t.text.toList ++ [')']) := by
      simp [render]
    rw [hwritten, tokensFrom?_append (tokensFrom?_name (by decide)) (by decide),
      tokensFrom?_mark hopen, tokensFrom?_append (tokensFrom?_timestamp t) (by decide), hclose]
    rfl

/-- The column that an update changes. -/
def SqlUpdate.column : SqlUpdate → String
  | assign column _ => column
  | addBits column _ => column

/-- The words of an update. -/
def SqlUpdate.tokens : SqlUpdate → List Token
  | assign column value => .word column :: .mark '=' :: value.tokens
  | addBits column bits =>
    [.word column, .mark '=', .word column, .mark '|', .literal (.number (Text.decimal bits))]

/-- An assignment is rendered as its tokens. -/
theorem SqlUpdate.tokensFrom?_render (a : SqlUpdate) (h : isName a.column = true) :
    tokensFrom? .between a.render.toList = some a.tokens := by
  -- The two marks of an update; the column is the same word on both sides of the second form.
  have hequals : isMark '=' = true := by decide
  have hbar : isMark '|' = true := by decide
  cases a with
  | assign column value =>
    have hcolumn : tokensFrom? .between column.toList = some [.word column] := tokensFrom?_name h
    have hwritten : (render (assign column value)).toList =
        column.toList ++ ' ' :: '=' :: ' ' :: value.render.toList := by
      simp [render]
    rw [hwritten, tokensFrom?_append hcolumn (by decide), tokensFrom?_blank,
      tokensFrom?_mark hequals, tokensFrom?_blank, value.tokensFrom?_render]
    rfl
  | addBits column bits =>
    have hcolumn : tokensFrom? .between column.toList = some [.word column] := tokensFrom?_name h
    have hwritten : (render (addBits column bits)).toList =
        column.toList ++ ' ' :: '=' :: ' ' ::
          (column.toList ++ ' ' :: '|' :: ' ' :: (Text.decimal bits).toList) := by
      simp [render]
    rw [hwritten, tokensFrom?_append hcolumn (by decide), tokensFrom?_blank,
      tokensFrom?_mark hequals, tokensFrom?_blank, tokensFrom?_append hcolumn (by decide),
      tokensFrom?_blank, tokensFrom?_mark hbar, tokensFrom?_blank, tokensFrom?_decimal]
    rfl

namespace Upsert

/-- The words of a statement up to its end. -/
def body (u : Upsert) : List Token :=
  [.word "INSERT", .word "INTO", .word "arpdata", .mark '('] ++
    (List.intercalate [.mark ','] (u.row.map fun field => [.word field.1]) ++
      ([.mark ')', .word "VALUES", .mark '('] ++
        (List.intercalate [.mark ','] (u.row.map fun field => field.2.tokens) ++
          ([.mark ')', .word "ON", .word "DUPLICATE", .word "KEY", .word "UPDATE"] ++
            List.intercalate [.mark ','] (u.updates.map SqlUpdate.tokens)))))

/-- The words of a statement. -/
def tokens (u : Upsert) : List Token :=
  u.body ++ [.mark ';']

/-- A statement is read as its words, since each of its parts is and separators keep the parts
    apart. -/
theorem tokens?_render {u : Upsert} (hrow : u.row ≠ []) (hupdates : u.updates ≠ [])
    (hcolumns : ∀ field ∈ u.row, isName field.1 = true)
    (hchanged : ∀ a ∈ u.updates, isName a.column = true) : tokens? u.render = some u.tokens := by
  -- What stands between the three lists is the same in every statement and is read once and for
  -- all.
  have hopen : isMark '(' = true := by decide
  have hclose : isMark ')' = true := by decide
  have hinsert : tokensFrom? .between "INSERT INTO arpdata".toList =
      some [.word "INSERT", .word "INTO", .word "arpdata"] := by decide
  have hvalues : tokensFrom? .between "VALUES".toList = some [.word "VALUES"] := by decide
  have hduplicate : tokensFrom? .between "ON DUPLICATE KEY UPDATE".toList =
      some [.word "ON", .word "DUPLICATE", .word "KEY", .word "UPDATE"] := by decide
  have hend : tokensFrom? .between [';'] = some [.mark ';'] := by decide
  -- Each of the three lists is read part by part.
  have hlisted := tokensFrom?_join (fun field : String × SqlValue => field.1)
    (fun field => [.word field.1])
    (fun field hfield => tokensFrom?_name (hcolumns field hfield)) hrow
  have hgiven := tokensFrom?_join (fun field : String × SqlValue => field.2.render)
    (fun field => field.2.tokens) (fun field _ => field.2.tokensFrom?_render) hrow
  have hchanges := tokensFrom?_join SqlUpdate.render SqlUpdate.tokens
    (fun a ha => a.tokensFrom?_render (hchanged a ha)) hupdates
  have hrender : u.render =
      "INSERT INTO arpdata (" ++ Text.join ", " (u.row.map fun field => field.1) ++ ") VALUES (" ++
        Text.join ", " (u.row.map fun field => field.2.render) ++ ") ON DUPLICATE KEY UPDATE " ++
          Text.join ", " (u.updates.map SqlUpdate.render) ++ ";" := rfl
  -- The statement is cut where one list ends and the next fixed part begins.
  have hwritten : u.render.toList =
      "INSERT INTO arpdata".toList ++ ' ' :: '(' ::
        ((Text.join ", " (u.row.map fun field => field.1)).toList ++ ')' :: ' ' ::
          ("VALUES".toList ++ ' ' :: '(' ::
            ((Text.join ", " (u.row.map fun field => field.2.render)).toList ++ ')' :: ' ' ::
              ("ON DUPLICATE KEY UPDATE".toList ++ ' ' ::
                ((Text.join ", " (u.updates.map SqlUpdate.render)).toList ++ [';']))))) := by
    simp [hrender]
  rw [tokens?, hwritten, tokensFrom?_append hinsert (by decide), tokensFrom?_blank,
    tokensFrom?_mark hopen, tokensFrom?_append hlisted (by decide), tokensFrom?_mark hclose,
    tokensFrom?_blank, tokensFrom?_append hvalues (by decide), tokensFrom?_blank,
    tokensFrom?_mark hopen, tokensFrom?_append hgiven (by decide), tokensFrom?_mark hclose,
    tokensFrom?_blank, tokensFrom?_append hduplicate (by decide), tokensFrom?_blank,
    tokensFrom?_append hchanges (by decide), hend]
  simp [tokens, body]

end Upsert

end LanWatch
