import LanWatch.Address
import LanWatch.Proofs.Text.Characters

namespace LanWatch

/-!
# Numbers and addresses are told apart by their texts

* `Text.decimalNumber?_decimalDigits` — a number is read back from its digits;
* `Text.hexByte_injective`, `MacAddr.text_injective` — different hardware addresses are written
  differently.
-/

namespace Text

/-- Digits are read one part after the other. -/
theorem numeralFrom?_append (base : Nat) (value? : Char → Option Nat) (acc : Nat)
    (cs ds : List Char) : numeralFrom? base value? acc (cs ++ ds) =
      (numeralFrom? base value? acc cs).bind fun n => numeralFrom? base value? n ds := by
  induction cs generalizing acc with
  | nil => rfl
  | cons c cs ih =>
    rw [List.cons_append, numeralFrom?, numeralFrom?]
    cases value? c with
    | none => rfl
    | some d => exact ih (acc * base + d)

/-- A digit is worth what it was written for. -/
theorem digitValue?_digitChar {d : Nat} (h : d < 10) : digitValue? (digitChar d) = some d := by
  have key : ∀ d < 10, digitValue? (digitChar d) = some d := by decide
  exact key d h

/-- The digits of a number are read as that number. -/
theorem numeralFrom?_decimalDigits (n : Nat) :
    numeralFrom? 10 digitValue? 0 (decimalDigits n) = some n := by
  induction n using decimalDigits.induct with
  | case1 n hsmall =>
    rw [decimalDigits, if_pos hsmall, numeralFrom?, digitValue?_digitChar hsmall]
    simp [numeralFrom?]
  | case2 n hlarge ih =>
    rw [decimalDigits, if_neg hlarge, numeralFrom?_append, ih, Option.bind_some, numeralFrom?,
      digitValue?_digitChar (by omega)]
    show some (n / 10 * 10 + n % 10) = some n
    congr 1
    omega

theorem decimalNumber?_decimalDigits (n : Nat) : decimalNumber? (decimalDigits n) = some n := by
  cases hdigits : decimalDigits n with
  | nil => exact absurd hdigits (decimalDigits_ne_nil n)
  | cons d ds =>
    show numeralFrom? 10 digitValue? 0 (d :: ds) = some n
    rw [← hdigits]
    exact numeralFrom?_decimalDigits n

/-- A number that was written in decimal is read as that number. -/
theorem decimalNumber?_decimal (n : Nat) : decimalNumber? (decimal n).toList = some n := by
  rw [decimal, String.toList_ofList]
  exact decimalNumber?_decimalDigits n

/-- Different numbers below sixteen have different digits. -/
theorem upperDigitChar_injective {d e : Nat} (hd : d < 16) (he : e < 16)
    (h : upperDigitChar d = upperDigitChar e) : d = e := by
  have key : ∀ d < 16, ∀ e < 16, upperDigitChar d = upperDigitChar e → d = e := by decide
  exact key d hd e he h

/-- A byte can be told from its two digits. -/
theorem hexByte_injective {a b : UInt8} (h : hexByte a = hexByte b) : a = b := by
  have ha : a.toNat < 256 := a.toNat_lt
  have hb : b.toNat < 256 := b.toNat_lt
  -- The two digits are the quotient and the remainder by sixteen.
  simp only [hexByte, List.cons.injEq, and_true] at h
  have hhigh := upperDigitChar_injective (by omega) (by omega) h.1
  have hlow := upperDigitChar_injective (by omega) (by omega) h.2
  exact UInt8.toNat_inj.1 (by omega)

/-- A byte takes two characters, so what follows it is what follows the other. -/
theorem hexByte_append_injective {a b : UInt8} {cs ds : List Char}
    (h : hexByte a ++ cs = hexByte b ++ ds) : a = b ∧ cs = ds := by
  obtain ⟨hbyte, hrest⟩ := List.append_inj h rfl
  exact ⟨hexByte_injective hbyte, hrest⟩

end Text

/-- A hardware address character by character. -/
theorem MacAddr.toList_text (m : MacAddr) : m.text.toList =
    Text.hexByte m.b0 ++ (':' :: Text.hexByte m.b1) ++ (':' :: Text.hexByte m.b2) ++
      (':' :: Text.hexByte m.b3) ++ (':' :: Text.hexByte m.b4) ++ (':' :: Text.hexByte m.b5) := by
  simp [text, bytes, Text.join, String.toList_append, String.toList_ofList]

/-- Byte after byte can be read off the text. -/
theorem MacAddr.text_injective {m n : MacAddr} (h : m.text = n.text) : m = n := by
  have hlist := congrArg String.toList h
  rw [toList_text, toList_text] at hlist
  simp only [List.append_assoc, List.cons_append] at hlist
  -- A colon stands before each byte but the first.
  obtain ⟨h0, hlist⟩ := Text.hexByte_append_injective hlist
  obtain ⟨h1, hlist⟩ := Text.hexByte_append_injective (List.tail_eq_of_cons_eq hlist)
  obtain ⟨h2, hlist⟩ := Text.hexByte_append_injective (List.tail_eq_of_cons_eq hlist)
  obtain ⟨h3, hlist⟩ := Text.hexByte_append_injective (List.tail_eq_of_cons_eq hlist)
  obtain ⟨h4, hlist⟩ := Text.hexByte_append_injective (List.tail_eq_of_cons_eq hlist)
  have h5 := Text.hexByte_injective (List.tail_eq_of_cons_eq hlist)
  obtain ⟨a0, a1, a2, a3, a4, a5⟩ := m
  obtain ⟨b0, b1, b2, b3, b4, b5⟩ := n
  simp only at h0 h1 h2 h3 h4 h5
  rw [h0, h1, h2, h3, h4, h5]

end LanWatch
