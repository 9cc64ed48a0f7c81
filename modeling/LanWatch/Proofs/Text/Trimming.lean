import LanWatch.Text.Blank
import LanWatch.Text.Pieces
import Mathlib.Data.List.DropRight
import Mathlib.Data.List.TakeWhile

namespace LanWatch.Text

/-!
# Trimming and cutting

The blanks at the two ends of a text do not matter to a reader that cuts the text at its first
separator and trims the two sides. They can be taken away before the cut, after it, or both times.

* `cutAt?_append`, `cutAt?_eq_none_iff` — a text is cut at its first separator, if it has one;
* `trimChars_append_cons` — around a character that is no blank, each side is trimmed by itself;
* `trimChars_dropWhile`, `trimChars_dropEndWhile` — what is trimmed at one end first is trimmed to
  the same text;
* `mem_dropEndWhile_iff` — a character that stays is there exactly if it was;
* `head?_trimChars` — the first character that is no blank comes first.
-/

/-! ### Cutting -/

section Cutting

variable {sep : Char}

/-- A text is cut at the first separator, however many follow. -/
theorem cutAt?_append {l : List Char} (h : sep ∉ l) (r : List Char) :
    cutAt? sep (l ++ sep :: r) = some (l, r) := by
  induction l with
  | nil => simp [cutAt?]
  | cons c l ih =>
    rw [List.mem_cons, not_or] at h
    have hc : ¬c = sep := fun e => h.1 e.symm
    rw [List.cons_append, cutAt?, if_neg hc, ih h.2]
    rfl

/-- A text cannot be cut exactly if there is no separator in it. -/
theorem cutAt?_eq_none_iff {cs : List Char} : cutAt? sep cs = none ↔ sep ∉ cs := by
  constructor
  · intro hcut hmem
    obtain ⟨l, r, rfl, hl⟩ := List.eq_append_cons_of_mem hmem
    rw [cutAt?_append hl] at hcut
    cases hcut
  · intro hmem
    cases hcut : cutAt? sep cs with
    | none => rfl
    | some sides =>
      obtain ⟨l, r⟩ := sides
      have hcs := (cutAt?_eq_some hcut).1
      exact absurd (by simp [hcs]) hmem

end Cutting

/-! ### Dropping at one end -/

section Dropping

variable {p : Char → Bool} {c : Char}

/-- Dropping at the front stops at a character that stays. -/
theorem dropWhile_append_cons (hc : p c = false) (l r : List Char) :
    (l ++ c :: r).dropWhile p = l.dropWhile p ++ c :: r := by
  induction l with
  | nil => simp [hc]
  | cons d l ih => by_cases hd : p d = true <;> simp [hd, ih]

/-- Dropping at the end is dropping at the front of the reversed text, and stops there as well. -/
theorem dropEndWhile_append_cons (hc : p c = false) (l r : List Char) :
    dropEndWhile p (l ++ c :: r) = l ++ c :: dropEndWhile p r := by
  have hreverse : (l ++ c :: r).reverse = r.reverse ++ c :: l.reverse := by simp
  rw [dropEndWhile, hreverse, dropWhile_append_cons hc]
  simp [dropEndWhile]

/-- Characters that are not dropped stay. -/
theorem mem_dropEndWhile_iff (hc : p c = false) {cs : List Char} :
    c ∈ dropEndWhile p cs ↔ c ∈ cs := by
  constructor
  · intro h
    rw [dropEndWhile, List.mem_reverse] at h
    exact List.mem_reverse.1 ((List.dropWhile_sublist p).mem h)
  · intro h
    -- What is dropped at the end stands behind the last character that stays.
    obtain ⟨l, r, rfl⟩ := List.append_of_mem h
    simp [dropEndWhile_append_cons hc]

end Dropping

/-! ### Trimming -/

/-- Trimming stops at characters that are not blank, from either side. -/
theorem trimChars_append_cons {c : Char} (hc : isBlank c = false) (l r : List Char) :
    trimChars (l ++ c :: r) = l.dropWhile isBlank ++ c :: dropEndWhile isBlank r := by
  rw [trimChars, dropWhile_append_cons hc, dropEndWhile_append_cons hc]

/-- Trimming adds nothing. -/
theorem mem_of_mem_trimChars {cs : List Char} {c : Char} (h : c ∈ trimChars cs) : c ∈ cs := by
  rw [trimChars, dropEndWhile, List.mem_reverse] at h
  have hend := (List.dropWhile_sublist _).mem h
  exact (List.dropWhile_sublist _).mem (List.mem_reverse.1 hend)

/-- Nothing is left of a text of blanks. -/
theorem trimChars_eq_nil {cs : List Char} (h : ∀ c ∈ cs, isBlank c = true) : trimChars cs = [] := by
  rw [trimChars, List.dropWhile_eq_nil_iff.2 h]
  rfl

/-- A text either is all blanks or is split by a character that is none. -/
theorem blank_or_split (cs : List Char) :
    (∀ c ∈ cs, isBlank c = true) ∨ ∃ l c r, isBlank c = false ∧ cs = l ++ c :: r := by
  by_cases hall : ∀ c ∈ cs, isBlank c = true
  · exact .inl hall
  · push Not at hall
    obtain ⟨c, hmem, hc⟩ := hall
    obtain ⟨l, r, hcs⟩ := List.append_of_mem hmem
    exact .inr ⟨l, c, r, by simpa using hc, hcs⟩

/-- Blanks in front make no difference. -/
theorem trimChars_dropWhile (cs : List Char) :
    trimChars (cs.dropWhile isBlank) = trimChars cs := by
  rw [trimChars, List.dropWhile_idempotent, trimChars]

/-- Trimming works at both ends separately, as there is a character between them that stays. -/
theorem trimChars_dropEndWhile (cs : List Char) :
    trimChars (dropEndWhile isBlank cs) = trimChars cs := by
  rcases blank_or_split cs with hall | ⟨l, c, r, hc, rfl⟩
  · have hnone : dropEndWhile isBlank cs = [] := by
      have hreverse : cs.reverse.dropWhile isBlank = [] :=
        List.dropWhile_eq_nil_iff.2 fun c hc => hall c (List.mem_reverse.1 hc)
      rw [dropEndWhile, hreverse]
      rfl
    rw [hnone, trimChars_eq_nil hall]
    rfl
  · rw [dropEndWhile_append_cons hc, trimChars_append_cons hc, trimChars_append_cons hc]
    simp only [dropEndWhile, List.reverse_reverse, List.dropWhile_idempotent]

/-- The first character that is left is the first one that is not blank. -/
theorem head?_trimChars (cs : List Char) :
    (trimChars cs).head? = cs.find? fun c => !isBlank c := by
  rw [List.find?_not_eq_head?_dropWhile]
  rcases blank_or_split cs with hall | ⟨l, c, r, hc, rfl⟩
  · rw [trimChars_eq_nil hall, List.dropWhile_eq_nil_iff.2 hall]
  · rw [trimChars_append_cons hc, dropWhile_append_cons hc]
    cases l.dropWhile isBlank <;> rfl

end LanWatch.Text
