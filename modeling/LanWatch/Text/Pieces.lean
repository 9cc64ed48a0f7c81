namespace LanWatch.Text

/-!
# Pieces

Cutting a text at a separating character.

* `pieces` — everything between the separators, one piece more than there are separators;
* `cutAt?` — what stands before and after the first separator;
* `join` — pieces put together with a separator between them.
-/

/-- The pieces between the separators. -/
def pieces (sep : Char) : List Char → List (List Char)
  | [] => [[]]
  | c :: cs =>
    if c = sep then [] :: pieces sep cs
    else match pieces sep cs with
      | [] => [[c]]
      | p :: ps => (c :: p) :: ps

/-- There is one piece more than there are separators. -/
theorem length_pieces (sep : Char) (cs : List Char) :
    (pieces sep cs).length = cs.count sep + 1 := by
  induction cs with
  | nil => rfl
  | cons c cs ih =>
    by_cases h : c = sep
    · simp [pieces, h, ih]
    · cases hp : pieces sep cs with
      | nil => simp [hp] at ih
      | cons p ps =>
        rw [hp] at ih
        simpa [pieces, h, hp] using ih

/-- No piece holds a separator. -/
theorem not_mem_of_mem_pieces {sep : Char} {cs : List Char} :
    ∀ p ∈ pieces sep cs, sep ∉ p := by
  induction cs with
  | nil => simp [pieces]
  | cons c cs ih =>
    by_cases h : c = sep
    · simpa [pieces, h] using ih
    · have h' : ¬sep = c := fun e => h e.symm
      cases hp : pieces sep cs with
      | nil => simp [pieces, h, hp, h']
      | cons p ps =>
        rw [hp] at ih
        simpa [pieces, h, hp, h'] using ih

/-- What stands before and after the first separator, if there is one. -/
def cutAt? (sep : Char) : List Char → Option (List Char × List Char)
  | [] => none
  | c :: cs => if c = sep then some ([], cs) else (cutAt? sep cs).map fun (l, r) => (c :: l, r)

/-- A text with no separator cannot be cut; any other is put together again by the separator. -/
theorem cutAt?_eq_some {sep : Char} {cs l r : List Char} (h : cutAt? sep cs = some (l, r)) :
    cs = l ++ sep :: r ∧ sep ∉ l := by
  induction cs generalizing l with
  | nil => simp [cutAt?] at h
  | cons c cs ih =>
    by_cases hc : c = sep
    · simp only [cutAt?, hc, if_true, Option.some.injEq, Prod.mk.injEq] at h
      obtain ⟨rfl, rfl⟩ := h
      simp [hc]
    · simp only [cutAt?, hc, if_false, Option.map_eq_some_iff] at h
      obtain ⟨⟨l', r'⟩, hcut, heq⟩ := h
      simp only [Prod.mk.injEq] at heq
      obtain ⟨rfl, rfl⟩ := heq
      obtain ⟨h₁, h₂⟩ := ih hcut
      have hc' : ¬sep = c := fun e => hc e.symm
      exact ⟨by rw [h₁]; rfl, by simp [h₂, hc']⟩

/-- Texts put together with `sep` between them. -/
def join (sep : String) : List String → String
  | [] => ""
  | [s] => s
  | s :: ss => s ++ sep ++ join sep ss

example : pieces ',' "a,,b".toList = [['a'], [], ['b']] := by decide
example : join ", " ["a", "b", "c"] = "a, b, c" := by decide

end LanWatch.Text
