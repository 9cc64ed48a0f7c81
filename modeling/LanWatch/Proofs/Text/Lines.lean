import LanWatch.Text.Pieces

namespace LanWatch.Text

/-!
# Lines

Texts that are written one after another, each followed by a newline, are read back line by line as
long as none of them holds a newline itself. One that does takes more than one line.

* `lines`, `unlines` — the lines of a text, and a text of given lines;
* `lines_unlines` — lines without newlines are read back;
* `length_lines_unlines_iff` — there are as many lines as texts exactly if no text holds a newline.
-/

/-- The lines of a text. Each ends with a newline; what follows the last newline is no line. -/
def lines (text : String) : List String :=
  (pieces '\n' text.toList).dropLast.map String.ofList

/-- The text of given lines. -/
def unlines (ls : List String) : String :=
  String.ofList (ls.flatMap fun l => l.toList ++ ['\n'])

theorem unlines_nil : unlines [] = "" := rfl

theorem unlines_cons (l : String) (ls : List String) :
    unlines (l :: ls) = l ++ "\n" ++ unlines ls := by
  apply String.toList_injective
  simp [unlines]

/-- A piece ends at the first separator. -/
theorem pieces_append_sep {sep : Char} {cs : List Char} (h : sep ∉ cs) (ds : List Char) :
    pieces sep (cs ++ sep :: ds) = cs :: pieces sep ds := by
  induction cs with
  | nil => simp [pieces]
  | cons c cs ih =>
    rw [List.mem_cons, not_or] at h
    have hc : ¬c = sep := fun e => h.1 e.symm
    rw [List.cons_append, pieces, if_neg hc, ih h.2]

/-- Lines without breaks of their own can be told apart again. -/
theorem lines_unlines {ls : List String} (h : ∀ l ∈ ls, '\n' ∉ l.toList) :
    lines (unlines ls) = ls := by
  have hpieces : pieces '\n' (unlines ls).toList = ls.map String.toList ++ [[]] := by
    induction ls with
    | nil => simp [unlines, pieces]
    | cons l ls ih =>
      have hrest := ih fun m hm => h m (List.mem_cons_of_mem l hm)
      have hwritten : (unlines (l :: ls)).toList = l.toList ++ '\n' :: (unlines ls).toList := by
        simp [unlines]
      rw [hwritten, pieces_append_sep (h l List.mem_cons_self), hrest]
      rfl
  rw [lines, hpieces, List.dropLast_concat, List.map_map]
  simp [Function.comp_def]

/-- Every newline ends a line. -/
theorem length_lines (text : String) : (lines text).length = text.toList.count '\n' := by
  rw [lines, List.length_map, List.length_dropLast, length_pieces, Nat.add_sub_cancel]

/-- Each text gives the newlines that it holds, and one more. -/
theorem count_unlines (ls : List String) :
    (unlines ls).toList.count '\n' = (ls.flatMap String.toList).count '\n' + ls.length := by
  induction ls with
  | nil => simp [unlines]
  | cons l ls ih =>
    have hnewline : "\n".toList.count '\n' = 1 := by decide
    rw [unlines_cons, String.toList_append, String.toList_append, List.count_append,
      List.count_append, hnewline, ih, List.flatMap_cons, List.count_append, List.length_cons]
    omega

/-- There are as many lines as were written exactly if none of them breaks. -/
theorem length_lines_unlines_iff (ls : List String) :
    (lines (unlines ls)).length = ls.length ↔ ∀ l ∈ ls, '\n' ∉ l.toList := by
  have hnone : (ls.flatMap String.toList).count '\n' = 0 ↔ ∀ l ∈ ls, '\n' ∉ l.toList := by
    rw [List.count_eq_zero, List.mem_flatMap, not_exists]
    exact forall_congr' fun l => not_and
  rw [length_lines, count_unlines, ← hnone]
  omega

end LanWatch.Text
