namespace LanWatch.Text

/-!
# Places counted in bytes

Cutting a text at a place that is given by how many bytes of UTF-8 stand in front of it. A character
around such a place belongs to neither side.

* `byteLength` — how many bytes characters take;
* `takeBytes`, `dropBytes`, `sliceBytes` — the characters in front of a place, after it, and between
  two places.
-/

/-- How many bytes characters take. -/
def byteLength : List Char → Nat
  | [] => 0
  | c :: cs => c.utf8Size + byteLength cs

/-- The characters in front of a place. -/
def takeBytes (n : Nat) : List Char → List Char
  | [] => []
  | c :: cs => if c.utf8Size ≤ n then c :: takeBytes (n - c.utf8Size) cs else []

/-- The characters after a place. -/
def dropBytes (n : Nat) : List Char → List Char
  | [] => []
  | c :: cs => if n = 0 then c :: cs else dropBytes (n - c.utf8Size) cs

/-- The characters between two places. -/
def sliceBytes (start stop : Nat) (cs : List Char) : List Char :=
  takeBytes (stop - start) (dropBytes start cs)

theorem byteLength_append (a b : List Char) :
    byteLength (a ++ b) = byteLength a + byteLength b := by
  induction a with
  | nil => simp [byteLength]
  | cons c cs ih => simp [byteLength, ih, Nat.add_assoc]

/-- Cutting after a beginning of the text leaves that beginning in front. -/
theorem takeBytes_append (a b : List Char) : takeBytes (byteLength a) (a ++ b) = a := by
  induction a with
  | nil =>
    cases b with
    | nil => rfl
    | cons c cs => simp [byteLength, takeBytes, Nat.not_le.2 c.utf8Size_pos]
  | cons c cs ih => simp [byteLength, takeBytes, ih]

/-- Cutting after a beginning of the text leaves the rest behind. -/
theorem dropBytes_append (a b : List Char) : dropBytes (byteLength a) (a ++ b) = b := by
  induction a with
  | nil => cases b <;> simp [byteLength, dropBytes]
  | cons c cs ih =>
    have h : c.utf8Size ≠ 0 := Nat.ne_of_gt c.utf8Size_pos
    simp [byteLength, dropBytes, h, ih]

example : sliceBytes 1 4 "aé=b".toList = "é=".toList := by decide

end LanWatch.Text
