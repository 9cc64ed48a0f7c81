namespace LanWatch.Pattern

/-!
# How deeply patterns are nested

Parts that stand beside each other form a part of their own, one level above the deepest of them; a
single part is not made deeper by standing alone.

* `Parts` — parts beside each other;
* `Parts.depth` — how deeply they are nested as one part;
* `nestingLimit` — how deeply a pattern may be nested.
-/

/-- Parts that stand beside each other. -/
structure Parts where
  count : Nat := 0
  /-- The depth of the deepest part. -/
  deepest : Nat := 0
  deriving DecidableEq

namespace Parts

/-- One part more, of the given depth. -/
def add (p : Parts) (depth : Nat) : Parts :=
  ⟨p.count + 1, max p.deepest depth⟩

/-- The parts with one of them made as deep as `depth`, if it was not deeper before. -/
def deepen (p : Parts) (depth : Nat) : Parts :=
  { p with deepest := max p.deepest depth }

/-- How deeply the parts are nested as one part. -/
def depth (p : Parts) : Nat :=
  if p.count ≤ 1 then p.deepest else p.deepest + 1

/-- A single part is as deep as it is alone. -/
theorem depth_add_nil (d : Nat) : (({} : Parts).add d).depth = d := by
  simp [add, depth]

/-- Several parts are one level deeper than each of them. -/
theorem lt_depth_add {p : Parts} (h : p.count ≠ 0) (d : Nat) : d < (p.add d).depth := by
  have many : ¬ (p.add d).count ≤ 1 := by
    show ¬ p.count + 1 ≤ 1
    omega
  have deepest : d ≤ (p.add d).deepest := Nat.le_max_right p.deepest d
  rw [depth, if_neg many]
  exact Nat.lt_succ_of_le deepest

end Parts

/-- How deeply a pattern may be nested. -/
def nestingLimit : Nat := 250

end LanWatch.Pattern
