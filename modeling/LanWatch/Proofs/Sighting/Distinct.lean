import LanWatch.Sighting
import Mathlib.Data.List.Induction

namespace LanWatch

/-!
# Sightings that say something new

Among many sightings, most say the same as an earlier one. What is left without those is the list of
distinct sightings. Since saying the same is an equivalence, it does not matter whether a sighting is
compared with all earlier ones or only with the distinct ones among them.

* `Sighting.same_refl`, `Sighting.same_symm`, `Sighting.same_trans` — an equivalence;
* `Sighting.anySame` — one of some sightings says the same as a given one;
* `Sighting.distinct` — the sightings that say the same as no earlier one;
* `Sighting.distinct_concat` — one sighting more;
* `Sighting.anySame_distinct` — the distinct sightings say all that there is to say.
-/

namespace Sighting

/-! ### Saying the same -/

theorem same_refl (s : Sighting) : s.same s = true :=
  same_iff.2 ⟨rfl, rfl, rfl⟩

/-- It does not matter which of two sightings came first. -/
theorem same_symm {s t : Sighting} (h : s.same t = true) : t.same s = true := by
  obtain ⟨hip, hkind, hmac⟩ := same_iff.1 h
  exact same_iff.2 ⟨hip.symm, hkind.symm, hmac.symm⟩

/-- Sightings that say the same as a third one say the same. -/
theorem same_trans {s t u : Sighting} (h : s.same t = true) (h' : t.same u = true) :
    s.same u = true := by
  obtain ⟨hip, hkind, hmac⟩ := same_iff.1 h
  obtain ⟨hip', hkind', hmac'⟩ := same_iff.1 h'
  exact same_iff.2 ⟨hip.trans hip', hkind.trans hkind', hmac.trans hmac'⟩

/-- One of some sightings says the same as `s`. -/
def anySame (ss : List Sighting) (s : Sighting) : Bool :=
  ss.any (·.same s)

/-- Looking through sightings finds one that says the same, if there is one. -/
theorem anySame_iff {ss : List Sighting} {s : Sighting} :
    anySame ss s = true ↔ ∃ t ∈ ss, t.same s = true :=
  List.any_eq_true

theorem anySame_append (ss ts : List Sighting) (s : Sighting) :
    anySame (ss ++ ts) s = (anySame ss s || anySame ts s) :=
  List.any_append

theorem anySame_singleton (t s : Sighting) : anySame [t] s = t.same s :=
  Bool.or_false _

/-! ### Distinct sightings -/

/-- The sightings that say the same as none before them, where `before` are those before the
    first. -/
def distinctAfter (before : List Sighting) : List Sighting → List Sighting
  | [] => []
  | s :: ss =>
    if anySame before s then distinctAfter (before ++ [s]) ss
    else s :: distinctAfter (before ++ [s]) ss

/-- The sightings that say the same as no earlier one. -/
def distinct (ss : List Sighting) : List Sighting :=
  distinctAfter [] ss

/-- One sighting more is distinct if it says the same neither as those before nor as one of the
    list. -/
theorem distinctAfter_concat (before ss : List Sighting) (s : Sighting) :
    distinctAfter before (ss ++ [s]) =
      distinctAfter before ss ++ if anySame (before ++ ss) s then [] else [s] := by
  induction ss generalizing before with
  | nil =>
    rw [List.append_nil]
    show (if anySame before s then [] else [s]) = [] ++ _
    rw [List.nil_append]
  | cons t ss ih =>
    have hsplit : before ++ t :: ss = before ++ [t] ++ ss := by
      rw [List.append_assoc, List.singleton_append]
    rw [List.cons_append, distinctAfter, distinctAfter, ih, hsplit]
    split
    · rfl
    · rw [List.cons_append]

/-- One more sighting is distinct unless an earlier one says the same. -/
theorem distinct_concat (ss : List Sighting) (s : Sighting) :
    distinct (ss ++ [s]) = distinct ss ++ if anySame ss s then [] else [s] :=
  distinctAfter_concat [] ss s

/-- What one of the sightings says, one of the distinct ones says, by induction on the sightings from
    the last. -/
theorem anySame_distinct (ss : List Sighting) (s : Sighting) :
    anySame (distinct ss) s = anySame ss s := by
  induction ss using List.reverseRecOn with
  | nil => rfl
  | append_singleton ss t ih =>
    rw [distinct_concat, anySame_append, anySame_append, ih, anySame_singleton]
    split
    case isFalse => rw [anySame_singleton]
    case isTrue hearlier =>
      -- The one that is left out says nothing that was not said before.
      cases hsame : t.same s with
      | false => rfl
      | true =>
        obtain ⟨u, hu, hut⟩ := anySame_iff.1 hearlier
        have hus : anySame ss s = true := anySame_iff.2 ⟨u, hu, same_trans hut hsame⟩
        rw [hus, Bool.or_true, Bool.true_or]

/-- Every sighting says the same as a distinct one. -/
theorem countP_not_anySame_distinct (ss : List Sighting) :
    ss.countP (fun s => !anySame (distinct ss) s) = 0 := by
  rw [List.countP_eq_zero]
  intro s hs
  have hself : anySame ss s = true := anySame_iff.2 ⟨s, hs, same_refl s⟩
  rw [anySame_distinct, hself]
  exact Bool.false_ne_true

/-- One sighting more never makes fewer distinct ones. -/
theorem length_distinct_le_concat (ss : List Sighting) (s : Sighting) :
    (distinct ss).length ≤ (distinct (ss ++ [s])).length := by
  rw [distinct_concat, List.length_append]
  exact Nat.le_add_right _ _

end Sighting

end LanWatch
