import LanWatch.Proofs.Capture.Storing
import LanWatch.Proofs.Pending.Refinement
import LanWatch.Proofs.Sighting.Distinct

namespace LanWatch

/-!
# What is kept of many sightings

Sightings are stored one after another into empty slots, and nothing is taken out. One that says the
same as a pending one is passed over before it is asked whether there is room, so as long as nothing
is evicted the slots hold the first distinct sightings, as many as fit. Once the slots are full, a
sighting is dropped exactly if it says the same as none of those.

* `Ring.Valid.push_of_same`, `Ring.Valid.push_of_room`, `Ring.Valid.push_of_full` — what becomes of
  one sighting;
* `Ring.Kept` — what became of all sightings so far, with one lemma for each way that storing can go;
* `Ring.kept_pushAll` — that holds after any number of them, if nothing has to be evicted.
-/

namespace Ring

open Sighting

variable {r : Ring} {s : Sighting}

/-! ### One sighting -/

/-- A sighting that says the same as a pending one is a duplicate. -/
theorem Valid.push_of_same (h : r.Valid) (hsame : anySame r.toList s = true) :
    r.push true s = (r, .duplicate) := by
  rw [h.push_eq]
  exact if_pos hsame

/-- Another sighting is stored as long as there is room. -/
theorem Valid.push_of_room (h : r.Valid) (hnew : anySame r.toList s = false)
    (hroom : r.toList.length + 1 < r.capacity) : r.push true s = (r.write s, .stored) := by
  rw [h.push_eq]
  exact (if_neg (Bool.eq_false_iff.1 hnew)).trans (if_pos hroom)

/-- If there is none it is dropped, and that is an overrun. -/
theorem Valid.push_of_full (h : r.Valid) (hnew : anySame r.toList s = false)
    (hfull : ¬ r.toList.length + 1 < r.capacity) (hmode : r.overflow = .dropNew) :
    r.push true s = (r.countOverrun, .dropped) := by
  rw [h.push_eq, hmode]
  exact (if_neg (Bool.eq_false_iff.1 hnew)).trans (if_neg hfull)

/-- One sighting more is stored behind the others. -/
theorem pushAll_concat (r : Ring) (ss : List Sighting) (s : Sighting) :
    r.pushAll (ss ++ [s]) =
      (((r.pushAll ss).1.push true s).1, (r.pushAll ss).2 ++ [((r.pushAll ss).1.push true s).2]) :=
  pushAll_append r ss [s]

/-! ### Many sightings -/

/-- What became of the sightings `ss`, of which the slots can hold `limit`. -/
structure Kept (limit : Nat) (overflow : Overflow) (ss : List Sighting) (r : Ring)
    (outcomes : List PushOutcome) : Prop where
  valid : r.Valid
  capacity_eq : r.capacity = limit + 1
  overflow_eq : r.overflow = overflow
  toList_eq : r.toList = (distinct ss).take limit
  evicted_eq : outcomes.count .evicted = 0
  stored_eq : outcomes.count .stored = ((distinct ss).take limit).length
  dropped_eq : outcomes.count .dropped =
    ss.countP fun s => !anySame ((distinct ss).take limit) s

variable {limit : Nat} {overflow : Overflow} {ss : List Sighting} {outcomes : List PushOutcome}

theorem kept_empty {capacity : Nat} (hcap : 2 ≤ capacity) (overflow : Overflow) :
    Kept (capacity - 1) overflow [] (empty capacity overflow) [] where
  valid := valid_empty hcap overflow
  capacity_eq := by
    have hsize : (empty capacity overflow).capacity = capacity := Array.size_replicate
    omega
  overflow_eq := rfl
  toList_eq := by
    have hnil : (empty capacity overflow).toList = [] :=
      congrArg Queue.items (toQueue_empty capacity overflow)
    rw [hnil]
    exact List.take_nil.symm
  evicted_eq := rfl
  stored_eq := by
    show 0 = (List.take (capacity - 1) []).length
    rw [List.take_nil]
    rfl
  dropped_eq := rfl

/-- A sighting that says the same as a pending one changes nothing. -/
theorem Kept.suppress (h : Kept limit overflow ss r outcomes)
    (hsame : anySame r.toList s = true) :
    Kept limit overflow (ss ++ [s]) r (outcomes ++ [.duplicate]) := by
  -- The sighting is the same as one of those kept, so it was among the distinct ones already.
  rw [h.toList_eq] at hsame
  have hearlier : anySame ss s = true := by
    obtain ⟨t, ht, hts⟩ := anySame_iff.1 hsame
    rw [← anySame_distinct]
    exact anySame_iff.2 ⟨t, List.mem_of_mem_take ht, hts⟩
  have hdistinct : distinct (ss ++ [s]) = distinct ss := by
    rw [distinct_concat, if_pos hearlier, List.append_nil]
  refine ⟨h.valid, h.capacity_eq, h.overflow_eq, ?_, ?_, ?_, ?_⟩
  · rw [hdistinct]
    exact h.toList_eq
  · rw [List.count_append, h.evicted_eq]
    rfl
  · rw [hdistinct, List.count_append, h.stored_eq]
    rfl
  · -- It says the same as one that was delivered before, so it does not count as dropped.
    rw [hdistinct, List.count_append, List.countP_append, h.dropped_eq, List.countP_singleton, hsame]
    rfl

/-- As long as there is room, all distinct sightings are kept. -/
theorem Kept.store (h : Kept limit overflow ss r outcomes) (hnew : anySame r.toList s = false)
    (hroom : r.toList.length < limit) :
    Kept limit overflow (ss ++ [s]) (r.write s) (outcomes ++ [.stored]) := by
  -- There is room, so all distinct sightings so far are kept.
  have hlength : (distinct ss).length < limit := by
    rw [h.toList_eq, List.length_take] at hroom
    omega
  -- Both before and after it the limit cuts nothing off.
  have hall : (distinct ss).take limit = distinct ss := List.take_of_length_le (by omega)
  rw [h.toList_eq, hall, anySame_distinct] at hnew
  have hdistinct : distinct (ss ++ [s]) = distinct ss ++ [s] := by
    rw [distinct_concat, if_neg (Bool.eq_false_iff.1 hnew)]
  have hall' : (distinct (ss ++ [s])).take limit = distinct (ss ++ [s]) :=
    List.take_of_length_le (by rw [hdistinct, List.length_append, List.length_singleton]; omega)
  have hslot : r.toList.length + 1 < r.capacity := by
    rw [h.capacity_eq]
    omega
  refine ⟨valid_write h.valid.toLaid s hslot, (capacity_write r s).trans h.capacity_eq,
    h.overflow_eq, ?_, ?_, ?_, ?_⟩
  · have hwrite : (r.write s).toList = r.toList ++ [s] :=
      congrArg Queue.items (toQueue_write h.valid.toLaid s hslot)
    rw [hwrite, h.toList_eq, hall, hall', hdistinct]
  · rw [List.count_append, h.evicted_eq]
    rfl
  · rw [List.count_append, h.stored_eq, hall, hall', hdistinct, List.length_append]
    rfl
  · rw [List.count_append, h.dropped_eq, hall, hall', countP_not_anySame_distinct,
      countP_not_anySame_distinct]
    rfl

/-- Once the slots are full, what is kept stays, and everything else is dropped. -/
theorem Kept.drop (h : Kept limit overflow ss r outcomes) (hnew : anySame r.toList s = false)
    (hfull : ¬ r.toList.length < limit) :
    Kept limit overflow (ss ++ [s]) r.countOverrun (outcomes ++ [.dropped]) := by
  rw [h.toList_eq] at hnew
  -- All slots are taken, so a further sighting lies beyond the limit.
  have hlength : limit ≤ (distinct ss).length := by
    rw [h.toList_eq, List.length_take] at hfull
    omega
  have hsame : (distinct (ss ++ [s])).take limit = (distinct ss).take limit := by
    rw [distinct_concat, List.take_append_of_le_length hlength]
  refine ⟨⟨h.valid.toLaid.countOverrun, h.valid.full_eq⟩, h.capacity_eq, h.overflow_eq, ?_, ?_, ?_, ?_⟩
  · rw [hsame]
    exact h.toList_eq
  · rw [List.count_append, h.evicted_eq]
    rfl
  · rw [hsame, List.count_append, h.stored_eq]
    rfl
  · rw [hsame, List.count_append, List.countP_append, h.dropped_eq, List.countP_singleton, hnew]
    rfl

/-- Nothing is evicted if new sightings are dropped, or if there is room for all distinct ones. -/
theorem Kept.push (h : Kept limit overflow ss r outcomes) (s : Sighting)
    (hfits : overflow = .dropNew ∨ (distinct (ss ++ [s])).length ≤ limit) :
    Kept limit overflow (ss ++ [s]) (r.push true s).1 (outcomes ++ [(r.push true s).2]) := by
  have hslot : r.toList.length + 1 < r.capacity ↔ r.toList.length < limit := by
    rw [h.capacity_eq]
    omega
  -- The three outcomes that a push can have here: suppressed, stored, or dropped at a full list.
  cases hsame : anySame r.toList s with
  | true =>
    rw [h.valid.push_of_same hsame]
    exact h.suppress hsame
  | false =>
    by_cases hroom : r.toList.length < limit
    · rw [h.valid.push_of_room hsame (hslot.2 hroom)]
      exact h.store hsame hroom
    · -- A new distinct sighting would be one too many.
      have hmode : overflow = .dropNew := by
        refine hfits.resolve_right fun hle => ?_
        have hkept := h.toList_eq
        have hprev := length_distinct_le_concat ss s
        rw [List.take_of_length_le (by omega)] at hkept
        have hnew := hsame
        rw [hkept, anySame_distinct] at hnew
        rw [distinct_concat, if_neg (Bool.eq_false_iff.1 hnew), List.length_append,
          List.length_singleton, ← hkept] at hle
        omega
      rw [h.valid.push_of_full hsame (mt hslot.1 hroom) (h.overflow_eq.trans hmode)]
      exact h.drop hsame hroom

/-- After any number of sightings, by induction on them from the last. -/
theorem kept_pushAll {capacity : Nat} (hcap : 2 ≤ capacity) (overflow : Overflow)
    (ss : List Sighting) (hfits : overflow = .dropNew ∨ (distinct ss).length ≤ capacity - 1) :
    Kept (capacity - 1) overflow ss ((empty capacity overflow).pushAll ss).1
      ((empty capacity overflow).pushAll ss).2 := by
  induction ss using List.reverseRecOn with
  | nil => exact kept_empty hcap overflow
  | append_singleton ss s ih =>
    rw [pushAll_concat]
    exact (ih (hfits.imp_right (Nat.le_trans (length_distinct_le_concat ss s)))).push s hfits

end Ring

end LanWatch
