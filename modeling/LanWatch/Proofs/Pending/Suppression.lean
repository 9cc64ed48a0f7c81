import LanWatch.Proofs.Pending.Occupancy
import LanWatch.Proofs.Sighting.Distinct

namespace LanWatch

/-!
# Pending sightings that differ

As long as every store suppresses what is pending already, no two pending sightings say the same.
Releasing, flushing and evicting only take sightings away, and a new one is stored only if it says
something that none of the pending ones does.

* `Sighting.Apart` — no two of some sightings say the same;
* `Queue.apart_push`, `Keeper.apart_serve` — a request keeps the pending sightings apart;
* `Keeper.apart_after` — so does a list of requests;
* `Ring.Valid.push_duplicate_iff` — which sightings are suppressed;
* `Keeper.suppressed_after` — both together, for slots that were set up.
-/

namespace Sighting

/-- No two of some sightings say the same. -/
def Apart (ss : List Sighting) : Prop :=
  ss.Pairwise fun s t => s.same t = false

theorem Apart.tail {ss : List Sighting} (h : Apart ss) : Apart ss.tail :=
  h.sublist (List.tail_sublist ss)

/-- A sighting that says something new can be appended. -/
theorem Apart.concat {ss : List Sighting} {s : Sighting} (h : Apart ss)
    (hnew : anySame ss s = false) : Apart (ss ++ [s]) := by
  refine List.pairwise_append.2 ⟨h, List.pairwise_singleton _ s, ?_⟩
  intro t ht s' hs'
  obtain rfl := List.mem_singleton.1 hs'
  cases hsame : t.same s' with
  | false => rfl
  | true =>
    rw [anySame_iff.2 ⟨t, ht, hsame⟩] at hnew
    cases hnew

/-- Where fewer sightings are, fewer say the same. -/
theorem anySame_tail {ss : List Sighting} {s : Sighting} (h : anySame ss s = false) :
    anySame ss.tail s = false := by
  rw [Bool.eq_false_iff, Ne, anySame_iff] at h ⊢
  rintro ⟨t, ht, hsame⟩
  exact h ⟨t, List.mem_of_mem_tail ht, hsame⟩

end Sighting

open Sighting

/-- Storing keeps the pending sightings apart if it suppresses. -/
theorem Queue.apart_push {q : Queue} (h : Apart q.items) (s : Sighting) :
    Apart (q.push true s).1.items := by
  unfold Queue.push
  split
  · exact h
  · rename_i hsame
    have hnew : anySame q.items s = false := Bool.eq_false_iff.2 hsame
    split
    · exact h.concat hnew
    · split
      · exact h
      · exact h.tail.concat (anySame_tail hnew)

namespace Keeper

/-! ### Requests -/

/-- A store is passed over if the same sighting is pending, so it adds nothing that is there
    already. -/
theorem apart_serve {q : Queue} (h : Apart q.items) {request : Request}
    (hsuppress : ∀ s, request ≠ .push false s) : Apart (queue.serve q request).1.items := by
  cases request with
  | push suppress s =>
    cases suppress with
    | false => exact absurd rfl (hsuppress s)
    | true => exact Queue.apart_push h s
  | pop _ => exact h
  | release => exact h.tail
  | flush => exact List.Pairwise.nil
  | close => exact h

/-- So do requests of which every store suppresses. -/
theorem apart_after (requests : List Request) {q : Queue} (h : Apart q.items)
    (hsuppress : ∀ s, .push false s ∉ requests) : Apart (queue.after q requests).items := by
  refine after_induct (P := fun later : Queue => Apart later.items) ?_ h
  intro request hmem later hapart
  apply apart_serve hapart
  rintro s rfl
  exact hsuppress s hmem

end Keeper

namespace Ring

variable {r : Ring}

/-! ### Which sightings are suppressed -/

/-- A sighting is suppressed exactly if a pending one says the same, whether or not there is room,
    and then nothing is touched. -/
theorem Valid.push_duplicate_iff (h : r.Valid) (s : Sighting) :
    ((r.push true s).2 = .duplicate ↔ ∃ t ∈ r.toList, t.same s = true) ∧
      ((r.push true s).2 = .duplicate → (r.push true s).1 = r) := by
  have hany : r.toList.any (·.same s) = anySame r.toList s := rfl
  rw [← anySame_iff, h.push_eq, Bool.true_and, hany]
  cases anySame r.toList s with
  | true => simp
  | false =>
    -- No other outcome is called a duplicate.
    rw [if_neg Bool.false_ne_true]
    split
    · simp
    · cases r.overflow <;> simp

/-- What a consumer sees is pending until it is released. -/
theorem Valid.mem_toList_of_popped (h : r.Valid) {wait : Bool} {t : Sighting}
    (hpopped : (Keeper.ring.serve r (.pop wait)).2 = .popped (some t)) : t ∈ r.toList := by
  obtain ⟨-, hreply⟩ := Keeper.stands_serve r r.toQueue (.pop wait) ⟨h, rfl⟩
  rw [hreply] at hpopped
  have hlook : Keeper.look wait r.closed r.toList.head? = .popped (some t) := hpopped
  cases hhead : r.toList.head? with
  | none =>
    rw [hhead, Keeper.look] at hlook
    split at hlook <;> cases hlook
  | some s =>
    rw [hhead] at hlook
    cases hlook
    exact List.mem_of_mem_head? hhead

end Ring

namespace Keeper

/-- After any requests of which every store suppressed, no two pending sightings say the same. One
    more sighting is suppressed exactly if a pending one says the same, also on full slots and also
    if a consumer has seen the pending one and not yet released it, and then nothing is touched. -/
theorem suppressed_after (capacity : Nat) (overflow : Overflow) (h : 2 ≤ capacity) :
    (∀ memory, Ring.Fits capacity memory →
      Ring.create capacity overflow memory = .ok (.empty capacity overflow)) ∧
      ∀ requests, (∀ s, .push false s ∉ requests) →
        let r := ring.after (.empty capacity overflow) requests
        r.toList.Pairwise (fun s t => s.same t = false) ∧
        ∀ s,
          ((r.push true s).2 = .duplicate ↔ ∃ t ∈ r.toList, t.same s = true) ∧
          ((r.push true s).2 = .duplicate → (r.push true s).1 = r) ∧
          ∀ wait t, (ring.serve r (.pop wait)).2 = .popped (some t) → t.same s = true →
            ((ring.serve r (.pop wait)).1.push true s).2 = .duplicate := by
  refine ⟨fun _ => Ring.create_eq_empty h overflow, ?_⟩
  intro requests hsuppress r
  obtain ⟨hvalid, hqueue⟩ := stands_after requests (stands_empty h overflow)
  have hitems : r.toList = (queue.after (.empty (capacity - 1) overflow) requests).items :=
    congrArg Queue.items hqueue
  refine ⟨?_, fun s => ?_⟩
  · rw [hitems]
    exact apart_after requests List.Pairwise.nil hsuppress
  · obtain ⟨hduplicate, hkept⟩ := hvalid.push_duplicate_iff s
    refine ⟨hduplicate, hkept, fun wait t hpopped hsame => ?_⟩
    have hlooked : (ring.serve r (.pop wait)).1 = r := by cases wait <;> rfl
    rw [hlooked]
    exact hduplicate.2 ⟨t, hvalid.mem_toList_of_popped hpopped, hsame⟩

/-- Three slots are full with two sightings. The first one was seen by a consumer, and the same is
    sighted again, later and with a tag. -/
theorem suppressed_after_look :
    2 ≤ 3 ∧
      (∀ s, .push false s ∉ [Request.push true (.unknown ⟨2, 0, 0, 0, 0, 1⟩ .epoch none),
        .push true (.unknown ⟨2, 0, 0, 0, 0, 2⟩ .epoch none), .pop true]) ∧
      ∃ r₀, Ring.create 3 .evictOldest = .ok r₀ ∧
        let r := ring.after r₀ [.push true (.unknown ⟨2, 0, 0, 0, 0, 1⟩ .epoch none),
          .push true (.unknown ⟨2, 0, 0, 0, 0, 2⟩ .epoch none), .pop true]
        r.full = true ∧ r.toList.Pairwise (fun s t => s.same t = false) ∧
        (r.push true (.unknown ⟨2, 0, 0, 0, 0, 1⟩ ⟨9, 0⟩ (some 5))).2 = .duplicate ∧
        (r.push true (.unknown ⟨2, 0, 0, 0, 0, 1⟩ ⟨9, 0⟩ (some 5))).1 = r := by
  obtain ⟨hcreate, hafter⟩ := suppressed_after 3 .evictOldest (by decide)
  have hsuppress : ∀ s, .push false s ∉
      [Request.push true (.unknown ⟨2, 0, 0, 0, 0, 1⟩ .epoch none),
        .push true (.unknown ⟨2, 0, 0, 0, 0, 2⟩ .epoch none), .pop true] := by simp
  obtain ⟨hapart, hnext⟩ := hafter _ hsuppress
  obtain ⟨-, hkept, hlooked⟩ := hnext (.unknown ⟨2, 0, 0, 0, 0, 1⟩ ⟨9, 0⟩ (some 5))
  have hduplicate := hlooked true (.unknown ⟨2, 0, 0, 0, 0, 1⟩ .epoch none) rfl rfl
  exact ⟨by decide, hsuppress, _, hcreate _ (by decide), rfl, hapart, hduplicate, hkept hduplicate⟩

end Keeper

end LanWatch
