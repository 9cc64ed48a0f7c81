import LanWatch.Capture.Loop
import Mathlib.Data.List.Count

namespace LanWatch

/-!
# What a capture stores and counts

A capture decodes frames and stores their records while it goes along. Seen from the end, it has
stored the records of all frames, one after another, and its counts are those of the frames and of
what became of the records.

* `Ring.pushAll` — records are stored in order, and what became of each of them;
* `sightingsOf`, `Summary.ofFrames` — the records of frames, and the counts that go with them;
* `store_eq_pushAll` — storing the records of a frame, in these terms;
* `Progress.Accounts` — the slots and the counts of a capture are those for given frames;
* `Progress.Accounts.takeFrame` — that is kept when one more frame is taken.
-/

/-! ### Storing -/

/-- Stores sightings in order, suppressing duplicates, and tells what became of each of them. -/
def Ring.pushAll (r : Ring) : List Sighting → Ring × List PushOutcome
  | [] => (r, [])
  | s :: ss =>
    let (next, outcome) := r.push true s
    let (last, outcomes) := pushAll next ss
    (last, outcome :: outcomes)

theorem Ring.pushAll_cons (r : Ring) (s : Sighting) (ss : List Sighting) :
    r.pushAll (s :: ss) =
      (((r.push true s).1.pushAll ss).1, (r.push true s).2 :: ((r.push true s).1.pushAll ss).2) :=
  rfl

theorem Ring.pushAll_append (r : Ring) (ss ts : List Sighting) :
    r.pushAll (ss ++ ts) =
      (((r.pushAll ss).1.pushAll ts).1, (r.pushAll ss).2 ++ ((r.pushAll ss).1.pushAll ts).2) := by
  induction ss generalizing r with
  | nil => rfl
  | cons s ss ih =>
    rw [List.cons_append, pushAll_cons, pushAll_cons, ih]
    rfl

/-- Every sighting has an outcome. -/
theorem Ring.length_pushAll (r : Ring) (ss : List Sighting) :
    (r.pushAll ss).2.length = ss.length := by
  induction ss generalizing r with
  | nil => rfl
  | cons s ss ih =>
    rw [pushAll_cons, List.length_cons, List.length_cons, ih]

/-- Storing counts every outcome, in order. -/
theorem store_eq_pushAll (summary : Summary) (r : Ring) (ss : List Sighting) :
    store summary r ss = ((r.pushAll ss).2.foldl Summary.countPush summary, (r.pushAll ss).1) := by
  induction ss generalizing summary r with
  | nil => rfl
  | cons s ss ih =>
    rw [Ring.pushAll_cons, List.foldl_cons]
    exact ih (summary.countPush (r.push true s).2) (r.push true s).1

/-- The counts after outcomes, by induction on them. -/
theorem foldl_countPush (outcomes : List PushOutcome) (s : Summary) :
    outcomes.foldl Summary.countPush s =
      { s with
        sightings := s.sightings + outcomes.length
        duplicates := s.duplicates + outcomes.count .duplicate
        dropped := s.dropped + outcomes.count .dropped
        evicted := s.evicted + outcomes.count .evicted } := by
  induction outcomes generalizing s with
  | nil => rfl
  | cons outcome outcomes ih =>
    rw [List.foldl_cons, ih]
    cases outcome <;>
      simp [Summary.countPush, Nat.add_assoc, Nat.add_comm 1]

/-! ### Frames -/

/-- The error at which the decoding of a frame stopped. -/
def Frame.error? (policy : VlanPolicy) (f : Frame) : Option DecodeError :=
  (dissect policy f.seen f.data).error

/-- The records of frames, in order. -/
def sightingsOf (policy : VlanPolicy) (frames : List Frame) : List Sighting :=
  frames.flatMap fun f => (dissect policy f.seen f.data).sightings

/-- The decoding ran past the captured bytes. -/
def DecodeError.isTruncated : DecodeError → Bool
  | truncated .. => true
  | fieldTooLong .. => false

/-- A field was too long for its record. -/
def DecodeError.isFieldTooLong : DecodeError → Bool
  | truncated .. => false
  | fieldTooLong .. => true

/-- The counts that go with frames whose records are stored into given slots. -/
def Summary.ofFrames (policy : VlanPolicy) (ring : Ring) (frames : List Frame) : Summary :=
  let sightings := sightingsOf policy frames
  let outcomes := (ring.pushAll sightings).2
  { frames := frames.length
    sightings := sightings.length
    truncated := frames.countP fun f => (f.error? policy).any DecodeError.isTruncated
    malformed := frames.countP fun f => (f.error? policy).any DecodeError.isFieldTooLong
    duplicates := outcomes.count .duplicate
    dropped := outcomes.count .dropped
    evicted := outcomes.count .evicted }

/-- The sightings of one frame more follow those of the others. -/
theorem sightingsOf_concat (policy : VlanPolicy) (frames : List Frame) (f : Frame) :
    sightingsOf policy (frames ++ [f]) =
      sightingsOf policy frames ++ (dissect policy f.seen f.data).sightings := by
  rw [sightingsOf, List.flatMap_append, List.flatMap_singleton]
  rfl

/-- One more frame is counted first, and what becomes of its records after that. -/
theorem Summary.ofFrames_concat (policy : VlanPolicy) (ring : Ring) (frames : List Frame)
    (f : Frame) :
    ofFrames policy ring (frames ++ [f]) =
      ((ring.pushAll (sightingsOf policy frames)).1.pushAll
        (dissect policy f.seen f.data).sightings).2.foldl countPush
          ((ofFrames policy ring frames).countFrame (f.error? policy)) := by
  rw [foldl_countPush, Ring.length_pushAll, ofFrames, sightingsOf_concat, Ring.pushAll_append]
  simp only [List.length_append, List.length_singleton, List.countP_append, List.countP_singleton,
    List.count_append, ofFrames, countFrame]
  cases f.error? policy with
  | none => rfl
  | some e => cases e <;> rfl

/-! ### A capture under way -/

namespace Progress

variable {policy : VlanPolicy} {ring : Ring} {frames : List Frame} {p : Progress}

/-- The slots and the counts of a capture are those for frames whose records are stored into given
    slots. -/
structure Accounts (policy : VlanPolicy) (ring : Ring) (frames : List Frame) (p : Progress) :
    Prop where
  ring_eq : p.ring = (ring.pushAll (sightingsOf policy frames)).1
  summary_eq : p.summary = Summary.ofFrames policy ring frames

theorem accounts_start (name : String) (policy : VlanPolicy) (ring : Ring) :
    (start name ring).Accounts policy ring [] :=
  ⟨rfl, rfl⟩

/-- A frame that is taken is stored and counted behind the others. -/
theorem Accounts.takeFrame (h : p.Accounts policy ring frames) (f : Frame) :
    (p.takeFrame policy f).Accounts policy ring (frames ++ [f]) := by
  constructor
  · rw [sightingsOf_concat, Ring.pushAll_append, ← h.ring_eq, Progress.takeFrame, store_eq_pushAll]
  · rw [Summary.ofFrames_concat, ← h.ring_eq, ← h.summary_eq, Progress.takeFrame, store_eq_pushAll]
    rfl

/-- Statistics that are told change neither the slots nor the counts. -/
theorem Accounts.sayStats (h : p.Accounts policy ring frames) (due : Bool) :
    (p.sayStats due).Accounts policy ring frames := by
  cases due with
  | false => exact h
  | true => exact ⟨h.ring_eq, h.summary_eq⟩

/-- What one delivery that is not final adds. -/
theorem Accounts.advance (h : p.Accounts policy ring frames) (d : Delivery) :
    (p.advance policy d).Accounts policy ring (frames ++ d.answer.frame?.toList) := by
  unfold Progress.advance
  cases d.answer with
  | frame f => exact (h.takeFrame f).sayStats _
  | idle | closed | failed e | died =>
    show (p.sayStats _).Accounts policy ring (frames ++ [])
    rw [List.append_nil]
    exact h.sayStats _

end Progress

end LanWatch
