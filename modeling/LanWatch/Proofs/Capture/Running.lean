import LanWatch.Capture.Running
import LanWatch.Proofs.Capture.Storing

namespace LanWatch

/-!
# What a capture loop does

The loop goes on until the running flag is seen clear or an answer is final, whenever that is. By
then it has stored the records of every frame that was handed out, and nothing else.

* `Progress.run_append` — answers that are not final only add up;
* `capture_of_not_final`, `capture_concat_of_final` — the slots and the counts of a capture, however
  it ends;
* `CaptureLoop.reached`, `CaptureLoop.round_reached_of_not_halts`,
  `CaptureLoop.round_reached_of_halts` — the loop after a number of rounds, and one round more;
* `Replay.framesOf_deliveries` — the frames that a replay hands out;
* `CaptureLoop.run_stores_delivered_frames` — what the loop does with any source, and with a replay.
-/

/-- The frames among deliveries, in order. -/
def framesOf (ds : List Delivery) : List Frame :=
  ds.filterMap fun d => d.answer.frame?

/-! ### Deliveries -/

/-- A final answer hands out no frame. -/
theorem framesOf_concat_of_final {ds : List Delivery} {d : Delivery}
    (h : d.answer.isFinal = true) : framesOf (ds ++ [d]) = framesOf ds := by
  have hnone : d.answer.frame? = none := by
    cases hanswer : d.answer with
    | frame f =>
      rw [hanswer] at h
      cases h
    | idle | closed | failed e | died => rfl
  rw [framesOf, List.filterMap_append, List.filterMap_cons, hnone, List.filterMap_nil,
    List.append_nil]
  rfl

namespace Progress

variable (name : String) (policy : VlanPolicy) (p : Progress)

/-- A capture goes on after an answer that is not final. -/
theorem deal_of_not_final {d : Delivery} (h : d.answer.isFinal = false) :
    p.deal name policy d = .goesOn (p.advance policy d) := by
  unfold deal
  cases hanswer : d.answer with
  | frame f => rfl
  | idle => rfl
  | closed | failed e | died =>
    rw [hanswer] at h
    cases h

/-- A capture ends with a final answer. Its slots and its counts stay as they are. -/
theorem deal_of_final {d : Delivery} (h : d.answer.isFinal = true) :
    ∃ c, p.deal name policy d = .over c ∧ c.ring = p.ring ∧
      c.result = d.answer.error?.elim (.ok p.summary) .error := by
  unfold deal
  cases hanswer : d.answer with
  | frame f | idle =>
    rw [hanswer] at h
    cases h
  | closed => exact ⟨_, rfl, rfl, rfl⟩
  | failed e => exact ⟨_, rfl, rfl, rfl⟩
  | died => exact ⟨_, rfl, rfl, rfl⟩

/-- Answers that are not final only add up, by induction on them. -/
theorem run_append {ds : List Delivery} (h : ∀ d ∈ ds, d.answer.isFinal = false)
    (es : List Delivery) :
    p.run name policy (ds ++ es) = (ds.foldl (advance policy) p).run name policy es := by
  induction ds generalizing p with
  | nil => rfl
  | cons d ds ih =>
    rw [List.cons_append, run, p.deal_of_not_final name policy (h d List.mem_cons_self)]
    exact ih (p.advance policy d) fun e he => h e (List.mem_cons_of_mem d he)

variable {policy p}

/-- The slots and counts after deliveries, by induction on them. -/
theorem Accounts.foldl_advance {ring : Ring} {frames : List Frame}
    (h : p.Accounts policy ring frames) (ds : List Delivery) :
    (ds.foldl (Progress.advance policy) p).Accounts policy ring (frames ++ framesOf ds) := by
  induction ds generalizing frames p with
  | nil =>
    rw [framesOf, List.filterMap_nil, List.append_nil]
    exact h
  | cons d ds ih =>
    have hsplit : framesOf (d :: ds) = d.answer.frame?.toList ++ framesOf ds := by
      rw [framesOf, List.filterMap_cons]
      cases d.answer.frame? <;> rfl
    rw [hsplit, ← List.append_assoc]
    exact ih (h.advance d)

end Progress

/-! ### The whole capture -/

section

variable (name : String) (policy : VlanPolicy) (ring : Ring) {ds : List Delivery}
  (hopen : ∀ d ∈ ds, d.answer.isFinal = false)

include hopen

/-- A loop over some deliveries and then over others goes on from where the first ones left it. -/
theorem capture_append (es : List Delivery) :
    capture name policy ring (ds ++ es) =
      (ds.foldl (Progress.advance policy) (.start name ring)).run name policy es :=
  Progress.run_append name policy _ hopen es

/-- A loop whose deliveries do not end it ends when there are no more. -/
theorem capture_eq_finish :
    capture name policy ring ds =
      (ds.foldl (Progress.advance policy) (.start name ring)).finish name := by
  have happend := capture_append name policy ring hopen []
  rw [List.append_nil] at happend
  exact happend

/-- A capture that was stopped. -/
theorem capture_of_not_final :
    (capture name policy ring ds).ring = (ring.pushAll (sightingsOf policy (framesOf ds))).1 ∧
      (capture name policy ring ds).result = .ok (.ofFrames policy ring (framesOf ds)) := by
  have haccounts := (Progress.accounts_start name policy ring).foldl_advance ds
  rw [capture_eq_finish name policy ring hopen]
  exact ⟨haccounts.ring_eq, congrArg _ haccounts.summary_eq⟩

/-- A capture that ended with a final answer. -/
theorem capture_concat_of_final {d : Delivery} (hfinal : d.answer.isFinal = true) :
    (capture name policy ring (ds ++ [d])).ring =
        (ring.pushAll (sightingsOf policy (framesOf (ds ++ [d])))).1 ∧
      (capture name policy ring (ds ++ [d])).result =
        d.answer.error?.elim (.ok (.ofFrames policy ring (framesOf (ds ++ [d])))) .error := by
  have haccounts := (Progress.accounts_start name policy ring).foldl_advance ds
  obtain ⟨c, hover, hring, hresult⟩ := Progress.deal_of_final name policy
    (ds.foldl (Progress.advance policy) (.start name ring)) hfinal
  rw [capture_append name policy ring hopen, Progress.run, hover, framesOf_concat_of_final hfinal]
  rw [haccounts.ring_eq] at hring
  rw [haccounts.summary_eq] at hresult
  exact ⟨hring, hresult⟩

end

/-! ### Rounds -/

section

variable {σ : Type} (source : Source σ) (state : σ) (signals : Signals)

/-- One delivery more is the answer to the next request. -/
theorem Source.deliveries_succ (n : Nat) :
    source.deliveries state signals (n + 1) = source.deliveries state signals n ++
      [{ answer := source.answer state n, statsDue := signals.statsDue n }] := by
  rw [deliveries, List.range_succ, List.map_append]
  rfl

variable {source state signals}

/-- As long as the loop does not halt, no answer is final. -/
theorem Source.deliveries_not_final {n : Nat} (h : ∀ k < n, ¬source.Halts state signals k) :
    ∀ d ∈ source.deliveries state signals n, d.answer.isFinal = false := by
  intro d hd
  obtain ⟨k, hk, rfl⟩ := List.mem_map.1 hd
  have hhalts := h k (List.mem_range.1 hk)
  rw [Halts, not_or, Bool.not_eq_true] at hhalts
  exact hhalts.2

/-- A loop that halts although the flag is set has got a final answer. -/
theorem Source.Halts.isFinal {k : Nat} (h : source.Halts state signals k)
    (hrunning : signals.running k = true) : (source.answer state k).isFinal = true :=
  h.resolve_left (by simp [hrunning])

variable {policy : VlanPolicy}

namespace CaptureLoop

/-- A round in which the capture goes on. -/
theorem round_of_goesOn {l : CaptureLoop σ} {progress : Progress}
    (hrunning : signals.running l.reads = true)
    (hdeal : l.progress.deal source.name policy
      ⟨(source.read l.state).1, signals.statsDue l.reads⟩ = .goesOn progress) :
    l.round source signals policy = .goesOn ⟨progress, (source.read l.state).2, l.reads + 1⟩ := by
  rw [round, if_pos hrunning]
  simp only [hdeal]

/-- A round in which the answer ends the capture. -/
theorem round_of_over {l : CaptureLoop σ} {c : Capture}
    (hrunning : signals.running l.reads = true)
    (hdeal : l.progress.deal source.name policy
      ⟨(source.read l.state).1, signals.statsDue l.reads⟩ = .over c) :
    l.round source signals policy = .over ⟨c, (source.read l.state).2, l.reads + 1⟩ := by
  rw [round, if_pos hrunning]
  simp only [hdeal]

/-- A round that finds the flag clear asks for nothing. -/
theorem round_of_clear {l : CaptureLoop σ} (hclear : signals.running l.reads = false) :
    l.round source signals policy = .over ⟨l.progress.finish source.name, l.state, l.reads⟩ := by
  rw [round, if_neg (Bool.eq_false_iff.1 hclear)]

variable (source state signals policy) (ring : Ring)

/-- The loop after `n` rounds, if it did not halt before. -/
def reached (n : Nat) : CaptureLoop σ where
  progress :=
    (source.deliveries state signals n).foldl (Progress.advance policy) (.start source.name ring)
  state := source.after state n
  reads := n

/-- What a loop leaves that halts at request `k`. -/
def ended (k : Nat) : End σ where
  capture := capture source.name policy ring (source.deliveries state signals (signals.reads k))
  state := source.after state (signals.reads k)
  reads := signals.reads k

variable {source state signals}

/-- One round adds one delivery. -/
theorem round_reached_of_not_halts {n : Nat} (h : ¬source.Halts state signals n) :
    (reached source state signals policy ring n).round source signals policy =
      .goesOn (reached source state signals policy ring (n + 1)) := by
  rw [Source.Halts, not_or, Bool.not_eq_false, Bool.not_eq_true] at h
  obtain ⟨hrunning, hanswer⟩ := h
  have hdeal := (reached source state signals policy ring n).progress.deal_of_not_final source.name
    policy (d := ⟨source.answer state n, signals.statsDue n⟩) hanswer
  have hnext : (reached source state signals policy ring (n + 1)).progress =
      (reached source state signals policy ring n).progress.advance policy
        ⟨source.answer state n, signals.statsDue n⟩ := by
    rw [reached, Source.deliveries_succ, List.foldl_append]
    rfl
  rw [← hnext] at hdeal
  exact round_of_goesOn hrunning hdeal

/-- The round in which the loop halts leaves the capture of all that the loop got. -/
theorem round_reached_of_halts {k : Nat} (hfirst : ∀ j < k, ¬source.Halts state signals j)
    (hhalts : source.Halts state signals k) :
    (reached source state signals policy ring k).round source signals policy =
      .over (ended source state signals policy ring k) := by
  have hopen := Source.deliveries_not_final hfirst
  cases hrunning : signals.running k with
  | false =>
    -- Nothing is asked for, so the deliveries so far are all that there will be.
    have hreads : signals.reads k = k := if_neg (Bool.eq_false_iff.1 hrunning)
    rw [ended, hreads, capture_eq_finish source.name policy ring hopen]
    exact round_of_clear hrunning
  | true =>
    -- The answer is the last delivery, and the capture ends with it.
    obtain ⟨c, hover, -, -⟩ := Progress.deal_of_final source.name policy
      ((source.deliveries state signals k).foldl (Progress.advance policy)
        (.start source.name ring))
      (d := ⟨source.answer state k, signals.statsDue k⟩) (hhalts.isFinal hrunning)
    have hcapture :
        capture source.name policy ring (source.deliveries state signals (k + 1)) = c := by
      rw [Source.deliveries_succ, capture_append source.name policy ring hopen, Progress.run, hover]
    have hreads : signals.reads k = k + 1 := if_pos hrunning
    rw [ended, hreads, hcapture]
    exact round_of_over hrunning hover

/-! ### Runs -/

/-- A loop that has not halted goes on, by induction on the rounds that it has left. -/
theorem run_reached_of_not_halts {n rounds : Nat}
    (h : ∀ k < n + rounds, ¬source.Halts state signals k) :
    run source signals policy rounds (reached source state signals policy ring n) = none := by
  induction rounds generalizing n with
  | zero => rfl
  | succ rounds ih =>
    rw [run, round_reached_of_not_halts policy ring (h n (by omega))]
    exact ih fun k hk => h k (by omega)

/-- A loop that halts is over by then, by induction on the rounds that it has left. -/
theorem run_reached_of_halts {k n rounds : Nat} (hfirst : ∀ j < k, ¬source.Halts state signals j)
    (hhalts : source.Halts state signals k) (hn : n ≤ k) (hrounds : k < n + rounds) :
    run source signals policy rounds (reached source state signals policy ring n) =
      some (ended source state signals policy ring k) := by
  induction rounds generalizing n with
  | zero => omega
  | succ rounds ih =>
    rw [run]
    by_cases hlast : n = k
    · subst hlast
      rw [round_reached_of_halts policy ring hfirst hhalts]
    · rw [round_reached_of_not_halts policy ring (hfirst n (by omega))]
      exact ih (by omega) (by omega)

/-- What is stored and counted by the time a loop halts. -/
theorem ended_accounts {k : Nat} (hfirst : ∀ j < k, ¬source.Halts state signals j)
    (hhalts : source.Halts state signals k) :
    (ended source state signals policy ring k).capture.ring =
        (ring.pushAll (sightingsOf policy
          (framesOf (source.deliveries state signals (signals.reads k))))).1 ∧
      (ended source state signals policy ring k).capture.result =
        (source.failure? state signals k).elim
          (.ok (.ofFrames policy ring
            (framesOf (source.deliveries state signals (signals.reads k))))) .error := by
  have hopen := Source.deliveries_not_final hfirst
  rw [ended]
  cases hrunning : signals.running k with
  | false =>
    have hclear := Bool.eq_false_iff.1 hrunning
    rw [Signals.reads, if_neg hclear, Source.failure?, if_neg hclear]
    exact capture_of_not_final source.name policy ring hopen
  | true =>
    rw [Signals.reads, if_pos hrunning, Source.failure?, if_pos hrunning, Source.deliveries_succ]
    exact capture_concat_of_final source.name policy ring hopen
      (d := ⟨source.answer state k, signals.statsDue k⟩) (hhalts.isFinal hrunning)

end CaptureLoop

end

/-! ### Replays -/

namespace Replay

variable (r : Replay) (signals : Signals)

/-- A replay moves on by one frame. -/
theorem read_snd : r.read.2 = { r with frames := r.frames.tail } := by
  obtain ⟨name, frames, filter⟩ := r
  cases frames <;> rfl

/-- A replay gives its next frame through the filter, and is closed after the last one. -/
theorem read_fst : r.read.1 = r.frames.head?.elim .closed r.filter.answer := by
  obtain ⟨name, frames, filter⟩ := r
  cases frames <;> rfl

/-- After `n` requests, the first `n` frames are gone. -/
theorem after_source (n : Nat) : r.source.after r n = { r with frames := r.frames.drop n } := by
  induction n with
  | zero => rfl
  | succ n ih =>
    rw [Source.after, ih, ← List.tail_drop]
    exact read_snd _

/-- A replay answers with its frames, one after another, as the filter has it. -/
theorem answer_source (k : Nat) :
    r.source.answer r k = r.frames[k]?.elim .closed r.filter.answer := by
  rw [Source.answer, after_source, ← List.head?_drop]
  exact read_fst _

/-- A replay ends at the request behind its last frame. -/
theorem isFinal_answer_source (k : Nat) :
    (r.source.answer r k).isFinal = true ↔ r.frames.length ≤ k := by
  rw [answer_source, ← List.getElem?_eq_none_iff]
  cases r.frames[k]? with
  | none => simp [Answer.isFinal]
  | some f =>
    rw [Option.elim_some, Filter.answer]
    split <;> simp [Answer.isFinal]

/-- The frames that a replay hands out are those that its filter accepts, in order. -/
theorem framesOf_deliveries (n : Nat) :
    framesOf (r.source.deliveries r signals n) =
      (r.frames.take n).filter fun f => r.filter.accepts f.data := by
  induction n with
  | zero => rfl
  | succ n ih =>
    rw [Source.deliveries_succ, framesOf, List.filterMap_append, ← framesOf, ih, List.take_add_one,
      List.filter_append, answer_source]
    congr 1
    cases r.frames[n]? with
    | none => rfl
    | some f =>
      simp only [Option.elim_some, Filter.answer, Option.toList_some]
      cases haccepts : r.filter.accepts f.data <;>
        simp [haccepts, Answer.frame?]

/-- A replay never breaks down. -/
theorem failure?_source (k : Nat) : r.source.failure? r signals k = none := by
  have herror : (r.source.answer r k).error? = none := by
    rw [answer_source]
    cases r.frames[k]? with
    | none => rfl
    | some f =>
      rw [Option.elim_some, Filter.answer]
      split <;> rfl
  rw [Source.failure?, herror, ite_self]

variable {r signals} {k : Nat} (hend : signals.running k = false ∨ k = r.frames.length)

include hend

/-- The request that finds a replay closed gets no frame. -/
theorem take_reads : r.frames.take (signals.reads k) = r.frames.take k := by
  unfold Signals.reads
  split
  case isTrue hrunning =>
    have hall : k = r.frames.length := hend.resolve_left (by simp [hrunning])
    rw [List.take_of_length_le (by omega), List.take_of_length_le (by omega)]
  case isFalse => rfl

/-- What was read so far is dropped, frame by frame. -/
theorem drop_reads : r.frames.drop (signals.reads k) = r.frames.drop k := by
  unfold Signals.reads
  split
  case isTrue hrunning =>
    have hall : k = r.frames.length := hend.resolve_left (by simp [hrunning])
    rw [List.drop_of_length_le (by omega), List.drop_of_length_le (by omega)]
  case isFalse => rfl

end Replay

/-! ### What the loop does -/

namespace CaptureLoop

/-- A loop over any source, followed for `rounds` rounds, whenever the flag is cleared. It is not
    over as long as the flag is set and no answer is final. It is over once that is no longer so,
    having asked for nothing more: the records of all frames that were handed out have been stored,
    in order, and the result is the error of the source, or else the counts of the frames, their
    records and what became of them. A replay hands out the frames that its filter accepts, and ends
    without an error. -/
theorem run_stores_delivered_frames {σ : Type} (source : Source σ) (state : σ) (signals : Signals)
    (policy : VlanPolicy) (ring : Ring) (rounds : Nat) :
    ((∀ k < rounds, ¬source.Halts state signals k) →
      run source signals policy rounds (start source state ring) = none) ∧
    (∀ k < rounds, (∀ j < k, ¬source.Halts state signals j) → source.Halts state signals k →
      let deliveries := source.deliveries state signals (signals.reads k)
      let frames := framesOf deliveries
      let c := capture source.name policy ring deliveries
      run source signals policy rounds (start source state ring) =
          some ⟨c, source.after state (signals.reads k), signals.reads k⟩ ∧
        c.ring = (ring.pushAll (sightingsOf policy frames)).1 ∧
        c.result = (source.failure? state signals k).elim
          (.ok (.ofFrames policy ring frames)) .error) ∧
    (∀ (r : Replay), ∀ k < rounds, k ≤ r.frames.length → (∀ j < k, signals.running j = true) →
      (signals.running k = false ∨ k = r.frames.length) →
      let frames := (r.frames.take k).filter fun f => r.filter.accepts f.data
      ∃ c, run r.source signals policy rounds (start r.source r ring) =
          some ⟨c, { r with frames := r.frames.drop k }, signals.reads k⟩ ∧
        c.ring = (ring.pushAll (sightingsOf policy frames)).1 ∧
        c.result = .ok (.ofFrames policy ring frames)) := by
  refine ⟨?goesOn, ?halts, ?replay⟩
  case goesOn =>
    intro h
    exact run_reached_of_not_halts policy ring (n := 0) fun k hk => h k (by omega)
  case halts =>
    intro k hk hfirst hhalts
    exact ⟨run_reached_of_halts policy ring hfirst hhalts (Nat.zero_le k) (by omega),
      ended_accounts policy ring hfirst hhalts⟩
  case replay =>
    intro r k hk hle hrunning hend
    -- A replay answers with a frame as long as it has one, so only the flag can end it earlier.
    have hfirst : ∀ j < k, ¬r.source.Halts r signals j := by
      rintro j hj (hclear | hfinal)
      · rw [hrunning j hj] at hclear
        cases hclear
      · have hlength := (r.isFinal_answer_source j).1 hfinal
        omega
    have hhalts : r.source.Halts r signals k :=
      hend.imp_right fun hall => (r.isFinal_answer_source k).2 (Nat.le_of_eq hall.symm)
    have hover : run r.source signals policy rounds (start r.source r ring) =
        some (ended r.source r signals policy ring k) :=
      run_reached_of_halts policy ring hfirst hhalts (Nat.zero_le k) (by omega)
    obtain ⟨hring, hresult⟩ := ended_accounts policy ring hfirst hhalts
    rw [r.framesOf_deliveries, Replay.take_reads hend] at hring hresult
    rw [r.failure?_source] at hresult
    refine ⟨_, ?_, hring, hresult⟩
    rw [← Replay.drop_reads hend, ← r.after_source]
    exact hover

/-- An ARP request is handed out before the source breaks down, or before the flag is cleared and
    another frame is left. Either way the record of its sender is stored. -/
theorem run_stores_delivered_frames_of_arp_request :
    let request : Frame := ⟨⟨1, 0⟩, List.replicate 6 0xff ++ [2, 0, 0, 0, 0, 1, 8, 6] ++
      [0, 1, 8, 0, 6, 4, 0, 1, 2, 0, 0, 0, 0, 1, 10, 0, 0, 1, 0, 0, 0, 0, 0, 0, 10, 0, 0, 2]⟩
    let empty : Frame := ⟨⟨2, 0⟩, []⟩
    let gone : CaptureError := .receive (.failure "interface went away")
    let broken : Source Bool :=
      ⟨"gone0", fun asked => (if asked then .failed gone else .frame request, true)⟩
    let replay : Replay := { name := "replay0", frames := [request, empty] }
    let ring := Ring.empty 4 .evictOldest
    run broken { running := fun _ => true } {} 1 (start broken false ring) = none ∧
      (∃ c, run broken { running := fun _ => true } {} 2 (start broken false ring) =
          some ⟨c, true, 2⟩ ∧
        c.ring.toList.map Sighting.ip = [⟨10, 0, 0, 1⟩] ∧ c.result = .error gone) ∧
      (∃ c, run replay.source { running := fun k => k == 0 } {} 2
          (start replay.source replay ring) = some ⟨c, { replay with frames := [empty] }, 1⟩ ∧
        c.ring.toList.map Sighting.ip = [⟨10, 0, 0, 1⟩] ∧
        c.result = .ok { frames := 1, sightings := 1 }) := by
  intro request empty gone broken replay ring
  have hbroken := run_stores_delivered_frames broken false { running := fun _ => true } {} ring
  have hreplayed :=
    run_stores_delivered_frames replay.source replay { running := fun k => k == 0 } {} ring
  obtain ⟨hrunning, -, -⟩ := hbroken 1
  obtain ⟨-, hover, -⟩ := hbroken 2
  obtain ⟨-, -, hreplay⟩ := hreplayed 2
  refine ⟨hrunning (by decide), ?_, ?_⟩
  · obtain ⟨hrun, hring, hresult⟩ := hover 1 (by decide) (by decide) (by decide)
    refine ⟨_, hrun, ?_, hresult⟩
    rw [hring]
    decide
  · obtain ⟨c, hrun, hring, hresult⟩ :=
      hreplay replay 1 (by decide) (by decide) (by decide) (by decide)
    refine ⟨c, hrun, ?_, hresult⟩
    rw [hring]
    decide

end CaptureLoop

end LanWatch
