import LanWatch.Capture.Filter
import LanWatch.System.IoError
import LanWatch.Timestamp

namespace LanWatch

/-!
# Frame sources

A source is asked again and again for the next frame. What it answers is data: a capture is a
function of the answers that it gets before it is told to stop.

* `CaptureError` — why a capture could not start, or ended;
* `Frame` — a frame with the time of its receipt;
* `Answer` — one answer of a source;
* `Delivery` — an answer, and whether statistics are due after it;
* `Replay` — a source that hands out prepared frames.
-/

/-! ### Errors -/

/-- Why a capture could not start, or ended. -/
inductive CaptureError where
  | interfaceNotFound (name : String)
  | insufficientPermissions
  | channelCreation (cause : IoError)
  | receive (cause : IoError)
  /-- The capture thread died. -/
  | workerDied
  deriving DecidableEq

namespace CaptureError

/-- The wording of an error. -/
def message : CaptureError → String
  | interfaceNotFound name => "interface not found: " ++ name
  | insufficientPermissions => "insufficient permissions to capture (try running as root)"
  | channelCreation cause => "failed to create capture channel: " ++ cause.message
  | receive cause => "receive failed: " ++ cause.message
  | workerDied => "capture thread panicked"

/-- The error behind an error. -/
def cause? : CaptureError → Option IoError
  | receive cause => some cause
  | _ => none

/-- The wording of an error, followed by that of the error behind it. -/
def account (e : CaptureError) : List String :=
  e.message :: e.cause?.toList.map IoError.message

end CaptureError

/-! ### Answers -/

/-- A frame with the time of its receipt. -/
structure Frame where
  seen : Timestamp
  data : Bytes
  deriving DecidableEq

/-- One answer of a source. -/
inductive Answer where
  | frame (f : Frame)
  /-- There is nothing to hand out right now: a timeout, or a frame that the filter holds back. -/
  | idle
  /-- There will be no more frames. -/
  | closed
  /-- The source broke down. -/
  | failed (e : CaptureError)
  /-- The thread that reads the source died. -/
  | died
  deriving DecidableEq

/-- The answer ends a capture. -/
def Answer.isFinal : Answer → Bool
  | frame _ => false
  | idle => false
  | _ => true

/-- The frame that an answer hands out. -/
def Answer.frame? : Answer → Option Frame
  | frame f => some f
  | _ => none

/-- The error that an answer ends a capture with. -/
def Answer.error? : Answer → Option CaptureError
  | failed e => some e
  | died => some .workerDied
  | _ => none

/-- An answer, and whether statistics are due once it has been dealt with. -/
structure Delivery where
  answer : Answer
  statsDue : Bool := false
  deriving DecidableEq

/-- What a filter makes of a frame. -/
def Filter.answer (filter : Filter) (f : Frame) : Answer :=
  if filter.accepts f.data then .frame f else .idle

/-! ### Replay -/

/-- A source that hands out prepared frames, then is closed. -/
structure Replay where
  name : String
  frames : List Frame
  filter : Filter := .all
  deriving DecidableEq

namespace Replay

/-- Asks for the next frame. -/
def read (r : Replay) : Answer × Replay :=
  match r.frames with
  | [] => (.closed, r)
  | f :: fs => (r.filter.answer f, { r with frames := fs })

/-- The answers to the next `n` requests. -/
def readMany : Nat → Replay → List Answer
  | 0, _ => []
  | n + 1, r => r.read.1 :: readMany n r.read.2

/-- The answers for the prepared frames. -/
def frameAnswers (r : Replay) : List Answer :=
  r.frames.map r.filter.answer

/-- All answers up to the one that says that the source is closed. -/
def answers (r : Replay) : List Answer :=
  r.frameAnswers ++ [.closed]

/-- Asked once more than it has frames, a replay gives all its answers. -/
theorem readMany_length_frames (r : Replay) :
    readMany (r.frames.length + 1) r = r.answers := by
  obtain ⟨name, frames, filter⟩ := r
  induction frames with
  | nil => rfl
  | cons f fs ih => simpa [readMany, read, answers, frameAnswers] using ih

end Replay

/-- Answers with something else in place of the answer to request `k`, if it comes to that. -/
def interruptAt (k : Nat) (a : Answer) (answers : List Answer) : List Answer :=
  if k < answers.length then answers.take k ++ [a] else answers

end LanWatch
