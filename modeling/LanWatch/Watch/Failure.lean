import LanWatch.Pending.Ring
import LanWatch.Text.Digits
import LanWatch.Text.Pieces

namespace LanWatch

/-!
# Failures

Why a run ended with an error: what could not be done, and the chain of causes behind that. Most of
the time the program itself finds out and gives up. When there is no memory for what it asks for, it
is broken off.

* `Ending` — who ends the run, and with which status;
* `Failure` — the message and the causes;
* `Failure.text` — the account for the user; several causes are numbered;
* `RingError.failure` — what it is to a run that there are no slots.
-/

/-- How a run that fails ends. -/
inductive Ending where
  /-- The program gives up. -/
  | givenUp
  /-- Its main thread panics. -/
  | panicked
  /-- Its process is aborted. -/
  | aborted
  deriving DecidableEq

/-- What the system is told. -/
def Ending.status : Ending → Nat
  | givenUp => 1
  | panicked => 101
  | aborted => 134

/-- Why a run ended with an error. -/
structure Failure where
  message : String
  /-- Each one the cause of the one before. -/
  causes : List String := []
  ending : Ending := .givenUp
  deriving DecidableEq

namespace Failure

/-- A cause after its label. Further lines of it are indented as far as the label reaches. -/
def causeText (label margin cause : String) : String :=
  label ++ Text.join ("\n" ++ margin) ((Text.pieces '\n' cause.toList).map String.ofList)

/-- The causes with their numbers, counted from `n`. -/
def numberedCauses (n : Nat) : List String → List String
  | [] => []
  | cause :: causes =>
    let digits := Text.decimal n
    let label := String.ofList (List.replicate (5 - digits.length) ' ') ++ digits ++ ": "
    causeText label "       " cause :: numberedCauses (n + 1) causes

/-- The lines about the causes. -/
def causeLines : List String → List String
  | [cause] => [causeText "    " "    " cause]
  | causes => numberedCauses 0 causes

/-- The account for the user. Only a program that gives up tells the causes. -/
def text (f : Failure) : String :=
  match f.ending with
  | .givenUp =>
    let causes :=
      if f.causes.isEmpty then ""
      else "\n\nCaused by:\n" ++ Text.join "\n" (causeLines f.causes)
    "Error: " ++ f.message ++ causes ++ "\n"
  | .panicked => "\nthread 'main' panicked:\n" ++ f.message ++ "\n"
  | .aborted => f.message ++ "\n"

end Failure

example : Failure.text { message := "a", causes := ["b", "c"] } =
    "Error: a\n\nCaused by:\n    0: b\n    1: c\n" := by cbv

example : Failure.text { message := "a", causes := ["b\nc"] } =
    "Error: a\n\nCaused by:\n    b\n    c\n" := by cbv

/-- Too few slots are refused; too many make the allocation panic or abort. -/
def RingError.failure (e : RingError) : Failure :=
  { message := e.message
    ending := match e with
      | .capacityTooSmall _ => .givenUp
      | .capacityOverflow => .panicked
      | .outOfMemory _ => .aborted }

end LanWatch
