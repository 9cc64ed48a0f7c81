import LanWatch.Capture.Source
import LanWatch.Log
import LanWatch.System.Interface

namespace LanWatch

/-!
# Capturing from an interface

A live source is opened on an interface by name. Opening takes several calls to the system, each of
which may be refused. Once it is open, what happens on the link decides what the source answers.

* `Faults`, `openInterface` — opening, given the calls that are refused;
* `openedEvent` — what is said about an open source;
* `LinkEvent`, `LinkEvent.answer` — what happens on the link, and what the source answers.
-/

/-! ### Opening -/

/-- The calls to the system that are refused, each with its error number. -/
structure Faults where
  /-- Listing the interfaces. -/
  listing : Option Nat := none
  /-- Making the channel. -/
  socket : Option Nat := none
  /-- Tying it to an interface. -/
  bind : Option Nat := none
  /-- Asking for the frames of other hosts too. -/
  promiscuous : Option Nat := none
  /-- Asking not to be kept waiting. -/
  nonBlocking : Option Nat := none
  deriving DecidableEq

/-- The first call in opening a channel that is refused. -/
def Faults.opening? (f : Faults) : Option IoError :=
  ([f.socket, f.bind, f.promiscuous, f.nonBlocking].findSome? id).map .os

/-- Opens a source on the interface with a given name. -/
def openInterface (entries : List Interface) (faults : Faults) (name : String) :
    Except CaptureError Interface :=
  match Interface.find? entries name with
  | none => .error (.interfaceNotFound name)
  | some interface =>
    match faults.opening? with
    | none => .ok interface
    | some e => .error (if e.isDenied then .insufficientPermissions else .channelCreation e)

/-- A length of time given in milliseconds: in milliseconds below one second, and else in seconds
    with as many decimal places as it takes. -/
def durationText (milliseconds : Nat) : String :=
  if milliseconds < 1000 then Text.decimal milliseconds ++ "ms"
  else
    let places := (Text.paddedDecimal 3 (milliseconds % 1000)).toList.reverse.dropWhile (· == '0')
    let fraction := if places.isEmpty then "" else "." ++ String.ofList places.reverse
    Text.decimal (milliseconds / 1000) ++ fraction ++ "s"

/-- What is said about a source that has been opened. -/
def openedEvent (name : String) (filter : Filter) (timeout : Nat) : Event :=
  ⟨.debug, .device, "Opened capture on " ++ name ++ " (filter " ++ filter.label ++ ", timeout " ++
    durationText timeout ++ ")"⟩

/-! ### Reading -/

/-- What happens while a source waits for a frame. -/
inductive LinkEvent where
  /-- A frame comes in, at a time in nanoseconds after the Unix epoch. -/
  | frame (time : Int) (data : Bytes)
  /-- Nothing comes in. -/
  | timeout
  /-- Waiting or reading fails. -/
  | error (cause : IoError)
  deriving DecidableEq

namespace LinkEvent

/-- The most bytes of a frame that are received. -/
def receiveLimit : Nat := 4096

/-- The failure to make sense of what the system reports. -/
def odd : LinkEvent :=
  error (.failure "Unexpected poll event")

/-- What a source with a given filter answers. -/
def answer (filter : Filter) : LinkEvent → Answer
  | frame time data => filter.answer ⟨.ofNanos time, data.take receiveLimit⟩
  | timeout => .idle
  | error cause => if cause.isTransient then .idle else .failed (.receive cause)

end LinkEvent

example : durationText 100 = "100ms" := by cbv
example : durationText 1500 = "1.5s" := by cbv
example : durationText 60000 = "60s" := by cbv

end LanWatch
