import LanWatch.System.IoError
import LanWatch.Text.Utf8

namespace LanWatch

/-!
# Writing reports

Reports are written piece by piece to a medium that may refuse them. A writer collects small pieces
and hands them on together; one whose buffer has no room hands every piece on at once.

* `Medium` — what has been written, and when more is refused;
* `Writer` — a medium behind a buffer;
* `Writer.write`, `Writer.writeAll`, `Writer.flush` — the operations, each with the error that
  stopped it, if any.
-/

/-! ### Media -/

/-- A place that text is written to. -/
structure Medium where
  /-- Everything written so far. -/
  contents : String := ""
  /-- Why nothing more is taken once the contents are these. -/
  refusal : String → Option IoError := fun _ => none
  /-- Why flushing fails, if it does. -/
  flushError : Option IoError := none

namespace Medium

/-- A place that takes everything. -/
def unlimited : Medium := {}

/-- A place that takes nothing. -/
def full : Medium :=
  { refusal := fun _ => some (.os IoError.noSpace) }

/-- A place that takes nothing more once it holds `n` complete lines. -/
def ofLines (n : Nat) : Medium :=
  { refusal := fun contents =>
      if n ≤ contents.toList.count '\n' then some (.failure "disk full") else none }

/-- Writes a text as a whole or not at all. The empty text is always taken. -/
def write (m : Medium) (text : String) : Medium × Option IoError :=
  if text.isEmpty then (m, none)
  else match m.refusal m.contents with
    | some e => (m, some e)
    | none => ({ m with contents := m.contents ++ text }, none)

end Medium

/-! ### Buffered writing -/

/-- A medium behind a buffer. -/
structure Writer where
  medium : Medium
  /-- How many bytes the buffer takes. -/
  capacity : Nat
  /-- What is in the buffer. -/
  pending : String := ""

namespace Writer

/-- A writer that hands every piece on at once. -/
def direct (medium : Medium) : Writer :=
  { medium, capacity := 0 }

/-- A writer that collects up to 8192 bytes. -/
def buffered (medium : Medium) : Writer :=
  { medium, capacity := 8192 }

/-- How many more bytes the buffer takes. -/
def spare (w : Writer) : Nat :=
  w.capacity - Text.Utf8.width w.pending

/-- Hands the buffer on. What the medium refuses stays in the buffer. -/
def drain (w : Writer) : Writer × Option IoError :=
  match w.medium.write w.pending with
  | (medium, none) => ({ w with medium, pending := "" }, none)
  | (medium, some e) => ({ w with medium }, some e)

/-- Puts a piece into the buffer, or past it if it is as large as the whole buffer. -/
def place (w : Writer) (text : String) : Writer × Option IoError :=
  if w.capacity ≤ Text.Utf8.width text then
    let (medium, error) := w.medium.write text
    ({ w with medium }, error)
  else ({ w with pending := w.pending ++ text }, none)

/-- Writes a piece, after the buffer if the two do not fit together. -/
def write (w : Writer) (text : String) : Writer × Option IoError :=
  if w.spare < Text.Utf8.width text then
    match w.drain with
    | (w, some e) => (w, some e)
    | (w, none) => w.place text
  else w.place text

/-- Writes pieces up to the first one that fails. -/
def writeAll (w : Writer) : List String → Writer × Option IoError
  | [] => (w, none)
  | text :: texts =>
    match w.write text with
    | (w, some e) => (w, some e)
    | (w, none) => w.writeAll texts

/-- Hands on everything that is in the buffer, and has the medium do the same. -/
def flush (w : Writer) : Writer × Option IoError :=
  match w.drain with
  | (w, some e) => (w, some e)
  | (w, none) => (w, w.medium.flushError)

end Writer

end LanWatch
