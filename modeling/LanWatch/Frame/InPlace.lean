import LanWatch.Frame.Guarded

namespace LanWatch

/-!
# Reading in place

Whoever reads a layer in place keeps the reader, and a read that succeeds moves it. After a read
that fails the reader is still in use, so that read must not have moved it. How many bytes are asked
for is any machine word. A position that far ahead may be none; then, too, the bytes are not there.

* `Guarded.checkedAdd` — the sum of two machine words, if it is one;
* `Reader.Action` — a read in place;
* `Reader.Action.bytes`, `Reader.Action.skip`, `Reader.Action.u8`, `Reader.Action.u16` — the reads;
* `Read`, `Read.Given` — which read it is, and what it gives;
* `Read.inPlace`, `Read.answers` — one read in place, and one read after another;
* `Cursor.answer`, `Cursor.answers` — the same reads with a cursor.
-/

/-- The sum of two machine words, if a machine word holds it. -/
def Guarded.checkedAdd (a b : Nat) : Option Nat :=
  if a + b < Nat.pow 2 64 then some (a + b) else none

open Guarded

/-! ### The reads -/

/-- A read in place. It gives a value, or the error that the frame is cut, and it leaves the reader
    behind either way, unless there is a fault. -/
abbrev Reader.Action (α : Type) : Type :=
  ExceptT DecodeError (StateT Reader (Except Fault)) α

namespace Reader.Action

/-- Reads the next `n` bytes. What lies ahead is computed in any case, and the reader is moved when
    the bytes have been read. -/
def bytes (n : UInt64) : Reader.Action Bytes := do
  let r ← get
  let last := (checkedAdd r.position n.toNat).filter (· ≤ r.data.length)
  let available ← r.remaining
  match last with
  | some last =>
    let read ← slice r.data r.position last
    set { r with position := last }
    return read
  | none => throw (.truncated r.layer r.position n.toNat available)

/-- Passes over the next `n` bytes. -/
def skip (n : UInt64) : Reader.Action Unit := do
  let _ ← bytes n
  return ()

/-- Reads one byte. -/
def u8 : Reader.Action UInt8 := do
  let read ← bytes 1
  byteAt read 0

/-- Reads a 16-bit number, high byte first. -/
def u16 : Reader.Action UInt16 := do
  let read ← bytes 2
  return be16 (← byteAt read 0) (← byteAt read 1)

end Reader.Action

/-! ### Reads as data -/

/-- A read. -/
inductive Read where
  | u8
  | u16
  | bytes (n : UInt64)
  | skip (n : UInt64)
  deriving DecidableEq

namespace Read

/-- What a read gives. -/
inductive Given where
  | byte (b : UInt8)
  | number (n : UInt16)
  | bytes (bytes : Bytes)
  | nothing
  deriving DecidableEq

/-- What a read gives, or why it fails. -/
abbrev Answer : Type :=
  Except DecodeError Given

/-- How many bytes a read asks for. -/
def count : Read → UInt64
  | u8 => 1
  | u16 => 2
  | bytes n => n
  | skip n => n

/-- How many bytes a read moves past if it succeeds. -/
def width (read : Read) : Nat :=
  read.count.toNat

/-- The read in place. -/
def inPlace : Read → Reader.Action Given
  | u8 => return .byte (← Reader.Action.u8)
  | u16 => return .number (← Reader.Action.u16)
  | bytes n => return .bytes (← Reader.Action.bytes n)
  | skip n => do
    Reader.Action.skip n
    return .nothing

/-- What a read answers, and the reader that it leaves behind. -/
def answer (read : Read) (r : Reader) : Except Fault (Answer × Reader) :=
  read.inPlace.run.run r

/-- What reads answer one after another, whether they fail or not, and the reader that they leave
    behind. -/
def answers : List Read → Reader → Except Fault (List Answer × Reader)
  | [], r => return ([], r)
  | read :: reads, r => do
    let (a, r) ← read.answer r
    let (as, r) ← answers reads r
    return (a :: as, r)

end Read

namespace Cursor

/-- The read with a cursor. -/
def read (c : Cursor) : Read → Except DecodeError (Read.Given × Cursor)
  | .u8 => c.u8.map fun (b, c) => (.byte b, c)
  | .u16 => c.u16.map fun (n, c) => (.number n, c)
  | .bytes n => (c.take n.toNat).map fun (bytes, c) => (.bytes bytes, c)
  | .skip n => (c.skip n.toNat).map fun c => (.nothing, c)

/-- What a read answers, and the cursor to go on with. -/
def answer (c : Cursor) (read : Read) : Read.Answer × Cursor :=
  match c.read read with
  | .ok (given, c) => (.ok given, c)
  | .error e => (.error e, c)

/-- What reads answer one after another, whether they fail or not, and the cursor to go on with. -/
def answers : Cursor → List Read → List Read.Answer × Cursor
  | c, [] => ([], c)
  | c, read :: reads =>
    let (a, c) := c.answer read
    let (as, c) := c.answers reads
    (a :: as, c)

end Cursor

end LanWatch
