import LanWatch.Frame.Scan

namespace LanWatch

/-!
# Operations with a domain

Indexing, slicing and the arithmetic of machine words are defined for some arguments only, and stop
the program at others. Here they say so: each of them gives a value within its domain and a fault
outside of it. A decoder that is written with them shows where it relies on which domain.

* `Fault` — an operation outside of its domain;
* `Guarded.word`, `Guarded.sub`, `Guarded.clamp` — arithmetic within its domain;
* `Guarded.byteAt`, `Guarded.slice` — parts of a stretch of bytes;
* `Guarded` — what a read gives: a value, or an error of the frame, or a fault;
* `Reader` — a layer of a frame with a position in it, read by these operations;
* `Guarded.orStop` — a read within a scan.
-/

/-- An operation outside of its domain. -/
inductive Fault where
  /-- A number that no machine word holds. -/
  | overflow (value : Nat)
  /-- A difference below zero. -/
  | underflow (a b : Nat)
  /-- Bounds in the wrong order. -/
  | bounds (least most : Nat)
  /-- A position that is not within the bytes. -/
  | index (position length : Nat)
  /-- A range that is not within the bytes. -/
  | range (first last length : Nat)
  /-- A loop that took more rounds than it was allowed. -/
  | endless
  deriving DecidableEq

/-- What a read gives: a value, or the error that the frame is cut, or a fault. -/
abbrev Guarded (α : Type) : Type :=
  ExceptT DecodeError (Except Fault) α

namespace Guarded

/-! ### The operations -/

/-- A machine word has 64 bits. -/
def word (n : Nat) : Except Fault Nat :=
  if n < Nat.pow 2 64 then .ok n else .error (.overflow n)

/-- The difference of two words. -/
def sub (a b : Nat) : Except Fault Nat :=
  if b ≤ a then .ok (a - b) else .error (.underflow a b)

/-- The number within bounds that is closest to `n`. -/
def clamp (n least most : Nat) : Except Fault Nat :=
  if least ≤ most then .ok (if n < least then least else if most < n then most else n)
  else .error (.bounds least most)

/-- The byte at a position. -/
def byteAt (bytes : Bytes) (position : Nat) : Except Fault UInt8 :=
  match bytes[position]? with
  | some b => .ok b
  | none => .error (.index position bytes.length)

/-- The bytes from `first` up to and without `last`. -/
def slice (bytes : Bytes) (first last : Nat) : Except Fault Bytes :=
  if first ≤ last ∧ last ≤ bytes.length then .ok ((bytes.take last).drop first)
  else .error (.range first last bytes.length)

/-- The bytes from `first` on. -/
def sliceFrom (bytes : Bytes) (first : Nat) : Except Fault Bytes :=
  slice bytes first bytes.length

end Guarded

/-! ### Reading -/

open Guarded

/-- The bytes of a layer and a position in them. -/
structure Reader where
  /-- The name of the layer, for errors. -/
  layer : String
  data : Bytes
  /-- How many bytes of the layer lie behind. -/
  position : Nat
  deriving DecidableEq

namespace Reader

/-- The start of a layer. -/
def start (layer : String) (data : Bytes) : Reader :=
  ⟨layer, data, 0⟩

/-- How many bytes lie ahead. -/
def remaining (r : Reader) : Except Fault Nat :=
  sub r.data.length r.position

/-- No bytes lie ahead. -/
def atEnd (r : Reader) : Except Fault Bool := do
  return (← r.remaining) == 0

/-- Reads the next `n` bytes. What lies ahead is computed in any case. -/
def readBytes (r : Reader) (n : Nat) : Guarded (Bytes × Reader) := do
  let last ← word (r.position + n)
  let available ← r.remaining
  if last ≤ r.data.length then
    let bytes ← slice r.data r.position last
    return (bytes, { r with position := last })
  else throw (.truncated r.layer r.position n available)

/-- Passes over the next `n` bytes. -/
def skip (r : Reader) (n : Nat) : Guarded Reader := do
  let (_, r) ← r.readBytes n
  return r

/-- Reads one byte. -/
def readU8 (r : Reader) : Guarded (UInt8 × Reader) := do
  let (bytes, r) ← r.readBytes 1
  return (← byteAt bytes 0, r)

/-- Reads a 16-bit number, high byte first. -/
def readU16 (r : Reader) : Guarded (UInt16 × Reader) := do
  let (bytes, r) ← r.readBytes 2
  return (be16 (← byteAt bytes 0) (← byteAt bytes 1), r)

end Reader

/-- Goes on with what was read. If the frame is cut, the scan stops with the record as it is. -/
def Guarded.orStop {α : Type} (read : Guarded α) (s : Sighting) (next : α → Except Fault Scan) :
    Except Fault Scan := do
  match ← read.run with
  | .ok a => next a
  | .error e => return ⟨s, some e, []⟩

/-- A scan with notes before its own. -/
def Scan.noted (scan : Scan) (notes : List Note) : Scan :=
  { scan with notes := notes ++ scan.notes }

end LanWatch
