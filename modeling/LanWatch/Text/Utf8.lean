import LanWatch.Bytes

namespace LanWatch.Text

/-!
# UTF-8

Names arrive as bytes that ought to be UTF-8. Reading never fails: whatever is not part of a
well-formed sequence becomes the replacement character, one for each longest stretch that could
still have begun a well-formed sequence.

* `Utf8.State` — between characters, or inside one;
* `Utf8.lead` — what a byte does between characters;
* `Utf8.decodeFrom`, `decodeLossy` — the characters of a stretch of bytes;
* `Utf8.wellFormed` — whether any byte had to be replaced;
* `Utf8.width` — how many bytes a text takes.
-/

namespace Utf8

/-- The character that stands for bytes which are no UTF-8. -/
def replacement : Char := '\ufffd'

/-- Where the reader stands between two bytes. -/
inductive State where
  /-- Between characters. -/
  | ground
  /-- Inside a character: `value` is the number read so far, `owed` continuation bytes follow,
      and the next one lies between `low` and `high`. -/
  | inside (value owed low high : Nat)
  deriving DecidableEq

/-- What a byte gives: the character it completes, if any, and the next state. -/
structure Step where
  /-- The character that the byte completes. -/
  out : Option Char
  /-- The state after the byte. -/
  next : State
  /-- The byte fits no well-formed sequence here. -/
  bad : Bool := false

/-- A byte between characters: a character of its own, the start of a longer one, or neither. -/
def lead (b : UInt8) : Step :=
  let n := b.toNat
  if n < 0x80 then ⟨some (Char.ofNat n), .ground, false⟩
  else if 0xc2 ≤ n ∧ n ≤ 0xdf then ⟨none, .inside (n - 0xc0) 1 0x80 0xbf, false⟩
  else if n = 0xe0 then ⟨none, .inside 0 2 0xa0 0xbf, false⟩
  else if n = 0xed then ⟨none, .inside 0xd 2 0x80 0x9f, false⟩
  else if 0xe1 ≤ n ∧ n ≤ 0xef then ⟨none, .inside (n - 0xe0) 2 0x80 0xbf, false⟩
  else if n = 0xf0 then ⟨none, .inside 0 3 0x90 0xbf, false⟩
  else if 0xf1 ≤ n ∧ n ≤ 0xf3 then ⟨none, .inside (n - 0xf0) 3 0x80 0xbf, false⟩
  else if n = 0xf4 then ⟨none, .inside 4 3 0x80 0x8f, false⟩
  else ⟨some replacement, .ground, true⟩

/-- The characters of `bytes`, read from `state`. A byte that does not continue the character
    begun is read again from the ground, after a replacement for what was begun. -/
def decodeFrom : State → Bytes → List Char
  | .ground, [] => []
  | .inside _ _ _ _, [] => [replacement]
  | .ground, b :: bs => (lead b).out.toList ++ decodeFrom (lead b).next bs
  | .inside value owed low high, b :: bs =>
    if low ≤ b.toNat ∧ b.toNat ≤ high then
      let value := value * 64 + (b.toNat - 0x80)
      if owed ≤ 1 then Char.ofNat value :: decodeFrom .ground bs
      else decodeFrom (.inside value (owed - 1) 0x80 0xbf) bs
    else replacement :: ((lead b).out.toList ++ decodeFrom (lead b).next bs)

/-- No byte of `bytes`, read from `state`, has to be replaced. -/
def wellFormedFrom : State → Bytes → Bool
  | .ground, [] => true
  | .inside _ _ _ _, [] => false
  | .ground, b :: bs => !(lead b).bad && wellFormedFrom (lead b).next bs
  | .inside value owed low high, b :: bs =>
    decide (low ≤ b.toNat ∧ b.toNat ≤ high) &&
      (if owed ≤ 1 then wellFormedFrom .ground bs
       else wellFormedFrom (.inside (value * 64 + (b.toNat - 0x80)) (owed - 1) 0x80 0xbf) bs)

/-- The bytes are well-formed UTF-8. -/
def wellFormed (bytes : Bytes) : Bool :=
  wellFormedFrom .ground bytes

/-- How many bytes a text takes. -/
def width (text : String) : Nat :=
  text.utf8ByteSize

end Utf8

/-- The text that a stretch of bytes spells, with replacements for what is no UTF-8. -/
def decodeLossy (bytes : Bytes) : String :=
  String.ofList (Utf8.decodeFrom .ground bytes)

/-- The text that well-formed bytes spell. -/
def decodeStrict? (bytes : Bytes) : Option String :=
  if Utf8.wellFormed bytes then some (decodeLossy bytes) else none

example : Utf8.decodeFrom .ground [0x61, 0xc3, 0xa9] = ['a', 'é'] := by decide
-- A surrogate is three stretches of one byte each; a cut character is one stretch.
example : Utf8.decodeFrom .ground [0xed, 0xa0, 0x80] = ['\ufffd', '\ufffd', '\ufffd'] := by decide
example : Utf8.decodeFrom .ground [0xf0, 0x9f, 0x98, 0x41] = ['\ufffd', 'A'] := by decide

end LanWatch.Text
