import LanWatch.Frame.Scan
import LanWatch.Text.Blank
import LanWatch.Text.Utf8

namespace LanWatch.NetBios

/-!
# NetBIOS names

Hosts look up and announce their names with broadcast name service packets. The first name of a
packet is the question of a query or registration, or the owner of an answer. Each byte of a name
is sent as two letters, one for each half of the byte.

* `encodeByte`, `encode` — first-level encoding;
* `nibble?`, `decodePairs` — its inverse;
* `name?`, `nameText` — the name in a label, without padding, service suffix and scope;
* `scan` — the name in the body of a datagram.
-/

/-- The length of the fixed header, which the first name follows. -/
def headerLength : Nat := 12

/-- The letters of an encoded name. -/
def encodedLength : Nat := 32

/-- The bytes of a name before its one-byte service suffix. -/
def nameLength : Nat := 15

/-- What separates an encoded name from a dotted scope. -/
def scopeSeparator : UInt8 := 0x2e

/-- The letter of a half byte. -/
def letter (half : Nat) : UInt8 :=
  UInt8.ofNat (0x41 + half)

/-- A byte as two letters, upper half first. -/
def encodeByte (b : UInt8) : Bytes :=
  [letter (b.toNat / 16), letter (b.toNat % 16)]

/-- Bytes as pairs of letters. -/
def encode (bytes : Bytes) : Bytes :=
  bytes.flatMap encodeByte

/-- The half byte of a letter. -/
def nibble? (b : UInt8) : Option Nat :=
  if 0x41 ≤ b.toNat ∧ b.toNat ≤ 0x50 then some (b.toNat - 0x41) else none

/-- The bytes of pairs of letters. A letter alone, or anything but letters, is no name. -/
def decodePairs : Bytes → Option Bytes
  | [] => some []
  | [_] => none
  | hi :: lo :: rest =>
    match nibble? hi, nibble? lo, decodePairs rest with
    | some h, some l, some bytes => some (UInt8.ofNat (h * 16 + l) :: bytes)
    | _, _, _ => none

/-- A name is padded with spaces, or with NULs by some hosts. -/
def isPadding (c : Char) : Bool :=
  c == ' ' || c.toNat == 0

/-- The text of a decoded name, without the service suffix and the padding. -/
def nameText (bytes : Bytes) : String :=
  String.ofList (Text.dropEndWhile isPadding (Text.decodeLossy (bytes.take nameLength)).toList)

/-- An encoded name ends at a NUL or at a scope. -/
def endsName (b : UInt8) : Bool :=
  b == 0 || b == scopeSeparator

/-- The name in a label. -/
def name? (label : Bytes) : Option String :=
  (decodePairs ((label.untilByte endsName).take encodedLength)).map nameText

/-- Takes a name into a record. An empty name is no name. -/
def apply (name : Option String) (s : Sighting) : Scan :=
  match name with
  | none => ⟨s, none, [.undecodableName s.mac]⟩
  | some name =>
    if name = "" then ⟨s, none, []⟩ else ⟨{ s with netbiosName := some name }, none, []⟩

/-- The label of the first name: none if the packet has no name, or starts with a pointer. -/
inductive FirstName where
  | absent
  | pointer
  | label (bytes : Bytes)
  deriving DecidableEq

/-- A label length with one of its two upper bits set is a pointer to another name. -/
def isPointer (length : UInt8) : Bool :=
  64 ≤ length.toNat

/-- The first name of a packet: after the transaction, the flags and four counts, of which the
    first two tell whether there is one. -/
def firstName (body : Bytes) : Except DecodeError FirstName := do
  let c ← (Cursor.start "netbios" body).skip 4
  let (questions, c) ← c.u16
  let (answers, c) ← c.u16
  let c ← c.skip (headerLength - 8)
  if questions = 0 ∧ answers = 0 then
    return .absent
  let (length, c) ← c.u8
  if isPointer length then
    return .pointer
  let (label, _) ← c.take length.toNat
  return .label label

/-- Scans the body of a datagram. A name that cannot be decoded leaves the record without one. -/
def scan (body : Bytes) (s : Sighting) : Scan :=
  match firstName body with
  | .error e => ⟨s, some e, []⟩
  | .ok .absent => ⟨s, none, []⟩
  | .ok .pointer => ⟨s, none, [.namePointer s.mac]⟩
  | .ok (.label label) => apply (name? label) s

end LanWatch.NetBios
