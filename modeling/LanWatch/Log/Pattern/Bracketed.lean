import LanWatch.Log.Pattern.Escape
import LanWatch.Log.Pattern.Nesting

namespace LanWatch.Pattern

/-!
# Classes in brackets

A class holds characters, ranges of characters, classes with names, and further classes in brackets.
Operators between them combine what stands on their left with what stands on their right.

* `readRange` — a character or a range;
* `OpenClass` — a class as far as it has been read;
* `readClass` — a whole class.
-/

/-! ### Members -/

/-- The names of the classes that stand between colons. -/
def classNames : List String :=
  ["alnum", "alpha", "ascii", "blank", "cntrl", "digit", "graph", "lower", "print", "punct",
    "space", "upper", "word", "xdigit"]

/-- Reads a class between colons, given what follows its opening bracket: whether it is negated, and
    what follows it. -/
def readNamedClass? : List Char → Option (Bool × List Char)
  | ':' :: cs =>
    let (negated, cs) := match cs with
      | '^' :: cs => (true, cs)
      | cs => (false, cs)
    let name := cs.takeWhile (· != ':')
    match cs.drop name.length with
    | ':' :: ']' :: rest =>
      if classNames.contains (String.ofList name) then some (negated, rest) else none
    | _ => none
  | _ => none

/-- Reads one character of a class, or a class with a letter for its name. -/
def readMember (m : Mode) : List Char → Option (Option Char × List Char)
  | [] => none
  | '\\' :: cs =>
    match readEscape m cs with
    | some (.literal c, rest) => some (some c, rest)
    | some (.namedClass, rest) => some (none, rest)
    | _ => none
  | c :: cs => some (some c, cs)

/-- The character can be a member of a class: where the pattern is about bytes, only ASCII can. -/
def allowsMember (m : Mode) (c : Char) : Bool :=
  m.unicode || c.toNat < 0x80

/-- Reads a member of a class, or a range from one character to another. A hyphen opens a range
    unless a closing bracket or another hyphen comes after it. -/
def readRange (m : Mode) (cs : List Char) : Option (List Char) := do
  guard m.allowsLiterals
  let (first, rest) ← readMember m cs
  guard (first.all (allowsMember m))
  match m.skip rest with
  | [] => none
  | '-' :: after =>
    if m.glance? after = some ']' ∨ m.glance? after = some '-' then some ('-' :: after)
    else
      let (last, rest) ← readMember m (m.skip after)
      let first ← first
      let last ← last
      guard (first ≤ last && allowsMember m last)
      some rest
  | rest => some rest

/-! ### Classes -/

/-- A class in brackets, as far as it has been read. -/
structure OpenClass where
  /-- The members after the last operator. -/
  members : Parts := {}
  /-- The depth of what stands before the last operator. -/
  left : Option Nat := none
  deriving DecidableEq

namespace OpenClass

/-- How deeply what is between the brackets is nested. -/
def depth (c : OpenClass) : Nat :=
  match c.left with
  | none => c.members.depth
  | some left => max left c.members.depth + 1

/-- One member more, of the given depth. -/
def member (c : OpenClass) (depth : Nat) : OpenClass :=
  { c with members := c.members.add depth }

/-- An operator, with everything up to it on its left. -/
def operator (c : OpenClass) : OpenClass :=
  { left := some c.depth }

end OpenClass

/-- Passes over hyphens at the start of a class, which stand for themselves, and over what the mode
    passes over between them. Each hyphen is a member of the class. -/
def skipHyphens (m : Mode) (inComment : Bool) (c : OpenClass) :
    List Char → OpenClass × List Char
  | [] => (c, [])
  | d :: ds =>
    if inComment then skipHyphens m (d != '\n') c ds
    else if d = '-' then skipHyphens m false (c.member 0) ds
    else if m.spaced && Text.isBlank d then skipHyphens m false c ds
    else if m.spaced && d == '#' then skipHyphens m true c ds
    else (c, d :: ds)

/-- Reads the start of a class, given what follows its opening bracket. A closing bracket in the
    first place stands for itself. A negated class holds more than ASCII, which is an error where
    the pattern is about bytes. -/
def openClass (m : Mode) (cs : List Char) : Option (OpenClass × List Char) := do
  let inside ← match m.skip cs with
    | '^' :: rest => if m.unicode then some (m.skip rest) else none
    | rest => some rest
  let (c, rest) := match skipHyphens m false {} inside with
    | (⟨⟨0, _⟩, _⟩, ']' :: rest) => ((({} : OpenClass).member 0), m.skip rest)
    | start => start
  guard (!rest.isEmpty && (m.allowsLiterals || c.members.count == 0))
  some (c, rest)

/-- Reads the rest of a class with others around it, and tells its depth. -/
def readClassFrom (m : Mode) (fuel : Nat) (c : OpenClass) (outer : List OpenClass)
    (cs : List Char) : Option (Nat × List Char) :=
  match fuel with
  | 0 => none
  | fuel + 1 =>
    match m.skip cs with
    | [] => none
    | '[' :: rest =>
      match readNamedClass? rest with
      | some (negated, rest) =>
        if m.allowsLiterals && (m.unicode || !negated) then
          readClassFrom m fuel (c.member 0) outer rest
        else none
      | none => (openClass m rest).bind fun (inner, rest) =>
        readClassFrom m fuel inner (c :: outer) rest
    | ']' :: rest =>
      match outer with
      | [] => some (c.depth + 1, rest)
      | parent :: outer => readClassFrom m fuel (parent.member (c.depth + 1)) outer rest
    | '&' :: '&' :: rest => readClassFrom m fuel c.operator outer rest
    | '-' :: '-' :: rest => readClassFrom m fuel c.operator outer rest
    | '~' :: '~' :: rest => readClassFrom m fuel c.operator outer rest
    | rest => (readRange m rest).bind (readClassFrom m fuel (c.member 0) outer)

/-- Reads a class, given what follows its opening bracket, and tells its depth. -/
def readClass (m : Mode) (cs : List Char) : Option (Nat × List Char) :=
  (openClass m cs).bind fun (c, rest) => readClassFrom m (cs.length + 1) c [] rest

end LanWatch.Pattern
