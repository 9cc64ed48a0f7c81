import LanWatch.Text.Blank
import LanWatch.Text.Digits

namespace LanWatch.Pattern

/-!
# Modes and escapes of patterns

What a character of a pattern means depends on the flags that are set where it stands, and on a
backslash in front of it.

* `Mode` — what the flags set;
* `Mode.skip`, `Mode.glance?` — what a mode passes over;
* `readEscape` — what a backslash and the characters after it stand for.
-/

/-! ### Modes -/

/-- What the flags of a pattern set. -/
structure Mode where
  /-- Letters match in either case. -/
  caseless : Bool := false
  /-- The pattern is about characters, not bytes. -/
  unicode : Bool := true
  /-- Blanks and comments in the pattern are passed over. -/
  spaced : Bool := false
  deriving DecidableEq

/-- What is left after blanks, and after comments up to the ends of their lines. -/
def skipBlanks (inComment : Bool) : List Char → List Char
  | [] => []
  | c :: cs =>
    if inComment then skipBlanks (c != '\n') cs
    else if Text.isBlank c then skipBlanks false cs
    else if c = '#' then skipBlanks true cs
    else c :: cs

namespace Mode

/-- What is left after what the mode passes over. -/
def skip (m : Mode) (cs : List Char) : List Char :=
  if m.spaced then skipBlanks false cs else cs

/-- The next character at a glance. A glance passes over blanks and the sign that opens a comment,
    but not over the comment. -/
def glance? (m : Mode) (cs : List Char) : Option Char :=
  if !m.spaced then cs.head?
  else match cs.dropWhile Text.isBlank with
    | '#' :: rest => (rest.dropWhile Text.isBlank).head?
    | rest => rest.head?

/-- Characters that stand for themselves can be matched. They cannot if they stand for characters in
    either case, since there is no table of those. -/
def allowsLiterals (m : Mode) : Bool :=
  !(m.caseless && m.unicode)

/-- Sets up a mode by one flag. -/
def set (m : Mode) (flag : Char) (on : Bool) : Mode :=
  if flag = 'i' then { m with caseless := on }
  else if flag = 'u' then { m with unicode := on }
  else if flag = 'x' then { m with spaced := on }
  else m

end Mode

/-! ### Escapes -/

/-- What an escape stands for. -/
inductive Escape where
  /-- A character. -/
  | literal (c : Char)
  /-- A class of ASCII characters with a letter for its name. -/
  | namedClass
  /-- A place between characters. -/
  | place (wordBoundary : Bool)
  deriving DecidableEq

/-- The character that a backslash and a letter stand for. -/
def namedCharacters : List (Char × Char) :=
  [('a', '\x07'), ('f', '\x0c'), ('t', '\t'), ('n', '\n'), ('r', '\r'), ('v', '\x0b')]

/-- How many hexadecimal digits follow a letter. -/
def hexDigitCounts : List (Char × Nat) :=
  [('x', 2), ('u', 4), ('U', 8)]

/-- Reads `count` hexadecimal digits after the value `acc` read so far. -/
def readHex (m : Mode) (count acc : Nat) (cs : List Char) : Option (Nat × List Char) :=
  match count with
  | 0 => some (acc, cs)
  | count + 1 =>
    match m.skip cs with
    | [] => none
    | c :: cs => (Text.hexValue? c).bind fun d => readHex m count (acc * 16 + d) cs

/-- Reads a character that is given by its number. Where the pattern is about bytes, a number of two
    digits is a byte, and only those of ASCII are characters. -/
def readNumbered (m : Mode) (count : Nat) (cs : List Char) : Option (Escape × List Char) :=
  (readHex m count 0 cs).bind fun (n, rest) =>
    if !Nat.isValidChar n || (!m.unicode && count == 2 && 0x80 ≤ n) then none
    else some (.literal (Char.ofNat n), m.skip rest)

/-- Reads what follows a backslash. -/
def readEscape (m : Mode) : List Char → Option (Escape × List Char)
  | [] => none
  | c :: cs =>
    match hexDigitCounts.lookup c, namedCharacters.lookup c with
    | some count, _ => readNumbered m count cs
    | none, some named => some (.literal named, cs)
    | none, none =>
      if "dsw".toList.contains c then if m.unicode then none else some (.namedClass, cs)
      else if c = 'A' ∨ c = 'z' then some (.place false, cs)
      else if "bB<>".toList.contains c then some (.place m.unicode, cs)
      else if c.isAlphanum || 0x80 ≤ c.toNat then none
      else some (.literal c, cs)

end LanWatch.Pattern
