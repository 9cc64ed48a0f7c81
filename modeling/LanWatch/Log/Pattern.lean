import LanWatch.Log.Pattern.Bracketed
import LanWatch.Text.Alphanumeric

namespace LanWatch

/-!
# Patterns of log filters

A log filter may ask for the value of a field, by a number or by a pattern. The events of this
library carry no such values, so all that matters of a pattern is whether it is one: it is read from
left to right and given up at the first thing that is wrong with it.

Only what needs no tables of Unicode properties is known. Classes such as that of all digits, and
letters that match in either case, are therefore errors where they would be about Unicode.

* `PatternError` — what is wrong with a pattern;
* `Pattern.Group`, `Pattern.Progress` — what has been read of a group, and of the pattern;
* `Pattern.readGroup`, `Pattern.readPart` — the parts of a pattern;
* `Pattern.fault?` — a whole pattern;
* `Pattern.isNumeral` — a value that is a number.
-/

/-- What is wrong with a pattern. -/
inductive PatternError where
  | malformed
  /-- It asks for the boundary of a word, which is not supported. -/
  | wordBoundary
  deriving DecidableEq

/-- The wording of an error. -/
def PatternError.message : PatternError → String
  | malformed => "error building NFA"
  | wordBoundary =>
    "unsupported regex feature for DFAs: cannot build DFAs for regexes with Unicode word " ++
      "boundaries; switch to ASCII word boundaries, or heuristically enable Unicode word " ++
      "boundaries or use a different regex engine"

namespace Pattern

/-! ### Groups -/

/-- What has been read of a group, or of the pattern around all groups. -/
structure Group where
  mode : Mode := {}
  /-- The alternatives in front of the last bar. -/
  alternatives : Parts := {}
  /-- The parts after the last bar. -/
  parts : Parts := {}
  deriving DecidableEq

/-- How deeply a group is nested inside. -/
def Group.depth (g : Group) : Nat :=
  (g.alternatives.add g.parts.depth).depth

/-- What has been read of a pattern. -/
structure Progress where
  group : Group := {}
  /-- The groups around this one that are open. -/
  outer : List Group := []
  /-- The depth of the part that can be repeated, if there is one. -/
  repeatable : Option Nat := none
  /-- The names of groups. -/
  names : List (List Char) := []
  /-- There has been a word boundary. -/
  wordBoundary : Bool := false

/-- The name of a group can hold this character. -/
def isNameCharacter (c : Char) : Bool :=
  c == '_' || c == '.' || c == '[' || c == ']' || Text.isAlphanumeric c

/-- The text is the name of a group. -/
def isGroupName : List Char → Bool
  | [] => false
  | c :: cs => (c == '_' || Text.isAlphabetic c) && cs.all isNameCharacter

/-- Reads flags up to a colon or a closing parenthesis. A flag may stand only once, and flags after
    a hyphen are switched off. -/
def readFlags (m : Mode) (seen : List Char) : List Char → Option (Mode × List Char × List Char)
  | [] => none
  | c :: cs =>
    if c = ':' ∨ c = ')' then
      if seen.head? = some '-' then none else some (m, seen, c :: cs)
    else if "-imsUuRx".toList.contains c && !seen.contains c then
      readFlags (m.set c (!seen.contains '-')) (c :: seen) cs
    else none

namespace Progress

/-- The mode that is in force. -/
def mode (p : Progress) : Mode :=
  p.group.mode

/-- A part of the given depth, which can be repeated. -/
def part (p : Progress) (depth : Nat) : Progress :=
  { p with
    group := { p.group with parts := p.group.parts.add depth }
    repeatable := some depth }

/-- The last part is repeated, which makes it deeper. -/
def repeated (p : Progress) (depth : Nat) : Progress :=
  { p with
    group := { p.group with parts := p.group.parts.deepen (depth + 1) }
    repeatable := some (depth + 1) }

/-- The next alternative begins. -/
def bar (p : Progress) : Progress :=
  { p with
    group := { p.group with
      alternatives := p.group.alternatives.add p.group.parts.depth
      parts := {} }
    repeatable := none }

/-- The rest of the group is in the given mode. -/
def switch (p : Progress) (mode : Mode) : Progress :=
  { p with
    group := { p.group with mode, parts := p.group.parts.add 0 }
    repeatable := none }

/-- A group begins in the given mode. -/
def enter (p : Progress) (mode : Mode) : Progress :=
  { p with group := { mode }, outer := p.group :: p.outer, repeatable := none }

/-- The group ends. -/
def leave? (p : Progress) : Option Progress :=
  match p.outer with
  | [] => none
  | group :: outer => some ({ p with group, outer }.part (p.group.depth + 1))

end Progress

/-- Reads the name of a group, given what follows the opening angle bracket. -/
def readNamedGroup (p : Progress) (cs : List Char) : Option (Progress × List Char) :=
  let name := cs.takeWhile (· != '>')
  match cs.drop name.length with
  | '>' :: rest =>
    if isGroupName name && !p.names.contains name then
      some ({ p.enter p.mode with names := name :: p.names }, rest)
    else none
  | _ => none

/-- Reads the start of a group, given what follows its opening parenthesis, or flags for the rest of
    the group around it. -/
def readGroup (p : Progress) (cs : List Char) : Option (Progress × List Char) :=
  match p.mode.skip cs with
  | '?' :: '=' :: _ | '?' :: '!' :: _ | '?' :: '<' :: '=' :: _ | '?' :: '<' :: '!' :: _ => none
  | '?' :: 'P' :: '<' :: rest | '?' :: '<' :: rest => readNamedGroup p rest
  | '?' :: rest =>
    match readFlags p.mode [] rest with
    | some (mode, _, ':' :: rest) => some (p.enter mode, rest)
    | some (mode, _ :: _, ')' :: rest) => some (p.switch mode, rest)
    | _ => none
  | rest => some (p.enter p.mode, rest)

/-! ### Patterns -/

/-- Reads one part of a pattern, of which `c` is the first character. A brace opens a count, which
    cannot be closed within the braces around the fields of a directive. -/
def readPart (p : Progress) (c : Char) (cs : List Char) : Option (Progress × List Char) :=
  match c with
  | '(' => readGroup p cs
  | ')' => p.leave?.map fun p => (p, cs)
  | '|' => some (p.bar, cs)
  | '[' => (readClass p.mode cs).map fun (depth, rest) => (p.part depth, rest)
  | '\x7b' => none
  | '\\' =>
    match readEscape p.mode cs with
    | some (.literal _, rest) => if p.mode.allowsLiterals then some (p.part 0, rest) else none
    | some (.namedClass, rest) => some (p.part 0, rest)
    | some (.place wordBoundary, rest) =>
      some ({ p.part 0 with wordBoundary := p.wordBoundary || wordBoundary }, rest)
    | none => none
  | '.' => if p.mode.unicode then some (p.part 0, cs) else none
  | '^' | '$' => some (p.part 0, cs)
  | c =>
    if c = '?' ∨ c = '*' ∨ c = '+' then
      p.repeatable.map fun depth =>
        (p.repeated depth, if cs.head? = some '?' then cs.tail else cs)
    else if p.mode.allowsLiterals then some (p.part 0, cs)
    else none

/-- Reads what is left of a pattern. -/
def read (fuel : Nat) (p : Progress) (cs : List Char) : Option Progress :=
  match fuel with
  | 0 => none
  | fuel + 1 =>
    match p.mode.skip cs with
    | [] => if p.outer.isEmpty && p.group.depth ≤ nestingLimit then some p else none
    | c :: cs => (readPart p c cs).bind fun (p, rest) => read fuel p rest

/-- What is wrong with a pattern, if anything is. -/
def fault? (cs : List Char) : Option PatternError :=
  match read (cs.length + 1) {} cs with
  | none => some .malformed
  | some p => if p.wordBoundary then some .wordBoundary else none

/-! ### Numbers -/

/-- The characters after a sign, if there is one. -/
def afterSign : List Char → List Char
  | '+' :: cs => cs
  | '-' :: cs => cs
  | cs => cs

/-- The exponent of a numeral: none, or a letter and digits. -/
def isExponent : List Char → Bool
  | [] => true
  | e :: cs =>
    (e == 'e' || e == 'E') && !(afterSign cs).isEmpty && (afterSign cs).all Char.isDigit

/-- The text is a number: digits with at most one point and perhaps an exponent, or the name of a
    value that has no digits. -/
def isNumeral (cs : List Char) : Bool :=
  let unsigned := afterSign cs
  let whole := unsigned.takeWhile Char.isDigit
  let (fraction, rest) := match unsigned.drop whole.length with
    | '.' :: after => (after.takeWhile Char.isDigit, after.dropWhile Char.isDigit)
    | after => ([], after)
  ["inf", "infinity", "nan"].contains (String.ofList (unsigned.map Char.toLower)) ||
    (!(whole.isEmpty && fraction.isEmpty) && isExponent rest)

end Pattern

example : Pattern.fault? ".*".toList = none := by decide +kernel
example : Pattern.fault? "x\x7b2".toList = some .malformed := by decide +kernel
example : Pattern.fault? "[a-z]+|(b".toList = some .malformed := by decide +kernel
example : Pattern.fault? "a\\b".toList = some .wordBoundary := by decide +kernel

end LanWatch
