namespace LanWatch.Text

/-!
# Control sequences

A terminal takes some characters as orders: single control characters, and sequences that an escape
character opens. A text for other readers leaves them out.

* `SequenceState` — how far into a sequence a reader is;
* `SequenceState.next` — one character further;
* `withoutControls` — a text without orders to a terminal.
-/

/-- How far into a sequence a reader is. -/
inductive SequenceState where
  /-- Outside of all sequences. -/
  | ground
  /-- After the escape character. -/
  | escape
  /-- In a short sequence that still lacks its last character. -/
  | intermediate
  /-- In a sequence of parameters that a letter ends. -/
  | parameters
  /-- At the start of the head of a device string. -/
  | stringStart
  /-- Among the parameters of a device string. -/
  | stringParameters
  /-- After the parameters of a device string. -/
  | stringIntermediate
  /-- In a string that only a string terminator ends. -/
  | stringBody
  /-- In an order to the operating system, which a bell ends. -/
  | systemString
  deriving DecidableEq

/-- A control character that a text keeps: it only moves the place of writing. -/
def isLayoutControl (c : Char) : Bool :=
  c == '\t' || c == '\n' || c == '\x0c' || c == '\r'

/-- The byte that ends a string is one of the bytes of this character. -/
def holdsTerminator (c : Char) : Bool :=
  (String.singleton c).toUTF8.toList.contains 0x9c

namespace SequenceState

/-- Layout controls have their effect in the middle of these. -/
def letsLayoutPass : SequenceState → Bool
  | ground | escape | intermediate | parameters => true
  | _ => false

/-- The state after the character that follows the escape character. -/
def afterEscape (n : Nat) : SequenceState :=
  if n < 0x20 ∨ n = 0x7f then escape
  else if n < 0x30 then intermediate
  else if n = 0x5b then parameters
  else if n = 0x5d then systemString
  else if n = 0x50 then stringStart
  else if n = 0x58 ∨ n = 0x5e ∨ n = 0x5f then stringBody
  else ground

/-- The state after a further ASCII character in the head of a device string. -/
def inStringHead (s : SequenceState) (n : Nat) : SequenceState :=
  if n < 0x20 ∨ n = 0x7f then s
  else if n < 0x30 then stringIntermediate
  else if n < 0x40 then
    match s with
    | stringStart => stringParameters
    | stringParameters => if n < 0x3c then stringParameters else stringBody
    | _ => stringBody
  else stringBody

/-- The state after a further ASCII character with number `n`. Three characters have their effect
    everywhere: escape opens a sequence, and two others break one off. -/
def next (s : SequenceState) (n : Nat) : SequenceState :=
  if n = 0x1b then escape
  else if n = 0x18 ∨ n = 0x1a then ground
  else match s with
    | ground => ground
    | escape => afterEscape n
    | intermediate => if 0x30 ≤ n ∧ n < 0x7f then ground else intermediate
    | parameters => if 0x40 ≤ n ∧ n < 0x7f then ground else parameters
    | stringBody => stringBody
    | systemString => if n = 0x07 then ground else systemString
    | head => head.inStringHead n

end SequenceState

/-- The characters of a text that are no orders to a terminal, from a state on. After a layout
    control in the middle of a sequence, visible characters are kept up to the next control; the
    sequence goes on only there. -/
def visibleFrom (s : SequenceState) (visible : Bool) : List Char → List Char
  | [] => []
  | c :: cs =>
    let n := c.toNat
    if 0x80 ≤ n then
      if visible ∨ s = .ground then c :: visibleFrom .ground true cs
      else if s = .stringBody ∧ holdsTerminator c then visibleFrom .ground false cs
      else visibleFrom s false cs
    else
      let printable := (0x20 ≤ n && n < 0x7f) || isLayoutControl c
      if visible && printable then c :: visibleFrom s true cs
      else if s = .ground && printable then c :: visibleFrom .ground true cs
      else if isLayoutControl c && s.letsLayoutPass then c :: visibleFrom s true cs
      else visibleFrom (s.next n) false cs

/-- A text without orders to a terminal. -/
def withoutControls (text : String) : String :=
  String.ofList (visibleFrom .ground false text.toList)

example : withoutControls "a\x01b\x7f" = "ab" := by decide
example : withoutControls "--bo\x1b[31mgus" = "--bogus" := by decide
example : withoutControls "\x1b]0;title\x07rest" = "rest" := by decide
example : withoutControls "x\ny\tz" = "x\ny\tz" := by decide

end LanWatch.Text
