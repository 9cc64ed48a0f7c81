import LanWatch.Log
import LanWatch.Log.Pattern
import LanWatch.Text.ByteCut
import LanWatch.Text.Case
import LanWatch.Text.Pieces

namespace LanWatch

/-!
# Directives of log filters

A directive sets up to which level events are shown: those of all components, or of the components
whose target begins with a given text. In brackets it can name a stretch of work that an event has
to belong to, and in braces a field that an event has to have, perhaps with a value.

* `Directive`, `FieldCondition` — what a directive says;
* `DirectiveError`, `DirectiveError.message` — why a text is no directive;
* `Directive.parse` — how a directive is written;
* `Directive.covers` — the components that a directive speaks of.
-/

/-- A field that an event has to have. -/
structure FieldCondition where
  name : String
  /-- The field has to have a given value. -/
  hasValue : Bool
  deriving DecidableEq

/-- The rank of the most detailed level. -/
def mostDetailed : Nat := 5

/-- Up to which level some events are shown. -/
structure Directive where
  /-- How the target of a component begins; none speaks of all components. -/
  target : Option String := none
  /-- The rank of the last level that is shown. -/
  rank : Nat := mostDetailed
  /-- Only events within a named stretch of work count. -/
  inScope : Bool := false
  field : Option FieldCondition := none
  deriving DecidableEq

/-- Why a text is no directive. -/
inductive DirectiveError where
  | malformed
  /-- What follows the equals sign is no level. -/
  | unknownLevel
  /-- The value of a field is no pattern. -/
  | badValue (e : PatternError)
  deriving DecidableEq

/-- The wording of an error. -/
def DirectiveError.message : DirectiveError → String
  | malformed => "invalid filter directive"
  | unknownLevel =>
    "error parsing level filter: expected one of \"off\", \"error\", \"warn\", \"info\", " ++
      "\"debug\", \"trace\", or a number 0-5"
  | badValue e => "invalid field filter: " ++ e.message

/-- Reads the condition between two braces. A value is a number or a pattern; what follows a further
    equals sign is not looked at. -/
def FieldCondition.parse (text : List Char) : Except DirectiveError FieldCondition :=
  match Text.pieces '=' text with
  | [] | [[]] => .error .malformed
  | [name] => .ok ⟨String.ofList name, false⟩
  | name :: value :: _ =>
    match if Pattern.isNumeral value then none else Pattern.fault? value with
    | none => .ok ⟨String.ofList name, true⟩
    | some e => .error (.badValue e)

namespace Directive

/-! ### Levels -/

/-- The names of the levels in the order of their ranks. -/
def levelNames : List String :=
  ["off", "error", "warn", "info", "debug", "trace"]

/-- The rank that a word stands for: a number, or a name in either case. -/
def rank? (word : String) : Option Nat :=
  match Text.unsigned? levelNames.length word with
  | some n => some n
  | none => levelNames.findIdx? (· == Text.lower word)

/-- The rank after an equals sign. With nothing there, all levels are shown. -/
def rankAfterEquals (word : List Char) : Except DirectiveError Nat :=
  if word.isEmpty then .ok mostDetailed
  else match rank? (String.ofList word) with
    | some rank => .ok rank
    | none => .error .unknownLevel

/-! ### Reading

The parts of a directive are found in its text without the blanks at the two ends, and cut out of
the text with them: at the same places, counted in bytes. Blanks in front therefore shift what a
part holds, and blanks at the end belong to the last part. In what follows, `text` is the text with
the blanks, `cs` what is left of the text without them, and `place` where that begins. -/

/-- A directive can start with this character. -/
def canStart (c : Char) : Bool :=
  c == '-' || c == ':' || c == '_' || Text.isAlphanumeric c

/-- Reads what follows the brackets: nothing, or an equals sign and a level. -/
def parseRank (d : Directive) (text : List Char) (place : Nat) :
    List Char → Except DirectiveError Directive
  | [] => .ok d
  | '=' :: _ => (rankAfterEquals (Text.dropBytes (place + 1) text)).map fun rank => { d with rank }
  | _ => .error .malformed

/-- Reads what follows the braces, given the name in front of them. -/
def parseClosing (d : Directive) (text : List Char) (place : Nat) :
    List Char → Except DirectiveError Directive
  | ']' :: cs => d.parseRank text (place + 1) cs
  | _ => .error .malformed

/-- Reads what follows an opening brace. -/
def parseField (d : Directive) (text : List Char) (place : Nat) (cs : List Char) :
    Except DirectiveError Directive :=
  let inside := cs.takeWhile (· != '\x7d')
  let stop := place + Text.byteLength inside
  match cs.drop inside.length with
  | [] => .error .malformed
  | _ :: rest =>
    match FieldCondition.parse (Text.sliceBytes place stop text) with
    | .ok field => { d with field := some field }.parseClosing text (stop + 1) rest
    | .error e => .error e

/-- Reads what follows an opening bracket: the name of a stretch of work, which may be left out in
    front of a field. -/
def parseScope (d : Directive) (text : List Char) (place : Nat) (cs : List Char) :
    Except DirectiveError Directive :=
  let name := cs.takeWhile fun c => c != ']' && c != '\x7b'
  let stop := place + Text.byteLength name
  match cs.drop name.length with
  | ']' :: rest => { d with inScope := true }.parseRank text (stop + 1) rest
  | _ :: rest =>
    { d with inScope := !(Text.sliceBytes place stop text).isEmpty }.parseField text (stop + 1) rest
  | [] => .error .malformed

/-- Reads a directive: a level, or a target with what follows it, or brackets with what follows
    them. A target alone shows all levels. -/
def parse (text : List Char) : Except DirectiveError Directive :=
  match Text.trimChars text with
  | [] => .error .malformed
  | '[' :: cs => ({} : Directive).parseScope text 1 cs
  | c :: cs =>
    if !canStart c then .error .malformed
    else
      let head := (c :: cs).takeWhile fun c => c != '=' && c != '['
      let stop := Text.byteLength head
      let d : Directive := { target := some (String.ofList (Text.takeBytes stop text)) }
      match (c :: cs).drop head.length with
      | '[' :: rest => d.parseScope text (stop + 1) rest
      | '=' :: rest => d.parseRank text stop ('=' :: rest)
      | _ =>
        let word := String.ofList text
        match rank? word with
        | some rank => .ok { rank }
        | none => .ok { target := some word }

/-! ### What a directive speaks of -/

/-- The only field of an event. -/
def messageField : String := "message"

/-- The directive decides about events at all. There are no stretches of work, and values of fields
    are looked for only in those. -/
def decides (d : Directive) : Bool :=
  !d.inScope && d.field.all fun f => !f.hasValue

/-- The directive speaks of a component with the given target. -/
def covers (d : Directive) (target : String) : Bool :=
  d.decides && d.target.all (fun start => start.toList.isPrefixOf target.toList) &&
    d.field.all (·.name == messageField)

/-- How much a directive says about its components: the longer the start of their targets the more,
    and of two directives with the same start the one that asks for a field. -/
def specificity (d : Directive) : Nat :=
  2 * d.target.elim 0 (fun start => start.length + 1) + d.field.elim 0 fun _ => 1

end Directive

example : (Directive.parse "warn".toList).toOption = some { rank := 2 } := by decide +kernel
example : (Directive.parse "a::b=info".toList).toOption =
    some { target := some "a::b", rank := 3 } := by
  decide +kernel
example : (Directive.parse "[s\x7bf=1\x7d]".toList).toOption =
    some { inScope := true, field := some ⟨"f", true⟩ } := by
  decide +kernel

end LanWatch
