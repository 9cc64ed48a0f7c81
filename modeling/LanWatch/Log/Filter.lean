import LanWatch.Log.Directive

namespace LanWatch

/-!
# Log filters

Which log events are shown. A filter is a list of directives with commas between them. Where several
directives speak of a component, the one counts that says most about it.

* `LogFilter.parseStrict?`, `LogFilter.parse` — a list of directives, with all errors fatal or none;
* `LogFilter.shows` — the choice of events;
* `Event.render` — how a shown event is written.
-/

/-! ### Filters -/

/-- A list of directives; of two that say equally much the later counts. -/
abbrev LogFilter := List Directive

namespace LogFilter

/-- A filter without directives shows errors. -/
def ofDirectives (ds : List Directive) : LogFilter :=
  if ds.isEmpty then [{ rank := Level.error.rank }] else ds

/-- The texts between the commas, without empty ones. -/
def texts (text : String) : List (List Char) :=
  (Text.pieces ',' text.toList).filter fun cs => !cs.isEmpty

/-- Reads a filter in which every directive is well-formed. -/
def parseStrict? (text : String) : Option LogFilter :=
  ((texts text).mapM fun cs => (Directive.parse cs).toOption).map ofDirectives

/-- The complaint about a text that is no directive. -/
def ignoredText (cs : List Char) (e : DirectiveError) : String :=
  "ignoring \x60" ++ String.ofList cs ++ "\x60: " ++ e.message ++ "\n"

/-- What becomes of a text: a directive, or a complaint. -/
def directiveOrComplaint (cs : List Char) : Directive ⊕ String :=
  match Directive.parse cs with
  | .ok d => .inl d
  | .error e => .inr (ignoredText cs e)

/-- Reads a filter, passing over what is no directive, with complaints about it. -/
def parse (text : String) : LogFilter × List String :=
  let results := (texts text).map directiveOrComplaint
  (ofDirectives (results.filterMap Sum.getLeft?), results.filterMap Sum.getRight?)

/-- Of two directives the one that says more, and of two that say equally much the later. -/
def moreSpecific (best : Option Directive) (d : Directive) : Option Directive :=
  match best with
  | some b => if d.specificity < b.specificity then some b else some d
  | none => some d

/-- The directive that counts for a component. -/
def governing (f : LogFilter) (target : String) : Option Directive :=
  (f.filter (·.covers target)).foldl moreSpecific none

/-- The event is shown. -/
def shows (f : LogFilter) (e : Event) : Bool :=
  match f.governing e.component.target with
  | some d => e.level.rank ≤ d.rank
  | none => false

end LogFilter

/-! ### Writing -/

/-- How a character of a message is written. Control characters that a terminal would act on are
    spelled out. -/
def visibleChar (c : Char) : String :=
  let n := c.toNat
  if n = 0x07 ∨ n = 0x08 then "\\x0" ++ Text.hexPlain n
  else if n = 0x0c then "\\x0c"
  else if n = 0x1b ∨ n = 0x7f then "\\x" ++ Text.hexPlain n
  else if 0x80 ≤ n ∧ n ≤ 0x9f then "\\u\x7b" ++ Text.hexPlain n ++ "\x7d"
  else String.singleton c

/-- A shown event: level and message on a line. -/
def Event.render (e : Event) : String :=
  e.level.label ++ " " ++ String.join (e.text.toList.map visibleChar) ++ "\n"

/-- The events that a filter shows, as they are written. -/
def LogFilter.render (f : LogFilter) (log : Log) : String :=
  String.join ((log.filter f.shows).map Event.render)

end LanWatch
