import LanWatch.Log
import LanWatch.Settings.Setting
import LanWatch.System.IoError
import LanWatch.Text.Blank
import LanWatch.Text.Quoted
import LanWatch.Text.Utf8

namespace LanWatch

/-!
# Reading settings

A file of settings holds lines of the form `key = value`, comments and blank lines. After the file
each key can be overridden by a variable of the environment. The first value that its key does not
admit ends the reading; an unknown key is passed over with a warning.

* `Assignment` — a key and a value as they are spelled;
* `Assignment.ofLine?` — the assignment of a line, if it holds one;
* `Reading` — settings or an error, and what was said on the way;
* `Settings.assignAll` — assignments in order;
* `Settings.parse`, `Settings.override`, `Settings.load` — text, environment, and both.
-/

/-- Why there are no settings. -/
inductive SettingsError where
  | unreadable (cause : IoError)
  /-- A value that its key does not admit. -/
  | invalid (key : Key) (value : String)
  deriving DecidableEq

namespace SettingsError

/-- The wording of an error. -/
def message : SettingsError → String
  | unreadable cause => "failed to read config: " ++ cause.message
  | invalid key value => "invalid value for '" ++ key.name ++ "': " ++ value

/-- The error behind an error. -/
def cause? : SettingsError → Option IoError
  | unreadable cause => some cause
  | invalid .. => none

/-- The wording of an error, followed by that of the error behind it. -/
def account (e : SettingsError) : List String :=
  e.message :: e.cause?.toList.map IoError.message

end SettingsError

/-- Settings or an error, and what was said on the way. -/
structure Reading where
  result : Except SettingsError Settings
  log : Log := []

/-- Goes on with what was read, unless there was an error. -/
def Reading.andThen (r : Reading) (f : Settings → Reading) : Reading :=
  match r.result with
  | .error _ => r
  | .ok settings => let next := f settings; { next with log := r.log ++ next.log }

/-! ### Assignments -/

/-- A key and a value as they are spelled. -/
structure Assignment where
  key : String
  value : String
  deriving DecidableEq

namespace Assignment

/-- The assignment of a line: what stands before and after the first equals sign, without blanks
    around it. Comments, and lines without an equals sign, hold none. -/
def ofLine? (line : List Char) : Option Assignment :=
  let line := Text.trimChars line
  if line.head? = some '#' then none
  else (Text.cutAt? '=' line).map fun (key, value) =>
    ⟨String.ofList (Text.trimChars key), String.ofList (Text.trimChars value)⟩

/-- The assignments of a file, in order. -/
def ofText (text : String) : List Assignment :=
  (Text.pieces '\n' text.toList).filterMap ofLine?

/-- The overrides that an environment holds, in the order of the keys. -/
def ofEnvironment (env : String → Option String) : List Assignment :=
  Key.all.filterMap fun key => (env key.variableName).map fun value => ⟨key.name, Text.trim value⟩

end Assignment

/-! ### Settings -/

/-- The warning about a key that means nothing. -/
def unknownKeyEvent (key : String) : Event :=
  ⟨.warn, .settings, "Ignoring unknown config key '" ++ key ++ "'"⟩

namespace Settings

/-- Follows one assignment. -/
def assign (s : Settings) (a : Assignment) : Reading :=
  match Key.ofName? a.key with
  | none => ⟨.ok s, [unknownKeyEvent a.key]⟩
  | some key =>
    match Setting.ofText? key a.value with
    | some x => ⟨.ok (s.set x), []⟩
    | none => ⟨.error (.invalid key a.value), []⟩

/-- Follows assignments in order, up to the first that is in error. -/
def assignAll (s : Settings) : List Assignment → Reading
  | [] => ⟨.ok s, []⟩
  | a :: as => (s.assign a).andThen fun s => s.assignAll as

/-- The settings of a file with the given text. -/
def parse (text : String) : Reading :=
  assignAll {} (Assignment.ofText text)

/-- Settings with the overrides of an environment. -/
def override (s : Settings) (env : String → Option String) : Reading :=
  s.assignAll (Assignment.ofEnvironment env)

end Settings

/-! ### Files -/

/-- What a path leads to. -/
inductive FileContent where
  | missing
  | unreadable (cause : IoError)
  | bytes (bytes : Bytes)
  deriving DecidableEq

namespace Settings

/-- The settings of a file. Without the file all settings have their defaults. -/
def ofFile (path : String) : FileContent → Reading
  | .missing =>
    ⟨.ok {}, [⟨.debug, .settings, "No config at " ++ Text.quoted path ++ ", using defaults"⟩]⟩
  | .unreadable cause => ⟨.error (.unreadable cause), []⟩
  | .bytes bytes =>
    match Text.decodeStrict? bytes with
    | some text => parse text
    | none =>
      ⟨.error (.unreadable (.failure "stream did not contain valid UTF-8")), []⟩

/-- The settings of a file with the overrides of an environment. -/
def load (path : String) (content : FileContent) (env : String → Option String) : Reading :=
  (ofFile path content).andThen fun s => s.override env

end Settings

end LanWatch
