import LanWatch.Capture.Filter
import LanWatch.Frame.Ethernet
import LanWatch.Pending.Ring
import LanWatch.Settings.Key

namespace LanWatch

/-!
# Settings

What the user can choose, and how each choice is spelled. A setting that is not given has a default;
of a setting that is given several times the last value counts.

* `ReportStyle` — what becomes of the sightings;
* `Settings` — one value for each key;
* `Setting` — a value for one key;
* `Settings.set` — a value replaces the one before;
* `Setting.ofText?` — the value that a text spells for a key.
-/

/-- What becomes of the sightings. -/
inductive ReportStyle where
  /-- Lines for a reader. -/
  | console
  /-- Upsert statements for a database. -/
  | sql
  deriving DecidableEq

namespace ReportStyle

/-- The name of a style in settings. -/
def name : ReportStyle → String
  | console => "console"
  | sql => "sql"

/-- The style with a given name. -/
def ofText? (s : String) : Option ReportStyle :=
  if s = console.name then some console
  else if s = sql.name then some sql
  else none

theorem ofText?_name (r : ReportStyle) : ofText? r.name = some r := by
  cases r <;> decide

/-- The complaint about a name that is no style's. -/
def unknownText (s : String) : String :=
  "unknown sink '" ++ s ++ "'"

end ReportStyle

/-- One value for each key. -/
structure Settings where
  /-- The interface to watch; without one, the first that can be used. -/
  interface : Option String := none
  nativeVlan : Option UInt16 := none
  ignoreTagged : Bool := false
  /-- How many slots there are for pending sightings. -/
  bufferSize : Nat := 10000
  overflow : Overflow := .evictOldest
  filter : Filter := .broadcastOrArp
  /-- How long a request for a frame waits, in milliseconds. -/
  readTimeout : Nat := 100
  /-- How often statistics are logged, in seconds. -/
  statsInterval : Nat := 120
  location : String := ""
  label : String := ""
  sink : ReportStyle := .console
  /-- The file for statements; without one, they go to standard output. -/
  sqlOutput : Option String := none
  /-- Statements tell the host names that the name service gives. -/
  reverseDns : Bool := true
  /-- Which log events are shown. -/
  logFilter : String := "info"
  deriving DecidableEq

/-- A value for one key. -/
inductive Setting where
  | interface (name : Option String)
  | nativeVlan (vlan : Option UInt16)
  | ignoreTagged (on : Bool)
  | bufferSize (slots : Nat)
  | ring (overflow : Overflow)
  | filter (filter : Filter)
  | readTimeout (milliseconds : Nat)
  | statsInterval (seconds : Nat)
  | location (text : String)
  | label (text : String)
  | sink (style : ReportStyle)
  | sqlOutput (path : Option String)
  | reverseDns (on : Bool)
  | logFilter (directives : String)
  deriving DecidableEq

/-- The key that a value belongs to. -/
def Setting.key : Setting → Key
  | interface _ => .interface
  | nativeVlan _ => .nativeVlan
  | ignoreTagged _ => .ignoreTagged
  | bufferSize _ => .bufferSize
  | ring _ => .ring
  | filter _ => .filter
  | readTimeout _ => .readTimeout
  | statsInterval _ => .statsInterval
  | location _ => .location
  | label _ => .label
  | sink _ => .sink
  | sqlOutput _ => .sqlOutput
  | reverseDns _ => .reverseDns
  | logFilter _ => .logFilter

namespace Settings

/-- The treatment of tagged and untagged frames. -/
def vlanPolicy (s : Settings) : VlanPolicy :=
  { nativeVlan := s.nativeVlan, ignoreTagged := s.ignoreTagged }

/-- A value replaces the one before. -/
def set (s : Settings) : Setting → Settings
  | .interface name => { s with interface := name }
  | .nativeVlan vlan => { s with nativeVlan := vlan }
  | .ignoreTagged on => { s with ignoreTagged := on }
  | .bufferSize slots => { s with bufferSize := slots }
  | .ring overflow => { s with overflow := overflow }
  | .filter filter => { s with filter := filter }
  | .readTimeout milliseconds => { s with readTimeout := milliseconds }
  | .statsInterval seconds => { s with statsInterval := seconds }
  | .location text => { s with location := text }
  | .label text => { s with label := text }
  | .sink style => { s with sink := style }
  | .sqlOutput path => { s with sqlOutput := path }
  | .reverseDns on => { s with reverseDns := on }
  | .logFilter directives => { s with logFilter := directives }

/-- The value of a key. -/
def get (s : Settings) : Key → Setting
  | .interface => .interface s.interface
  | .nativeVlan => .nativeVlan s.nativeVlan
  | .ignoreTagged => .ignoreTagged s.ignoreTagged
  | .bufferSize => .bufferSize s.bufferSize
  | .ring => .ring s.overflow
  | .filter => .filter s.filter
  | .readTimeout => .readTimeout s.readTimeout
  | .statsInterval => .statsInterval s.statsInterval
  | .location => .location s.location
  | .label => .label s.label
  | .sink => .sink s.sink
  | .sqlOutput => .sqlOutput s.sqlOutput
  | .reverseDns => .reverseDns s.reverseDns
  | .logFilter => .logFilter s.logFilter

/-- What was set is what is read. -/
theorem get_set_same (s : Settings) (x : Setting) : (s.set x).get x.key = x := by
  cases x <;> rfl

/-- Setting one key leaves the others alone. -/
theorem get_set_other (s : Settings) (x : Setting) {k : Key} (h : k ≠ x.key) :
    (s.set x).get k = s.get k := by
  cases x <;> cases k <;> first | rfl | exact absurd rfl h

end Settings

/-! ### How values are spelled -/

/-- A switch: four words each for on and off, in either case. -/
def switch? (text : String) : Option Bool :=
  let word := Text.lower text
  if word ∈ ["true", "yes", "on", "1"] then some true
  else if word ∈ ["false", "no", "off", "0"] then some false
  else none

/-- A text that may be left empty. -/
def nonEmpty (text : String) : Option String :=
  if text.isEmpty then none else some text

/-- The number of VLANs. -/
def vlanCount : Nat := 4096

/-- A VLAN; zero stands for none. -/
def vlan? (text : String) : Option (Option UInt16) :=
  (Text.unsigned? vlanCount text).map fun n => if n = 0 then none else some (UInt16.ofNat n)

/-- The number of 64-bit words. -/
def wordCount : Nat := Nat.pow 2 64

/-- An unsigned 64-bit number that is at least `least`. -/
def atLeast? (least : Nat) (text : String) : Option Nat :=
  (Text.unsigned? wordCount text).filter (least ≤ ·)

namespace Setting

/-- The value that a text spells for a key. -/
def ofText? (key : Key) (text : String) : Option Setting :=
  match key with
  | .interface => some (interface (nonEmpty text))
  | .nativeVlan => (vlan? text).map nativeVlan
  | .ignoreTagged => (switch? text).map ignoreTagged
  | .bufferSize => (atLeast? 2 text).map bufferSize
  | .ring => (switch? text).map fun on => ring (if on then .evictOldest else .dropNew)
  | .filter => (Filter.ofText? text).map filter
  | .readTimeout => (atLeast? 1 text).map readTimeout
  | .statsInterval => (atLeast? 0 text).map statsInterval
  | .location => some (location text)
  | .label => some (label text)
  | .sink => (ReportStyle.ofText? text).map sink
  | .sqlOutput => some (sqlOutput (nonEmpty text))
  | .reverseDns => (switch? text).map reverseDns
  | .logFilter => some (logFilter text)

/-- A text for a key spells a value of that key. -/
theorem key_of_ofText? {k : Key} {text : String} {x : Setting} (h : ofText? k text = some x) :
    x.key = k := by
  cases k <;> simp only [ofText?, Option.map_eq_some_iff, Option.some.injEq] at h
  all_goals first | (subst h; rfl) | (obtain ⟨_, -, rfl⟩ := h; rfl)

end Setting

example : switch? "YES" = some true := by decide
example : vlan? "+0" = some none := by cbv
example : vlan? "4096" = none := by cbv

end LanWatch
