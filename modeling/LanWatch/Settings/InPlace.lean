import LanWatch.Settings.File

namespace LanWatch.Settings

/-!
# Settings changed in place

The settings in use are changed in place, one key at a time. Whoever changes them still has them
after an error, so a change that fails must not have written anything. It does not, since each key
reads its text and checks the value before it writes.

* `Change` — a change in place, which may fail;
* `orInvalid` — a value that was read, or the error of its text;
* `setInPlace` — a key gets the value that a text spells;
* `assignInPlace` — an assignment is followed.
-/

/-- A change of settings in place. It may fail, and the settings are left behind either way. -/
abbrev Change (α : Type) : Type :=
  EStateM SettingsError Settings α

/-- The value that was read for a key, or the error of a text that spells none. -/
def orInvalid {α : Type} (key : Key) (text : String) : Option α → Change α
  | some value => pure value
  | none => throw (.invalid key text)

/-- Gives a key the value that a text spells. A VLAN is a 16-bit number of which not all are
    admitted; a buffer and a wait must not be too small. -/
def setInPlace (key : Key) (text : String) : Change Unit :=
  match key with
  | .interface => modify fun s => { s with interface := nonEmpty text }
  | .nativeVlan => do
    let vlan ← orInvalid key text (Text.unsigned? 65536 text)
    if 4095 < vlan then
      throw (.invalid key text)
    modify fun s => { s with nativeVlan := if vlan = 0 then none else some (UInt16.ofNat vlan) }
  | .ignoreTagged => do
    let on ← orInvalid key text (switch? text)
    modify fun s => { s with ignoreTagged := on }
  | .bufferSize => do
    let slots ← orInvalid key text (Text.unsigned? wordCount text)
    if slots < 2 then
      throw (.invalid key text)
    modify fun s => { s with bufferSize := slots }
  | .ring => do
    let on ← orInvalid key text (switch? text)
    modify fun s => { s with overflow := if on then .evictOldest else .dropNew }
  | .filter => do
    let filter ← orInvalid key text (Filter.ofText? text)
    modify fun s => { s with filter := filter }
  | .readTimeout => do
    let milliseconds ← orInvalid key text (Text.unsigned? wordCount text)
    if milliseconds = 0 then
      throw (.invalid key text)
    modify fun s => { s with readTimeout := milliseconds }
  | .statsInterval => do
    let seconds ← orInvalid key text (Text.unsigned? wordCount text)
    modify fun s => { s with statsInterval := seconds }
  | .location => modify fun s => { s with location := text }
  | .label => modify fun s => { s with label := text }
  | .sink => do
    let style ← orInvalid key text (ReportStyle.ofText? text)
    modify fun s => { s with sink := style }
  | .sqlOutput => modify fun s => { s with sqlOutput := nonEmpty text }
  | .reverseDns => do
    let on ← orInvalid key text (switch? text)
    modify fun s => { s with reverseDns := on }
  | .logFilter => modify fun s => { s with logFilter := text }

/-- Follows one assignment, and tells what is said about it. A key that means nothing is passed over
    with a warning. -/
def assignInPlace (a : Assignment) : Change Log :=
  match Key.ofName? a.key with
  | some key => do
    setInPlace key a.value
    return []
  | none => return [unknownKeyEvent a.key]

end LanWatch.Settings
