import LanWatch.Address

namespace LanWatch

/-!
# Capture filters

Which frames a capture hands on. The check looks at raw bytes, before anything is decoded.

* `Filter` — the two filters;
* `Filter.accepts` — whether a frame is handed on;
* `Filter.ofText?` — the name of a filter in settings.
-/

/-- Which frames a capture hands on. -/
inductive Filter where
  /-- Broadcasts, and ARP, tagged or not. -/
  | broadcastOrArp
  | all
  deriving DecidableEq

namespace Filter

/-- The frame is addressed to every host. -/
def isBroadcast (frame : Bytes) : Bool :=
  frame.take 6 == MacAddr.broadcast.bytes

/-- The frame carries ARP, directly or after one VLAN tag. -/
def isArp (frame : Bytes) : Bool :=
  let outer := (frame.drop 12).take 2
  outer == [0x08, 0x06] ||
    (outer == [0x81, 0x00] && (frame.drop 16).take 2 == [0x08, 0x06])

/-- The frame is handed on. -/
def accepts (f : Filter) (frame : Bytes) : Bool :=
  match f with
  | all => true
  | broadcastOrArp => isBroadcast frame || isArp frame

/-- The name of a filter in settings. -/
def name : Filter → String
  | broadcastOrArp => "broadcast-or-arp"
  | all => "all"

/-- The filter with a given name. -/
def ofText? (s : String) : Option Filter :=
  if s = broadcastOrArp.name then some broadcastOrArp
  else if s = all.name then some all
  else none

theorem ofText?_name (f : Filter) : ofText? f.name = some f := by
  cases f <;> decide

/-- The complaint about a name that is no filter's. -/
def unknownText (s : String) : String :=
  "unknown filter '" ++ s ++ "'"

/-- The label of a filter in messages. -/
def label : Filter → String
  | broadcastOrArp => "BroadcastOrArp"
  | all => "All"

end Filter

end LanWatch
