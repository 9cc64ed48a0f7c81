namespace LanWatch

/-!
# Log events

What the program says about its own work while it runs. Which events are shown is decided
elsewhere, by the level of an event and the component it comes from.

* `Level` — how urgent an event is;
* `Component` — who speaks, and the name by which a filter selects it;
* `Event` — one message;
* `Event.line` — the message as one line of text.
-/

/-- How urgent an event is. -/
inductive Level where
  | error | warn | info | debug
  deriving DecidableEq

/-- The name of a level at the start of a line. -/
def Level.label : Level → String
  | error => "ERROR"
  | warn => "WARN"
  | info => "INFO"
  | debug => "DEBUG"

/-- Higher ranks are more detailed. -/
def Level.rank : Level → Nat
  | error => 1
  | warn => 2
  | info => 3
  | debug => 4

/-- The parts of the program that speak. -/
inductive Component where
  | settings
  /-- Decoding as a whole, and that of each protocol. -/
  | frames | arp | ipv4 | dhcp | netBios | channelAccess
  | captureLoop | device
  | reports | statements | hostNames
  | daemon
  deriving DecidableEq

/-- The name by which a log filter selects a component: its own after that of the part of the
    program that it belongs to. -/
def Component.target : Component → String
  | settings => "arptools::config"
  | frames => "arptools::dissector"
  | arp => "arptools::dissector::arp"
  | ipv4 => "arptools::dissector::ip"
  | dhcp => "arptools::dissector::dhcp"
  | netBios => "arptools::dissector::netbios"
  | channelAccess => "arptools::dissector::epics"
  | captureLoop => "arptools::capture::runner"
  | device => "arptools::capture::pnet_capture"
  | reports => "arptools::sink"
  | statements => "arptools::sink::sql_sink"
  | hostNames => "arptools::sink::resolver"
  | daemon => "arpwatch"

/-- One message. -/
structure Event where
  level : Level
  component : Component
  text : String
  deriving DecidableEq

/-- The events of a stretch of work, in order. -/
abbrev Log := List Event

/-- The level and the message. -/
def Event.line (e : Event) : String :=
  e.level.label ++ " " ++ e.text

end LanWatch
