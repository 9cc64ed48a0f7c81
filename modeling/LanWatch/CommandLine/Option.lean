import LanWatch.Text.Pieces

namespace LanWatch

/-!
# Options

The options of the command line, and the texts about them.

* `Flag` — the options;
* `Flag.ofLong?`, `Flag.ofShort?` — an option by its long name or by its letter;
* `Flag.usage` — an option in a line that shows how the program is called;
* `helpText`, `versionText` — what the program says about itself.
-/

/-- The options of the command line. -/
inductive Flag where
  | config
  | interface
  | debug
  | listInterfaces
  | help
  | version
  deriving DecidableEq

namespace Flag

/-- All options, in the order in which they are listed. -/
def all : List Flag :=
  [config, interface, debug, listInterfaces, help, version]

theorem mem_all (f : Flag) : f ∈ all := by
  cases f <;> decide

/-- The long name of an option. -/
def long : Flag → String
  | config => "config"
  | interface => "interface"
  | debug => "debug"
  | listInterfaces => "list-interfaces"
  | help => "help"
  | version => "version"

/-- The letter of an option. -/
def short? : Flag → Option Char
  | config => some 'c'
  | interface => some 'i'
  | debug => some 'd'
  | listInterfaces => none
  | help => some 'h'
  | version => some 'V'

/-- What the value of an option is called, if it takes one. -/
def valueName? : Flag → Option String
  | config => some "CONFIG"
  | interface => some "INTERFACE"
  | _ => none

/-- The option takes a value. -/
def takesValue (f : Flag) : Bool :=
  f.valueName?.isSome

/-- The option sets how the program runs, and does not ask about the program. -/
def setsRun (f : Flag) : Bool :=
  f != help && f != version

/-- The option with a given long name. -/
def ofLong? (name : String) : Option Flag :=
  all.find? fun f => f.long == name

theorem ofLong?_long (f : Flag) : ofLong? f.long = some f := by
  cases f <;> decide

/-- The option with a given letter. -/
def ofShort? (c : Char) : Option Flag :=
  all.find? fun f => f.short? == some c

/-- An option in a line that shows how the program is called. -/
def usage (f : Flag) : String :=
  match f.valueName? with
  | some value => "--" ++ f.long ++ " <" ++ value ++ ">"
  | none => "--" ++ f.long

end Flag

/-- The file of settings that is read when none is named. -/
def defaultConfigPath : String := "/etc/arpwatch.conf"

/-- What the program says about itself. -/
def helpText : String :=
  "Passive network watcher - records hosts seen on the wire\n\n" ++
  "Usage: arpwatch [OPTIONS]\n\n" ++
  "Options:\n" ++
  "  -c, --config <CONFIG>        Configuration file [default: " ++ defaultConfigPath ++ "]\n" ++
  "  -i, --interface <INTERFACE>  Network interface to watch (overrides the config file)\n" ++
  "  -d, --debug                  Enable debug logging and verbose console output\n" ++
  "      --list-interfaces        List available network interfaces and exit\n" ++
  "  -h, --help                   Print help\n" ++
  "  -V, --version                Print version\n"

/-- Name and version of the program. -/
def versionText : String :=
  "arpwatch 0.1.0\n"

end LanWatch
