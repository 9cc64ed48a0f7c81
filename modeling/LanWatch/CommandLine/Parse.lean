import LanWatch.CommandLine.Option
import LanWatch.Text.ControlSequence
import LanWatch.Text.Similarity

namespace LanWatch

/-!
# Reading the command line

Arguments are read from left to right. An option may stand with its value in one argument or in two,
and several options with letters may share an argument. The value of an option is taken in when the
next option comes or the arguments end; until then the option is pending.

* `CommandLine` — what the command line asks for;
* `UsageError`, `UsageError.text` — what is wrong with a command line;
* `Word`, `Word.ofArgument` — what kind of argument a text is;
* `Given` — the options read so far;
* `CommandLine.parse` — reads all arguments.
-/

/-- How the program is to run. -/
structure CommandLine where
  config : String := defaultConfigPath
  interface : Option String := none
  debug : Bool := false
  listInterfaces : Bool := false
  deriving DecidableEq

/-- What a command line asks for. -/
inductive Request where
  | run (options : CommandLine)
  | help
  | version
  deriving DecidableEq

/-- What is wrong with a command line. -/
inductive UsageError where
  /-- An option without its value. -/
  | missingValue (flag : Flag)
  /-- An option with a value that it does not take, after the options in `used`. -/
  | needlessValue (flag : Flag) (value : String) (used : List Flag)
  /-- An option that is given twice. -/
  | repeated (flag : Flag)
  /-- An argument that is no option, after the options in `used`, with the long name that may have
      been meant. -/
  | unknown (argument : String) (meant : Option Flag) (used : List Flag)
  deriving DecidableEq

namespace UsageError

/-- The line that shows how the program is called with some options. -/
def usageLine (used : List Flag) : String :=
  let options := if used.isEmpty then ["[OPTIONS]"] else used.eraseDups.map Flag.usage
  "\n\nUsage: " ++ Text.join " " ("arpwatch" :: options)

/-- The options that an option with a needless value is shown with: it alone if it is the first, and
    otherwise all those that set how the program runs, after it if it does not belong to them. -/
def usageWithNeedless (flag : Flag) (used : List Flag) : String :=
  if used.isEmpty then usageLine [flag]
  else
    let own := if flag.setsRun then "" else flag.usage ++ " "
    let alternatives := (Flag.all.filter Flag.setsRun).map Flag.usage
    "\n\nUsage: arpwatch " ++ own ++ "<" ++ Text.join "|" alternatives ++ ">"

/-- What is said about an error. What the user wrote is shown without orders to a terminal. -/
def text (e : UsageError) : String :=
  let message := match e with
    | missingValue flag =>
      "a value is required for '" ++ flag.usage ++ "' but none was supplied"
    | needlessValue flag value used =>
      "unexpected value '" ++ Text.withoutControls value ++ "' for '" ++ flag.usage ++
        "' found; no more were expected" ++ usageWithNeedless flag used
    | repeated flag =>
      "the argument '" ++ flag.usage ++ "' cannot be used multiple times" ++ usageLine []
    | unknown argument meant used =>
      let tip := match meant with
        | some flag => "\n\n  tip: a similar argument exists: '--" ++ flag.long ++ "'"
        | none => ""
      "unexpected argument '" ++ Text.withoutControls argument ++ "' found" ++ tip ++
        usageLine (used ++ meant.toList)
  "error: " ++ message ++ "\n\nFor more information, try '--help'.\n"

end UsageError

/-! ### Arguments -/

/-- What kind of argument a text is. -/
inductive Word where
  /-- Two hyphens: no options follow. -/
  | endOfOptions
  /-- A long name, perhaps with a value after an equals sign. -/
  | long (name : String) (value : Option String)
  /-- Letters of options, perhaps with a value after them. -/
  | letters (cs : List Char)
  /-- Anything else. -/
  | value (text : String)
  deriving DecidableEq

/-- What kind of argument a text is. -/
def Word.ofArgument (argument : String) : Word :=
  match argument.toList with
  | ['-', '-'] => endOfOptions
  | '-' :: '-' :: rest =>
    match Text.cutAt? '=' rest with
    | some (name, text) => long (String.ofList name) (some (String.ofList text))
    | none => long (String.ofList rest) none
  | '-' :: c :: cs => letters (c :: cs)
  | _ => value argument

/-! ### The options read so far -/

/-- The options read so far. -/
structure Given where
  options : CommandLine := {}
  /-- The options taken in, in order. -/
  used : List Flag := []
  /-- The option that is pending, with its value once that is there. -/
  pending : Option (Flag × Option String) := none

/-- Why reading stops before the arguments end. -/
inductive Stop where
  | error (e : UsageError)
  | help
  | version

/-- One step of reading: the options read, and why to stop, if so. -/
abbrev Step := Given × Option Stop

namespace Given

/-- Takes in an option with its value. -/
def store (g : Given) (flag : Flag) (value : String) : Given :=
  let options := match flag with
    | .config => { g.options with config := value }
    | .interface => { g.options with interface := some value }
    | .debug => { g.options with debug := true }
    | .listInterfaces => { g.options with listInterfaces := true }
    | _ => g.options
  { g with options }

/-- Takes in an option, with its value if it takes one. One that is there already is an error, and
    so is an empty path. -/
def take (g : Given) (flag : Flag) (value : Option String) : Step :=
  match flag, value with
  | .help, _ => (g, some .help)
  | .version, _ => (g, some .version)
  | flag, value =>
    if flag.takesValue && value.isNone then (g, some (.error (.missingValue flag)))
    else if flag ∈ g.used then
      ({ g with used := g.used.erase flag }, some (.error (.repeated flag)))
    else
      let text := value.getD ""
      let g := { g with used := g.used ++ [flag] }
      if flag = .config ∧ text = "" then (g, some (.error (.missingValue flag)))
      else (g.store flag text, none)

/-- Takes in the pending option. -/
def settle (g : Given) : Step :=
  match g.pending with
  | none => (g, none)
  | some (flag, value) => { g with pending := none }.take flag value

/-- An option is there: takes in the pending one, then this one with its value, or makes it pending
    if its value is still to come. -/
def accept (g : Given) (flag : Flag) (value : Option String) : Step :=
  match g.settle with
  | (g, some stop) => (g, some stop)
  | (g, none) =>
    if flag.takesValue && value.isNone then ({ g with pending := some (flag, none) }, none)
    else g.take flag value

/-- The options that have been taken in once the pending one is, whatever is wrong with that. -/
def settled (g : Given) : List Flag :=
  g.settle.1.used

/-- An argument that is no option. -/
def refuse (g : Given) (argument : String) : Step :=
  (g, some (.error (.unknown argument none [])))

/-- Reads a long name. -/
def long (g : Given) (name : String) (value : Option String) : Step :=
  match Flag.ofLong? name, value with
  | none, _ =>
    let meant := (Text.mostSimilar? name (Flag.all.map Flag.long)).bind Flag.ofLong?
    (g, some (.error (.unknown ("--" ++ name) meant g.settled)))
  | some flag, some value =>
    if flag.takesValue then g.accept flag (some value)
    else (g, some (.error (.needlessValue flag value g.used)))
  | some flag, none => g.accept flag none

/-- The value that follows the letter of an option in the same argument. -/
def attachedValue : List Char → Option String
  | [] => none
  | '=' :: cs => some (String.ofList cs)
  | cs => some (String.ofList cs)

/-- Reads letters of options. What follows the letter of an option with a value is that value. -/
def letters (g : Given) : List Char → Step
  | [] => (g, none)
  | c :: cs =>
    match Flag.ofShort? c with
    | none => g.refuse (String.ofList ['-', c])
    | some flag =>
      if flag.takesValue then g.accept flag (attachedValue cs)
      else match g.accept flag none with
        | (g, some stop) => (g, some stop)
        | (g, none) => g.letters cs

/-- Reads an argument that is no option: the value of the pending option, if that still lacks
    one. -/
def value (g : Given) (text : String) : Step :=
  match g.pending with
  | some (flag, none) => ({ g with pending := some (flag, some text) }, none)
  | _ => g.refuse text

/-- Reads all arguments. -/
def readAll (g : Given) : List String → Step
  | [] => g.settle
  | argument :: rest =>
    let step := match Word.ofArgument argument with
      | .endOfOptions =>
        match rest with
        | [] => (g, none)
        | argument :: _ => g.refuse argument
      | .long name text => g.long name text
      | .letters cs => g.letters cs
      | .value text => g.value text
    match step with
    | (g, some stop) => (g, some stop)
    | (g, none) => g.readAll rest

end Given

/-- What the arguments ask for. -/
def CommandLine.parse (arguments : List String) : Except UsageError Request :=
  match ({} : Given).readAll arguments with
  | (g, none) => .ok (.run g.options)
  | (_, some .help) => .ok .help
  | (_, some .version) => .ok .version
  | (_, some (.error e)) => .error e

end LanWatch
