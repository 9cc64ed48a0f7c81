import LanWatch.CommandLine.Parse
import LanWatch.Log.Filter
import LanWatch.Session
import LanWatch.Settings.File
import LanWatch.System.Machine
import LanWatch.Watch.Failure

namespace LanWatch

/-!
# Watching a network

The whole program as a function of its surroundings: it reads its settings, opens an interface,
captures until the user asks it to stop, and reports what it saw.

* `Output`, `Run` — what has been written so far, in a computation that may fail;
* `loadSettings`, `openSource`, `watch` — the steps;
* `Machine.run` — the program.
-/

/-- What has been written so far. -/
structure Output where
  stdout : String := ""
  stderr : String := ""
  files : Files

/-- A computation that writes and may fail. What was written before a failure stays. -/
abbrev Run := ExceptT Failure (StateM Output)

namespace Run

/-- Writes to standard output. -/
def print (text : String) : Run Unit :=
  modify fun out => { out with stdout := out.stdout ++ text }

/-- Writes to standard error. -/
def complain (text : String) : Run Unit :=
  modify fun out => { out with stderr := out.stderr ++ text }

/-- Gives a file a new text. -/
def putFile (name text : String) : Run Unit :=
  modify fun out => { out with files := out.files.put name text }

/-- Writes the events that a filter shows to standard error. -/
def say (filter : LogFilter) (log : Log) : Run Unit :=
  complain (filter.render log)

/-- Fails with a message and its causes. -/
def fail {α : Type} (message : String) (causes : List String := []) : Run α :=
  throw { message, causes }

end Run

/-! ### Settings -/

/-- The log filter of a run, with complaints about it. The environment comes first if it holds a
    filter without errors; a run for debugging shows everything but the finest detail. -/
def chooseLogFilter (m : Machine) (debug : Bool) (configured : String) :
    LogFilter × List String :=
  match (m.envValue? "RUST_LOG").bind LogFilter.parseStrict? with
  | some filter => (filter, [])
  | none => LogFilter.parse (if debug then "debug" else configured)

/-- What is behind the path of the settings. -/
def settingsContent (files : Files) (path : String) : FileContent :=
  match files.locate path with
  | .file name => .bytes ((files.read? name).getD "").toUTF8.toList
  | .directory => .unreadable (.os IoError.isDirectory)
  | .device .terminal => .unreadable (.os IoError.noDevice)
  | .device _ => .bytes []
  | .vacant _ => .missing
  | .nowhere _ => .missing

/-- Loads the settings. The log filter is one of them, so a standard one is in force meanwhile. -/
def loadSettings (m : Machine) (options : CommandLine) : Run Settings := do
  let (filter, complaints) := chooseLogFilter m options.debug ({} : Settings).logFilter
  Run.complain (String.join complaints)
  let content := settingsContent m.files options.config
  let reading := Settings.load options.config content m.envValue?
  Run.say filter reading.log
  match reading.result with
  | .ok settings =>
    match options.interface with
    | some name => pure (settings.set (.interface (some name)))
    | none => pure settings
  | .error e =>
    Run.fail ("Failed to load config from " ++ Text.quoted options.config)
      e.account

/-! ### Opening -/

/-- The name of the interface to watch. -/
def interfaceName (m : Machine) (s : Settings) : Run String :=
  match s.interface with
  | some name => pure name
  | none =>
    match Interface.default? m.listedInterfaces with
    | some interface => pure interface.name
    | none => Run.fail "No suitable network interface found"

/-- Opens the interface to watch and tells its name. -/
def openSource (m : Machine) (s : Settings) (filter : LogFilter) : Run String := do
  let name ← interfaceName m s
  match openInterface m.listedInterfaces m.faults name with
  | .error e => Run.fail ("Failed to open capture on " ++ name) e.account
  | .ok interface =>
    Run.say filter [openedEvent interface.name s.filter s.readTimeout]
    pure interface.name

/-- The slots for pending sightings. -/
def openRing (m : Machine) (s : Settings) : Run Ring :=
  match s.createRing m.memory with
  | .ok ring => pure ring
  | .error e => throw e.failure

/-! ### What is said -/

/-- What is said before the capture. -/
def watchingEvent (name : String) (s : Settings) : Event :=
  let mode := match s.overflow with
    | .evictOldest => "ring"
    | .dropNew => "bounded"
  let vlan := match s.nativeVlan with
    | some vlan => "Some(" ++ Text.decimal vlan.toNat ++ ")"
    | none => "None"
  ⟨.info, .daemon, "Watching " ++ name ++ " (buffer " ++ Text.decimal s.bufferSize ++ " slots, " ++
    mode ++ " mode, native VLAN " ++ vlan ++ ", location '" ++ s.location ++ "')"⟩

/-- What is said when the user asks the program to stop. -/
def shutdownEvent : Event :=
  ⟨.info, .daemon, "Received shutdown signal"⟩

/-- What is said at the end: the counts, and a warning if frames or sightings were lost. -/
def stoppedLog (summary : Summary) (stats : Ring.Stats) (handled : Nat) : Log :=
  [⟨.info, .daemon, "Stopped: " ++ Text.decimal summary.frames ++ " frames, " ++
    Text.decimal summary.sightings ++ " observations, " ++ Text.decimal handled ++ " reported"⟩] ++
  if 0 < stats.overruns ∨ 0 < summary.truncated ∨ 0 < summary.malformed then
    [⟨.warn, .daemon, Text.decimal stats.overruns ++ " overruns (" ++
      Text.decimal summary.dropped ++ " dropped, " ++ Text.decimal summary.evicted ++
      " evicted), " ++ Text.decimal summary.duplicates ++ " duplicates, " ++
      Text.decimal summary.truncated ++ " truncated frames, " ++
      Text.decimal summary.malformed ++ " malformed frames"⟩]
  else []

/-! ### Where statements go -/

/-- Where statements go. -/
inductive Destination where
  | standardOutput
  | standardError
  | file (name : String)
  /-- What is written is lost. -/
  | nowhere
  deriving DecidableEq

namespace Run

/-- Delivers a text. -/
def deliver (text : String) : Destination → Run Unit
  | .standardOutput => print text
  | .standardError => complain text
  | .file name => putFile name text
  | .nowhere => pure ()

end Run

/-- The medium for statements behind a path, and where what it takes goes. -/
def createOutput (files : Files) (path : String) : Except IoError (Medium × Destination) :=
  match files.locate path with
  | .file name => .ok (.unlimited, .file name)
  | .vacant name => .ok (.unlimited, .file name)
  | .directory => .error (.os IoError.isDirectory)
  | .device .full => .ok (.full, .nowhere)
  | .device .null => .ok (.unlimited, .nowhere)
  | .device .terminal => .error (.os IoError.noDevice)
  | .device .standardOutput => .ok (.unlimited, .standardOutput)
  | .device .standardError => .ok (.unlimited, .standardError)
  | .nowhere cause => .error cause

/-! ### The session -/

/-- Says what was said in a session, in which the user asks the program to stop once the last event
    is over, delivers what it reported, and fails if the capture failed. -/
def concludeSession {σ : Type} (filter : LogFilter) (session : Session σ) (reports : String)
    (destination : Destination) : Run Unit := do
  let captured := session.capture
  let shutdown := match captured.result with
    | .ok _ => [shutdownEvent]
    | .error _ => []
  Run.say filter
    (session.opening ++ captured.log ++ shutdown ++ captured.closing ++ session.closing)
  Run.deliver reports destination
  match captured.result with
  | .ok summary => Run.say filter (stoppedLog summary session.stats session.handled)
  | .error e => Run.fail "Capture failed" e.account

/-- Captures and reports in the style of the settings. -/
def runSink (m : Machine) (s : Settings) (verbose : Bool) (filter : LogFilter) (name : String)
    (ring : Ring) : Run Unit := do
  let deliveries := m.events.map fun e => { answer := e.answer s.filter : Delivery }
  let resolver := if s.reverseDns then some m.resolver else none
  match s.sink, s.sqlOutput with
  | .console, _ =>
    let session := runSession (.console verbose) "" name s.vlanPolicy ring deliveries
    concludeSession filter session session.state .standardOutput
  | .sql, none =>
    let session := runSession (.sql s.site resolver) (.direct .unlimited) name s.vlanPolicy ring
      deliveries
    concludeSession filter session session.state.medium.contents .standardOutput
  | .sql, some path =>
    match createOutput (← get).files path with
    | .error e => Run.fail ("Failed to create SQL output " ++ Text.quoted path) [e.message]
    | .ok (medium, destination) =>
      let session := runSession (.sql s.site resolver) (.buffered medium) name s.vlanPolicy ring
        deliveries
      concludeSession filter session session.state.medium.contents destination

/-- Watches an interface until the user asks the program to stop. -/
def watch (m : Machine) (options : CommandLine) : Run Unit := do
  let settings ← loadSettings m options
  let (filter, complaints) := chooseLogFilter m options.debug settings.logFilter
  Run.complain (String.join complaints)
  let name ← openSource m settings filter
  let ring ← openRing m settings
  Run.say filter [watchingEvent name settings]
  runSink m settings options.debug filter name ring

/-! ### The program -/

/-- What a computation leaves behind. -/
def Run.outcome (computation : Run Unit) (files : Files) : Outcome :=
  match (computation.run.run { files }) with
  | (.ok _, out) => { stdout := out.stdout, stderr := out.stderr, files := out.files }
  | (.error failure, out) =>
    { status := failure.ending.status
      stdout := out.stdout
      stderr := out.stderr ++ failure.text
      files := out.files }

/-- The program: does what its arguments ask for. -/
def Machine.run (m : Machine) : Outcome :=
  match CommandLine.parse m.arguments with
  | .error e => { status := 2, stderr := e.text, files := m.files }
  | .ok .help => { stdout := helpText, files := m.files }
  | .ok .version => { stdout := versionText, files := m.files }
  | .ok (.run options) =>
    if options.listInterfaces then
      { stdout := Interface.listing m.listedInterfaces, files := m.files }
    else (watch m options).outcome m.files

end LanWatch
