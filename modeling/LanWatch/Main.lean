import LanWatch.Watch.Run

namespace LanWatch

/-!
# The program

The outer layer: collects what a run looks at, and writes what it leaves behind. A process by itself
has no access to the link layer, so it has no interfaces to offer.

* `surroundings` — what this process is surrounded by;
* `main` — one run.
-/

/-- The text of a file, if it can be read. -/
def readText? (path : String) : IO (Option String) :=
  try some <$> IO.FS.readFile path catch _ => pure none

/-- What this process is surrounded by. -/
def surroundings (arguments : List String) : IO Machine := do
  let names := "RUST_LOG" :: Key.all.map Key.variableName
  let environment ← names.filterMapM fun name =>
    return (← IO.getEnv name).map fun value => (name, value)
  let path := match CommandLine.parse arguments with
    | .ok (.run options) => options.config
    | _ => defaultConfigPath
  let files := (← readText? path).toList.map fun text => (path, text)
  pure { arguments, environment, files }

end LanWatch

/-- One run. -/
def main (arguments : List String) : IO UInt32 := do
  let outcome := (← LanWatch.surroundings arguments).run
  IO.print outcome.stdout
  IO.eprint outcome.stderr
  return UInt32.ofNat outcome.status
