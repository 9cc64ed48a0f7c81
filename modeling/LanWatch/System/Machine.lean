import LanWatch.Capture.Device
import LanWatch.Pending.Ring
import LanWatch.Report.Upsert
import LanWatch.System.Files

namespace LanWatch

/-!
# Machines

Everything outside the program that it looks at: how it was called, the files, the interfaces, the
names of hosts, what happens on the link until it is told to stop, and how much memory there is.

* `Machine` — the surroundings of one run;
* `Machine.listedInterfaces`, `Machine.resolver` — what the program learns by asking;
* `Outcome` — what a run leaves behind.
-/

/-- The surroundings of one run. -/
structure Machine where
  arguments : List String := []
  environment : List (String × String) := []
  files : Files := []
  /-- The interfaces as the system lists them. -/
  interfaces : List Interface := []
  faults : Faults := {}
  /-- The names that the name service gives. -/
  hostNames : List (Ipv4 × String) := []
  /-- What happens on the link before the user asks the program to stop. -/
  events : List LinkEvent := []
  /-- How many bytes a piece of memory can have. -/
  memory : Nat := Ring.mostBytes

namespace Machine

/-- The value of an environment variable. -/
def envValue? (m : Machine) (name : String) : Option String :=
  m.environment.lookup name

/-- The interfaces, one entry for each name; none if they cannot be listed. -/
def listedInterfaces (m : Machine) : List Interface :=
  if m.faults.listing.isSome then [] else Interface.gather m.interfaces

/-- The names of hosts. An address that stands for a name is none. -/
def resolver (m : Machine) : Resolver := fun ip =>
  match m.hostNames.lookup ip with
  | some name => if name = ip.text then .unnamed else .named name
  | none => .failed

end Machine

/-- What a run leaves behind. -/
structure Outcome where
  /-- Zero after a run without errors. -/
  status : Nat := 0
  stdout : String := ""
  stderr : String := ""
  files : Files

end LanWatch
