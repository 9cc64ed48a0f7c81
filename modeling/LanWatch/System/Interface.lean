import LanWatch.Address.Ipv6

namespace LanWatch

/-!
# Network interfaces

What the system tells about its interfaces. It may list an interface several times, each time with
other addresses.

* `Interface` — one interface;
* `Interface.gather` — one entry for each name;
* `Interface.line` — an interface in a list for a reader;
* `Interface.default?` — the interface to watch when none is named.
-/

/-- One network interface. -/
structure Interface where
  name : String
  up : Bool := false
  loopback : Bool := false
  addresses : List Network := []
  deriving DecidableEq

namespace Interface

/-- What two entries of the same interface say together. -/
def join (a b : Interface) : Interface :=
  { a with
    up := a.up || b.up
    loopback := a.loopback || b.loopback
    addresses := a.addresses ++ b.addresses }

/-- Adds an entry to those with other names. -/
def add (entries : List Interface) (new : Interface) : List Interface :=
  match entries with
  | [] => [new]
  | e :: es => if e.name = new.name then e.join new :: es else e :: add es new

/-- One entry for each name, at the place of the first one. -/
def gather (entries : List Interface) : List Interface :=
  entries.foldl add []

/-- The entry with a given name. -/
def find? (entries : List Interface) (name : String) : Option Interface :=
  entries.find? (·.name == name)

/-- An interface can be watched unasked: it is up, it leads somewhere, and it has an address. -/
def isSuitable (i : Interface) : Bool :=
  i.up && !i.loopback && !i.addresses.isEmpty

/-- The interface to watch when none is named. -/
def default? (entries : List Interface) : Option Interface :=
  entries.find? isSuitable

/-- An interface in a list for a reader. -/
def line (i : Interface) : String :=
  let status := if i.up then "UP" else "DOWN"
  let addresses :=
    if i.addresses.isEmpty then "no IP" else Text.join ", " (i.addresses.map Network.text)
  i.name ++ ": " ++ status ++ " [" ++ addresses ++ "]"

/-- The list of all interfaces for a reader. -/
def listing (entries : List Interface) : String :=
  "Available network interfaces:\n" ++
    String.join (entries.map fun i => "  " ++ i.line ++ "\n")

end Interface

end LanWatch
