import LanWatch.Address
import LanWatch.Log

namespace LanWatch

/-!
# Host names

The name service is asked for the name of a host by its address.

* `HostLookup` — what becomes of the question;
* `HostLookup.name?`, `HostLookup.log` — the name, and what is said about a failure;
* `Resolver` — gives the names of hosts.
-/

/-- What becomes of the question for the name of a host. -/
inductive HostLookup where
  | named (name : String)
  /-- The service knows no name. -/
  | unnamed
  /-- The service gives no answer. -/
  | failed
  deriving DecidableEq

namespace HostLookup

/-- The name, if there is one. -/
def name? : HostLookup → Option String
  | named name => some name
  | unnamed | failed => none

/-- What is said about the question for the name of the host with the given address. -/
def log (ip : Ipv4) : HostLookup → Log
  | failed =>
    [⟨.debug, .hostNames, "Reverse lookup of " ++ ip.text ++
      " failed: failed to lookup address information: Name or service not known"⟩]
  | named _ | unnamed => []

end HostLookup

/-- Gives the names of hosts. -/
abbrev Resolver := Ipv4 → HostLookup

end LanWatch
