import LanWatch.Text.Case

namespace LanWatch

/-!
# Keys

The names under which settings are given, in a file or in the environment.

* `Key` — the keys, in the order in which the environment is looked through;
* `Key.name`, `Key.ofName?` — the name of a key in a file;
* `Key.variableName` — the name of its environment variable.
-/

/-- The names under which settings are given. -/
inductive Key where
  | interface
  | nativeVlan
  | ignoreTagged
  | bufferSize
  | ring
  | filter
  | readTimeout
  | statsInterval
  | location
  | label
  | sink
  | sqlOutput
  | reverseDns
  | logFilter
  deriving DecidableEq

namespace Key

/-- The keys, in the order in which the environment is looked through. -/
def all : List Key :=
  [interface, nativeVlan, ignoreTagged, bufferSize, ring, filter, readTimeout, statsInterval,
    location, label, sink, sqlOutput, reverseDns, logFilter]

theorem mem_all (k : Key) : k ∈ all := by
  cases k <;> decide

/-- The name of a key in a file. -/
def name : Key → String
  | interface => "interface"
  | nativeVlan => "native_vlan"
  | ignoreTagged => "ignore_tagged"
  | bufferSize => "buffer_size"
  | ring => "ring"
  | filter => "filter"
  | readTimeout => "read_timeout_ms"
  | statsInterval => "stats_interval_secs"
  | location => "location"
  | label => "label"
  | sink => "sink"
  | sqlOutput => "sql_output"
  | reverseDns => "reverse_dns"
  | logFilter => "log_filter"

/-- The key with a given name. -/
def ofName? (s : String) : Option Key :=
  all.find? fun k => k.name == s

/-- Every key is found under its name. -/
theorem ofName?_name (k : Key) : ofName? k.name = some k := by
  cases k <;> decide

/-- Different keys have different names. -/
theorem name_injective {k l : Key} (h : k.name = l.name) : k = l := by
  have hname := ofName?_name k
  rw [h, ofName?_name] at hname
  exact (Option.some.inj hname).symm

theorem name_of_ofName? {s : String} {k : Key} (h : ofName? s = some k) : k.name = s := by
  simpa using List.find?_some h

/-- The name of the environment variable that overrides a key. -/
def variableName (k : Key) : String :=
  "ARPWATCH_" ++ Text.upper k.name

end Key

example : Key.readTimeout.variableName = "ARPWATCH_READ_TIMEOUT_MS" := by decide

end LanWatch
