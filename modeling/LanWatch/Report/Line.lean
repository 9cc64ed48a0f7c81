import LanWatch.Sighting

namespace LanWatch

/-!
# Report lines

A sighting as one line for a reader at a terminal, with the texts before the first and after the
last line.

* `Sighting.line` — the line;
* `banner`, `farewell` — the texts around the lines.
-/

/-- A part of a line that stands there only if there is something to say. -/
def optionalPart (label : String) (value : Option String) : String :=
  match value with
  | some value => " | " ++ label ++ ": " ++ value
  | none => ""

/-- The line of a sighting. Only a verbose line tells when the frame was received. -/
def Sighting.line (verbose : Bool) (s : Sighting) : String :=
  let vlan := match s.vlan with
    | some vlan => Text.decimal vlan.toNat
    | none => "none"
  let pvs := if s.pvNames.isEmpty then none else some (Text.join ", " s.pvNames)
  let seen := if verbose then some s.seen.text else none
  "[" ++ s.kind.label ++ "] MAC: " ++ s.mac.text ++ " | IP: " ++ s.ip.text ++ " | VLAN: " ++ vlan ++
    optionalPart "Host" s.dhcpName ++ optionalPart "NetBIOS" s.netbiosName ++
    optionalPart "PVs" pvs ++ optionalPart "Seen" seen

/-- The text before the first line. -/
def banner (interface : String) : String :=
  "Watching interface: " ++ interface ++ "\nPress Ctrl+C to stop.\n\n"

/-- The text after the last line. -/
def farewell : String :=
  "\nStopping watcher.\n"

end LanWatch
