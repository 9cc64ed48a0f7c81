import LanWatch.Report.HostLookup
import LanWatch.Sighting

namespace LanWatch

/-!
# Upsert statements

A sighting as one SQL statement: it inserts a row for the host, or brings the row that is already
there up to date. A row is found by its hardware address, VLAN and location. Repeated sightings of a
host join their kind bits, so the row collects every way in which the host has been seen.

* `SqlValue` — the values of a row, and how they are written;
* `SqlUpdate` — how a column of a row that is already there changes;
* `Upsert` — columns and updates of one statement, and its text;
* `Site` — where the sightings come from;
* `Upsert.ofSighting`, `Upsert.lookupLog` — the statement of a sighting, and what is said meanwhile.
-/

/-- A value of a row. -/
inductive SqlValue where
  | text (s : String)
  | number (n : Nat)
  | null
  /-- A time, given in seconds since the Unix epoch. -/
  | unixTime (t : Timestamp)
  deriving DecidableEq

namespace SqlValue

/-- How a character of a text is written: backslashes and quotes follow a backslash. -/
def escapeChar (c : Char) : List Char :=
  if c = '\\' ∨ c = '\x27' then ['\\', c] else [c]

/-- A text between single quotes. -/
def quote (s : String) : String :=
  "'" ++ String.ofList (s.toList.flatMap escapeChar) ++ "'"

/-- How a value is written. -/
def render : SqlValue → String
  | text s => quote s
  | number n => Text.decimal n
  | null => "NULL"
  | unixTime t => "FROM_UNIXTIME(" ++ t.text ++ ")"

end SqlValue

/-- How a column of a row that is already there changes. -/
inductive SqlUpdate where
  /-- The column takes a new value. -/
  | assign (column : String) (value : SqlValue)
  /-- Bits are added to those of the column. -/
  | addBits (column : String) (bits : Nat)
  deriving DecidableEq

/-- How an update is written. -/
def SqlUpdate.render : SqlUpdate → String
  | assign column value => column ++ " = " ++ value.render
  | addBits column bits => column ++ " = " ++ column ++ " | " ++ Text.decimal bits

/-- A statement that inserts a row or updates it. -/
structure Upsert where
  /-- The columns of a new row, with their values. -/
  row : List (String × SqlValue)
  /-- What changes in a row that is already there. -/
  updates : List SqlUpdate
  deriving DecidableEq

namespace Upsert

/-- The text of a statement. -/
def render (u : Upsert) : String :=
  "INSERT INTO arpdata (" ++ Text.join ", " (u.row.map (·.1)) ++ ") VALUES (" ++
    Text.join ", " (u.row.map fun (_, value) => value.render) ++
    ") ON DUPLICATE KEY UPDATE " ++ Text.join ", " (u.updates.map SqlUpdate.render) ++ ";"

end Upsert

/-- Where the sightings come from. -/
structure Site where
  /-- Part of the key of a row. -/
  location : String := ""
  label : String := ""
  deriving DecidableEq

namespace Upsert

/-- What is stored for the name of a host that has none. -/
def noHostname : String := "(none)"

/-- The columns that only some sightings set. A column that a sighting says nothing about keeps
    its value. -/
def optionalColumns (resolver : Option Resolver) (s : Sighting) : List (String × SqlValue) :=
  (if s.ip.isUnspecified then []
   else
    ("ip_address", .text s.ip.text) ::
      resolver.toList.map fun resolve =>
        ("hostname", .text ((resolve s.ip).name?.getD noHostname))) ++
  s.dhcpName.toList.map (fun name => ("dhcp_name", .text name)) ++
  s.netbiosName.toList.map (fun name => ("netbios_name", .text name)) ++
  (if s.pvNames.isEmpty then [] else [("epics_pvs", .text (Text.join " " s.pvNames))])

/-- What is said about the search for the name of the host, which only a sighting with an address
    sets off. -/
def lookupLog (resolver : Option Resolver) (s : Sighting) : Log :=
  if s.ip.isUnspecified then []
  else resolver.toList.flatMap fun resolve => (resolve s.ip).log s.ip

/-- The statement of a sighting. -/
def ofSighting (site : Site) (resolver : Option Resolver) (s : Sighting) : Upsert :=
  let vlan := match s.vlan with
    | some vlan => .number vlan.toNat
    | none => .null
  let optional := optionalColumns resolver s
  { row :=
      [("hw_address", .text s.mac.text), ("location", .text site.location),
        ("label", .text site.label), ("last_seen", .unixTime s.seen), ("vlan", vlan),
        ("type", .number s.kind.bits)] ++ optional
    updates :=
      [.assign "last_seen" (.unixTime s.seen), .assign "label" (.text site.label),
        .assign "vlan" vlan, .addBits "type" s.kind.bits] ++
      optional.map fun (column, value) => .assign column value }

end Upsert

example : SqlValue.quote "a'b\\" = "'a\\'b\\\\'" := by decide
example : (SqlUpdate.addBits "type" 33).render = "type = type | 33" := by cbv

end LanWatch
