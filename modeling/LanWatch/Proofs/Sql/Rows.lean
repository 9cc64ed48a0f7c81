import LanWatch.Proofs.Sql.Sightings
import LanWatch.Proofs.Text.Numerals
import LanWatch.Sql.Table

namespace LanWatch

/-!
# What a statement does to a row

The statement of a sighting lists a row that says what is known of the sighting. As an update it
makes a row that sums up some sightings of a host into one that sums up this one too.

* `Host`, `Sighting.host` — hosts, as far as rows tell them apart;
* `Upsert.rowOf` — the row that sums up sightings of a host;
* `Upsert.setAll`, `Upsert.setAll_eq` — columns that are set one after another;
* `Upsert.row?_ofSighting`, `Upsert.assignAll?_ofSighting` — the row that a statement lists, and
  what it makes of a row that is there.
-/

/-- A host, as far as rows tell hosts apart: the same card in two VLANs counts twice. -/
structure Host where
  mac : MacAddr
  /-- None if the frames had no tag and no native VLAN is known. -/
  vlan : Option UInt16
  deriving DecidableEq

/-- The host of a sighting. -/
def Sighting.host (s : Sighting) : Host :=
  ⟨s.mac, s.vlan⟩

open Sql

/-! ### Values -/

/-- What a value is to the database. -/
def SqlValue.cell (call : String → Literal → Cell) : SqlValue → Cell
  | text s => .text s
  | number n => .number n
  | null => .null
  | unixTime t => call "FROM_UNIXTIME" (.number t.text)

/-- A number in decimal is a cell with that number. -/
theorem Sql.Literal.cell?_decimal (n : Nat) :
    (Literal.number (Text.decimal n)).cell? = some (.number n) := by
  rw [Literal.cell?, Text.decimalNumber?_decimal]
  rfl

/-- A value is evaluated to its cell, whatever the row had before. -/
theorem SqlValue.eval?_expr (call : String → Literal → Cell) (row : Row) (v : SqlValue) :
    v.expr.eval? call row = some (v.cell call) := by
  cases v with
  | number n => exact Literal.cell?_decimal n
  | text s => rfl
  | null => rfl
  | unixTime t => rfl

/-- What the column for the VLAN holds. -/
def Host.vlanCell (host : Host) : Cell :=
  host.vlan.elim .null fun vlan => .number vlan.toNat

namespace Upsert

variable (site : Site) (resolver : Option Resolver) (call : String → Literal → Cell)

/-! ### Sums of sightings -/

/-- The last one of what sightings give, or `NULL` if none of them gives anything. -/
def lastOf (give : Sighting → Option Cell) (ss : List Sighting) : Cell :=
  (ss.filterMap give).getLast?.getD .null

/-- The last sighting that gives a cell decides. -/
theorem lastOf_concat (give : Sighting → Option Cell) (ss : List Sighting) (s : Sighting) :
    lastOf give (ss ++ [s]) = (give s).getD (lastOf give ss) := by
  unfold lastOf
  rw [List.filterMap_append]
  cases hs : give s with
  | none => simp [hs]
  | some c => simp [hs]

/-- The bits of all kinds of sighting together. -/
def bitsOf (ss : List Sighting) : Nat :=
  ss.foldl (fun bits s => bits ||| s.kind.bits) 0

/-- The row that sums up sightings of a host: the kinds of all of them together, and beside that the
    last of what they tell. -/
def rowOf (host : Host) (ss : List Sighting) : Row := fun column =>
  if column = "hw_address" then .text host.mac.text
  else if column = "vlan" then host.vlanCell
  else if column = "location" then .text site.location
  else if column = "label" then .text site.label
  else if column = "type" then .number (bitsOf ss)
  else if column = "last_seen" then
    lastOf (fun s => some (call "FROM_UNIXTIME" (.number s.seen.text))) ss
  else if column = "ip_address" then
    lastOf (fun s => if s.ip.isUnspecified then none else some (.text s.ip.text)) ss
  else if column = "hostname" then
    lastOf (fun s => if s.ip.isUnspecified then none else resolver.map fun resolve =>
      .text ((resolve s.ip).name?.getD noHostname)) ss
  else if column = "dhcp_name" then lastOf (fun s => s.dhcpName.map .text) ss
  else if column = "netbios_name" then lastOf (fun s => s.netbiosName.map .text) ss
  else if column = "epics_pvs" then
    lastOf (fun s => if s.pvNames = [] then none else some (.text (Text.join " " s.pvNames))) ss
  else .null

/-! ### Columns that are set -/

/-- Sets columns one after another. -/
def setAll (row : Row) (fields : List (String × SqlValue)) : Row :=
  fields.foldl (fun row field => row.set field.1 (field.2.cell call)) row

/-- Columns with different names do not get into each other's way. -/
theorem setAll_eq (row : Row) {fields : List (String × SqlValue)}
    (hnodup : (fields.map (·.1)).Nodup) (column : String) :
    setAll call row fields column =
      ((fields.lookup column).map (SqlValue.cell call)).getD (row column) := by
  -- Induction on the fields, of which the later ones overwrite what the earlier ones have set.
  induction fields generalizing row with
  | nil => rfl
  | cons field fields ih =>
    obtain ⟨name, value⟩ := field
    rw [List.map_cons, List.nodup_cons] at hnodup
    show setAll call (row.set name (value.cell call)) fields column = _
    rw [ih _ hnodup.2, lookup_cons]
    by_cases hname : column = name
    · -- No later field sets the column again.
      have hlater : fields.lookup column = none := by
        rw [List.lookup_eq_none_iff]
        rintro ⟨other, value'⟩ hmem
        rw [bne_iff_ne]
        intro heq
        refine hnodup.1 ?_
        rw [← hname, heq]
        exact List.mem_map_of_mem (f := fun field => field.1) hmem
      rw [hlater, if_pos hname]
      simp [Row.set, hname]
    · rw [if_neg hname]
      simp [Row.set, hname]

/-- Assignments of values set their columns. -/
theorem assignAll?_fields (row : Row) (fields : List (String × SqlValue)) (as : List Assignment) :
    assignAll? call row (fields.map (fun field => ⟨field.1, field.2.expr⟩) ++ as) =
      assignAll? call (setAll call row fields) as := by
  induction fields generalizing row with
  | nil => rfl
  | cons field fields ih =>
    rw [List.map_cons, List.cons_append, assignAll?, SqlValue.eval?_expr, Option.bind_some]
    exact ih _

/-! ### The statement of a sighting -/

variable (s : Sighting)

/-- A row has no column twice. -/
theorem nodup_row : ((ofSighting site resolver s).row.map (·.1)).Nodup := by
  rw [columns_ofSighting]
  exact nodup_columns _

theorem nodup_optionalColumns : ((optionalColumns resolver s).map (·.1)).Nodup := by
  have hnodup := nodup_columns (Presence.ofSighting resolver s)
  rw [map_fst_optionalColumns]
  exact (List.nodup_append.1 hnodup).2.1

/-- The VLAN as a statement writes it. -/
def vlanValue : SqlValue :=
  match s.vlan with
  | some vlan => .number vlan.toNat
  | none => .null

/-- The cell of the VLAN depends on the host alone. -/
theorem cell_vlanValue : (vlanValue s).cell call = s.host.vlanCell := by
  unfold vlanValue Host.vlanCell Sighting.host
  cases s.vlan <;> rfl

/-- A column that only some sightings set holds the last value that a sighting gives it. -/
theorem rowOf_optional (host : Host) (ss : List Sighting) {column : String}
    (hcolumn : column ∉ requiredColumns) :
    rowOf site resolver call host ss column =
      lastOf (fun s =>
        ((optionalColumns resolver s).lookup column).map (SqlValue.cell call)) ss := by
  simp only [requiredColumns, List.mem_cons, List.not_mem_nil, or_false, not_or] at hcolumn
  simp only [rowOf, hcolumn, if_false, lookup_optionalColumns]
  -- In each column both sides take the same value from a sighting.
  have hsame {give give' : Sighting → Option Cell} (h : ∀ s, give s = give' s) :
      lastOf give ss = lastOf give' ss := congrArg (lastOf · ss) (funext h)
  by_cases hip : column = "ip_address"
  · rw [if_pos hip]
    exact hsame fun s => by cases s.ip.isUnspecified <;> simp [hip, SqlValue.cell]
  by_cases hhost : column = "hostname"
  · rw [if_neg hip, if_pos hhost]
    exact hsame fun s => by
      cases s.ip.isUnspecified <;> simp [hhost, SqlValue.cell, Function.comp_def]
  by_cases hdhcp : column = "dhcp_name"
  · rw [if_neg hip, if_neg hhost, if_pos hdhcp]
    exact hsame fun s => by simp [hdhcp, SqlValue.cell, Function.comp_def]
  by_cases hnetbios : column = "netbios_name"
  · rw [if_neg hip, if_neg hhost, if_neg hdhcp, if_pos hnetbios]
    exact hsame fun s => by simp [hnetbios, SqlValue.cell, Function.comp_def]
  by_cases hnames : column = "epics_pvs"
  · rw [if_neg hip, if_neg hhost, if_neg hdhcp, if_neg hnetbios, if_pos hnames]
    exact hsame fun s => by
      by_cases h : s.pvNames = []
      · simp [hnames, h]
      · simp [hnames, h, SqlValue.cell]
  · have hnone : ss.filterMap (fun _ => (none : Option Cell)) = [] := by simp
    simp only [hip, hhost, hdhcp, hnetbios, hnames, if_false, Option.map_none]
    rw [lastOf, hnone]
    rfl

/-- The row that a statement lists sums up its one sighting. -/
theorem row?_ofSighting :
    (ofSighting site resolver s).statement.row? call =
      some (rowOf site resolver call s.host [s]) := by
  have hzip : List.zipWith Assignment.mk (ofSighting site resolver s).statement.columns
      (ofSighting site resolver s).statement.values =
      (ofSighting site resolver s).row.map (fun field => ⟨field.1, field.2.expr⟩) ++ [] := by
    rw [statement, List.append_nil, List.zipWith_map, List.zipWith_self]
  rw [Statement.row?, if_pos (by simp [statement]), hzip, assignAll?_fields, assignAll?]
  congr 1
  funext column
  rw [setAll_eq call _ (nodup_row site resolver s)]
  by_cases hrequired : column ∈ requiredColumns
  · -- All but the VLAN and the kinds are as they were written.
    simp only [requiredColumns, List.mem_cons, List.not_mem_nil, or_false] at hrequired
    rcases hrequired with rfl | rfl | rfl | rfl | rfl | rfl
    · rfl
    · rfl
    · rfl
    · rfl
    · show ((vlanValue s).cell call) = _
      rw [cell_vlanValue]
      rfl
    · show Cell.number s.kind.bits = .number (0 ||| s.kind.bits)
      rw [Nat.zero_or]
  · rw [lookup_optional site resolver s hrequired, rowOf_optional _ _ _ _ _ hrequired,
      ← List.nil_append [s], lastOf_concat]
    rfl

/-- The updates of a statement: three columns take a value before the kinds are added, and the ones
    that only some sightings set take theirs after it. -/
theorem updates_statement :
    (ofSighting site resolver s).statement.updates =
      [("last_seen", .unixTime s.seen), ("label", .text site.label), ("vlan", vlanValue s)].map
        (fun field => ⟨field.1, field.2.expr⟩) ++
      ⟨"type", .bitOr "type" (.number (Text.decimal s.kind.bits))⟩ ::
        ((optionalColumns resolver s).map (fun field => ⟨field.1, field.2.expr⟩) ++ []) := by
  rw [List.append_nil]
  simp only [statement, ofSighting, List.map_append, List.map_map]
  rfl

/-- A row that sums up sightings of a host sums up one more of them after its update. -/
theorem assignAll?_ofSighting (ss : List Sighting) :
    assignAll? call (rowOf site resolver call s.host ss)
        (ofSighting site resolver s).statement.updates =
      some (rowOf site resolver call s.host (ss ++ [s])) := by
  rw [updates_statement, assignAll?_fields, assignAll?]
  -- The kinds are added to a row whose kinds are still the old ones.
  have hbits : setAll call (rowOf site resolver call s.host ss)
      [("last_seen", .unixTime s.seen), ("label", .text site.label), ("vlan", vlanValue s)] "type" =
        .number (bitsOf ss) := rfl
  simp only [Expr.eval?, hbits, Literal.cell?_decimal, Option.bind_some]
  rw [assignAll?_fields, assignAll?]
  congr 1
  funext column
  rw [setAll_eq call _ (nodup_optionalColumns resolver s)]
  by_cases hrequired : column ∈ requiredColumns
  · -- None of the columns that only some sightings set is one of these.
    have hlookup : (optionalColumns resolver s).lookup column = none := by
      rw [lookup_optionalColumns]
      revert column
      simp [requiredColumns]
    rw [hlookup]
    simp only [requiredColumns, List.mem_cons, List.not_mem_nil, or_false] at hrequired
    rcases hrequired with rfl | rfl | rfl | rfl | rfl | rfl
    · rfl
    · rfl
    · rfl
    · show _ = lastOf _ (ss ++ [s])
      rw [lastOf_concat]
      rfl
    · show ((vlanValue s).cell call) = _
      rw [cell_vlanValue]
      rfl
    · show Cell.number (bitsOf ss ||| s.kind.bits) = .number (bitsOf (ss ++ [s]))
      simp [bitsOf]
  · rw [rowOf_optional _ _ _ _ _ hrequired, lastOf_concat,
      ← rowOf_optional site resolver call s.host ss hrequired]
    -- The updates before do not touch such a column.
    have hkept : ((setAll call (rowOf site resolver call s.host ss)
        [("last_seen", .unixTime s.seen), ("label", .text site.label), ("vlan", vlanValue s)]).set
          "type" (.number (bitsOf ss ||| s.kind.bits))) column =
        rowOf site resolver call s.host ss column := by
      simp only [requiredColumns, List.mem_cons, List.not_mem_nil, or_false, not_or] at hrequired
      simp [setAll, Row.set, hrequired]
    rw [hkept]

end Upsert

end LanWatch
