import LanWatch.Proofs.Sql.Rows

namespace LanWatch

/-!
# What a table collects

The statements of sightings, executed one after another on a table whose unique key is the hardware
address, the VLAN and the location. A host with a VLAN has one row, which sums up all of its
sightings. A host without one has `NULL` in its key: none of its rows conflicts with another one, so
each of its sightings leaves a row of its own.

* `arpdata` — the table;
* `Sql.Row.isOf`, `isOf_rowOf`, `conflicts_rowOf` — a row is one of a host, and conflicts with
  others;
* `Group`, `Group.record` — the sightings that share a row, and where one more of them goes;
* `Group.filter_recordAll` — the groups of a host follow from its own sightings;
* `Upsert.execute?_ofSighting`, `Upsert.run?_ofSighting` — the table holds the rows of the groups;
* `Upsert.rows_of_host`, `Upsert.rows_accumulate_iff` — the rows of a host, and when it has only
  one.
-/

open Sql

/-- The database that the statements are written for. -/
def arpdata (call : String → Literal → Cell) : Database where
  table := "arpdata"
  key := ["hw_address", "vlan", "location"]
  call := call

@[simp] theorem arpdata_call (call : String → Literal → Cell) : (arpdata call).call = call := rfl

/-! ### Rows of a host -/

/-- The cells of the key tell hosts apart. -/
theorem Host.eq_iff_cells {host host' : Host} :
    host = host' ↔ host.mac.text = host'.mac.text ∧ host.vlanCell = host'.vlanCell := by
  constructor
  · rintro rfl
    exact ⟨rfl, rfl⟩
  · rintro ⟨hmac, hvlan⟩
    obtain ⟨mac, vlan⟩ := host
    obtain ⟨mac', vlan'⟩ := host'
    obtain rfl : mac = mac' := MacAddr.text_injective hmac
    cases vlan <;> cases vlan' <;> simp_all [Host.vlanCell, UInt16.toNat_inj]

/-- The VLAN is `NULL` in a row exactly if the host has none. -/
theorem Host.vlanCell_eq_null_iff {host : Host} : host.vlanCell = .null ↔ host.vlan = none := by
  obtain ⟨mac, vlan⟩ := host
  cases vlan <;> simp [Host.vlanCell]

/-- The row is one of this host. -/
def Sql.Row.isOf (row : Row) (host : Host) : Bool :=
  row "hw_address" == .text host.mac.text && row "vlan" == host.vlanCell

section Rows

variable (site : Site) (resolver : Option Resolver) (call : String → Literal → Cell)

/-- The row of a host is not one of another host. -/
theorem isOf_rowOf (host host' : Host) (ss : List Sighting) :
    Row.isOf (Upsert.rowOf site resolver call host ss) host' = decide (host = host') := by
  rw [Bool.eq_iff_iff, decide_eq_true_iff, Host.eq_iff_cells]
  simp [Row.isOf, Upsert.rowOf]

/-- Two rows conflict if they are of one host that has a VLAN. -/
theorem conflicts_rowOf (host host' : Host) (ss ss' : List Sighting) :
    Row.conflicts (arpdata call).key (Upsert.rowOf site resolver call host ss)
        (Upsert.rowOf site resolver call host' ss') =
      decide (host = host' ∧ host.vlan ≠ none) := by
  rw [Bool.eq_iff_iff, decide_eq_true_iff, Host.eq_iff_cells, Ne, ← Host.vlanCell_eq_null_iff]
  simp [Row.conflicts, arpdata, Upsert.rowOf, and_assoc]

end Rows

/-! ### Groups -/

/-- Sightings of a host that share a row. -/
structure Group where
  host : Host
  sightings : List Sighting

namespace Group

/-- A sighting goes to the group of its host, but begins one of its own if it has no VLAN. -/
def record (s : Sighting) : List Group → List Group
  | [] => [⟨s.host, [s]⟩]
  | group :: groups =>
    if group.host = s.host ∧ group.host.vlan ≠ none then
      ⟨group.host, group.sightings ++ [s]⟩ :: groups
    else group :: record s groups

/-- Each sighting goes to its group, in order. -/
def recordAll (groups : List Group) (ss : List Sighting) : List Group :=
  ss.foldl (fun groups s => record s groups) groups

/-- No host with a VLAN has two groups. -/
def Apart (groups : List Group) : Prop :=
  groups.Pairwise fun group group' => ¬ (group.host = group'.host ∧ group.host.vlan ≠ none)

/-- A sighting changes no group but those of its host. -/
theorem host_of_mem_record {s : Sighting} {groups : List Group} {group : Group}
    (h : group ∈ record s groups) :
    group.host = s.host ∨ ∃ old ∈ groups, old.host = group.host := by
  induction groups with
  | nil => exact .inl (congrArg Group.host (List.mem_singleton.1 h))
  | cons first groups ih =>
    rw [record] at h
    split at h
    · rcases List.mem_cons.1 h with rfl | h
      · exact .inr ⟨first, List.mem_cons_self, rfl⟩
      · exact .inr ⟨group, List.mem_cons_of_mem first h, rfl⟩
    · rcases List.mem_cons.1 h with rfl | h
      · exact .inr ⟨group, List.mem_cons_self, rfl⟩
      · rcases ih h with hs | ⟨old, hold, heq⟩
        · exact .inl hs
        · exact .inr ⟨old, List.mem_cons_of_mem first hold, heq⟩

/-- A sighting joins the group of its host, or is the first one of a new group. -/
theorem apart_record (s : Sighting) {groups : List Group} (h : Apart groups) :
    Apart (record s groups) := by
  induction groups with
  | nil => exact List.pairwise_singleton _ _
  | cons group groups ih =>
    obtain ⟨hgroup, hgroups⟩ := List.pairwise_cons.1 h
    rw [record]
    split
    · exact List.pairwise_cons.2 ⟨hgroup, hgroups⟩
    next hother =>
      refine List.pairwise_cons.2 ⟨?_, ih hgroups⟩
      intro group' hgroup' hsame
      rcases host_of_mem_record hgroup' with hs | ⟨old, hold, heq⟩
      · exact hother ⟨hsame.1.trans hs, hsame.2⟩
      · exact hgroup old hold ⟨hsame.1.trans heq.symm, hsame.2⟩

/-- The groups of a host change with its own sightings only. -/
theorem filter_record (host : Host) (s : Sighting) (groups : List Group) :
    (record s groups).filter (·.host = host) =
      if s.host = host then record s (groups.filter (·.host = host))
      else groups.filter (·.host = host) := by
  induction groups with
  | nil => by_cases hs : s.host = host <;> simp [record, hs]
  | cons group groups ih =>
    by_cases hs : s.host = host
    · rw [if_pos hs] at ih ⊢
      by_cases hgroup : group.host = host
      · -- The group is one of the host, so both sides look at it first.
        rw [List.filter_cons_of_pos (by simpa using hgroup), record, record]
        split
        · exact List.filter_cons_of_pos (by simpa using hgroup)
        · rw [List.filter_cons_of_pos (by simpa using hgroup), ih]
      · have hother : ¬ (group.host = s.host ∧ group.host.vlan ≠ none) :=
          fun h => hgroup (h.1.trans hs)
        rw [record, if_neg hother, List.filter_cons_of_neg (by simpa using hgroup),
          List.filter_cons_of_neg (by simpa using hgroup), ih]
    · rw [if_neg hs] at ih ⊢
      rw [record]
      split
      next hsame =>
        -- The group that changes is none of the host, before and after.
        have hgroup : ¬ group.host = host := fun h => hs (hsame.1.symm.trans h)
        rw [List.filter_cons_of_neg (by simpa using hgroup),
          List.filter_cons_of_neg (by simpa using hgroup)]
      · rw [List.filter_cons, List.filter_cons, ih]

/-- A group takes in the sightings of its own host, whatever comes in between. -/
theorem filter_recordAll (host : Host) (ss : List Sighting) (groups : List Group) :
    (recordAll groups ss).filter (·.host = host) =
      recordAll (groups.filter (·.host = host)) (ss.filter (·.host = host)) := by
  induction ss generalizing groups with
  | nil => rfl
  | cons s ss ih =>
    show (recordAll (record s groups) ss).filter (·.host = host) = _
    rw [ih, filter_record]
    by_cases hs : s.host = host
    · rw [if_pos hs, List.filter_cons_of_pos (by simpa using hs)]
      rfl
    · rw [if_neg hs, List.filter_cons_of_neg (by simpa using hs)]

/-- All sightings of a host with a VLAN share one group. -/
theorem recordAll_of_vlan {host : Host} (hvlan : host.vlan ≠ none) {ss : List Sighting}
    (hss : ∀ s ∈ ss, s.host = host) (before : List Sighting) :
    recordAll [⟨host, before⟩] ss = [⟨host, before ++ ss⟩] := by
  induction ss generalizing before with
  | nil => simp [recordAll]
  | cons s ss ih =>
    obtain ⟨hs, hss⟩ := List.forall_mem_cons.1 hss
    have hrecord : record s [⟨host, before⟩] = [⟨host, before ++ [s]⟩] := if_pos ⟨hs.symm, hvlan⟩
    show recordAll (record s [⟨host, before⟩]) ss = _
    rw [hrecord, ih hss, List.append_assoc, List.singleton_append]

/-- A sighting without a VLAN begins a group of its own. -/
theorem record_of_no_vlan {s : Sighting} (hvlan : s.host.vlan = none) (groups : List Group) :
    record s groups = groups ++ [⟨s.host, [s]⟩] := by
  induction groups with
  | nil => rfl
  | cons group groups ih =>
    have hother : ¬ (group.host = s.host ∧ group.host.vlan ≠ none) :=
      fun h => h.2 (h.1 ▸ hvlan)
    rw [record, if_neg hother, ih, List.cons_append]

/-- Without a VLAN every sighting is a group of its own. -/
theorem recordAll_of_no_vlan {host : Host} (hvlan : host.vlan = none) {ss : List Sighting}
    (hss : ∀ s ∈ ss, s.host = host) (groups : List Group) :
    recordAll groups ss = groups ++ ss.map fun s => ⟨host, [s]⟩ := by
  induction ss generalizing groups with
  | nil => simp [recordAll]
  | cons s ss ih =>
    obtain ⟨rfl, hss⟩ := List.forall_mem_cons.1 hss
    show recordAll (record s groups) ss = _
    rw [record_of_no_vlan hvlan, ih hss, List.append_assoc, List.singleton_append, List.map_cons]

/-- A group is one of the old ones, or begins with one of the sightings. -/
theorem host_of_mem_recordAll {ss : List Sighting} {groups : List Group} {group : Group}
    (h : group ∈ recordAll groups ss) :
    (∃ s ∈ ss, s.host = group.host) ∨ ∃ old ∈ groups, old.host = group.host := by
  induction ss generalizing groups with
  | nil => exact .inr ⟨group, h, rfl⟩
  | cons s ss ih =>
    rcases ih h with ⟨later, hlater, hhost⟩ | ⟨old, hold, hhost⟩
    · exact .inl ⟨later, List.mem_cons_of_mem s hlater, hhost⟩
    · rcases host_of_mem_record hold with hs | ⟨older, holder, heq⟩
      · exact .inl ⟨s, List.mem_cons_self, hs.symm.trans hhost⟩
      · exact .inr ⟨older, holder, heq.trans hhost⟩

end Group

namespace Upsert

variable (site : Site) (resolver : Option Resolver) (call : String → Literal → Cell)

/-! ### The table -/

/-- The row of a group. -/
def rowOfGroup (group : Group) : Row :=
  rowOf site resolver call group.host group.sightings

/-- A new row joins the row of its group, if there is one. -/
theorem upsert?_ofSighting (s : Sighting) (groups : List Group) :
    (arpdata call).upsert? (rowOf site resolver call s.host [s])
        (assignAll? call · (ofSighting site resolver s).statement.updates)
        (groups.map (rowOfGroup site resolver call)) =
      some ((Group.record s groups).map (rowOfGroup site resolver call)) := by
  induction groups with
  | nil => rfl
  | cons group groups ih =>
    rw [List.map_cons, Database.upsert?, rowOfGroup, conflicts_rowOf, Group.record]
    -- Rows conflict exactly where the sighting goes to the group.
    by_cases hsame : group.host = s.host ∧ group.host.vlan ≠ none
    · have hchange := assignAll?_ofSighting site resolver call s group.sightings
      rw [if_pos (by simpa using hsame), if_pos hsame, hsame.1, hchange]
      rfl
    · rw [if_neg (by simpa using hsame), if_neg hsame, ih]
      rfl

/-- Groups that are apart have rows with different keys. -/
theorem keyed_map_rowOfGroup {groups : List Group} (h : Group.Apart groups) :
    (arpdata call).Keyed (groups.map (rowOfGroup site resolver call)) := by
  refine List.pairwise_map.2 (h.imp ?_)
  intro group group' hapart
  rw [rowOfGroup, rowOfGroup, conflicts_rowOf]
  exact decide_eq_false hapart

/-- What the statement of a sighting makes of the rows of groups. -/
theorem execute?_ofSighting (s : Sighting) {groups : List Group} (h : Group.Apart groups) :
    (arpdata call).execute? (groups.map (rowOfGroup site resolver call))
        (ofSighting site resolver s).statement =
      some ((Group.record s groups).map (rowOfGroup site resolver call)) := by
  have hkeyed := keyed_map_rowOfGroup site resolver call (Group.apart_record s h)
  have hrow : (ofSighting site resolver s).statement.row? (arpdata call).call = _ :=
    row?_ofSighting site resolver call s
  have hupsert := upsert?_ofSighting site resolver call s groups
  have htable : (ofSighting site resolver s).statement.table = (arpdata call).table := rfl
  rw [Database.execute?, if_pos htable, hrow, Option.bind_eq_bind, Option.bind_some, arpdata_call,
    hupsert, Option.bind_eq_bind, Option.bind_some, if_pos hkeyed]

/-- The text of the statement does to the table what recording the sighting does to the groups. -/
theorem executeText?_ofSighting (s : Sighting) {groups : List Group} (h : Group.Apart groups) :
    (arpdata call).executeText? (groups.map (rowOfGroup site resolver call))
        (ofSighting site resolver s).render =
      some ((Group.record s groups).map (rowOfGroup site resolver call)) := by
  rw [Database.executeText?, read?_ofSighting, Option.bind_some, List.foldlM_cons,
    execute?_ofSighting site resolver call s h]
  rfl

/-- The table holds the rows of the groups. -/
theorem run?_ofSighting (ss : List Sighting) :
    (arpdata call).run? (ss.map fun s => (ofSighting site resolver s).render) =
      some ((Group.recordAll [] ss).map (rowOfGroup site resolver call)) := by
  -- The groups in the table stay apart from one sighting to the next.
  have hfrom (groups : List Group) (h : Group.Apart groups) :
      (ss.map fun s => (ofSighting site resolver s).render).foldlM (arpdata call).executeText?
          (groups.map (rowOfGroup site resolver call)) =
        some ((Group.recordAll groups ss).map (rowOfGroup site resolver call)) := by
    induction ss generalizing groups with
    | nil => rfl
    | cons s ss ih =>
      rw [List.map_cons, List.foldlM_cons, executeText?_ofSighting site resolver call s h]
      exact ih _ (Group.apart_record s h)
  exact hfrom [] List.Pairwise.nil

/-! ### The rows of a host -/

/-- The rows of a host are those of its groups. -/
theorem filter_isOf_rowOfGroup (host : Host) (groups : List Group) :
    (groups.map (rowOfGroup site resolver call)).filter (·.isOf host) =
      (groups.filter (·.host = host)).map (rowOfGroup site resolver call) := by
  rw [List.filter_map]
  congr 2
  funext group
  exact isOf_rowOf site resolver call group.host host group.sightings

/-- The rows of a host that has been seen: a single one if it has a VLAN, else one for each of its
    sightings. -/
theorem rows_of_host (ss : List Sighting) {host : Host} (hseen : ∃ s ∈ ss, s.host = host) :
    ((Group.recordAll [] ss).map (rowOfGroup site resolver call)).filter (·.isOf host) =
      if host.vlan = none then
        (ss.filter (·.host = host)).map fun s => rowOf site resolver call host [s]
      else [rowOf site resolver call host (ss.filter (·.host = host))] := by
  have hown : ∀ s ∈ ss.filter (·.host = host), s.host = host := by
    simp
  rw [filter_isOf_rowOfGroup, Group.filter_recordAll, List.filter_nil]
  by_cases hvlan : host.vlan = none
  · rw [if_pos hvlan, Group.recordAll_of_no_vlan hvlan hown, List.nil_append, List.map_map]
    rfl
  · rw [if_neg hvlan]
    -- The first of its sightings opens the group.
    cases hsightings : ss.filter (·.host = host) with
    | nil =>
      obtain ⟨s, hs, hhost⟩ := hseen
      exact absurd hhost (by simpa using List.filter_eq_nil_iff.1 hsightings s hs)
    | cons first rest =>
      rw [hsightings] at hown
      obtain ⟨hfirst, hrest⟩ := List.forall_mem_cons.1 hown
      have hopened : Group.record first [] = [⟨host, [first]⟩] := by rw [Group.record, hfirst]
      show (Group.recordAll (Group.record first []) rest).map _ = _
      rw [hopened, Group.recordAll_of_vlan hvlan hrest]
      rfl

/-- The statements of sightings, executed in order on an empty table, leave rows of the hosts that
    were seen and no others. A host with a VLAN has one row, which sums up all of its sightings; one
    without a VLAN has a row for each of its sightings. So every host has one row that sums it up if
    and only if no host without a VLAN was seen twice. -/
theorem rows_accumulate_iff (ss : List Sighting) :
    ∃ table,
      (arpdata call).run? (ss.map fun s => (ofSighting site resolver s).render) = some table ∧
      (∀ row ∈ table, ∃ s ∈ ss, row.isOf s.host) ∧
      (∀ s ∈ ss, table.filter (·.isOf s.host) =
        if s.vlan = none then
          (ss.filter (·.host = s.host)).map fun t => rowOf site resolver call s.host [t]
        else [rowOf site resolver call s.host (ss.filter (·.host = s.host))]) ∧
      ((∀ s ∈ ss, table.filter (·.isOf s.host) =
          [rowOf site resolver call s.host (ss.filter (·.host = s.host))]) ↔
        ∀ s ∈ ss, s.vlan = none → (ss.filter (·.host = s.host)).length = 1) := by
  have hrows (s : Sighting) (hs : s ∈ ss) :=
    rows_of_host site resolver call ss (show ∃ t ∈ ss, t.host = s.host from ⟨s, hs, rfl⟩)
  refine ⟨_, run?_ofSighting site resolver call ss, ?_, hrows, ?_, ?_⟩
  · intro row hrow
    obtain ⟨group, hgroup, rfl⟩ := List.mem_map.1 hrow
    -- The table begins empty, so each group goes back to a sighting.
    rcases Group.host_of_mem_recordAll hgroup with ⟨s, hs, hhost⟩ | ⟨old, hold, -⟩
    · refine ⟨s, hs, ?_⟩
      rw [rowOfGroup, isOf_rowOf]
      exact decide_eq_true hhost.symm
    · cases hold
  · intro hsingle s hs hvlan
    -- One row for each sighting, and yet a single row.
    have hboth := (hrows s hs).symm.trans (hsingle s hs)
    have hnone : s.host.vlan = none := hvlan
    rw [if_pos hnone] at hboth
    simpa using congrArg List.length hboth
  · intro honce s hs
    rw [hrows s hs]
    by_cases hvlan : s.host.vlan = none
    · obtain ⟨t, ht⟩ := List.length_eq_one_iff.1 (honce s hs hvlan)
      rw [if_pos hvlan, ht]
      rfl
    · rw [if_neg hvlan]

/-- Times as the database takes them: it knows no other function. -/
def moments (function : String) (argument : Literal) : Cell :=
  match argument with
  | .number seconds => if function = "FROM_UNIXTIME" then .moment seconds else .null
  | _ => .null

/-- A host without a VLAN, which asks for an address and then sends to all hosts. -/
def untaggedSightings : List Sighting :=
  [.plain ⟨2, 0, 0, 0, 0, 1⟩ ⟨10, 0, 0, 1⟩ ⟨1700000000, 0⟩ none (.arp .source),
    .plain ⟨2, 0, 0, 0, 0, 1⟩ ⟨10, 0, 0, 1⟩ ⟨1700000010, 0⟩ none .ipBroadcast]

/-- Two sightings of a host leave two rows of it, neither of which has the kinds of both. -/
theorem untagged_host_has_two_rows :
    ∃ table,
      (arpdata moments).run? (untaggedSightings.map fun s =>
        (ofSighting ⟨"bldg-740", "lab"⟩ none s).render) = some table ∧
      (∀ s ∈ untaggedSightings, s.host = ⟨⟨2, 0, 0, 0, 0, 1⟩, none⟩) ∧
      (table.filter (·.isOf ⟨⟨2, 0, 0, 0, 0, 1⟩, none⟩)).map (· "type") =
        [.number 1, .number 64] := by
  have hseen : ∃ s ∈ untaggedSightings, s.host = ⟨⟨2, 0, 0, 0, 0, 1⟩, none⟩ :=
    ⟨_, List.mem_cons_self, rfl⟩
  refine ⟨_, run?_ofSighting _ none moments untaggedSightings, by decide, ?_⟩
  rw [rows_of_host _ none moments untaggedSightings hseen]
  rfl

end Upsert

end LanWatch
