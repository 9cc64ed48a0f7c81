import LanWatch.Proofs.Sql.Grammar

namespace LanWatch

/-!
# Sightings as statements

A sighting is written as one statement, whatever its names are and whatever the resolver answers.
No name is read as anything but a value, so which words stand where follows from the fields that
the sighting has, and each value is read as it was before it was written.

* `Sql.Presence` — which of the optional fields a sighting has;
* `Sql.Statement.Records` — a statement says what is known of a sighting;
* `Upsert.columns_ofSighting` — the columns follow from the fields that there are;
* `Upsert.shape_tokens_congr` — the words follow from the columns, up to the values of literals;
* `Upsert.read_ofSighting` — a sighting is written as one statement that records it.
-/

namespace Sql

/-! ### Fields -/

/-- Which of the optional fields there are for a sighting. -/
structure Presence where
  address : Bool
  resolver : Bool
  dhcpName : Bool
  netbiosName : Bool
  pvNames : Bool
  deriving DecidableEq

namespace Presence

/-- The optional fields of a sighting. -/
def ofSighting (resolver : Option Resolver) (s : Sighting) : Presence where
  address := !s.ip.isUnspecified
  resolver := resolver.isSome
  dhcpName := s.dhcpName.isSome
  netbiosName := s.netbiosName.isSome
  pvNames := !s.pvNames.isEmpty

/-- The columns for the fields that there are. A host has a name only if it has an address to ask
    for. -/
def columns (p : Presence) : List String :=
  (if p.address then "ip_address" :: if p.resolver then ["hostname"] else [] else []) ++
    (if p.dhcpName then ["dhcp_name"] else []) ++
    (if p.netbiosName then ["netbios_name"] else []) ++
    (if p.pvNames then ["epics_pvs"] else [])

end Presence

/-- The columns that every statement sets. -/
def requiredColumns : List String :=
  ["hw_address", "location", "label", "last_seen", "vlan", "type"]

/-- All columns that a statement can set. -/
def knownColumns : List String :=
  requiredColumns ++ ["ip_address", "hostname", "dhcp_name", "netbios_name", "epics_pvs"]

/-- A statement says what is known of a sighting: each column has its own value and is set to it. -/
structure Statement.Records (st : Statement) (site : Site) (resolver : Option Resolver)
    (s : Sighting) : Prop where
  table : st.table = "arpdata"
  columns_nodup : st.columns.Nodup
  columns_known : ∀ column ∈ st.columns, column ∈ knownColumns
  values_length : st.values.length = st.columns.length
  hardware : st.valueOf? "hw_address" = some (.literal (.text s.mac.text))
  location : st.valueOf? "location" = some (.literal (.text site.location))
  label : st.valueOf? "label" = some (.literal (.text site.label))
  seen : st.valueOf? "last_seen" = some (.call "FROM_UNIXTIME" (.number s.seen.text))
  vlan : st.valueOf? "vlan" =
    some (.literal (s.vlan.elim .null fun vlan => .number (Text.decimal vlan.toNat)))
  kind : st.valueOf? "type" = some (.literal (.number (Text.decimal s.kind.bits)))
  address : st.valueOf? "ip_address" =
    if s.ip.isUnspecified then none else some (.literal (.text s.ip.text))
  hostname : st.valueOf? "hostname" =
    if s.ip.isUnspecified then none
    else resolver.map fun resolve => .literal (.text ((resolve s.ip).name?.getD "(none)"))
  dhcpName : st.valueOf? "dhcp_name" = s.dhcpName.map fun name => .literal (.text name)
  netbiosName : st.valueOf? "netbios_name" = s.netbiosName.map fun name => .literal (.text name)
  pvNames : st.valueOf? "epics_pvs" =
    if s.pvNames = [] then none else some (.literal (.text (Text.join " " s.pvNames)))
  updates : ∀ a ∈ st.updates, a.column ∈ st.columns ∧
    if a.column = "type" then a.value = .bitOr "type" (.number (Text.decimal s.kind.bits))
    else st.valueOf? a.column = some a.value

end Sql

open Sql

/-! ### Lists of words -/

/-- Mapping the parts and what stands between them maps the whole. -/
theorem map_intercalate {α β : Type} (f : α → β) (sep : List α) (as : List (List α)) :
    (List.intercalate sep as).map f = List.intercalate (sep.map f) (as.map (List.map f)) := by
  induction as with
  | nil => simp
  | cons a as ih =>
    cases as with
    | nil => simp
    | cons b bs =>
      rw [List.intercalate_cons_cons, List.map_append, List.map_append, ih]
      simp

/-- A member of joined lists is a member of one of them, or of what stands between them. -/
theorem mem_intercalate {α : Type} {sep : List α} {as : List (List α)} {x : α}
    (hx : x ∈ List.intercalate sep as) : x ∈ sep ∨ ∃ a ∈ as, x ∈ a := by
  induction as with
  | nil => simp at hx
  | cons a as ih =>
    cases as with
    | nil =>
      rw [List.intercalate_singleton] at hx
      exact .inr ⟨a, by simp, hx⟩
    | cons b bs =>
      rw [List.intercalate_cons_cons, List.mem_append, List.mem_append] at hx
      rcases hx with (hx | hx) | hx
      · exact .inr ⟨a, by simp, hx⟩
      · exact .inl hx
      · rcases ih hx with hsep | ⟨d, hd, hxd⟩
        · exact .inl hsep
        · exact .inr ⟨d, List.mem_cons_of_mem a hd, hxd⟩

theorem SqlValue.end_notMem_tokens (v : SqlValue) : .mark ';' ∉ v.tokens := by
  cases v <;> simp [tokens]

theorem SqlUpdate.end_notMem_tokens (a : SqlUpdate) : .mark ';' ∉ a.tokens := by
  cases a with
  | assign column value => simp [tokens, value.end_notMem_tokens]
  | addBits column bits => simp [tokens]

namespace Upsert

/-- Nothing ends a statement before its end. -/
theorem end_notMem_body (u : Upsert) : .mark ';' ∉ u.body := by
  intro hmem
  have hcomma : .mark ';' ∉ [Token.mark ','] := by decide
  simp only [body, List.mem_append] at hmem
  -- The six parts of the body: three fixed ones, and three lists between their commas.
  rcases hmem with h | h | h | h | h | h
  · revert h
    decide
  · rcases mem_intercalate h with h | ⟨ts, hts, h⟩
    · exact hcomma h
    · obtain ⟨field, -, rfl⟩ := List.mem_map.1 hts
      simp at h
  · revert h
    decide
  · rcases mem_intercalate h with h | ⟨ts, hts, h⟩
    · exact hcomma h
    · obtain ⟨field, -, rfl⟩ := List.mem_map.1 hts
      exact field.2.end_notMem_tokens h
  · revert h
    decide
  · rcases mem_intercalate h with h | ⟨ts, hts, h⟩
    · exact hcomma h
    · obtain ⟨a, -, rfl⟩ := List.mem_map.1 hts
      exact a.end_notMem_tokens h

/-- The words of a statement, up to the values of literals, follow from its columns and from the
    words of its values and updates. -/
theorem shape_tokens_congr {u v : Upsert} (hcolumns : u.row.map (·.1) = v.row.map (·.1))
    (hvalues : (u.row.map fun field => field.2.tokens.map Token.shape) =
      v.row.map fun field => field.2.tokens.map Token.shape)
    (hupdates : (u.updates.map fun a => a.tokens.map Token.shape) =
      v.updates.map fun a => a.tokens.map Token.shape) :
    u.tokens.map Token.shape = v.tokens.map Token.shape := by
  have hnames := congrArg (List.map fun column => [Token.shape (.word column)]) hcolumns
  simp only [List.map_map, Function.comp_def] at hnames
  simp only [tokens, body, List.map_append, map_intercalate, List.map_map, Function.comp_def,
    List.map_cons, List.map_nil]
  rw [hnames, hvalues, hupdates]

/-! ### Sightings -/

variable (site : Site) (resolver : Option Resolver) (s : Sighting)

/-- Which of the optional columns there are depends only on what is present. -/
theorem map_fst_optionalColumns :
    (optionalColumns resolver s).map (·.1) = (Presence.ofSighting resolver s).columns := by
  have hdhcp : (s.dhcpName.toList.map fun name => ("dhcp_name", SqlValue.text name)).map (·.1) =
      if s.dhcpName.isSome then ["dhcp_name"] else [] := by
    cases s.dhcpName <;> rfl
  have hnetbios :
      (s.netbiosName.toList.map fun name => ("netbios_name", SqlValue.text name)).map (·.1) =
      if s.netbiosName.isSome then ["netbios_name"] else [] := by
    cases s.netbiosName <;> rfl
  rw [optionalColumns, List.map_append, List.map_append, List.map_append, hdhcp, hnetbios,
    Presence.columns, Presence.ofSighting]
  cases s.ip.isUnspecified <;> cases resolver <;> cases s.pvNames.isEmpty <;> rfl

/-- What only some sightings set are texts. -/
theorem text_of_mem_optionalColumns {field : String × SqlValue}
    (h : field ∈ optionalColumns resolver s) : ∃ t, field.2 = .text t := by
  simp only [optionalColumns, List.mem_append, List.mem_map, Option.mem_toList] at h
  rcases h with ((h | ⟨name, -, rfl⟩) | ⟨name, -, rfl⟩) | h
  · split at h
    · cases h
    · rcases List.mem_cons.1 h with rfl | h
      · exact ⟨_, rfl⟩
      · obtain ⟨resolve, -, rfl⟩ := List.mem_map.1 h
        exact ⟨_, rfl⟩
  · exact ⟨_, rfl⟩
  · exact ⟨_, rfl⟩
  · split at h
    · cases h
    · exact ⟨_, congrArg Prod.snd (List.mem_singleton.1 h)⟩

/-- Which columns a statement sets follows from the fields that there are. -/
theorem columns_ofSighting :
    (ofSighting site resolver s).row.map (·.1) =
      requiredColumns ++ (Presence.ofSighting resolver s).columns := by
  rw [← map_fst_optionalColumns resolver s]
  rfl

/-- A statement that sets the given columns beside those that every statement sets. -/
def sample (columns : List String) : Upsert where
  row :=
    [("hw_address", .null), ("location", .null), ("label", .null), ("last_seen", .unixTime .epoch),
      ("vlan", .null), ("type", .null)] ++ columns.map fun column => (column, .null)
  updates :=
    [.assign "last_seen" (.unixTime .epoch), .assign "label" .null, .assign "vlan" .null,
      .addBits "type" 0] ++ columns.map fun column => .assign column .null

/-- Up to the values of literals, the statement of a sighting is any statement that sets the same
    columns. -/
theorem shape_tokens_ofSighting :
    (ofSighting site resolver s).tokens.map Token.shape =
      (sample (Presence.ofSighting resolver s).columns).tokens.map Token.shape := by
  -- A value counts as a literal whatever it is, so all rows with the same columns have the same
  -- shape.
  have htext : ∀ field ∈ optionalColumns resolver s,
      field.2.tokens.map Token.shape = [none] := by
    intro field hfield
    obtain ⟨t, ht⟩ := text_of_mem_optionalColumns resolver s hfield
    rw [ht]
    rfl
  have hassigned : ∀ field ∈ optionalColumns resolver s,
      (SqlUpdate.assign field.1 field.2).tokens.map Token.shape =
        [some (.word field.1), some (.mark '='), none] := by
    intro field hfield
    simp [SqlUpdate.tokens, htext field hfield, Token.shape]
  rw [← map_fst_optionalColumns resolver s]
  apply shape_tokens_congr
  · simp [ofSighting, sample]
  · simp only [ofSighting, sample, List.map_append, List.map_map, Function.comp_def,
      List.map_congr_left htext]
    cases s.vlan <;> rfl
  · simp only [ofSighting, sample, List.map_append, List.map_map, Function.comp_def,
      List.map_congr_left hassigned]
    cases s.vlan <;> rfl

/-- No column is named twice, whatever is present. -/
theorem nodup_columns (p : Presence) : (requiredColumns ++ p.columns).Nodup := by
  obtain ⟨address, resolver, dhcpName, netbiosName, pvNames⟩ := p
  cases address <;> cases resolver <;> cases dhcpName <;> cases netbiosName <;> cases pvNames <;>
    decide

/-- Every column is one of the table. -/
theorem columns_known (p : Presence) : ∀ column ∈ requiredColumns ++ p.columns,
    column ∈ knownColumns := by
  obtain ⟨address, resolver, dhcpName, netbiosName, pvNames⟩ := p
  cases address <;> cases resolver <;> cases dhcpName <;> cases netbiosName <;> cases pvNames <;>
    decide

/-- What changes is what the row sets, but for the kinds, which are added. -/
theorem updates_ofSighting : ∀ a ∈ (ofSighting site resolver s).updates,
    a = .addBits "type" s.kind.bits ∨
      ∃ field ∈ (ofSighting site resolver s).row,
        field.1 ≠ "type" ∧ a = .assign field.1 field.2 := by
  -- The columns are distinct, and the kinds have one of those that every statement sets.
  have hoptional : ∀ field ∈ optionalColumns resolver s, field.1 ≠ "type" := by
    intro field hfield htype
    have hmem : field.1 ∈ (optionalColumns resolver s).map (·.1) := List.mem_map_of_mem hfield
    have hnodup := nodup_columns (Presence.ofSighting resolver s)
    rw [map_fst_optionalColumns, htype] at hmem
    exact (List.nodup_append.1 hnodup).2.2 "type" (by decide) "type" hmem rfl
  intro a ha
  simp only [ofSighting, List.mem_append, List.mem_cons, List.not_mem_nil, or_false,
    List.mem_map] at ha
  rcases ha with (rfl | rfl | rfl | rfl) | ⟨field, hfield, rfl⟩
  · exact .inr ⟨("last_seen", _), by simp [ofSighting], by simp, rfl⟩
  · exact .inr ⟨("label", _), by simp [ofSighting], by simp, rfl⟩
  · exact .inr ⟨("vlan", _), by simp [ofSighting], by simp, rfl⟩
  · exact .inl rfl
  · exact .inr ⟨field, by simp [ofSighting, hfield], hoptional field hfield, rfl⟩

/-- A statement gives a column what the row gives it. -/
theorem valueOf?_statement (u : Upsert) (column : String) :
    u.statement.valueOf? column = (u.row.lookup column).map SqlValue.expr := by
  rw [Statement.valueOf?, statement]
  induction u.row with
  | nil => rfl
  | cons field row ih =>
    obtain ⟨name, value⟩ := field
    rw [List.map_cons, List.map_cons, List.zip_cons_cons, List.lookup_cons, List.lookup_cons, ih]
    cases column == name <;> rfl

/-- A look at the first field, and then at the others. -/
theorem lookup_cons (column name : String) (value : SqlValue) (row : List (String × SqlValue)) :
    ((name, value) :: row).lookup column =
      if column = name then some value else row.lookup column := by
  rw [List.lookup_cons]
  by_cases h : column = name
  · simp [h]
  · simp [h, beq_false_of_ne h]

/-- A field that may be missing is found if it is there. -/
theorem lookup_toList_map {α : Type} (column name : String) (o : Option α) (f : α → SqlValue) :
    (o.toList.map fun a => (name, f a)).lookup column =
      if column = name then o.map f else none := by
  cases o with
  | none => simp
  | some a => simp [lookup_cons]

/-- With distinct columns, every field is found under its column. -/
theorem lookup_of_mem {row : List (String × SqlValue)} (hnodup : (row.map (·.1)).Nodup)
    {field : String × SqlValue} (hfield : field ∈ row) : row.lookup field.1 = some field.2 := by
  induction row with
  | nil => cases hfield
  | cons first row ih =>
    rw [List.map_cons, List.nodup_cons] at hnodup
    rw [List.lookup_cons]
    rcases List.mem_cons.1 hfield with rfl | hfield
    · simp
    · have hother : (field.1 == first.1) = false := by
        rw [beq_eq_false_iff_ne]
        intro heq
        exact hnodup.1 (heq ▸ List.mem_map_of_mem hfield)
      rw [hother]
      exact ih hnodup.2 hfield

/-- What a column that not every statement sets is given. -/
theorem lookup_optional {column : String} (h : column ∉ requiredColumns) :
    (ofSighting site resolver s).row.lookup column =
      (optionalColumns resolver s).lookup column := by
  simp only [requiredColumns, List.mem_cons, List.not_mem_nil, or_false, not_or] at h
  simp [ofSighting, lookup_cons, h]

/-- The optional columns, each with what sets it. -/
theorem lookup_optionalColumns (column : String) :
    (optionalColumns resolver s).lookup column =
      if column = "ip_address" then if s.ip.isUnspecified then none else some (.text s.ip.text)
      else if column = "hostname" then
        if s.ip.isUnspecified then none
        else resolver.map fun resolve => .text ((resolve s.ip).name?.getD noHostname)
      else if column = "dhcp_name" then s.dhcpName.map .text
      else if column = "netbios_name" then s.netbiosName.map .text
      else if column = "epics_pvs" then
        if s.pvNames = [] then none else some (.text (Text.join " " s.pvNames))
      else none := by
  have haddress :
      (if s.ip.isUnspecified then []
        else ("ip_address", .text s.ip.text) :: resolver.toList.map fun resolve =>
          ("hostname", SqlValue.text ((resolve s.ip).name?.getD noHostname))).lookup column =
        if s.ip.isUnspecified then none
        else if column = "ip_address" then some (.text s.ip.text)
        else if column = "hostname" then
          resolver.map fun resolve => .text ((resolve s.ip).name?.getD noHostname)
        else none := by
    split
    · rfl
    · rw [lookup_cons, lookup_toList_map]
  have hnames :
      (if s.pvNames.isEmpty then []
        else [("epics_pvs", SqlValue.text (Text.join " " s.pvNames))]).lookup column =
        if column = "epics_pvs" then
          if s.pvNames = [] then none else some (.text (Text.join " " s.pvNames))
        else none := by
    cases s.pvNames <;> simp [lookup_cons]
  rw [optionalColumns, List.lookup_append, List.lookup_append, List.lookup_append, haddress, hnames,
    lookup_toList_map, lookup_toList_map]
  -- At most one part has the column, so the order of the parts does not matter.
  by_cases hip : column = "ip_address"
  · simp [hip]
  by_cases hhost : column = "hostname"
  · simp [hhost]
  by_cases hdhcp : column = "dhcp_name"
  · simp [hdhcp]
  by_cases hnetbios : column = "netbios_name"
  · simp [hnetbios]
  simp [hip, hhost, hdhcp, hnetbios]

/-- The statement of a sighting gives each column its own value. -/
theorem records_ofSighting :
    (ofSighting site resolver s).statement.Records site resolver s where
  table := rfl
  columns_nodup := by
    rw [statement, columns_ofSighting]
    exact nodup_columns _
  columns_known := by
    rw [statement, columns_ofSighting]
    exact columns_known _
  values_length := by simp [statement]
  -- Each required column is looked up where it was written.
  hardware := by rw [valueOf?_statement]; rfl
  location := by rw [valueOf?_statement]; rfl
  label := by rw [valueOf?_statement]; rfl
  seen := by rw [valueOf?_statement]; rfl
  vlan := by
    rw [valueOf?_statement]
    cases hvlan : s.vlan <;> simp [ofSighting, lookup_cons, hvlan, SqlValue.expr]
  kind := by rw [valueOf?_statement]; rfl
  -- The optional ones are there if the sighting has something to say.
  address := by
    rw [valueOf?_statement, lookup_optional site resolver s (by decide), lookup_optionalColumns]
    cases s.ip.isUnspecified <;> rfl
  hostname := by
    rw [valueOf?_statement, lookup_optional site resolver s (by decide), lookup_optionalColumns]
    cases s.ip.isUnspecified <;> cases resolver <;> rfl
  dhcpName := by
    rw [valueOf?_statement, lookup_optional site resolver s (by decide), lookup_optionalColumns]
    cases s.dhcpName <;> rfl
  netbiosName := by
    rw [valueOf?_statement, lookup_optional site resolver s (by decide), lookup_optionalColumns]
    cases s.netbiosName <;> rfl
  pvNames := by
    rw [valueOf?_statement, lookup_optional site resolver s (by decide), lookup_optionalColumns]
    cases s.pvNames <;> rfl
  updates := by
    intro a ha
    obtain ⟨update, hupdate, rfl⟩ := List.mem_map.1 ha
    have hnodup : ((ofSighting site resolver s).row.map (·.1)).Nodup := by
      rw [columns_ofSighting]
      exact nodup_columns _
    -- An update writes the value of the row, but for the kinds, whose bits it adds.
    rcases updates_ofSighting site resolver s update hupdate with rfl | ⟨field, hfield, htype, rfl⟩
    · refine ⟨?_, ?_⟩
      · rw [statement, columns_ofSighting]
        exact List.mem_append_left _ (by simp [SqlUpdate.assignment, requiredColumns])
      · simp [SqlUpdate.assignment]
    · refine ⟨List.mem_map_of_mem hfield, ?_⟩
      rw [SqlUpdate.assignment, if_neg htype, valueOf?_statement, lookup_of_mem hnodup hfield]
      rfl

/-- Every column of a row is a name, so it is one token. -/
theorem isName_of_mem_row : ∀ field ∈ (ofSighting site resolver s).row, isName field.1 = true := by
  have hnames : ∀ column ∈ knownColumns, isName column = true := by decide
  intro field hfield
  have hknown := (records_ofSighting site resolver s).columns_known
  exact hnames field.1 (hknown field.1 (List.mem_map_of_mem hfield))

/-- Every column that is updated is a name, too. -/
theorem isName_of_mem_updates :
    ∀ a ∈ (ofSighting site resolver s).updates, isName a.column = true := by
  have htype : isName "type" = true := by decide
  intro a ha
  rcases updates_ofSighting site resolver s a ha with rfl | ⟨field, hfield, -, rfl⟩
  · exact htype
  · exact isName_of_mem_row site resolver s field hfield

/-- The text of a statement has the tokens of its parts. -/
theorem tokens?_ofSighting :
    tokens? (ofSighting site resolver s).render = some (ofSighting site resolver s).tokens :=
  tokens?_render (by simp [ofSighting]) (by simp [ofSighting]) (isName_of_mem_row site resolver s)
    (isName_of_mem_updates site resolver s)

/-- The text of a statement is read as that statement, and nothing else. -/
theorem read?_ofSighting :
    read? (ofSighting site resolver s).render = some [(ofSighting site resolver s).statement] :=
  read?_render (by simp [ofSighting]) (by simp [ofSighting]) (isName_of_mem_row site resolver s)
    (isName_of_mem_updates site resolver s)

/-- A sighting is written as one statement, up to the mark that ends it. Which words stand where
    follows from the fields that there are for the sighting; the values of literals are those of the
    fields. So no name, whatever it says, is read as a part of the statement. -/
theorem read_ofSighting : ∃ skeleton : Presence → List (Option Token),
    ∀ (site : Site) (resolver : Option Resolver) (s : Sighting), ∃ body statement,
      tokens? (ofSighting site resolver s).render = some (body ++ [Token.mark ';']) ∧
      Token.mark ';' ∉ body ∧
      (body ++ [Token.mark ';']).map Token.shape = skeleton (.ofSighting resolver s) ∧
      read? (ofSighting site resolver s).render = some [statement] ∧
      statement.Records site resolver s := by
  refine ⟨fun p => (sample p.columns).tokens.map Token.shape, fun site resolver s =>
    ⟨(ofSighting site resolver s).body, (ofSighting site resolver s).statement, ?_⟩⟩
  exact ⟨tokens?_ofSighting site resolver s, end_notMem_body _,
    shape_tokens_ofSighting site resolver s, read?_ofSighting site resolver s,
    records_ofSighting site resolver s⟩

end Upsert

end LanWatch
