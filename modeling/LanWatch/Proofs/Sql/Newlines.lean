import LanWatch.Proofs.Report.Writing
import LanWatch.Proofs.Settings.Values
import LanWatch.Proofs.Sql.Sightings
import LanWatch.Session

namespace LanWatch

/-!
# One line for a statement

Statements are written one a line, after a line of comment. A statement takes one line only if the
texts in it hold no newline, since none of their characters but quotes and backslashes is escaped.
The settings of a file hold none, but an environment variable can, and so can the names in a frame.

* `SqlValue.HoldsNewline`, `Sighting.OnOneLine` — where a newline can come from;
* `Upsert.newline_notMem_ofSighting` — a statement takes one line exactly if there is none;
* `Sink.length_lines_sql_iff` — the same for all that a sink writes;
* `Sink.newline_in_name_breaks_line` — a frame whose statement takes two lines.
-/

/-! ### Values -/

/-- A newline stands in the value. -/
def SqlValue.HoldsNewline : SqlValue → Prop
  | text s => '\n' ∈ s.toList
  | number _ | null | unixTime _ => False

theorem newline_notMem_decimal (n : Nat) : '\n' ∉ (Text.decimal n).toList := by
  intro h
  have hdigit := Text.isDigit_of_mem_decimal n '\n' h
  revert hdigit
  decide

/-- A time is written in digits, a point and perhaps a sign. -/
theorem newline_notMem_timestamp (t : Timestamp) : '\n' ∉ t.text.toList := by
  have hsecs := newline_notMem_decimal t.secs.toInt.natAbs
  have hmicros : '\n' ∉ (Text.paddedDecimal 6 t.micros.toNat).toList := by
    intro h
    have hdigit := Text.isDigit_of_mem_paddedDecimal _ _ '\n' h
    revert hdigit
    decide
  by_cases hneg : t.secs.toInt < 0
  · simp [Timestamp.text, Text.signedDecimal, hneg, hsecs, hmicros]
  · simp [Timestamp.text, Text.signedDecimal, hneg, hsecs, hmicros]

/-- A character other than quotes and backslashes is written as itself. -/
theorem SqlValue.newline_mem_quote (s : String) :
    '\n' ∈ (quote s).toList ↔ '\n' ∈ s.toList := by
  have hescaped : ∀ c, '\n' ∈ escapeChar c ↔ c = '\n' := by
    intro c
    unfold escapeChar
    split
    · rename_i hspecial
      rcases hspecial with rfl | rfl <;> decide
    · simp [eq_comm]
  simp [quote, hescaped]

/-- A value breaks the line exactly if a text or name in it does. -/
theorem SqlValue.newline_mem_render (v : SqlValue) :
    '\n' ∈ v.render.toList ↔ v.HoldsNewline := by
  cases v with
  | text s => exact newline_mem_quote s
  | number n => simp [render, HoldsNewline, newline_notMem_decimal]
  | null => simp [render, HoldsNewline]
  | unixTime t => simp [render, HoldsNewline, newline_notMem_timestamp]

/-- A name is made of letters, digits and underscores. -/
theorem newline_notMem_name {s : String} (h : Sql.isName s = true) : '\n' ∉ s.toList := by
  intro hmem
  unfold Sql.isName at h
  cases hs : s.toList with
  | nil => simp [hs] at h
  | cons c cs =>
    simp only [hs, Bool.and_eq_true, List.all_eq_true] at h
    rw [hs] at hmem
    have hword := h.1.2 '\n' hmem
    revert hword
    decide

/-! ### Statements -/

namespace Upsert

/-- Fixed texts without line breaks stand around three texts of any kind. -/
theorem newline_mem_between (a b c d : String) (ha : '\n' ∉ a.toList) (hb : '\n' ∉ b.toList)
    (hc : '\n' ∉ c.toList) (hd : '\n' ∉ d.toList) (x y z : String) :
    '\n' ∈ (a ++ x ++ b ++ y ++ c ++ z ++ d).toList ↔
      '\n' ∈ x.toList ∨ '\n' ∈ y.toList ∨ '\n' ∈ z.toList := by
  simp [ha, hb, hc, hd]

/-- A newline in a statement stands in one of the values of its row. -/
theorem newline_mem_render {u : Upsert}
    (hcolumns : ∀ field ∈ u.row, '\n' ∉ field.1.toList)
    (hupdates : ∀ a ∈ u.updates, '\n' ∈ a.render.toList → ∃ field ∈ u.row, field.2.HoldsNewline) :
    '\n' ∈ u.render.toList ↔ ∃ field ∈ u.row, field.2.HoldsNewline := by
  have hcomma : '\n' ∉ ", ".toList := by decide
  have hbetween := newline_mem_between "INSERT INTO arpdata (" ") VALUES ("
    ") ON DUPLICATE KEY UPDATE " ";" (by decide) (by decide) (by decide) (by decide)
    (Text.join ", " (u.row.map fun field => field.1))
    (Text.join ", " (u.row.map fun field => field.2.render))
    (Text.join ", " (u.updates.map SqlUpdate.render))
  refine hbetween.trans ?_
  rw [Text.mem_join_map_iff hcomma, Text.mem_join_map_iff hcomma, Text.mem_join_map_iff hcomma]
  simp only [SqlValue.newline_mem_render]
  -- The updates only repeat values of the row, so a line feed is one of the values given.
  constructor
  · rintro (⟨field, hfield, hnewline⟩ | hgiven | ⟨a, ha, hnewline⟩)
    · exact absurd hnewline (hcolumns field hfield)
    · exact hgiven
    · exact hupdates a ha hnewline
  · intro hgiven
    exact .inr (.inl hgiven)

end Upsert

/-- No name of a sighting holds a newline. -/
def Sighting.OnOneLine (s : Sighting) : Prop :=
  (∀ name ∈ s.dhcpName, '\n' ∉ name.toList) ∧ (∀ name ∈ s.netbiosName, '\n' ∉ name.toList) ∧
    ∀ name ∈ s.pvNames, '\n' ∉ name.toList

/-- A hardware address is written in digits, letters and colons. -/
theorem newline_notMem_mac (m : MacAddr) : '\n' ∉ m.text.toList := by
  have hbyte : ∀ b, '\n' ∉ Text.hexByte b := by
    intro b h
    have hletter := Text.isAlphanum_of_mem_hexByte b '\n' h
    revert hletter
    decide
  rw [MacAddr.text, Text.mem_join_map_iff (by decide)]
  rintro ⟨b, -, hnewline⟩
  rw [String.toList_ofList] at hnewline
  exact hbyte b hnewline

/-- An address is written in digits and points. -/
theorem newline_notMem_ip (a : Ipv4) : '\n' ∉ a.text.toList := by
  rw [Ipv4.text, Text.mem_join_map_iff (by decide)]
  rintro ⟨b, -, hnewline⟩
  exact newline_notMem_decimal _ hnewline

namespace Upsert

variable (site : Site) {resolver : Option Resolver} (s : Sighting)

/-- A newline in what only some sightings set stands in one of the names. -/
theorem newline_optionalColumns
    (hresolver : ∀ resolve ∈ resolver, ∀ ip, ∀ name ∈ (resolve ip).name?, '\n' ∉ name.toList) :
    (∃ field ∈ optionalColumns resolver s, field.2.HoldsNewline) ↔ ¬s.OnOneLine := by
  have hblank : '\n' ∉ " ".toList := by decide
  have hnone : '\n' ∉ noHostname.toList := by decide
  -- Neither the address nor a resolved name holds a line feed.
  have haddress : ¬∃ field ∈ (if s.ip.isUnspecified then []
      else ("ip_address", .text s.ip.text) :: resolver.toList.map fun resolve =>
        ("hostname", SqlValue.text ((resolve s.ip).name?.getD noHostname))),
      field.2.HoldsNewline := by
    rintro ⟨field, hfield, hnewline⟩
    split at hfield
    · cases hfield
    · rcases List.mem_cons.1 hfield with rfl | hfield
      · exact newline_notMem_ip s.ip hnewline
      · obtain ⟨resolve, hresolve, rfl⟩ := List.mem_map.1 hfield
        have hnames := hresolver resolve (Option.mem_toList.1 hresolve) s.ip
        cases hname : (resolve s.ip).name? with
        | none =>
          rw [hname] at hnewline
          exact hnone hnewline
        | some name =>
          rw [hname] at hnewline hnames
          exact hnames name rfl hnewline
  -- Each name that the sighting has is a value of its own.
  have hnamed : ∀ (column : String) (o : Option String),
      (∃ field ∈ o.toList.map fun name => (column, SqlValue.text name), field.2.HoldsNewline) ↔
        ¬∀ name ∈ o, '\n' ∉ name.toList := by
    intro column o
    cases o <;> simp [SqlValue.HoldsNewline]
  -- The process variable names are joined by blanks.
  have hpvs : (∃ field ∈ (if s.pvNames.isEmpty then []
      else [("epics_pvs", SqlValue.text (Text.join " " s.pvNames))]), field.2.HoldsNewline) ↔
      ¬∀ name ∈ s.pvNames, '\n' ∉ name.toList := by
    have hsome : (¬∀ name ∈ s.pvNames, '\n' ∉ name.toList) ↔
        ∃ name ∈ s.pvNames, '\n' ∈ name.toList := by simp
    rw [hsome, ← Text.mem_join_iff hblank]
    cases s.pvNames <;> simp [SqlValue.HoldsNewline, Text.join]
  simp only [optionalColumns, List.mem_append, or_and_right, exists_or, haddress, hnamed, hpvs,
    false_or, Sighting.OnOneLine, Classical.not_and_iff_not_or_not, or_assoc]

/-- The name of no column holds a newline, and an update repeats what the row holds. -/
theorem newline_mem_ofSighting : '\n' ∈ (ofSighting site resolver s).render.toList ↔
    ∃ field ∈ (ofSighting site resolver s).row, field.2.HoldsNewline := by
  have hcolumns : ∀ field ∈ (ofSighting site resolver s).row, '\n' ∉ field.1.toList :=
    fun field hfield => newline_notMem_name (isName_of_mem_row site resolver s field hfield)
  refine newline_mem_render hcolumns fun a ha hnewline => ?_
  rcases updates_ofSighting site resolver s a ha with rfl | ⟨field, hfield, -, rfl⟩
  · simp [SqlUpdate.render, newline_notMem_decimal] at hnewline
  · refine ⟨field, hfield, ?_⟩
    simpa [SqlUpdate.render, hcolumns field hfield, SqlValue.newline_mem_render] using hnewline

/-- A statement takes one line exactly if no newline stands in the texts that it is made of. -/
theorem newline_notMem_ofSighting
    (hresolver : ∀ resolve ∈ resolver, ∀ ip, ∀ name ∈ (resolve ip).name?, '\n' ∉ name.toList) :
    '\n' ∉ (ofSighting site resolver s).render.toList ↔
      '\n' ∉ site.location.toList ∧ '\n' ∉ site.label.toList ∧ s.OnOneLine := by
  have hrow : (∃ field ∈ (ofSighting site resolver s).row, field.2.HoldsNewline) ↔
      '\n' ∈ site.location.toList ∨ '\n' ∈ site.label.toList ∨ ¬s.OnOneLine := by
    have hmac := newline_notMem_mac s.mac
    rw [← newline_optionalColumns s hresolver]
    simp only [ofSighting, List.mem_append, or_and_right, exists_or, List.mem_cons,
      List.not_mem_nil, exists_eq_left]
    cases s.vlan <;> simp [SqlValue.HoldsNewline, hmac, or_assoc]
  rw [newline_mem_ofSighting, hrow]
  simp

end Upsert

/-! ### Everything that is written -/

namespace Sink

/-- Of the two texts in the comment, only the location can break the line once the interface has a
    plain name. -/
theorem newline_notMem_headerLine (site : Site) {interface : String}
    (hinterface : '\n' ∉ interface.toList) :
    '\n' ∉ (headerLine site interface).toList ↔ '\n' ∉ site.location.toList := by
  have hpieces : ∀ a b c : String, '\n' ∉ a.toList → '\n' ∉ b.toList → '\n' ∉ c.toList →
      ∀ x : String, '\n' ∈ (a ++ interface ++ b ++ x ++ c).toList ↔ '\n' ∈ x.toList := by
    intro a b c ha hb hc x
    simp [ha, hb, hc, hinterface]
  exact not_congr (hpieces "-- arpwatch on " " (" ")" (by decide) (by decide) (by decide) _)

/-- For all settings that are accepted, a sink on a writer that refuses nothing writes a line of
    comment and then one statement for each sighting. There are as many lines as that exactly if no
    newline stands in the location, in the label, or in a name that a frame gave; then each
    statement has a line of its own. Location and label can hold a newline only if they are
    overridden. -/
theorem length_lines_sql_iff {text : String} {env : String → Option String} {settings : Settings}
    (haccepted : ((Settings.parse text).andThen fun s => s.override env).result = .ok settings)
    {interface : String} (hinterface : '\n' ∉ interface.toList) {resolver : Option Resolver}
    (hresolver : ∀ resolve ∈ resolver, ∀ ip, ∀ name ∈ (resolve ip).name?, '\n' ∉ name.toList)
    {w : Writer} (hw : w.Tireless) (frames : List Frame) :
    let sightings := frames.flatMap fun f => (dissect settings.vlanPolicy f.seen f.data).sightings
    let started := (sql settings.site resolver).start interface w
    let reported := (sql settings.site resolver).reportAll started.1 sightings
    let expected :=
      headerLine settings.site interface :: sightings.map (statementLine settings.site resolver)
    let oneLineEach := '\n' ∉ settings.location.toList ∧
      ∀ s ∈ sightings, '\n' ∉ settings.label.toList ∧ s.OnOneLine
    started.2 = [] ∧ reported.2.1 = sightings.map (fun _ => none) ∧
      reported.1.written = w.written ++ Text.unlines expected ∧
      (∀ s ∈ sightings,
        ∃ statement, Sql.read? (statementLine settings.site resolver s) = some [statement]) ∧
      ((Text.lines (Text.unlines expected)).length = sightings.length + 1 ↔ oneLineEach) ∧
      (oneLineEach → Text.lines (Text.unlines expected) = expected) ∧
      (env Key.location.variableName = none → '\n' ∉ settings.location.toList) ∧
      (env Key.label.variableName = none → '\n' ∉ settings.label.toList) := by
  intro sightings started reported expected oneLineEach
  obtain ⟨hquiet, htireless, -⟩ :=
    sql_start_written settings.site resolver hw interface
  obtain ⟨herrors, -⟩ :=
    sql_reportAll_written settings.site resolver htireless sightings
  -- Each line lacks a line feed exactly under the condition on that line.
  have hlines : (∀ l ∈ expected, '\n' ∉ l.toList) ↔ oneLineEach := by
    rw [List.forall_mem_cons, newline_notMem_headerLine settings.site hinterface,
      List.forall_mem_map]
    refine and_congr_right fun hlocation => forall₂_congr fun s _ => ?_
    rw [statementLine, Upsert.newline_notMem_ofSighting settings.site s hresolver]
    exact and_iff_right hlocation
  have hlength := Text.length_lines_unlines_iff expected
  have hempty : '\n' ∉ "".toList := by decide
  refine ⟨hquiet, herrors, sql_written settings.site resolver hw interface sightings,
    ?_, ?_, ?_, ?_, ?_⟩
  · intro s _
    exact ⟨_, Upsert.read?_ofSighting settings.site resolver s⟩
  · rw [← hlines, ← hlength]
    simp [expected]
  · intro h
    exact Text.lines_unlines (hlines.2 h)
  · -- A setting that no variable overrides comes from a line of the file, which holds no line feed.
    exact Settings.newline_notMem_of_accepted haccepted Setting.location.inj (fun _ => rfl) rfl rfl
      hempty
  · exact Settings.newline_notMem_of_accepted haccepted Setting.label.inj (fun _ => rfl) rfl rfl
      hempty

/-- A broadcast frame in which the host `10.0.0.7` asks for a NetBIOS name. -/
def nameFrame (name : Bytes) : Bytes :=
  [0xff, 0xff, 0xff, 0xff, 0xff, 0xff, 0x02, 0x00, 0x00, 0x00, 0x00, 0x01, 0x08, 0x00,
    0x45, 0x00, 0x00, 0x4e, 0x00, 0x00, 0x00, 0x00, 0x40, 0x11, 0x00, 0x00, 0x0a, 0x00, 0x00, 0x07,
    0xff, 0xff, 0xff, 0xff, 0x00, 0x89, 0x00, 0x89, 0x00, 0x3a, 0x00, 0x00,
    0x12, 0x34, 0x01, 0x10, 0x00, 0x01, 0x00, 0x00, 0x00, 0x00, 0x00, 0x00, 0x20] ++
  NetBios.encode (name ++ List.replicate (15 - name.length) 0x20 ++ [0x00]) ++
  [0x00, 0x00, 0x20, 0x00, 0x01]

/-- The sighting in such a frame. -/
def nameSighting (name : String) : Sighting :=
  { mac := ⟨2, 0, 0, 0, 0, 1⟩, ip := ⟨10, 0, 0, 7⟩, seen := ⟨1700000000, 250000⟩, vlan := none,
    kind := .udp, dhcpName := none, netbiosName := some name, pvNames := [] }

/-- With no settings and the name `LAB1` in the one frame, there are two lines. -/
theorem lines_sql_of_plain_name :
    Text.lines (Text.unlines [headerLine {} "eth0", statementLine {} none (nameSighting "LAB1")]) =
      [headerLine {} "eth0", statementLine {} none (nameSighting "LAB1")] := by
  have haccepted :
      ((Settings.parse "").andThen fun s => s.override fun _ => none).result = .ok {} := rfl
  have hseen : ([⟨⟨1700000000, 250000⟩, nameFrame [0x4c, 0x41, 0x42, 0x31]⟩] : List Frame).flatMap
      (fun f => (dissect ({} : Settings).vlanPolicy f.seen f.data).sightings) =
        [nameSighting "LAB1"] := by decide +kernel
  have hinterface : '\n' ∉ "eth0".toList := by decide
  have hresolver : ∀ resolve ∈ (none : Option Resolver), ∀ ip, ∀ name ∈ (resolve ip).name?,
      '\n' ∉ name.toList := by simp
  have hw : (Writer.direct .unlimited).Tireless := fun _ => rfl
  have hlines := length_lines_sql_iff haccepted hinterface hresolver hw
    [⟨⟨1700000000, 250000⟩, nameFrame [0x4c, 0x41, 0x42, 0x31]⟩]
  rw [hseen] at hlines
  refine hlines.2.2.2.2.2.1 ⟨by decide, fun s hs => ?_⟩
  rw [List.mem_singleton.1 hs]
  refine ⟨by decide, ?_⟩
  simp [Sighting.OnOneLine, nameSighting]

/-- With a newline in the name in the one frame, the lines are not two. -/
theorem newline_in_name_breaks_line :
    let sightings := (dissect {} ⟨1700000000, 250000⟩ (nameFrame [0x41, 0x0a, 0x42])).sightings
    let sink := sql ({} : Settings).site none
    let started := sink.start "eth0" (.direct .unlimited)
    ((Settings.parse "").andThen fun s => s.override fun _ => none).result = .ok {} ∧
      sightings.length = 1 ∧
      (Text.lines (sink.reportAll started.1 sightings).1.written).length ≠
        sightings.length + 1 := by
  have hseen : (dissect {} ⟨1700000000, 250000⟩ (nameFrame [0x41, 0x0a, 0x42])).sightings =
      [nameSighting "A\nB"] := by decide +kernel
  have hw : (Writer.direct .unlimited).Tireless := fun _ => rfl
  have hwritten := sql_written ({} : Settings).site none hw "eth0"
    [nameSighting "A\nB"]
  have hbroken : ¬(nameSighting "A\nB").OnOneLine := by
    intro h
    exact h.2.1 "A\nB" rfl (by decide)
  simp only [hseen]
  refine ⟨rfl, rfl, fun hlength => ?_⟩
  -- Written are the header line and one statement line, so with two lines each would be whole.
  rw [hwritten, show (Writer.direct .unlimited).written = "" from rfl, String.empty_append]
    at hlength
  have honeLine := (Text.length_lines_unlines_iff _).1 hlength
    (statementLine ({} : Settings).site none (nameSighting "A\nB")) (by simp)
  rw [statementLine, Upsert.newline_notMem_ofSighting _ _ (by simp)] at honeLine
  exact hbroken honeLine.2.2

end Sink

end LanWatch
