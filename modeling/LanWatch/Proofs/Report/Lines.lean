import LanWatch.Proofs.Sql.Newlines
import LanWatch.Proofs.Text.Trimming
import LanWatch.Proofs.Text.Utf8

namespace LanWatch

/-!
# One line for a sighting

A reader at a terminal is told of each sighting in one text that ends with a newline. Everything in
that text but the names is written by the program itself and holds no newline. A name is put in as
it was decoded, and each of the three decoders hands on a newline that stands where the name does.

* `Dhcp.newline_mem_hostName`, `ChannelAccess.newline_mem_name`, `NetBios.newline_mem_nameText` —
  the bytes that put a newline into a name;
* `Sighting.newline_notMem_line` — the text of a sighting is one line exactly if its names hold no
  newline;
* `Sink.length_lines_console_iff` — the same for all that a reader is told;
* `Sink.newline_in_name_adds_line` — a frame of whose one sighting a reader is told on two lines.
-/

/-! ### Names -/

/-- The name ends at a NUL; before that, a line feed is a newline. -/
theorem Dhcp.newline_mem_hostName (value : Bytes) :
    '\n' ∈ (hostName value).toList ↔ 0x0a ∈ value.untilNul :=
  Text.mem_decodeLossy_iff (by decide) _

/-- The cut at the limit may leave a line feed out. -/
theorem ChannelAccess.newline_mem_name (payload : Bytes) :
    '\n' ∈ (name payload).toList ↔ 0x0a ∈ payload.untilNul.take maxName :=
  Text.mem_decodeLossy_iff (by decide) _

/-- A newline is no padding, so it stays also at the end. -/
theorem NetBios.newline_mem_nameText (bytes : Bytes) :
    '\n' ∈ (nameText bytes).toList ↔ 0x0a ∈ bytes.take nameLength := by
  have hpadding : isPadding '\n' = false := by decide
  rw [nameText, String.toList_ofList, Text.mem_dropEndWhile_iff hpadding]
  exact Text.mem_decodeLossy_iff (by decide) _

/-! ### The text of a sighting -/

/-- No kind has a label with a line break. -/
theorem Kind.newline_notMem_label (k : Kind) : '\n' ∉ k.label.toList := by
  have key : ∀ k ∈ Kind.all, '\n' ∉ k.label.toList := by decide
  exact key k k.mem_all

/-- A part of the line breaks it exactly if its value does. -/
theorem newline_mem_optionalPart {label : String} (hlabel : '\n' ∉ label.toList)
    (value : Option String) :
    '\n' ∈ (optionalPart label value).toList ↔ ∃ text ∈ value, '\n' ∈ text.toList := by
  cases value with
  | none => simp [optionalPart]
  | some text => simp [optionalPart, hlabel]

namespace Sighting

variable (verbose : Bool) (s : Sighting)

/-- The list of names breaks the line exactly if one of them does. -/
theorem newline_mem_pvs :
    (∃ text ∈ if s.pvNames.isEmpty then none else some (Text.join ", " s.pvNames),
      '\n' ∈ text.toList) ↔ ∃ name ∈ s.pvNames, '\n' ∈ name.toList := by
  have hcomma : '\n' ∉ ", ".toList := by decide
  rw [← Text.mem_join_iff hcomma]
  cases s.pvNames <;> simp [Text.join]

/-- Addresses, numbers, times and labels are written without newlines, so the names remain. -/
theorem newline_notMem_line : '\n' ∉ (s.line verbose).toList ↔ s.OnOneLine := by
  have hkind := s.kind.newline_notMem_label
  have hmac := newline_notMem_mac s.mac
  have hip := newline_notMem_ip s.ip
  have hseen : ¬∃ text ∈ if verbose then some s.seen.text else none, '\n' ∈ text.toList := by
    cases verbose <;> simp [newline_notMem_timestamp]
  have hnames : '\n' ∈ (s.line verbose).toList ↔
      (∃ name ∈ s.dhcpName, '\n' ∈ name.toList) ∨ (∃ name ∈ s.netbiosName, '\n' ∈ name.toList) ∨
        ∃ name ∈ s.pvNames, '\n' ∈ name.toList := by
    have hpart : ∀ label ∈ ["Host", "NetBIOS", "PVs", "Seen"], '\n' ∉ label.toList := by decide
    have hhost := newline_mem_optionalPart (hpart "Host" (by simp))
    have hnetbios := newline_mem_optionalPart (hpart "NetBIOS" (by simp))
    have hpvs := newline_mem_optionalPart (hpart "PVs" (by simp))
    have hverbose := newline_mem_optionalPart (hpart "Seen" (by simp))
    -- The line is put together from parts, and of each it is known whether it can hold a newline.
    unfold line
    simp only [String.toList_append, List.mem_append, hhost, hnetbios, hpvs, hverbose,
      newline_mem_pvs, hkind, hmac, hip, hseen, or_false]
    cases s.vlan with
    | none => simp [or_assoc]
    | some vlan => simp [newline_notMem_decimal, or_assoc]
  rw [hnames, OnOneLine]
  simp

end Sighting

/-! ### Everything that is told -/

namespace Sink

variable (verbose : Bool)

theorem console_reportAll (output : String) (ss : List Sighting) :
    (console verbose).reportAll output ss =
      (output ++ Text.unlines (ss.map (Sighting.line verbose)), ss.map fun _ => none, []) := by
  -- By induction on the sightings: each adds its line to the output, and none fails.
  induction ss generalizing output with
  | nil => simp [reportAll, Text.unlines_nil]
  | cons s ss ih =>
    have hstep : ((console verbose).report s output).state =
        output ++ s.line verbose ++ "\n" := rfl
    rw [reportAll, hstep, ih, List.map_cons, Text.unlines_cons, List.map_cons]
    simp only [String.append_assoc]
    rfl

/-- Whatever frames are received and however they are treated, the text for each sighting ends with
    a newline, and has no other one exactly if no name of the sighting holds one. So there are as
    many lines between the banner and the farewell as sightings exactly if none of their names holds
    a newline; then each sighting has a line of its own. A name holds a newline exactly if there is
    a line feed where the name was decoded from. -/
theorem length_lines_console_iff (interface output : String)
    (frames : List (VlanPolicy × Frame)) :
    let sightings := frames.flatMap fun f => (dissect f.1 f.2.seen f.2.data).sightings
    let sink := console verbose
    let reported := sink.reportAll (sink.start interface output).1 sightings
    let between := Text.unlines (sightings.map (Sighting.line verbose))
    (∀ s ∈ sightings, ∀ printed, ∃ text, (sink.report s printed).state = printed ++ text ∧
      text.toList.getLast? = some '\n' ∧ (text.toList.count '\n' = 1 ↔ s.OnOneLine)) ∧
    reported.2.1 = sightings.map (fun _ => none) ∧
    (sink.stop reported.1).1 = output ++ banner interface ++ between ++ farewell ∧
    ((Text.lines between).length = sightings.length ↔ ∀ s ∈ sightings, s.OnOneLine) ∧
    ((∀ s ∈ sightings, s.OnOneLine) →
      Text.lines between = sightings.map (Sighting.line verbose)) ∧
    (∀ value, '\n' ∈ (Dhcp.hostName value).toList ↔ 0x0a ∈ value.untilNul) ∧
    (∀ bytes, '\n' ∈ (NetBios.nameText bytes).toList ↔ 0x0a ∈ bytes.take 15) ∧
    ∀ payload, '\n' ∈ (ChannelAccess.name payload).toList ↔ 0x0a ∈ payload.untilNul.take 255 := by
  intro sightings sink reported between
  have hreported : reported =
      (output ++ banner interface ++ between, sightings.map fun _ => none, []) :=
    console_reportAll verbose _ sightings
  have hlines : (∀ l ∈ sightings.map (Sighting.line verbose), '\n' ∉ l.toList) ↔
      ∀ s ∈ sightings, s.OnOneLine := by
    rw [List.forall_mem_map]
    exact forall₂_congr fun s _ => s.newline_notMem_line verbose
  refine ⟨?_, ?_, ?_, ?_, ?_, Dhcp.newline_mem_hostName, NetBios.newline_mem_nameText,
    ChannelAccess.newline_mem_name⟩
  · intro s _ printed
    refine ⟨s.line verbose ++ "\n", String.append_assoc .., by simp, ?_⟩
    -- The newline at the end is the one; any other would be counted as well.
    have hcount : (s.line verbose ++ "\n").toList.count '\n' =
        (s.line verbose).toList.count '\n' + 1 := by simp
    rw [hcount, Nat.add_eq_right, List.count_eq_zero]
    exact s.newline_notMem_line verbose
  · rw [hreported]
  · rw [hreported]
    rfl
  · rw [← hlines, ← Text.length_lines_unlines_iff, List.length_map]
  · intro h
    exact Text.lines_unlines (hlines.2 h)

/-- With a newline in the name in the one frame, a reader is told of one sighting on two lines. -/
theorem newline_in_name_adds_line :
    let sightings := (dissect {} ⟨1700000000, 250000⟩ (nameFrame [0x41, 0x0a, 0x42])).sightings
    let sink := console false
    let text := (sink.reportAll "" sightings).1
    sightings.length = 1 ∧ text.toList.count '\n' = 2 ∧ (Text.lines text).length = 2 := by
  have hseen : (dissect {} ⟨1700000000, 250000⟩ (nameFrame [0x41, 0x0a, 0x42])).sightings =
      [nameSighting "A\nB"] := by decide +kernel
  have hcount : (Text.unlines [(nameSighting "A\nB").line false]).toList.count '\n' = 2 := by
    decide +kernel
  simp only [hseen, console_reportAll, List.map_cons, List.map_nil, String.empty_append]
  refine ⟨rfl, hcount, ?_⟩
  rw [Text.length_lines, hcount]

end Sink

end LanWatch
