import LanWatch.Proofs.Text.Lines
import LanWatch.Report.Sink

namespace LanWatch

/-!
# What a writer was given

A writer may hand a text on at once or later, but it never changes the order of texts. Behind a
medium that refuses nothing, it has everything that it was given.

* `Writer.written` — what a writer was given;
* `Writer.Took` — a writer took a text after all that it was given before;
* `Writer.took_write`, `Writer.took_writeAll` — a writer takes what is written;
* `Sink.sql_written` — what a sink of statements writes.
-/

/-! ### Writers -/

/-- A medium that refuses nothing takes every text. -/
theorem Medium.write_of_tireless {m : Medium} (h : ∀ contents, m.refusal contents = none)
    (text : String) : m.write text = ({ m with contents := m.contents ++ text }, none) := by
  by_cases hempty : text = ""
  · simp [write, hempty]
  · simp [write, hempty, h]

namespace Writer

/-- What a writer was given: what it handed on, and what it holds back. -/
def written (w : Writer) : String :=
  w.medium.contents ++ w.pending

/-- The medium refuses nothing. -/
def Tireless (w : Writer) : Prop :=
  ∀ contents, w.medium.refusal contents = none

/-- A writer took a text: it was given the text after everything else, and will take more. -/
structure Took (w : Writer) (text : String) (after : Writer × Option IoError) : Prop where
  no_error : after.2 = none
  tireless : after.1.Tireless
  written : after.1.written = w.written ++ text

variable {w : Writer}

theorem drain_of_tireless (hw : w.Tireless) : w.drain =
    ({ w with
        medium := { w.medium with contents := w.medium.contents ++ w.pending }, pending := "" },
      none) := by
  rw [drain, Medium.write_of_tireless hw]

/-- A text may pass by the buffer only if the buffer is empty. -/
theorem took_place (hw : w.Tireless) (text : String)
    (hbuffer : w.capacity ≤ Text.Utf8.width text → w.pending = "" ∨ text = "") :
    w.Took text (w.place text) := by
  by_cases hlarge : w.capacity ≤ Text.Utf8.width text
  · rw [place, if_pos hlarge, Medium.write_of_tireless hw]
    refine ⟨rfl, hw, ?_⟩
    rcases hbuffer hlarge with hpending | rfl
    · simp [written, hpending]
    · simp [written]
  · rw [place, if_neg hlarge]
    exact ⟨rfl, hw, by simp [written, String.append_assoc]⟩

/-- A writer that never fails takes the whole text. -/
theorem took_write (hw : w.Tireless) (text : String) : w.Took text (w.write text) := by
  by_cases hspare : w.spare < Text.Utf8.width text
  · rw [write, if_pos hspare, drain_of_tireless hw]
    have hdrained : Tireless { w with
        medium := { w.medium with contents := w.medium.contents ++ w.pending },
        pending := "" } := hw
    have htook := took_place hdrained text fun _ => .inl rfl
    exact ⟨htook.no_error, htook.tireless, by simpa [written] using htook.written⟩
  · rw [write, if_neg hspare]
    refine took_place hw text fun hlarge => ?_
    -- There is room for a text as large as the whole buffer only in an empty buffer.
    have hzero : Text.Utf8.width w.pending = 0 ∨ Text.Utf8.width text = 0 := by
      rw [spare] at hspare
      omega
    simpa [Text.Utf8.width] using hzero

theorem took_writeAll (hw : w.Tireless) (texts : List String) :
    w.Took (String.join texts) (w.writeAll texts) := by
  -- By induction on the texts.
  induction texts generalizing w with
  | nil => exact ⟨rfl, hw, by simp [writeAll]⟩
  | cons text texts ih =>
    have htook := took_write hw text
    cases hwrite : w.write text with
    | mk next error =>
      rw [hwrite] at htook
      obtain ⟨rfl, htireless, hwritten⟩ := htook
      have hrest := ih htireless
      simp only [writeAll, hwrite]
      exact ⟨hrest.no_error, hrest.tireless, by
        rw [hrest.written, hwritten, String.join_cons, String.append_assoc]⟩

end Writer

/-! ### Sinks -/

namespace Sink

variable (site : Site) (resolver : Option Resolver) {w : Writer}

/-- The comment that statements follow. -/
def headerLine (site : Site) (interface : String) : String :=
  "-- arpwatch on " ++ interface ++ " (" ++ site.location ++ ")"

/-- The text of the statement for a sighting. -/
def statementLine (site : Site) (resolver : Option Resolver) (s : Sighting) : String :=
  (Upsert.ofSighting site resolver s).render

theorem join_line (a b c d e : String) :
    String.join [a, b, c, d, e ++ "\n"] = Text.unlines [a ++ b ++ c ++ d ++ e] := by
  rw [Text.unlines_cons, Text.unlines_nil]
  simp [String.append_assoc]

/-- At the start a sink writes a comment. -/
theorem sql_start_written (hw : w.Tireless) (interface : String) :
    ((sql site resolver).start interface w).2 = [] ∧
      ((sql site resolver).start interface w).1.Tireless ∧
      ((sql site resolver).start interface w).1.written =
        w.written ++ Text.unlines [headerLine site interface] := by
  have hjoined : String.join ["-- arpwatch on ", interface, " (", site.location, ")\n"] =
      Text.unlines [headerLine site interface] :=
    join_line "-- arpwatch on " interface " (" site.location ")"
  have htook := Writer.took_writeAll hw
    ["-- arpwatch on ", interface, " (", site.location, ")\n"]
  rw [hjoined] at htook
  simp only [sql]
  generalize w.writeAll ["-- arpwatch on ", interface, " (", site.location, ")\n"] = after at htook
  refine ⟨?_, htook.tireless, htook.written⟩
  rw [htook.no_error]
  rfl

/-- With each sighting a sink writes a statement and a newline. -/
theorem sql_report_written (hw : w.Tireless) (s : Sighting) :
    ((sql site resolver).report s w).error = none ∧
      ((sql site resolver).report s w).state.Tireless ∧
      ((sql site resolver).report s w).state.written =
        w.written ++ (statementLine site resolver s ++ "\n") := by
  have htook := Writer.took_writeAll hw [statementLine site resolver s, "\n"]
  rw [String.join_cons, String.join_cons, String.join_nil, String.append_empty] at htook
  simp only [sql]
  rw [← statementLine]
  generalize w.writeAll [statementLine site resolver s, "\n"] = after at htook
  refine ⟨?_, htook.tireless, htook.written⟩
  rw [htook.no_error]
  rfl

/-- For each sighting a sink writes its statement, on lines of its own. By induction on the
    sightings. -/
theorem sql_reportAll_written (hw : w.Tireless) (ss : List Sighting) :
    ((sql site resolver).reportAll w ss).2.1 = ss.map (fun _ => none) ∧
      ((sql site resolver).reportAll w ss).1.written =
        w.written ++ Text.unlines (ss.map (statementLine site resolver)) := by
  induction ss generalizing w with
  | nil => exact ⟨rfl, by simp [reportAll, Text.unlines]⟩
  | cons s ss ih =>
    obtain ⟨herror, htireless, hwritten⟩ := sql_report_written site resolver hw s
    obtain ⟨herrors, hrest⟩ := ih htireless
    refine ⟨?_, ?_⟩
    · simp only [reportAll, herror, herrors, List.map_cons]
    · simp only [reportAll, hrest, hwritten, List.map_cons, Text.unlines_cons, String.append_assoc]

/-- A comment and a statement for each sighting are all that a sink writes. -/
theorem sql_written (hw : w.Tireless) (interface : String) (ss : List Sighting) :
    ((sql site resolver).reportAll ((sql site resolver).start interface w).1 ss).1.written =
      w.written ++
        Text.unlines (headerLine site interface :: ss.map (statementLine site resolver)) := by
  obtain ⟨-, htireless, hheader⟩ := sql_start_written site resolver hw interface
  obtain ⟨-, hstatements⟩ := sql_reportAll_written site resolver htireless ss
  rw [Text.unlines_cons, Text.unlines_nil, String.append_empty] at hheader
  rw [hstatements, hheader, Text.unlines_cons, String.append_assoc]

end Sink

end LanWatch
