import LanWatch.Proofs.Settings.Assignments
import LanWatch.Proofs.Text.Trimming

namespace LanWatch

/-!
# Where values come from

A setting has the value that it had before, or one that some assignment spells. From this follows
what a value can hold: those of a file stand on one line each, those of the environment need not.

* `Settings.get_of_assignAll` — what assignments make of a setting;
* `Assignment.newline_notMem_ofText` — no value in a file holds a newline;
* `Settings.get_of_accepted`, `Settings.newline_notMem_of_accepted` — the values of a file with
  overrides.
-/

/-! ### Values in a file -/

namespace Assignment

/-- The value on a line holds nothing that the line does not hold. -/
theorem mem_of_ofLine? {line : List Char} {a : Assignment} (h : ofLine? line = some a) {c : Char}
    (hc : c ∈ a.value.toList) : c ∈ line := by
  simp only [ofLine?] at h
  split at h
  · cases h
  · obtain ⟨⟨key, value⟩, hcut, rfl⟩ := Option.map_eq_some_iff.1 h
    rw [String.toList_ofList] at hc
    have hline := (Text.cutAt?_eq_some hcut).1
    refine Text.mem_of_mem_trimChars ?_
    rw [hline, List.mem_append, List.mem_cons]
    exact .inr (.inr (Text.mem_of_mem_trimChars hc))

/-- A line is read up to its end, so no value spans two of them. -/
theorem newline_notMem_ofText (text : String) : ∀ a ∈ ofText text, '\n' ∉ a.value.toList := by
  intro a ha hnewline
  obtain ⟨line, hline, ha⟩ := List.mem_filterMap.1 ha
  exact Text.not_mem_of_mem_pieces line hline (mem_of_ofLine? ha hnewline)

end Assignment

/-! ### Following assignments -/

namespace Settings

/-- The last assignment of a key is one of the assignments. -/
theorem get_of_assignAll {s s' : Settings} {as : List Assignment}
    (h : (s.assignAll as).result = .ok s') (key : Key) : s'.get key = s.get key ∨
      ∃ a ∈ as, Key.ofName? a.key = some key ∧ Setting.ofText? key a.value = some (s'.get key) := by
  have htaken := takes_of_assignAll h key
  cases hlast : Assignment.lastValue? key as with
  | none =>
    rw [hlast] at htaken
    exact .inl htaken
  | some value =>
    rw [hlast] at htaken
    obtain ⟨a, ha, hvalue⟩ := List.exists_of_findSome?_eq_some hlast
    obtain rfl := Assignment.value?_eq_some_iff.1 hvalue
    exact .inr ⟨_, List.mem_reverse.1 ha, Key.ofName?_name key, htaken⟩

/-- A setting has its default, or a value from the file, or the one from the environment. -/
theorem get_of_accepted {text : String} {env : String → Option String} {s : Settings}
    (h : ((parse text).andThen fun s => s.override env).result = .ok s) (key : Key) :
    s.get key = ({} : Settings).get key ∨
      (∃ value, '\n' ∉ value.toList ∧ Setting.ofText? key value = some (s.get key)) ∨
      env key.variableName ≠ none := by
  simp only [Reading.andThen] at h
  cases hfile : (parse text).result with
  | error e => simp [hfile] at h
  | ok read =>
    simp only [hfile] at h
    rcases get_of_assignAll h key with hkept | ⟨a, ha, hname, -⟩
    · rcases get_of_assignAll hfile key with hdefault | ⟨a, ha, -, hvalue⟩
      · exact .inl (hkept.trans hdefault)
      · rw [← hkept] at hvalue
        exact .inr (.inl ⟨a.value, Assignment.newline_notMem_ofText text a ha, hvalue⟩)
    · refine .inr (.inr ?_)
      obtain ⟨k, -, hk⟩ := List.mem_filterMap.1 ha
      obtain ⟨value, henv, rfl⟩ := Option.map_eq_some_iff.1 hk
      rw [Key.ofName?_name, Option.some.injEq] at hname
      rw [← hname, henv]
      simp

/-- A setting whose text is taken as it stands, and whose default is on one line, holds no newline
    unless it is overridden. -/
theorem newline_notMem_of_accepted {text : String} {env : String → Option String} {s : Settings}
    (h : ((parse text).andThen fun s => s.override env).result = .ok s) {key : Key}
    {wrap : String → Setting} (hinj : ∀ {v w : String}, wrap v = wrap w → v = w)
    (hread : ∀ value, Setting.ofText? key value = some (wrap value)) {value standard : String}
    (hvalue : s.get key = wrap value) (hstandard : ({} : Settings).get key = wrap standard)
    (hplain : '\n' ∉ standard.toList) (henv : env key.variableName = none) :
    '\n' ∉ value.toList := by
  rcases get_of_accepted h key with hdefault | ⟨written, hline, hspelled⟩ | hset
  · rw [hvalue, hstandard] at hdefault
    rwa [hinj hdefault]
  · rw [hread, hvalue, Option.some.injEq] at hspelled
    rwa [← hinj hspelled]
  · exact absurd henv hset

end Settings

end LanWatch
