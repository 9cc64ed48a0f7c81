import LanWatch.Settings.File

namespace LanWatch

/-!
# Following assignments

Settings follow assignments in order. The first assignment at fault ends the reading with its error;
without a fault, each key has the value of its last assignment, and keys that no assignment names
stay as they were. Both answers are found by looking through the list, so that lists can be put
together and looked through part by part.

* `Assignment.fault?`, `Assignment.value?` — what one assignment has to say about errors, and about
  a key;
* `Settings.assignAll_eq_error_iff` — the error is that of the first assignment at fault;
* `Settings.takes_of_assignAll` — the value is that of the last assignment of the key;
* `Settings.assignAll_append` — two lists are followed one after the other.
-/

/-- A name is that of one key at most. -/
theorem Key.ofName?_eq_some_iff {name : String} {key : Key} :
    Key.ofName? name = some key ↔ name = key.name := by
  constructor
  · intro h
    exact (Key.name_of_ofName? h).symm
  · rintro rfl
    exact Key.ofName?_name key

namespace Assignment

/-- The error of an assignment whose key does not admit its value. -/
def fault? (a : Assignment) : Option SettingsError :=
  (Key.ofName? a.key).bind fun key =>
    if Setting.ofText? key a.value = none then some (.invalid key a.value) else none

/-- An assignment is at fault exactly if its key is known and does not admit its value. -/
theorem fault?_eq_some_iff {a : Assignment} {e : SettingsError} :
    a.fault? = some e ↔
      ∃ key, a.key = key.name ∧ Setting.ofText? key a.value = none ∧ e = .invalid key a.value := by
  simp only [fault?, Option.bind_eq_some_iff, Key.ofName?_eq_some_iff]
  refine exists_congr fun key => and_congr_right fun _ => ?_
  by_cases h : Setting.ofText? key a.value = none
  · simp [h, eq_comm]
  · simp [h]

/-- The value that an assignment spells for a key, if it names that key. -/
def value? (key : Key) (a : Assignment) : Option String :=
  if a.key = key.name then some a.value else none

/-- An assignment gives a key a value exactly if it is the one that names both. -/
theorem value?_eq_some_iff {key : Key} {a : Assignment} {value : String} :
    a.value? key = some value ↔ a = ⟨key.name, value⟩ := by
  cases a
  simp [value?]

/-- The value of the last assignment of a key. -/
def lastValue? (key : Key) (as : List Assignment) : Option String :=
  as.reverse.findSome? (value? key)

/-- Later assignments win over earlier ones. -/
theorem lastValue?_append (key : Key) (as bs : List Assignment) :
    lastValue? key (as ++ bs) = (lastValue? key bs).or (lastValue? key as) := by
  rw [lastValue?, List.reverse_append, List.findSome?_append, lastValue?, lastValue?]

theorem lastValue?_singleton (key : Key) (a : Assignment) : lastValue? key [a] = a.value? key := by
  cases h : a.value? key <;> simp [lastValue?, h]

end Assignment

namespace Settings

variable {s t u : Settings}

/-! ### Values -/

/-- Of `s` and a text for a key, `t` takes the value that the text spells; if there is no text, it
    keeps the value of `s`. -/
def Takes (key : Key) (s t : Settings) : Option String → Prop
  | some text => Setting.ofText? key text = some (t.get key)
  | none => t.get key = s.get key

/-- What it means to take a text, apart for a text and for none. -/
theorem takes_iff {key : Key} {text? : Option String} : Takes key s t text? ↔
    (∀ text, text? = some text → Setting.ofText? key text = some (t.get key)) ∧
      (text? = none → t.get key = s.get key) := by
  cases text? <;> simp [Takes]

/-- A later text counts before an earlier one. -/
theorem Takes.trans {key : Key} {text text' : Option String} (h : Takes key s t text)
    (h' : Takes key t u text') : Takes key s u (text'.or text) := by
  cases text' with
  | some later => exact h'
  | none =>
    have hkept : u.get key = t.get key := h'
    cases text with
    | some earlier =>
      show Setting.ofText? key earlier = some (u.get key)
      rw [hkept]
      exact h
    | none => exact hkept.trans h

/-- An assignment that succeeds gives its key the value that it spells, and leaves the other keys
    alone. -/
theorem takes_of_assign {a : Assignment} (h : (s.assign a).result = .ok t) (key : Key) :
    Takes key s t (a.value? key) := by
  unfold assign at h
  cases hname : Key.ofName? a.key with
  | none =>
    -- the name is no key's, so that it is not that of `key` either
    have hother : a.key ≠ key.name := by
      intro hsame
      rw [Key.ofName?_eq_some_iff.2 hsame] at hname
      cases hname
    simp only [hname, Except.ok.injEq] at h
    subst h
    rw [Assignment.value?, if_neg hother]
    rfl
  | some k =>
    have hk := Key.ofName?_eq_some_iff.1 hname
    cases hvalue : Setting.ofText? k a.value with
    | none => simp [hname, hvalue] at h
    | some x =>
      have hx := Setting.key_of_ofText? hvalue
      simp only [hname, hvalue, Except.ok.injEq] at h
      subst h
      by_cases hsame : key = k
      · subst hsame
        rw [Assignment.value?, if_pos hk]
        show Setting.ofText? key a.value = some ((s.set x).get key)
        have hget := get_set_same s x
        rw [hx] at hget
        rw [hvalue, hget]
      · have hother : a.key ≠ key.name := by
          intro hkey
          rw [Key.ofName?_eq_some_iff.2 hkey, Option.some.injEq] at hname
          exact hsame hname
        rw [Assignment.value?, if_neg hother]
        exact get_set_other s x (by rwa [hx])

theorem takes_of_assignAll {as : List Assignment} (h : (s.assignAll as).result = .ok t)
    (key : Key) : Takes key s t (Assignment.lastValue? key as) := by
  -- By induction on the assignments: what the first one says counts unless a later one speaks.
  induction as generalizing s with
  | nil =>
    simp only [assignAll, Except.ok.injEq] at h
    subst h
    rfl
  | cons a as ih =>
    simp only [assignAll, Reading.andThen] at h
    cases hfirst : (s.assign a).result with
    | error e => simp [hfirst] at h
    | ok next =>
      simp only [hfirst] at h
      have htaken := (takes_of_assign hfirst key).trans (ih h)
      rwa [← Assignment.lastValue?_singleton, ← Assignment.lastValue?_append] at htaken

/-! ### Errors -/

/-- An assignment fails exactly if it is at fault, whatever the settings are. -/
theorem assign_eq_error_iff {a : Assignment} {e : SettingsError} :
    (s.assign a).result = .error e ↔ a.fault? = some e := by
  unfold assign Assignment.fault?
  cases Key.ofName? a.key with
  | none => simp
  | some key => cases hvalue : Setting.ofText? key a.value <;> simp [hvalue]

theorem assignAll_eq_error_iff {as : List Assignment} {e : SettingsError} :
    (s.assignAll as).result = .error e ↔ as.findSome? Assignment.fault? = some e := by
  -- By induction on the assignments: no assignment is looked at after the first at fault, and each
  -- one before it is followed, to whatever settings.
  induction as generalizing s with
  | nil => simp [assignAll]
  | cons a as ih =>
    simp only [assignAll, Reading.andThen, List.findSome?_cons]
    cases hfirst : (s.assign a).result with
    | error e' => simp [hfirst, assign_eq_error_iff.1 hfirst]
    | ok next =>
      have hnone : a.fault? = none := by
        cases hfault : a.fault? with
        | none => rfl
        | some e' =>
          rw [assign_eq_error_iff.2 hfault] at hfirst
          cases hfirst
      simp [hnone, ih]

/-- All assignments succeed exactly if none of them is at fault. -/
theorem exists_assignAll_ok_iff {as : List Assignment} :
    (∃ t, (s.assignAll as).result = .ok t) ↔ ∀ a ∈ as, a.fault? = none := by
  rw [← List.findSome?_eq_none_iff]
  cases hresult : (s.assignAll as).result with
  | error e => simp [assignAll_eq_error_iff.1 hresult]
  | ok t =>
    have hnone : as.findSome? Assignment.fault? = none := by
      cases hfault : as.findSome? Assignment.fault? with
      | none => rfl
      | some e =>
        rw [assignAll_eq_error_iff.2 hfault] at hresult
        cases hresult
    simp [hnone]

/-! ### One list after another -/

theorem assignAll_append (s : Settings) (as bs : List Assignment) :
    s.assignAll (as ++ bs) = (s.assignAll as).andThen fun t => t.assignAll bs := by
  induction as generalizing s with
  | nil => simp [assignAll, Reading.andThen]
  | cons a as ih =>
    simp only [List.cons_append, assignAll, Reading.andThen]
    cases hfirst : (s.assign a).result with
    | error e => simp [hfirst]
    | ok next =>
      simp only [ih, Reading.andThen]
      cases hrest : (next.assignAll as).result with
      | error e => simp [hrest]
      | ok t => simp [List.append_assoc]

end Settings

end LanWatch
