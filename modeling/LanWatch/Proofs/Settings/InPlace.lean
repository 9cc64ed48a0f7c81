import LanWatch.Proofs.Settings.Layers
import LanWatch.Settings.InPlace

namespace LanWatch

/-!
# What a change in place leaves behind

A change in place either writes the value that its text spells, or it fails and leaves everything as
it was. So it does what following an assignment does, and it touches one key only. What it says and
whether it fails is up to the assignment, whatever the settings are. Two changes of different keys
therefore can be made in either order, and of two changes of one key the first leaves no trace.

* `Text.unsigned?_eq_filter` — a bound on a number can be checked after reading it;
* `Settings.set_comm`, `Settings.set_set` — settings of different keys, and of one key;
* `Settings.setInPlace_eq`, `Settings.assignInPlace_eq` — a change in place is the assignment;
* `Settings.eq_of_assignInPlace_error`, `Settings.assignInPlace_ok_cases` — all that it can do;
* `Settings.assignInPlace_atomic` — all of this for any assignments to any settings.
-/

/-- A smaller bound is a check of its own after the larger one. -/
theorem Text.unsigned?_eq_filter {bound large : Nat} (h : bound ≤ large) (text : String) :
    unsigned? bound text = (unsigned? large text).filter (· < bound) := by
  rw [unsigned?, unsigned?, Option.filter_filter]
  congr 1
  funext n
  by_cases hn : n < bound
  · simp [hn, Nat.lt_of_lt_of_le hn h]
  · simp [hn]

namespace Settings

/-! ### Settings of two keys -/

section Two

variable (s : Settings) {x y : Setting}

/-- Values of different keys are set in either order. -/
theorem set_comm (h : x.key ≠ y.key) : (s.set x).set y = (s.set y).set x := by
  apply eq_of_get_eq
  intro key
  by_cases hy : key = y.key
  · subst hy
    rw [get_set_same, get_set_other _ x (Ne.symm h), get_set_same]
  · rw [get_set_other _ y hy]
    by_cases hx : key = x.key
    · subst hx
      rw [get_set_same, get_set_same]
    · rw [get_set_other _ x hx, get_set_other _ x hx, get_set_other _ y hy]

/-- The second value of a key replaces the first. -/
theorem set_set (h : x.key = y.key) : (s.set x).set y = s.set y := by
  apply eq_of_get_eq
  intro key
  by_cases hy : key = y.key
  · subst hy
    rw [get_set_same, get_set_same]
  · rw [get_set_other _ y hy, get_set_other _ y hy, get_set_other _ x (h ▸ hy)]

end Two

/-! ### A change in place is an assignment -/

/-- A text that spells no value ends the change before anything is written. -/
theorem orInvalid_bind {α β : Type} (key : Key) (text : String) (value? : Option α)
    (write : α → Change β) (s : Settings) :
    (orInvalid key text value? >>= write) s =
      match value? with
      | some value => write value s
      | none => .error (.invalid key text) s := by
  cases value? <;> rfl

/-- A check that fails ends the change before anything is written. -/
theorem check_bind {β : Type} (bad : Prop) [Decidable bad] (e : SettingsError) (next : Change β)
    (s : Settings) :
    (do
      if bad then
        throw e
      next : Change β) s = if bad then .error e s else next s := by
  by_cases h : bad
  · rw [if_pos h, if_pos h]
    rfl
  · rw [if_neg h, if_neg h]

/-- A key that has a least value checks it after reading a number of any size. -/
theorem atLeast?_eq (least : Nat) (text : String) :
    atLeast? least text = (Text.unsigned? wordCount text).bind fun n =>
      if n < least then none else some n := by
  rw [atLeast?]
  cases Text.unsigned? wordCount text with
  | none => rfl
  | some n =>
    by_cases h : n < least
    · simp [h]
    · simp [h, Nat.le_of_not_lt h]

/-- A number is read first and compared with the largest VLAN afterwards; zero stands for none. -/
theorem vlan?_eq (text : String) :
    vlan? text = (Text.unsigned? 65536 text).bind fun n =>
      if 4095 < n then none else some (if n = 0 then none else some (UInt16.ofNat n)) := by
  have hbound : vlanCount ≤ 65536 := by decide
  rw [vlan?, Text.unsigned?_eq_filter hbound]
  cases Text.unsigned? 65536 text with
  | none => rfl
  | some n =>
    by_cases h : 4095 < n
    · have hlarge : vlanCount ≤ n := h
      simp [h, hlarge]
    · have hsmall : n < vlanCount := Nat.lt_succ_of_le (Nat.le_of_not_lt h)
      simp [h, hsmall]

theorem setInPlace_eq (key : Key) (text : String) (s : Settings) :
    setInPlace key text s =
      match Setting.ofText? key text with
      | some x => .ok () (s.set x)
      | none => .error (.invalid key text) s := by
  -- One case for each key. A key that admits every text writes at once; one that reads a word or a
  -- number fails where there is none.
  cases key with
  | interface | location | label | sqlOutput | logFilter => rfl
  | ignoreTagged | ring | reverseDns =>
    rw [setInPlace, orInvalid_bind, Setting.ofText?]
    cases switch? text <;> rfl
  | filter =>
    rw [setInPlace, orInvalid_bind, Setting.ofText?]
    cases Filter.ofText? text <;> rfl
  | sink =>
    rw [setInPlace, orInvalid_bind, Setting.ofText?]
    cases ReportStyle.ofText? text <;> rfl
  | statsInterval =>
    rw [setInPlace, orInvalid_bind, Setting.ofText?, atLeast?_eq]
    cases Text.unsigned? wordCount text <;> rfl
  | nativeVlan =>
    rw [setInPlace, orInvalid_bind, Setting.ofText?, vlan?_eq]
    -- There are two ways to fail: no number, and a number that is no VLAN.
    cases Text.unsigned? 65536 text with
    | none => rfl
    | some n =>
      simp only [check_bind, Option.bind_some]
      split <;> rfl
  | bufferSize =>
    rw [setInPlace, orInvalid_bind, Setting.ofText?, atLeast?_eq]
    cases Text.unsigned? wordCount text with
    | none => rfl
    | some n =>
      simp only [check_bind, Option.bind_some]
      split <;> rfl
  | readTimeout =>
    rw [setInPlace, orInvalid_bind, Setting.ofText?, atLeast?_eq]
    cases Text.unsigned? wordCount text with
    | none => rfl
    | some n =>
      simp only [check_bind, Option.bind_some, Nat.lt_one_iff]
      split <;> rfl

/-- What is left behind is the settings that the assignment leads to, or those that were there. -/
theorem assignInPlace_eq (a : Assignment) (s : Settings) :
    assignInPlace a s =
      match (s.assign a).result with
      | .ok t => .ok (s.assign a).log t
      | .error e => .error e s := by
  rw [assignInPlace, assign]
  cases Key.ofName? a.key with
  | none => rfl
  | some key =>
    have hset := setInPlace_eq key a.value s
    cases hvalue : Setting.ofText? key a.value with
    | none =>
      rw [hvalue] at hset
      simp only [hvalue, bind, EStateM.bind, hset]
    | some x =>
      rw [hvalue] at hset
      simp only [hvalue, bind, EStateM.bind, hset]
      rfl

/-! ### All that a change in place can do -/

section Outcomes

variable {s t : Settings} {a : Assignment}

/-- A change that fails leaves the settings alone, since every check comes before its write. -/
theorem eq_of_assignInPlace_error {e : SettingsError} (h : assignInPlace a s = .error e t) :
    t = s := by
  rw [assignInPlace_eq] at h
  split at h
  · cases h
  · cases h
    rfl

/-- An assignment that succeeds gives its key one value, or warns of its key and does nothing. It
    does the same to all settings, since it does not look at them. -/
theorem assignInPlace_ok_cases {said : Log} (h : assignInPlace a s = .ok said t) :
    (∃ x : Setting, a.key = x.key.name ∧ t = s.set x ∧
      ∀ s', assignInPlace a s' = .ok said (s'.set x)) ∨
    (∀ key : Key, a.key ≠ key.name) ∧ t = s ∧ ∀ s', assignInPlace a s' = .ok said s' := by
  simp only [assignInPlace_eq, assign] at h ⊢
  cases hname : Key.ofName? a.key with
  | none =>
    rw [hname] at h
    cases h
    refine .inr ⟨fun key hkey => ?_, rfl, fun s' => rfl⟩
    rw [Key.ofName?_eq_some_iff.2 hkey] at hname
    cases hname
  | some key =>
    simp only [hname] at h
    cases hvalue : Setting.ofText? key a.value with
    | none =>
      simp only [hvalue] at h
      cases h
    | some x =>
      simp only [hvalue] at h
      cases h
      obtain rfl := Setting.key_of_ofText? hvalue
      exact .inl ⟨x, Key.ofName?_eq_some_iff.1 hname, rfl, fun s' => by simp only [hvalue]⟩

end Outcomes

/-- For all settings and assignments: an assignment that fails leaves everything as it was. One that
    succeeds leaves everything but its key as it was, and everything if its key means nothing; made
    again, it changes nothing; and it succeeds whatever the settings are. Of two assignments that
    succeed one after the other, the second one succeeds without the first. If their keys differ,
    they lead to the same in either order; if not, the second alone leads where both do. -/
theorem assignInPlace_atomic (s : Settings) (a : Assignment) :
    (∀ e t, assignInPlace a s = .error e t → t = s) ∧
    (∀ said t, assignInPlace a s = .ok said t →
      (∀ key : Key, a.key ≠ key.name → t.get key = s.get key) ∧
      ((∀ key : Key, a.key ≠ key.name) → t = s) ∧
      assignInPlace a t = .ok said t ∧
      ∀ s', ∃ t', assignInPlace a s' = .ok said t') ∧
    ∀ b saidA saidB t u, assignInPlace a s = .ok saidA t → assignInPlace b t = .ok saidB u →
      ∃ v, assignInPlace b s = .ok saidB v ∧
        (a.key ≠ b.key → assignInPlace a v = .ok saidA u) ∧ (a.key = b.key → v = u) := by
  refine ⟨fun e t h => eq_of_assignInPlace_error h, ?_, ?_⟩
  · intro said t h
    obtain ⟨x, hx, rfl, hall⟩ | ⟨hunknown, rfl, hall⟩ := assignInPlace_ok_cases h
    · refine ⟨fun key hkey => ?_, fun hnone => absurd hx (hnone x.key), ?_,
        fun s' => ⟨s'.set x, hall s'⟩⟩
      · apply get_set_other
        rintro rfl
        exact hkey hx
      · rw [hall, set_set s rfl]
    · exact ⟨fun _ _ => rfl, fun _ => rfl, h, fun s' => ⟨s', hall s'⟩⟩
  · intro b saidA saidB t u ha hb
    obtain ⟨x, hx, rfl, halla⟩ | ⟨hunknown, rfl, halla⟩ := assignInPlace_ok_cases ha
    · obtain ⟨y, hy, rfl, hallb⟩ | ⟨hunknown, rfl, hallb⟩ := assignInPlace_ok_cases hb
      · -- Both write: the names of their keys tell whether they write the same key.
        refine ⟨s.set y, hallb s, fun hne => ?_, fun hsame => ?_⟩
        · rw [halla, set_comm s fun hkeys => hne (by rw [hx, hy, hkeys])]
        · rw [set_set s (Key.name_injective (by rw [← hx, ← hy, hsame]))]
      · exact ⟨s, hallb s, fun _ => ha, fun hsame => absurd (hsame ▸ hx) (hunknown x.key)⟩
    · exact ⟨u, hb, fun _ => halla u, fun _ => rfl⟩

/-- A native VLAN and then a ring that drops what is new, set in the other order. -/
theorem assignInPlace_in_either_order :
    ∃ v, assignInPlace ⟨"ring", "off"⟩ {} = .ok [] v ∧
      assignInPlace ⟨"native_vlan", "4095"⟩ v =
        .ok [] { nativeVlan := some 4095, overflow := .dropNew } := by
  have hvlan : assignInPlace ⟨"native_vlan", "4095"⟩ {} =
      .ok [] { nativeVlan := some 4095 } := by
    rw [assignInPlace_eq]
    rfl
  have hring : assignInPlace ⟨"ring", "off"⟩ { nativeVlan := some 4095 } =
      .ok [] { nativeVlan := some 4095, overflow := .dropNew } := by
    rw [assignInPlace_eq]
    rfl
  obtain ⟨v, hfirst, hother, -⟩ :=
    (assignInPlace_atomic {} ⟨"native_vlan", "4095"⟩).2.2 ⟨"ring", "off"⟩ _ _ _ _ hvlan hring
  exact ⟨v, hfirst, hother (by decide)⟩

end Settings

end LanWatch
