import LanWatch.Proofs.Settings.Assignments
import LanWatch.Proofs.Text.Trimming

namespace LanWatch

/-!
# Layers of settings

A setting comes from the environment, or else from the file, or else it has its default. Every layer
is checked in full, also where a later one replaces its values: the lines of the file from the first
to the last, and then the variables in the order of the keys.

* `Layer` — places that are looked at in order, and what they say about keys;
* `Layer.firstBad_iff`, `Layer.last_iff` — the error of a layer, and its value for a key;
* `Settings.Gives`, `Settings.file` — what a line says, and the layer of the lines;
* `Settings.environment` — the layer of the variables;
* `Settings.layered` — the settings that a file and an environment lead to, or the error.
-/

/-- A text spells a value of a key. -/
def Key.Admits (key : Key) (text : String) : Prop :=
  Setting.ofText? key text ≠ none

/-! ### Layers -/

/-- Places that are looked at in order. A place may hold an assignment, and if it is one of a key,
    the place says a value for that key. -/
structure Layer (α : Type) where
  places : List α
  assignment? : α → Option Assignment
  Says : α → Key → String → Prop
  says_iff : ∀ {x : α} {key : Key} {value : String},
    Says x key value ↔ assignment? x = some ⟨key.name, value⟩

namespace Layer

variable {α : Type} (L : Layer α)

/-- The assignments of a layer, in order. -/
def assignments : List Assignment :=
  L.places.filterMap L.assignment?

/-- A place says no value for a key that the key does not admit. -/
def ValidAt (x : α) : Prop :=
  ∀ key value, L.Says x key value → key.Admits value

/-- All places are valid. -/
def Valid : Prop :=
  ∀ x ∈ L.places, L.ValidAt x

/-- The first place that is not valid says a value for a key, and the key does not admit it. -/
def FirstBad (key : Key) (value : String) : Prop :=
  ∃ before x after, L.places = before ++ x :: after ∧ (∀ y ∈ before, L.ValidAt y) ∧
    L.Says x key value ∧ ¬key.Admits value

/-- The last place that says a value for a key says this one. -/
def Last (key : Key) (value : String) : Prop :=
  ∃ before x after, L.places = before ++ x :: after ∧ L.Says x key value ∧
    ∀ y ∈ after, ∀ v, ¬L.Says y key v

/-- No place says a value for a key. -/
def Silent (key : Key) : Prop :=
  ∀ x ∈ L.places, ∀ value, ¬L.Says x key value

variable {L}

/-- Looking through what places hold is looking through the places. -/
theorem findSome?_filterMap {β γ : Type} (f : α → Option β) (g : β → Option γ) (l : List α) :
    (l.filterMap f).findSome? g = l.findSome? fun x => (f x).bind g := by
  rw [← List.head?_filterMap, List.filterMap_filterMap, List.head?_filterMap]

/-- An assignment is at fault exactly if its key does not admit its value. -/
theorem fault_iff {x : α} {e : SettingsError} :
    (L.assignment? x).bind Assignment.fault? = some e ↔
      ∃ key value, L.Says x key value ∧ ¬key.Admits value ∧ e = .invalid key value := by
  simp only [Option.bind_eq_some_iff, Assignment.fault?_eq_some_iff, L.says_iff, Key.Admits,
    not_not]
  constructor
  · rintro ⟨⟨name, value⟩, hx, key, rfl, hvalue, he⟩
    exact ⟨key, value, hx, hvalue, he⟩
  · rintro ⟨key, value, hx, hvalue, he⟩
    exact ⟨⟨key.name, value⟩, hx, key, rfl, hvalue, he⟩

/-- A line or variable is fine exactly if its assignment is. -/
theorem validAt_iff {x : α} :
    L.ValidAt x ↔ (L.assignment? x).bind Assignment.fault? = none := by
  rw [Option.eq_none_iff_forall_ne_some]
  constructor
  · intro hvalid e hfault
    obtain ⟨key, value, hsays, hbad, -⟩ := fault_iff.1 hfault
    exact hbad (hvalid key value hsays)
  · intro hnone key value hsays
    by_contra hbad
    exact hnone _ (fault_iff.2 ⟨key, value, hsays, hbad, rfl⟩)

/-- A layer is fine exactly if no assignment of it is at fault. -/
theorem valid_iff : L.Valid ↔ L.assignments.findSome? Assignment.fault? = none := by
  rw [assignments, findSome?_filterMap, List.findSome?_eq_none_iff]
  exact forall₂_congr fun x _ => validAt_iff

/-- The first assignment at fault is that of the first line or variable which is not fine. -/
theorem firstBad_iff {e : SettingsError} :
    L.assignments.findSome? Assignment.fault? = some e ↔
      ∃ key value, L.FirstBad key value ∧ e = .invalid key value := by
  rw [assignments, findSome?_filterMap, List.findSome?_eq_some_iff]
  constructor
  · rintro ⟨before, x, after, hplaces, hfault, hbefore⟩
    obtain ⟨key, value, hsays, hbad, he⟩ := fault_iff.1 hfault
    have hvalid : ∀ y ∈ before, L.ValidAt y := fun y hy => validAt_iff.2 (hbefore y hy)
    exact ⟨key, value, ⟨before, x, after, hplaces, hvalid, hsays, hbad⟩, he⟩
  · rintro ⟨key, value, ⟨before, x, after, hplaces, hvalid, hsays, hbad⟩, he⟩
    have hfault := fault_iff.2 ⟨key, value, hsays, hbad, he⟩
    exact ⟨before, x, after, hplaces, hfault, fun y hy => validAt_iff.1 (hvalid y hy)⟩

/-- An assignment gives a key its value exactly if the line or variable says so. -/
theorem value_iff {x : α} {key : Key} {value : String} :
    (L.assignment? x).bind (Assignment.value? key) = some value ↔ L.Says x key value := by
  simp [Option.bind_eq_some_iff, Assignment.value?_eq_some_iff, L.says_iff]

/-- The last place is the first one from the end. -/
theorem last_iff {key : Key} {value : String} :
    Assignment.lastValue? key L.assignments = some value ↔ L.Last key value := by
  -- The last value from the left is the first one from the right.
  rw [Assignment.lastValue?, assignments, ← List.filterMap_reverse, findSome?_filterMap,
    List.findSome?_eq_some_iff]
  constructor
  · rintro ⟨after, x, before, hplaces, hvalue, hafter⟩
    refine ⟨before.reverse, x, after.reverse, ?_, value_iff.1 hvalue, ?_⟩
    · simpa using congrArg List.reverse hplaces
    · intro y hy v hsays
      rw [← value_iff, hafter y (List.mem_reverse.1 hy)] at hsays
      cases hsays
  · rintro ⟨before, x, after, hplaces, hsays, hafter⟩
    refine ⟨after.reverse, x, before.reverse, ?_, value_iff.2 hsays, ?_⟩
    · simpa using congrArg List.reverse hplaces
    · intro y hy
      rw [Option.eq_none_iff_forall_ne_some]
      intro v hvalue
      exact hafter y (List.mem_reverse.1 hy) v (value_iff.1 hvalue)

/-- No assignment gives a key a value exactly if the layer is silent about it. -/
theorem silent_iff {key : Key} :
    Assignment.lastValue? key L.assignments = none ↔ L.Silent key := by
  rw [Assignment.lastValue?, assignments, ← List.filterMap_reverse, findSome?_filterMap,
    List.findSome?_eq_none_iff]
  simp only [Silent, List.mem_reverse, Option.eq_none_iff_forall_ne_some, ne_eq, value_iff]

end Layer

namespace Settings

/-! ### The file -/

/-- The first character of a comment that is no blank is a number sign. -/
def IsComment (line : List Char) : Prop :=
  (line.find? fun c => !Text.isBlank c) = some '#'

/-- A line that is no comment gives what follows its first equals sign to the key that stands before
    it. Blanks around the key and around the value belong to neither. -/
def Gives (line : List Char) (key : Key) (value : String) : Prop :=
  ¬IsComment line ∧ ∃ before after, line = before ++ '=' :: after ∧ '=' ∉ before ∧
    Text.trimChars before = key.name.toList ∧ Text.trimChars after = value.toList

/-- A comment assigns nothing. -/
theorem ofLine?_comment {line : List Char} (h : IsComment line) :
    Assignment.ofLine? line = none := by
  rw [IsComment, ← Text.head?_trimChars] at h
  simp [Assignment.ofLine?, h]

/-- Trimming a line adds no equals sign. -/
theorem ofLine?_of_notMem {line : List Char} (h : '=' ∉ line) :
    Assignment.ofLine? line = none := by
  have htrimmed : '=' ∉ Text.trimChars line := fun hmem => h (Text.mem_of_mem_trimChars hmem)
  simp [Assignment.ofLine?, Text.cutAt?_eq_none_iff.2 htrimmed]

/-- Trimming a line takes no more away than trimming the two sides of the equals sign does. -/
theorem ofLine?_append {before after : List Char} (hequals : '=' ∉ before)
    (hcomment : ¬IsComment (before ++ '=' :: after)) :
    Assignment.ofLine? (before ++ '=' :: after) =
      some ⟨.ofList (Text.trimChars before), .ofList (Text.trimChars after)⟩ := by
  have hkept : '=' ∉ before.dropWhile Text.isBlank :=
    fun hmem => hequals ((List.dropWhile_sublist _).mem hmem)
  have hcut := Text.cutAt?_append hkept (Text.dropEndWhile Text.isBlank after)
  rw [← Text.trimChars_append_cons (by decide)] at hcut
  rw [IsComment, ← Text.head?_trimChars] at hcomment
  simp only [Assignment.ofLine?, if_neg hcomment, hcut, Option.map_some,
    Text.trimChars_dropWhile, Text.trimChars_dropEndWhile]

/-- A line gives a key a value exactly if it is the assignment of that value. -/
theorem gives_iff {line : List Char} {key : Key} {value : String} :
    Gives line key value ↔ Assignment.ofLine? line = some ⟨key.name, value⟩ := by
  constructor
  · rintro ⟨hcomment, before, after, rfl, hequals, hkey, hvalue⟩
    rw [ofLine?_append hequals hcomment, hkey, hvalue, String.ofList_toList, String.ofList_toList]
  · intro h
    -- A comment and a line without an equals sign assign nothing.
    by_cases hcomment : IsComment line
    · rw [ofLine?_comment hcomment] at h
      cases h
    by_cases hequals : '=' ∈ line
    · obtain ⟨before, after, rfl, hbefore⟩ := List.eq_append_cons_of_mem hequals
      rw [ofLine?_append hbefore hcomment, Option.some.injEq, Assignment.mk.injEq] at h
      obtain ⟨hkey, hvalue⟩ := h
      exact ⟨hcomment, before, after, rfl, hbefore, by simp [← hkey], by simp [← hvalue]⟩
    · rw [ofLine?_of_notMem hequals] at h
      cases h

example : Assignment.ofLine? " label = a = # b\r".toList = some ⟨"label", "a = # b"⟩ := by decide

/-- The lines of a file. -/
def file (text : String) : Layer (List Char) where
  places := Text.pieces '\n' text.toList
  assignment? := Assignment.ofLine?
  Says := Gives
  says_iff := gives_iff

/-! ### The environment -/

/-- The variable of a key is set to a value, blanks around it aside. -/
def IsSet (env : String → Option String) (key : Key) (value : String) : Prop :=
  ∃ raw, env key.variableName = some raw ∧ Text.trim raw = value

/-- The variables of an environment, in the order of the keys. -/
def environment (env : String → Option String) : Layer Key where
  places := Key.all
  assignment? key := (env key.variableName).map fun raw => ⟨key.name, Text.trim raw⟩
  Says place key value := place = key ∧ IsSet env key value
  says_iff := by
    intro place key value
    simp only [IsSet, Option.map_eq_some_iff, Assignment.mk.injEq]
    constructor
    · rintro ⟨rfl, raw, hset, hvalue⟩
      exact ⟨raw, hset, rfl, hvalue⟩
    · rintro ⟨raw, hset, hname, hvalue⟩
      -- a key is known by its name
      have hkey := Key.ofName?_eq_some_iff.2 hname
      rw [Key.ofName?_name, Option.some.injEq] at hkey
      subst hkey
      exact ⟨rfl, raw, hset, hvalue⟩

variable {env : String → Option String} {key : Key} {value : String}

/-- The environment is silent about a key exactly if its variable is not set. -/
theorem environment_silent_iff : (environment env).Silent key ↔ env key.variableName = none := by
  rw [Option.eq_none_iff_forall_ne_some]
  constructor
  · intro hsilent raw hset
    exact hsilent key key.mem_all (Text.trim raw) ⟨rfl, raw, hset, rfl⟩
  · rintro hnone place - value ⟨-, raw, hset, -⟩
    exact hnone raw hset

/-- No two variables are of one key, so that the last one is the only one. -/
theorem environment_last_iff : (environment env).Last key value ↔ IsSet env key value := by
  constructor
  · rintro ⟨-, place, -, -, ⟨-, hset⟩, -⟩
    exact hset
  · rintro ⟨raw, hraw, rfl⟩
    cases hvalue : Assignment.lastValue? key (environment env).assignments with
    -- A variable that is set is not passed over.
    | none =>
      have hunset := environment_silent_iff.1 (Layer.silent_iff.1 hvalue)
      rw [hraw] at hunset
      cases hunset
    | some last =>
      have hlast := Layer.last_iff.1 hvalue
      -- A variable stands only once in the environment, so the last value is its value.
      have hsame : last = Text.trim raw := by
        obtain ⟨-, place, -, -, ⟨-, raw', hraw', rfl⟩, -⟩ := hlast
        rw [hraw, Option.some.injEq] at hraw'
        rw [hraw']
      rwa [hsame] at hlast

/-- What the environment says last of a key is what its one variable says. -/
theorem environment_lastValue? (env : String → Option String) (key : Key) :
    Assignment.lastValue? key (environment env).assignments =
      (env key.variableName).map Text.trim := by
  cases hset : env key.variableName with
  | none => exact Layer.silent_iff.2 (environment_silent_iff.2 hset)
  | some raw => exact Layer.last_iff.2 (environment_last_iff.2 ⟨raw, hset, rfl⟩)

/-! ### Both layers -/

/-- What a file with the given text and an environment lead to. -/
def ofLayers (text : String) (env : String → Option String) : Except SettingsError Settings :=
  ((parse text).andThen fun s => s.override env).result

/-- The value of a key comes from the uppermost layer that says one. -/
structure FromLayers (text : String) (env : String → Option String) (s : Settings) (key : Key) :
    Prop where
  overridden : ∀ raw, env key.variableName = some raw →
    Setting.ofText? key (Text.trim raw) = some (s.get key)
  written : env key.variableName = none → ∀ value, (file text).Last key value →
    Setting.ofText? key value = some (s.get key)
  standard : env key.variableName = none → (file text).Silent key →
    s.get key = ({} : Settings).get key

variable {text : String} {s t : Settings}

/-- The layers are one list of assignments, those of the file first. -/
theorem ofLayers_eq (text : String) (env : String → Option String) : ofLayers text env =
    (assignAll {} ((file text).assignments ++ (environment env).assignments)).result := by
  rw [assignAll_append]
  rfl

/-- The assignments of the environment come after those of the file. -/
theorem fromLayers_iff : FromLayers text env s key ↔ Takes key {} s
    (Assignment.lastValue? key ((file text).assignments ++ (environment env).assignments)) := by
  simp only [takes_iff, Assignment.lastValue?_append, environment_lastValue?,
    Option.or_eq_some_iff, Option.or_eq_none_iff, Option.map_eq_some_iff, Option.map_eq_none_iff,
    Layer.last_iff, Layer.silent_iff]
  -- The uppermost layer with a value gives it, and the standard value stands if there is none.
  constructor
  · intro h
    refine ⟨?_, fun ⟨hunset, hsilent⟩ => h.standard hunset hsilent⟩
    rintro value (⟨raw, hset, rfl⟩ | ⟨hunset, hlast⟩)
    · exact h.overridden raw hset
    · exact h.written hunset value hlast
  · rintro ⟨htaken, hkept⟩
    refine ⟨?_, ?_, fun hunset hsilent => hkept ⟨hunset, hsilent⟩⟩
    · intro raw hset
      exact htaken (Text.trim raw) (.inl ⟨raw, hset, rfl⟩)
    · intro hunset value hlast
      exact htaken value (.inr ⟨hunset, hlast⟩)

/-- Settings with the same value of each key are the same. -/
theorem eq_of_get_eq (h : ∀ key, s.get key = t.get key) : s = t := by
  have hkeys : ∀ key ∈ Key.all, s.get key = t.get key := fun key _ => h key
  cases s
  cases t
  simpa [Key.all, get] using hkeys

/-- What is taken for each key leaves nothing open. -/
theorem eq_of_takes {texts : Key → Option String} (hs : ∀ key, Takes key {} s (texts key))
    (ht : ∀ key, Takes key {} t (texts key)) : s = t := by
  refine eq_of_get_eq fun key => ?_
  have hs := hs key
  have ht := ht key
  cases htext : texts key with
  | none =>
    rw [htext] at hs ht
    exact Eq.trans hs (Eq.symm ht)
  | some text =>
    rw [htext] at hs ht
    exact Option.some.inj (Eq.trans (Eq.symm hs) ht)

/-- Settings come of the layers exactly if nothing in them is at fault. -/
theorem exists_ofLayers_ok_iff :
    (∃ s, ofLayers text env = .ok s) ↔ (file text).Valid ∧ (environment env).Valid := by
  simp only [ofLayers_eq, exists_assignAll_ok_iff, ← List.findSome?_eq_none_iff,
    List.findSome?_append, Option.or_eq_none_iff, Layer.valid_iff]

/-- Which settings these are is told key by key. -/
theorem ofLayers_eq_ok_iff : ofLayers text env = .ok s ↔
    (file text).Valid ∧ (environment env).Valid ∧ ∀ key, FromLayers text env s key := by
  constructor
  · intro h
    obtain ⟨hfile, henvironment⟩ := exists_ofLayers_ok_iff.1 ⟨s, h⟩
    rw [ofLayers_eq] at h
    exact ⟨hfile, henvironment, fun key => fromLayers_iff.2 (takes_of_assignAll h key)⟩
  · rintro ⟨hfile, henvironment, hlayers⟩
    obtain ⟨t, ht⟩ := exists_ofLayers_ok_iff.2 ⟨hfile, henvironment⟩
    have htaken := ofLayers_eq text env ▸ ht
    rw [eq_of_takes (fun key => fromLayers_iff.1 (hlayers key)) (takes_of_assignAll htaken)]
    exact ht

/-- The first offence in the file comes first, and then the first one in the environment. -/
theorem ofLayers_eq_error_iff {e : SettingsError} : ofLayers text env = .error e ↔
    ∃ key value, e = .invalid key value ∧ ((file text).FirstBad key value ∨
      (file text).Valid ∧ (environment env).FirstBad key value) := by
  rw [ofLayers_eq, assignAll_eq_error_iff, List.findSome?_append, Option.or_eq_some_iff,
    Layer.firstBad_iff, Layer.firstBad_iff, ← Layer.valid_iff]
  constructor
  · rintro (⟨key, value, hbad, he⟩ | ⟨hvalid, key, value, hbad, he⟩)
    · exact ⟨key, value, he, .inl hbad⟩
    · exact ⟨key, value, he, .inr ⟨hvalid, hbad⟩⟩
  · rintro ⟨key, value, he, hbad | ⟨hvalid, hbad⟩⟩
    · exact .inl ⟨key, value, hbad, he⟩
    · exact .inr ⟨hvalid, key, value, hbad, he⟩

/-- A file and an environment lead to settings exactly if all lines and all variables are valid, and
    these settings have each value from the uppermost layer. Otherwise the error names the first
    line that is not valid, or the first variable if all lines are. -/
theorem layered (text : String) (env : String → Option String) :
    ((∃ s, ofLayers text env = .ok s) ↔ (file text).Valid ∧ (environment env).Valid) ∧
      (∀ s, ofLayers text env = .ok s ↔
        (file text).Valid ∧ (environment env).Valid ∧ ∀ key, FromLayers text env s key) ∧
      ∀ e, ofLayers text env = .error e ↔ ∃ key value, e = .invalid key value ∧
        ((file text).FirstBad key value ∨
          (file text).Valid ∧ (environment env).FirstBad key value) :=
  ⟨exists_ofLayers_ok_iff, fun _ => ofLayers_eq_ok_iff, fun _ => ofLayers_eq_error_iff⟩

/-- A value that is replaced is checked all the same. -/
example : ofLayers "ring = maybe\nring = on" (fun _ => none) = .error (.invalid .ring "maybe") := by
  decide

end Settings

end LanWatch
