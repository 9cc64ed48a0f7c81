import LanWatch.Proofs.Text.Utf8
import LanWatch.Proofs.Truncation.Payloads
import Mathlib.Data.List.DropRight

namespace LanWatch

/-!
# What a payload tells of a host

Each decoder changes the part of a record that its protocol is about and leaves the rest alone,
however its scan ends. What it puts there has the form that a name of its protocol has.

* `Dhcp.Tells`, `Dhcp.tells_scan` — DHCP tells the message and a host name;
* `ChannelAccess.Tells`, `ChannelAccess.tells_scan` — Channel Access tells process variables;
* `NetBios.scan_cases` — a NetBIOS packet tells a name, or nothing;
* `Dhcp.hostName_form`, `ChannelAccess.name_form`, `NetBios.name?_form` — lengths and characters of
    such names.
-/

/-! ### DHCP -/

namespace Dhcp

/-- A DHCP record is told nothing but its message and a host name. -/
structure Tells (s t : Sighting) : Prop where
  rest : ∃ message, t = { s with kind := .dhcp message, dhcpName := t.dhcpName }
  dhcpName : t.dhcpName = s.dhcpName ∨
    ∃ value : Bytes, value.length ≤ maxHostName ∧ t.dhcpName = some (hostName value)

theorem Tells.refl {s : Sighting} (h : ∃ message, s.kind = .dhcp message) : Tells s s := by
  obtain ⟨message, hkind⟩ := h
  refine ⟨⟨message, ?_⟩, .inl rfl⟩
  rw [← hkind]

/-- What options tell in two goes, they tell. -/
theorem Tells.trans {s t u : Sighting} (h : Tells s t) (h' : Tells t u) : Tells s u := by
  obtain ⟨m, hm⟩ := h.rest
  obtain ⟨n, hn⟩ := h'.rest
  refine ⟨⟨n, ?_⟩, ?_⟩
  · rw [hn, hm]
  · rcases h'.dhcpName with hsame | hnew
    · rw [hsame]
      exact h.dhcpName
    · exact .inr hnew

/-- Options leave a kind of DHCP, which may tell more. -/
theorem Tells.kind {s t : Sighting} (h : Tells s t) : ∃ message, t.kind = .dhcp message := by
  obtain ⟨message, hrest⟩ := h.rest
  exact ⟨message, by rw [hrest]⟩

/-- A message type tells the kind and nothing else. -/
theorem tells_applyMessageType (value : Bytes) {s : Sighting}
    (h : ∃ message, s.kind = .dhcp message) : Tells s (applyMessageType value s).1 := by
  unfold applyMessageType
  split
  · split
    · exact ⟨⟨_, rfl⟩, .inl rfl⟩
    · exact .refl h
  · exact .refl h

/-- One item that does not stop the scan. -/
theorem tells_of_result? {i : Item} {s s' : Sighting} (h : ∃ message, s.kind = .dhcp message)
    (hresult : i.result? s = some s') : Tells s s' := by
  cases i with
  | pad =>
    obtain rfl := Option.some.inj hresult
    exact .refl h
  | option code value =>
    simp only [Item.result?] at hresult
    -- A host name that is too long gives no record, and a shorter one is the text of its bytes.
    split at hresult
    · split at hresult
      · cases hresult
      · rename_i hshort
        obtain rfl := Option.some.inj hresult
        obtain ⟨message, hkind⟩ := h
        exact ⟨⟨message, by rw [← hkind]⟩, .inr ⟨value, Nat.le_of_not_lt hshort, rfl⟩⟩
    · split at hresult
      · obtain rfl := Option.some.inj hresult
        exact tells_applyMessageType value h
      · obtain rfl := Option.some.inj hresult
        exact .refl h

/-- All items, by induction on them. -/
theorem tells_refine (ending : Ending) (is : List Item) {s : Sighting}
    (h : ∃ message, s.kind = .dhcp message) : Tells s (refine ending is s).sighting := by
  induction is generalizing s with
  | nil => exact .refl h
  | cons i is ih =>
    rw [sighting_refine_cons]
    cases hresult : i.result? s with
    | none => exact .refl h
    | some s' =>
      have htells := tells_of_result? h hresult
      exact htells.trans (ih htells.kind)

/-- Whatever a message holds and however its scan ends, it tells what DHCP is about. -/
theorem tells_scan (body : Bytes) (s : Sighting) :
    Tells { s with kind := .dhcp none } (scan body s).sighting := by
  have hkind : ∃ message, ({ s with kind := .dhcp none } : Sighting).kind = .dhcp message :=
    ⟨none, rfl⟩
  unfold scan
  simp only
  split
  · exact .refl hkind
  · split
    · exact .refl hkind
    · split
      · exact tells_refine _ _ hkind
      · exact .refl hkind

/-- A host name has no NUL, and no more characters than its option had bytes. -/
theorem hostName_form (value : Bytes) :
    '\x00' ∉ (hostName value).toList ∧ (hostName value).length ≤ value.length := by
  refine ⟨Text.nul_notMem_decodeLossy value.not_mem_untilNul, ?_⟩
  exact Nat.le_trans (Text.length_decodeLossy_le _) (Bytes.untilByte_length_le _ value)

end Dhcp

/-! ### Channel Access -/

namespace ChannelAccess

/-- A record is told nothing but names of process variables, as many as there is room for. -/
structure Tells (s t : Sighting) : Prop where
  rest : t = { s with pvNames := t.pvNames }
  room : s.pvNames.length ≤ Sighting.maxPvNames → t.pvNames.length ≤ Sighting.maxPvNames
  pvNames : ∀ n ∈ t.pvNames, n ∈ s.pvNames ∨ ∃ payload, n = name payload ∧ n ≠ ""

theorem Tells.refl (s : Sighting) : Tells s s :=
  ⟨rfl, id, fun _ => .inl⟩

/-- What messages tell in two goes, they tell. -/
theorem Tells.trans {s t u : Sighting} (h : Tells s t) (h' : Tells t u) : Tells s u where
  rest := by rw [h'.rest, h.rest]
  room hroom := h'.room (h.room hroom)
  pvNames n hn := (h'.pvNames n hn).elim (h.pvNames n) .inr

/-- A message tells at most one name, if there is room for it. -/
theorem tells_apply (s : Sighting) (m : Message) : Tells s (m.apply s) := by
  cases m with
  | version payload => exact .refl s
  | search payload =>
    rw [Message.apply]
    split
    · exact .refl s
    · rename_i hname
      unfold Sighting.addPvName
      split
      · -- The name goes to the end of the list, which had room for it.
        rename_i hroom
        rw [Sighting.hasRoom, decide_eq_true_eq] at hroom
        refine ⟨rfl, fun _ => ?_, ?_⟩
        · rw [List.length_append, List.length_singleton]
          exact hroom
        · intro n hn
          rcases List.mem_append.1 hn with hn | hn
          · exact .inl hn
          · rw [List.mem_singleton] at hn
            subst hn
            exact .inr ⟨payload, rfl, hname⟩
      · exact .refl s

/-- All messages, by induction on them. -/
theorem tells_foldl (ms : List Message) (s : Sighting) : Tells s (ms.foldl Message.apply s) := by
  induction ms generalizing s with
  | nil => exact .refl s
  | cons m ms ih => exact (tells_apply s m).trans (ih (m.apply s))

/-- Whatever a datagram holds and however its scan ends, it tells what Channel Access is about. -/
theorem tells_scan (body : Bytes) (s : Sighting) : Tells s (scan body s).sighting := by
  rw [scan, sighting_refine]
  exact tells_foldl _ s

/-- A name has no NUL, and no more characters than its limit has bytes. -/
theorem name_form (payload : Bytes) :
    '\x00' ∉ (name payload).toList ∧ (name payload).length ≤ maxName := by
  refine ⟨Text.nul_notMem_decodeLossy fun h => ?_, ?_⟩
  · exact payload.not_mem_untilNul (List.mem_of_mem_take h)
  · exact Nat.le_trans (Text.length_decodeLossy_le _) (List.length_take_le _ _)

end ChannelAccess

/-! ### NetBIOS -/

namespace NetBios

/-- A packet tells nothing, or a name that is not empty. -/
theorem scan_cases (body : Bytes) (s : Sighting) :
    (scan body s).sighting = s ∨
      ∃ label name, name? label = some name ∧ name ≠ "" ∧
        (scan body s).sighting = { s with netbiosName := some name } := by
  -- The record changes only where there is a name to decode, its letters are whole and its text is
  -- not empty.
  unfold scan apply
  split
  · exact .inl rfl
  · exact .inl rfl
  · exact .inl rfl
  · rename_i label _
    split
    · exact .inl rfl
    · rename_i name hname
      split
      · exact .inl rfl
      · rename_i hne
        exact .inr ⟨label, name, hname, hne, rfl⟩

/-- A name is added to the record or not, but its kind stays. -/
theorem kind_scan (body : Bytes) (s : Sighting) : (scan body s).sighting.kind = s.kind := by
  rcases scan_cases body s with hsame | ⟨label, name, -, -, hnamed⟩
  · rw [hsame]
  · rw [hnamed]

/-- A name has no more characters than its place has bytes, and no padding at its end. -/
theorem name?_form {label : Bytes} {name : String} (h : name? label = some name) :
    name.length ≤ nameLength ∧ ∀ c ∈ name.toList.getLast?, isPadding c = false := by
  obtain ⟨bytes, -, rfl⟩ := Option.map_eq_some_iff.1 h
  rw [nameText, String.length_ofList, String.toList_ofList]
  have hdrop : ∀ cs, Text.dropEndWhile isPadding cs = cs.rdropWhile isPadding := fun _ => rfl
  rw [hdrop]
  constructor
  · -- No more characters than bytes, and no more after the padding is dropped.
    have hlength := (List.rdropWhile_prefix isPadding
      (l := (Text.decodeLossy (bytes.take nameLength)).toList)).length_le
    have hdecoded := Text.length_decodeLossy_le (bytes.take nameLength)
    have htake := List.length_take_le nameLength bytes
    rw [String.length_toList] at hlength
    omega
  · -- What is left after dropping does not end in what is dropped.
    intro c hc
    obtain ⟨hne, rfl⟩ := List.mem_getLast?_eq_getLast hc
    exact Bool.eq_false_iff.2 (List.rdropWhile_last_not isPadding _ hne)

end NetBios

end LanWatch
