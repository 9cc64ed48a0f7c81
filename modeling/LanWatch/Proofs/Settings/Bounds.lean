import LanWatch.Proofs.Frame.Sightings
import LanWatch.Proofs.Frame.Tagging
import LanWatch.Proofs.Pending.Refinement
import LanWatch.Proofs.Settings.Layers
import LanWatch.Proofs.Settings.Values
import LanWatch.Session

namespace LanWatch

/-!
# Settings that a session can start with

Every text that a key admits spells a value that a session can work with, and so does every default.
Whatever a file and an environment assign, a key has one of these values. So settings that are
accepted give a session its slots if memory holds them, and a dissector that labels each record with
a VLAN or with none.

* `Setting.InBounds` — the values that a session can work with;
* `Setting.inBounds_of_ofText?`, `Settings.inBounds_default` — what a text spells, and the defaults;
* `Settings.inBounds_of_accepted` — the values of settings that are accepted;
* `Settings.isVlan_of_mem_dissect` — the VLANs of the records of a dissector with given settings;
* `Settings.accepted_can_run` — what a session relies on;
* `Settings.accepted_beyond_memory` — settings that ask for more slots than there can be.
-/

/-- The number of a VLAN that frames can be tagged with, zero aside. -/
def IsVlan (vlan : UInt16) : Prop :=
  1 ≤ vlan.toNat ∧ vlan.toNat ≤ 4095

/-- The value is one that a session can work with. -/
def Setting.InBounds : Setting → Prop
  | interface name => name ≠ some ""
  | nativeVlan vlan => ∀ v, vlan = some v → IsVlan v
  | bufferSize slots => 2 ≤ slots
  | readTimeout milliseconds => 1 ≤ milliseconds
  | sqlOutput path => path ≠ some ""
  | ignoreTagged _ | ring _ | filter _ | statsInterval _ | location _ | label _ | sink _
  | reverseDns _ | logFilter _ => True

/-! ### What a text spells -/

/-- An empty text stands for no text. -/
theorem nonEmpty_ne_some_empty (text : String) : nonEmpty text ≠ some "" := by
  unfold nonEmpty
  by_cases h : text.isEmpty = true
  · simp [h]
  · rw [if_neg h]
    intro hempty
    obtain rfl := Option.some.inj hempty
    exact h rfl

/-- The number read is below the number of VLANs, and zero stands for none. -/
theorem isVlan_of_vlan? {text : String} {vlan : Option UInt16} (h : vlan? text = some vlan) :
    ∀ v, vlan = some v → IsVlan v := by
  intro v hv
  obtain ⟨n, hread, hn⟩ := Option.map_eq_some_iff.1 h
  rw [Text.unsigned?, Option.filter_eq_some_iff] at hread
  have hlt : n < 4096 := of_decide_eq_true hread.2
  by_cases hzero : n = 0
  · rw [if_pos hzero, hv] at hn
    cases hn
  · rw [if_neg hzero, hv] at hn
    obtain rfl := Option.some.inj hn
    -- A number below 4096 loses nothing in sixteen bits.
    have hnumber : (UInt16.ofNat n).toNat = n := by
      rw [UInt16.toNat_ofNat']
      exact Nat.mod_eq_of_lt (by omega)
    unfold IsVlan
    omega

/-- A number is only taken if it is large enough. -/
theorem le_of_atLeast? {least n : Nat} {text : String} (h : atLeast? least text = some n) :
    least ≤ n := by
  rw [atLeast?, Option.filter_eq_some_iff] at h
  simpa using h.2

theorem Setting.inBounds_of_ofText? {key : Key} {text : String} {x : Setting}
    (h : ofText? key text = some x) : x.InBounds := by
  -- One case for each key: the check of a key comes before its value.
  cases key with
  | interface | sqlOutput =>
    obtain rfl := Option.some.inj h
    exact nonEmpty_ne_some_empty text
  | nativeVlan =>
    obtain ⟨vlan, hvlan, rfl⟩ := Option.map_eq_some_iff.1 h
    exact isVlan_of_vlan? hvlan
  | bufferSize | readTimeout =>
    obtain ⟨n, hn, rfl⟩ := Option.map_eq_some_iff.1 h
    exact le_of_atLeast? hn
  | location | label | logFilter =>
    obtain rfl := Option.some.inj h
    trivial
  | ignoreTagged | ring | filter | statsInterval | sink | reverseDns =>
    obtain ⟨_, -, rfl⟩ := Option.map_eq_some_iff.1 h
    trivial

namespace Settings

/-! ### What a key can have -/

/-- Every default passes the check of its key. -/
theorem inBounds_default (key : Key) : (({} : Settings).get key).InBounds := by
  cases key <;> simp [get, Setting.InBounds]

variable {text : String} {env : String → Option String} {s : Settings}

/-- A key has its default, or a value that some assignment spells. -/
theorem inBounds_of_accepted (h : ofLayers text env = .ok s) (key : Key) :
    (s.get key).InBounds := by
  rw [ofLayers_eq] at h
  rcases get_of_assignAll h key with hdefault | ⟨a, -, -, hspelled⟩
  · rw [hdefault]
    exact inBounds_default key
  · exact Setting.inBounds_of_ofText? hspelled

/-! ### What a session does with the values -/

/-- There are never too few slots, so whether they can be set up is a question of memory alone. -/
theorem createRing_eq_ok_iff (h : (s.get .bufferSize).InBounds) {memory : Nat} {r : Ring} :
    s.createRing memory = .ok r ↔
      Ring.Fits s.bufferSize memory ∧ r = .empty s.bufferSize s.overflow := by
  have hmany : 2 ≤ s.bufferSize := h
  rw [createRing, Ring.create_eq_ok_iff, and_iff_right hmany]

/-- A tag tells a VLAN in twelve bits. Without a tag, the VLAN is the native one, if any. -/
theorem isVlan_of_mem_dissect (hnative : (s.get .nativeVlan).InBounds) (seen : Timestamp)
    (frame : Bytes) {o : Sighting} (ho : o ∈ (dissect s.vlanPolicy seen frame).sightings) :
    (∀ vlan, o.vlan = some vlan → vlan.toNat ≤ 4095) ∧
      (o.vlan = none ↔ ¬AnnouncesTag frame ∧ s.nativeVlan = none) := by
  obtain ⟨header, hheader, -, htagged, huntagged, -⟩ :=
    wellFormed_of_mem_dissect s.vlanPolicy seen frame o ho
  have hannounced : header.etherType = EtherType.vlan ↔ AnnouncesTag frame :=
    EthernetHeader.etherType_eq_iff hheader 0x81 0x00
  -- A frame with a tag has the VLAN of the tag, whatever the native one is.
  by_cases htag : AnnouncesTag frame
  · obtain ⟨tag, -, hvlan⟩ := htagged (hannounced.2 htag)
    rw [hvlan]
    refine ⟨?_, by simp [htag]⟩
    intro vlan hv
    obtain rfl := Option.some.inj hv
    rw [UInt16.toNat_and]
    exact Nat.and_le_right
  · rw [huntagged fun h => htag (hannounced.1 h)]
    refine ⟨fun vlan hv => (hnative vlan hv).2, by simp [htag, vlanPolicy]⟩

/-- Settings that a file and an environment lead to ask for at least two slots. So a session gets
    them exactly if they fit into memory; if one piece of memory cannot span them the allocation
    overflows, and if there is no such piece it fails, but they are never too few. A request for a
    frame waits for a millisecond or longer, the native VLAN is one that frames can have, and neither
    the interface nor the file for statements has an empty name. Every record of every frame has a
    VLAN below 4096, unless the frame has no tag and there is no native VLAN. -/
theorem accepted_can_run (h : ofLayers text env = .ok s) :
    2 ≤ s.bufferSize ∧
      (∀ memory r, s.createRing memory = .ok r ↔
        Ring.Fits s.bufferSize memory ∧ r = .empty s.bufferSize s.overflow) ∧
      (∀ memory, Ring.mostBytes < s.bufferSize * Ring.slotBytes →
        s.createRing memory = .error .capacityOverflow) ∧
      (∀ memory, s.bufferSize * Ring.slotBytes ≤ Ring.mostBytes →
        memory < s.bufferSize * Ring.slotBytes →
        s.createRing memory = .error (.outOfMemory (s.bufferSize * Ring.slotBytes))) ∧
      1 ≤ s.readTimeout ∧
      (∀ vlan, s.nativeVlan = some vlan → 1 ≤ vlan.toNat ∧ vlan.toNat ≤ 4095) ∧
      s.interface ≠ some "" ∧ s.sqlOutput ≠ some "" ∧
      ∀ (seen : Timestamp) (frame : Bytes), ∀ o ∈ (dissect s.vlanPolicy seen frame).sightings,
        (∀ vlan, o.vlan = some vlan → vlan.toNat ≤ 4095) ∧
        (o.vlan = none ↔ ¬AnnouncesTag frame ∧ s.nativeVlan = none) := by
  have hbounds := inBounds_of_accepted h
  have hmany : 2 ≤ s.bufferSize := hbounds .bufferSize
  exact ⟨hmany, fun _ _ => createRing_eq_ok_iff (hbounds .bufferSize),
    fun memory => Ring.create_of_unspanned hmany s.overflow memory,
    fun _ => Ring.create_of_short hmany s.overflow, hbounds .readTimeout, hbounds .nativeVlan,
    hbounds .interface, hbounds .sqlOutput,
    fun seen frame _ ho => isVlan_of_mem_dissect (hbounds .nativeVlan) seen frame ho⟩

/-- The smallest number of slots and the largest native VLAN, which a frame without a tag has. The
    timeout in the file is overridden. -/
theorem accepted_can_run_with_two_slots :
    let s : Settings := { bufferSize := 2, nativeVlan := some 4095, readTimeout := 1 }
    let o : Sighting := .plain ⟨2, 0, 0, 0, 0, 1⟩ ⟨10, 0, 0, 7⟩ ⟨1, 2⟩ (some 4095) .ipBroadcast
    ofLayers "buffer_size = 2\nread_timeout_ms = 5\nnative_vlan = 4095"
        (fun name => if name = "ARPWATCH_READ_TIMEOUT_MS" then some " 1" else none) = .ok s ∧
      s.createRing = .ok (.empty 2 .evictOldest) ∧ 1 ≤ s.readTimeout ∧
      o ∈ (dissect s.vlanPolicy ⟨1, 2⟩ cutDatagramFrame).sightings ∧
      ∀ vlan, o.vlan = some vlan → vlan.toNat ≤ 4095 := by
  intro s o
  have haccepted : ofLayers "buffer_size = 2\nread_timeout_ms = 5\nnative_vlan = 4095"
      (fun name => if name = "ARPWATCH_READ_TIMEOUT_MS" then some " 1" else none) = .ok s := by
    decide +kernel
  have hmem : o ∈ (dissect s.vlanPolicy ⟨1, 2⟩ cutDatagramFrame).sightings := by decide +kernel
  obtain ⟨-, hring, -, -, htimeout, -, -, -, hvlans⟩ := accepted_can_run haccepted
  exact ⟨haccepted, (hring _ _).2 ⟨by decide, rfl⟩, htimeout, hmem,
    (hvlans ⟨1, 2⟩ cutDatagramFrame o hmem).1⟩

/-- A file may ask for more slots than memory has room for: for ten quadrillion, which take more bytes
    than addresses of 57 bits reach, or for as many as a number of 64 bits can name, which no memory
    spans. Such settings are accepted all the same. -/
theorem accepted_beyond_memory :
    let s : Settings := { bufferSize := 10000000000000000 }
    let s' : Settings := { bufferSize := 18446744073709551615 }
    ofLayers "buffer_size = 10000000000000000" (fun _ => none) = .ok s ∧
      (∀ memory ≤ 144115188075855872,
        s.createRing memory = .error (.outOfMemory 1040000000000000000)) ∧
      ofLayers "buffer_size = 18446744073709551615" (fun _ => none) = .ok s' ∧
      ∀ memory, s'.createRing memory = .error .capacityOverflow := by
  intro s s'
  have hslot : Ring.slotBytes = 104 := by decide
  have hmost : Ring.mostBytes = 9223372036854775807 := by decide
  refine ⟨by decide +kernel, fun memory hmemory => ?_, by decide +kernel, fun memory => ?_⟩
  · have hbytes : s.bufferSize * Ring.slotBytes = 1040000000000000000 := by simp [s, hslot]
    rw [← hbytes]
    exact Ring.create_of_short (by decide) s.overflow (by omega) (by omega)
  · have hbytes : s'.bufferSize * Ring.slotBytes = 1918461383665793367960 := by simp [s', hslot]
    exact Ring.create_of_unspanned (by decide) s'.overflow memory (by omega)

end Settings

end LanWatch
