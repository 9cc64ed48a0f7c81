import LanWatch.Frame.ChannelAccess
import LanWatch.Frame.Dhcp
import LanWatch.Frame.NetBios
import LanWatch.Proofs.Truncation.Reads

namespace LanWatch

/-!
# Records of cut payloads

A payload that was cut tells no more of a host than all of it. Options and messages that are read
from a cut payload are the first of those that are read from all of it, and the ones that follow add
names or make a kind more specific, but take nothing back.

* `Kind.Blurs`, `Sighting.Blurs` — a kind or record tells no more than another one;
* `Dhcp.items_cut`, `Dhcp.scan_blurs` — DHCP options of a cut payload;
* `ChannelAccess.messages_cut`, `ChannelAccess.scan_blurs` — Channel Access messages;
* `NetBios.scan_blurs` — the NetBIOS name.
-/

/-! ### What a cut takes away -/

/-- A kind tells no more than another one: it is the same, or that of any packet, or both are of
    DHCP and the message is told only where the other kind tells one, too. -/
def Kind.Blurs (j k : Kind) : Prop :=
  j = k ∨ j = .ipBroadcast ∨ ∃ m n, j = .dhcp m ∧ k = .dhcp n ∧ (m.isSome → n.isSome)

/-- A record tells no more than another one of the same host: a name that it has, the other one has
    as well. -/
structure Sighting.Blurs (s t : Sighting) : Prop where
  mac : s.mac = t.mac
  ip : s.ip = t.ip
  vlan : s.vlan = t.vlan
  seen : s.seen = t.seen
  pvNames : s.pvNames <+: t.pvNames
  netbiosName : ∀ name ∈ s.netbiosName, t.netbiosName = some name
  /-- A later option may give another name. -/
  dhcpName : s.dhcpName.isSome → t.dhcpName.isSome
  kind : s.kind.Blurs t.kind

namespace Kind

theorem Blurs.refl (k : Kind) : k.Blurs k := .inl rfl

/-- Telling no more is passed on from kind to kind. -/
theorem Blurs.trans {j k l : Kind} (h : j.Blurs k) (h' : k.Blurs l) : j.Blurs l := by
  rcases h with rfl | rfl | ⟨m, n, rfl, rfl, hm⟩
  · exact h'
  · exact .inr (.inl rfl)
  · rcases h' with rfl | hbroadcast | ⟨n', o, hn, rfl, ho⟩
    · exact .inr (.inr ⟨m, n, rfl, rfl, hm⟩)
    · cases hbroadcast
    · cases hn
      exact .inr (.inr ⟨m, o, rfl, rfl, fun h => ho (hm h)⟩)

end Kind

namespace Sighting

theorem Blurs.refl (s : Sighting) : s.Blurs s :=
  ⟨rfl, rfl, rfl, rfl, List.prefix_refl _, fun _ h => h, id, .refl _⟩

/-- Telling no more is passed on from record to record. -/
theorem Blurs.trans {s t u : Sighting} (h : s.Blurs t) (h' : t.Blurs u) : s.Blurs u where
  mac := h.mac.trans h'.mac
  ip := h.ip.trans h'.ip
  vlan := h.vlan.trans h'.vlan
  seen := h.seen.trans h'.seen
  pvNames := h.pvNames.trans h'.pvNames
  netbiosName name hname := h'.netbiosName name (h.netbiosName name hname)
  dhcpName hname := h'.dhcpName (h.dhcpName hname)
  kind := h.kind.trans h'.kind

/-- The record of a packet before its payload was looked at tells nothing but the host. -/
structure Bare (s : Sighting) : Prop where
  pvNames : s.pvNames = []
  netbiosName : s.netbiosName = none
  dhcpName : s.dhcpName = none
  kind : s.kind = .ipBroadcast

/-- Whatever kind a bare record is given, it tells no more than what is found out from there. -/
theorem Bare.blurs {s t : Sighting} (h : s.Bare) {kind : Kind}
    (hfound : ({ s with kind } : Sighting).Blurs t) : s.Blurs t where
  mac := hfound.mac
  ip := hfound.ip
  vlan := hfound.vlan
  seen := hfound.seen
  pvNames := hfound.pvNames
  netbiosName := hfound.netbiosName
  dhcpName := hfound.dhcpName
  kind := .inr (.inl h.kind)

end Sighting

/-! ### DHCP -/

namespace Dhcp

/-- An option that is all there is the same option when more bytes follow. -/
theorem steady_item : Steady item := by
  intro c d h i c' hread
  unfold item at hread ⊢
  cases hcode : c.u8 with
  | error e => simp [hcode] at hread
  | ok r =>
    obtain ⟨code, c₁⟩ := r
    -- The longer body gives the same code, and it goes on where the cut one goes on.
    obtain ⟨d₁, hd₁, hcut₁⟩ := Cursor.steady_u8 h hcode
    simp only [hcode] at hread
    simp only [hd₁]
    by_cases hpad : code = padCode
    · rw [if_pos hpad, Except.ok.injEq, Prod.mk.injEq] at hread
      rw [if_pos hpad, ← hread.1, ← hread.2]
      exact ⟨d₁, rfl, hcut₁⟩
    rw [if_neg hpad] at hread ⊢
    by_cases hend : code = endCode
    · rw [if_pos hend, Except.ok.injEq, Prod.mk.injEq] at hread
      rw [if_pos hend, ← hread.1, ← hread.2]
      exact ⟨d₁, rfl, hcut₁⟩
    rw [if_neg hend] at hread ⊢
    -- An option reads its length and its value in the same way.
    cases hlength : c₁.u8 with
    | error e => simp [hlength] at hread
    | ok r =>
      obtain ⟨length, c₂⟩ := r
      obtain ⟨d₂, hd₂, hcut₂⟩ := Cursor.steady_u8 hcut₁ hlength
      simp only [hlength] at hread
      simp only [hd₂]
      cases hvalue : c₂.take length.toNat with
      | error e => simp [hvalue] at hread
      | ok r =>
        obtain ⟨value, c₃⟩ := r
        obtain ⟨d₃, (hd₃ : d₂.take length.toNat = .ok (value, d₃)), hcut₃⟩ :=
          Cursor.steady_take _ hcut₂ hvalue
        simp only [hvalue, Except.ok.injEq, Prod.mk.injEq] at hread
        rw [← hread.1, ← hread.2, hd₃]
        exact ⟨d₃, rfl, hcut₃⟩

/-- By the recursion over the cut options: each that is read there is read from all the bytes, too,
    and leaves a position where both go on. -/
theorem items_cut {c d : Cursor} (h : c.Cut d) : (items c).1 <+: (items d).1 := by
  induction c using items.induct generalizing d with
  | case1 c hend =>
    rw [items_of_atEnd hend]
    exact ⟨_, rfl⟩
  | case2 c hmore e hitem =>
    rw [items_of_error hmore hitem]
    exact ⟨_, rfl⟩
  | case3 c hmore c' hitem =>
    rw [items_of_marked hmore hitem]
    exact ⟨_, rfl⟩
  | case4 c hmore i c' hitem hless is ending hrest ih =>
    obtain ⟨d', hd, hcut⟩ := steady_item h hitem
    -- An option lies ahead of the cut, so there is something to read without it.
    have hdMore : ¬d.atEnd = true := by
      have hle := h.remaining_le
      rw [Cursor.atEnd_iff] at hmore ⊢
      omega
    rw [items_of_item hmore hitem, items_of_item hdMore hd]
    exact (List.prefix_cons_inj i).2 (ih hcut)

/-- What an item makes of a record, unless it stops the scan. -/
def Item.result? (i : Item) (s : Sighting) : Option Sighting :=
  match i with
  | pad => some s
  | option code value =>
    if code = hostNameCode then
      if maxHostName < value.length then none
      else some { s with dhcpName := some (hostName value) }
    else if code = messageTypeCode then some (applyMessageType value s).1
    else some s

/-- The first option decides whether the others count. -/
theorem sighting_refine_cons (ending : Ending) (i : Item) (is : List Item) (s : Sighting) :
    (refine ending (i :: is) s).sighting =
      match i.result? s with
      | none => s
      | some s' => (refine ending is s').sighting := by
  cases i with
  | pad => rfl
  | option code value =>
    simp only [refine, Item.result?]
    split
    · split <;> rfl
    · split <;> rfl

/-- A message type gives a message, or leaves the record as it is. -/
theorem applyMessageType_blurs (value : Bytes) {s : Sighting} {m : Option DhcpMessage}
    (hkind : s.kind = .dhcp m) : s.Blurs (applyMessageType value s).1 ∧
      ∃ n, (applyMessageType value s).1.kind = .dhcp n := by
  unfold applyMessageType
  split
  · split
    · rename_i message hmessage
      refine ⟨⟨rfl, rfl, rfl, rfl, List.prefix_refl _, fun _ h => h, id, ?_⟩, _, rfl⟩
      exact .inr (.inr ⟨m, some message, hkind, rfl, fun _ => rfl⟩)
    · exact ⟨.refl s, m, hkind⟩
  · exact ⟨.refl s, m, hkind⟩

/-- An item gives a name or a message, and takes none back. -/
theorem Item.blurs_of_result? {i : Item} {s s' : Sighting} {m : Option DhcpMessage}
    (hkind : s.kind = .dhcp m) (h : i.result? s = some s') :
    s.Blurs s' ∧ ∃ n, s'.kind = .dhcp n := by
  cases i with
  | pad =>
    obtain rfl := Option.some.inj h
    exact ⟨.refl s, m, hkind⟩
  | option code value =>
    simp only [result?] at h
    -- Only a host name and a message type change the record, and a host name changes no more than
    -- that.
    split at h
    · split at h
      · cases h
      · obtain rfl := Option.some.inj h
        exact ⟨⟨rfl, rfl, rfl, rfl, List.prefix_refl _, fun _ h => h, fun _ => rfl, .refl _⟩, m,
          hkind⟩
    · split at h
      · obtain rfl := Option.some.inj h
        exact applyMessageType_blurs value hkind
      · obtain rfl := Option.some.inj h
        exact ⟨.refl s, m, hkind⟩

/-- The items of a whole message, by induction on them. -/
theorem refine_blurs (ending : Ending) (is : List Item) {s : Sighting} {m : Option DhcpMessage}
    (hkind : s.kind = .dhcp m) : s.Blurs (refine ending is s).sighting := by
  induction is generalizing s m with
  | nil => exact .refl s
  | cons i is ih =>
    rw [sighting_refine_cons]
    cases hresult : i.result? s with
    | none => exact .refl s
    | some s' =>
      obtain ⟨hblurs, n, hn⟩ := i.blurs_of_result? hkind hresult
      exact hblurs.trans (ih hn)

/-- What the first items tell is no more than what all of them tell. -/
theorem refine_cut_blurs {is js : List Item} (h : is <+: js) (e f : Ending) {s : Sighting}
    {m : Option DhcpMessage} (hkind : s.kind = .dhcp m) :
    (refine e is s).sighting.Blurs (refine f js s).sighting := by
  induction is generalizing js s m with
  | nil => exact refine_blurs f js hkind
  | cons i is ih =>
    obtain ⟨more, rfl⟩ := h
    rw [List.cons_append, sighting_refine_cons, sighting_refine_cons]
    cases hresult : i.result? s with
    -- The item is read in both runs, so it stops both at the same record.
    | none => exact .refl s
    | some s' =>
      obtain ⟨-, n, hn⟩ := i.blurs_of_result? hkind hresult
      exact ih (List.prefix_append is more) hn

/-- The record of any message is that of one without options, or tells more. -/
theorem blurs_scan (body : Bytes) (s : Sighting) :
    ({ s with kind := .dhcp none } : Sighting).Blurs (scan body s).sighting := by
  unfold scan
  simp only
  split
  · exact .refl _
  · split
    · exact .refl _
    · split
      · exact refine_blurs _ _ rfl
      · exact .refl _

/-- A scan of cut bytes tells no more than one of all of them. -/
theorem scan_blurs {short long : Bytes} (h : short <+: long) (s : Sighting) :
    (scan short s).sighting.Blurs (scan long s).sighting := by
  cases hskip : (Cursor.start "dhcp" short).skip headerLength with
  -- With the header cut off, the record says DHCP and nothing else.
  | error e =>
    have hnothing : (scan short s).sighting = { s with kind := .dhcp none } := by
      simp only [scan, hskip]
    rw [hnothing]
    exact blurs_scan long s
  | ok c =>
    cases hcookie : c.take magicCookie.length with
    | error e =>
      -- The same holds with the cookie cut off.
      have hnothing : (scan short s).sighting = { s with kind := .dhcp none } := by
        simp only [scan, hskip, hcookie]
      rw [hnothing]
      exact blurs_scan long s
    | ok r =>
      obtain ⟨cookie, c'⟩ := r
      obtain ⟨d, hd, hcut⟩ := Cursor.skip_of_cut (Cursor.cut_start "dhcp" h) hskip
      obtain ⟨d', (hd' : d.take magicCookie.length = .ok (cookie, d')), hcut'⟩ :=
        Cursor.steady_take _ hcut hcookie
      -- Both have the same cookie, so both scan the options or neither does.
      simp only [scan, hskip, hcookie, hd, hd']
      split
      · exact refine_cut_blurs (items_cut hcut') _ _ rfl
      · exact .refl _

end Dhcp

/-! ### Channel Access -/

namespace ChannelAccess

/-- A message that is all there is the same message when more bytes follow. -/
theorem steady_message : Steady message := by
  intro c d h m c' hread
  unfold message at hread ⊢
  cases hheader : c.take headerLength with
  | error e => simp [hheader] at hread
  | ok r =>
    obtain ⟨header, c₁⟩ := r
    obtain ⟨d₁, (hd₁ : d.take headerLength = .ok (header, d₁)), hcut₁⟩ :=
      Cursor.steady_take _ h hheader
    simp only [hheader] at hread
    simp only [hd₁]
    by_cases hknown : (command header).1 = versionCommand ∨ (command header).1 = searchCommand
    · -- The two commands that are known have a payload, which is read in the same way.
      rw [if_pos hknown] at hread ⊢
      cases hpayload : c₁.take (command header).2 with
      | error e => simp [hpayload] at hread
      | ok r =>
        obtain ⟨payload, c₂⟩ := r
        obtain ⟨d₂, (hd₂ : d₁.take (command header).2 = .ok (payload, d₂)), hcut₂⟩ :=
          Cursor.steady_take _ hcut₁ hpayload
        simp only [hpayload, Except.ok.injEq, Prod.mk.injEq] at hread
        rw [← hread.1, ← hread.2, hd₂]
        exact ⟨d₂, rfl, hcut₂⟩
    · rw [if_neg hknown, Except.ok.injEq, Prod.mk.injEq] at hread
      rw [if_neg hknown, ← hread.1, ← hread.2]
      exact ⟨d₁, rfl, hcut₁⟩

/-- By the recursion over the cut messages, as for options of DHCP. -/
theorem messages_cut {c d : Cursor} (h : c.Cut d) : (messages c).1 <+: (messages d).1 := by
  induction c using messages.induct generalizing d with
  -- Induction on the messages of the cut body: as long as one is read, the whole body has the same
  -- one.
  | case1 c hend =>
    rw [messages_of_atEnd hend]
    exact ⟨_, rfl⟩
  | case2 c hmore e hmessage =>
    rw [messages_of_error hmore hmessage]
    exact ⟨_, rfl⟩
  | case3 c hmore c' hmessage =>
    rw [messages_of_foreign hmore hmessage]
    exact ⟨_, rfl⟩
  | case4 c hmore m c' hmessage hless ms ending hrest ih =>
    obtain ⟨d', hd, hcut⟩ := steady_message h hmessage
    -- Where the cut body goes on, the whole one does too.
    have hdMore : ¬d.atEnd = true := by
      have hle := h.remaining_le
      rw [Cursor.atEnd_iff] at hmore ⊢
      omega
    rw [messages_of_message hmore hmessage, messages_of_message hdMore hd]
    exact (List.prefix_cons_inj m).2 (ih hcut)

/-- What a message makes of a record. -/
def Message.apply (s : Sighting) : Message → Sighting
  | version _ => s
  | search payload => if name payload = "" then s else s.addPvName (name payload)

/-- The messages apply one after another, and the ending adds nothing. -/
theorem sighting_refine (ending : Ending) (ms : List Message) (s : Sighting) :
    (refine ending ms s).sighting = ms.foldl Message.apply s := by
  induction ms generalizing s with
  | nil => rfl
  | cons m ms ih =>
    cases m with
    | version payload => exact ih s
    | search payload =>
      rw [List.foldl_cons, Message.apply, refine]
      split
      · exact ih s
      · split
        · exact ih _
        · rename_i hroom
          -- A name for which there is no room is passed over, as it would be by the record itself.
          have hfull : s.addPvName (name payload) = s := by
            rw [Sighting.addPvName, if_neg hroom]
          rw [hfull]
          exact ih s

/-- A message adds a name at the end, or none. -/
theorem Message.blurs_apply (s : Sighting) (m : Message) : s.Blurs (m.apply s) := by
  cases m with
  | version payload => exact .refl s
  | search payload =>
    rw [apply]
    split
    · exact .refl s
    · unfold Sighting.addPvName
      split
      · exact ⟨rfl, rfl, rfl, rfl, List.prefix_append _ _, fun _ h => h, id, .refl _⟩
      · exact .refl s

/-- The names of all messages, by induction on them. -/
theorem blurs_foldl (ms : List Message) (s : Sighting) : s.Blurs (ms.foldl Message.apply s) := by
  induction ms generalizing s with
  | nil => exact .refl s
  | cons m ms ih => exact (m.blurs_apply s).trans (ih (m.apply s))

/-- A scan only adds to a record. -/
theorem blurs_scan (body : Bytes) (s : Sighting) : s.Blurs (scan body s).sighting := by
  rw [scan, sighting_refine]
  exact blurs_foldl _ s

/-- A scan of cut bytes tells no more than one of all of them. -/
theorem scan_blurs {short long : Bytes} (h : short <+: long) (s : Sighting) :
    (scan short s).sighting.Blurs (scan long s).sighting := by
  obtain ⟨more, hmore⟩ := messages_cut (Cursor.cut_start "epics-ca" h)
  simp only [scan, sighting_refine, ← hmore, List.foldl_append]
  exact blurs_foldl more _

end ChannelAccess

/-! ### NetBIOS -/

namespace NetBios

/-- A first name that is all there is read from more bytes, too. -/
theorem firstName_of_cut {short long : Bytes} (h : short <+: long) {name : FirstName}
    (hread : firstName short = .ok name) : firstName long = .ok name := by
  unfold firstName at hread ⊢
  -- Every read of the name gives the same bytes in the longer datagram.
  refine (Cursor.cut_start "netbios" h).skip_bind (fun c₁ d₁ hcut₁ hread => ?_) hread
  refine Cursor.steady_u16.bind hcut₁ (fun questions c₂ d₂ hcut₂ hread => ?_) hread
  refine Cursor.steady_u16.bind hcut₂ (fun answers c₃ d₃ hcut₃ hread => ?_) hread
  refine hcut₃.skip_bind (fun c₄ d₄ hcut₄ hread => ?_) hread
  split at hread
  · rename_i hnone
    rw [if_pos hnone]
    exact hread
  · rename_i hsome
    rw [if_neg hsome]
    refine Cursor.steady_u8.bind hcut₄ (fun length c₅ d₅ hcut₅ hread => ?_) hread
    simp only at hread ⊢
    split at hread
    · rename_i hpointer
      rw [if_pos hpointer]
      exact hread
    · rename_i hlabel
      rw [if_neg hlabel]
      exact (Cursor.steady_take _).bind hcut₅ (fun label c₆ d₆ _ hread => hread) hread

/-- The record of any packet is the one before it, or has a name more. -/
theorem blurs_scan (body : Bytes) {s : Sighting} (hname : s.netbiosName = none) :
    s.Blurs (scan body s).sighting := by
  have hnamed : ∀ name, s.Blurs { s with netbiosName := name } := fun name =>
    ⟨rfl, rfl, rfl, rfl, List.prefix_refl _, by simp [hname], id, .refl _⟩
  unfold scan apply
  split
  · exact .refl s
  · exact .refl s
  · exact .refl s
  · split
    · exact .refl s
    · split
      · exact .refl s
      · exact hnamed _

/-- A name is read from cut bytes only if it is all there, and then it is the same one. -/
theorem scan_blurs {short long : Bytes} (h : short <+: long) {s : Sighting}
    (hname : s.netbiosName = none) : (scan short s).sighting.Blurs (scan long s).sighting := by
  cases hfirst : firstName short with
  | error e =>
    have hnothing : (scan short s).sighting = s := by simp only [scan, hfirst]
    rw [hnothing]
    exact blurs_scan long hname
  | ok name =>
    have hlong := firstName_of_cut h hfirst
    have hsame : scan short s = scan long s := by simp only [scan, hfirst, hlong]
    rw [hsame]
    exact .refl _

end NetBios

end LanWatch
