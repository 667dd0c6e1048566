import Conductor.World
import Conductor.Proofs.Store.Operations
import Mathlib.Data.List.Chain

/-! How worlds grow: each request that reaches the store keeps what the store was before, and does
no more than one of the deeds of its scope. What others do in between belongs to every scope. -/

namespace Conductor

/-- What operations may do: their deeds, and the events they note. -/
structure Scope where
  deed : Deed → Prop
  event : Event → Prop

namespace Scope

instance : LE Scope where
  le a b := (∀ deed, a.deed deed → b.deed deed) ∧ ∀ event, a.event event → b.event event

theorem le_rfl {scope : Scope} : scope ≤ scope := ⟨fun _ h => h, fun _ h => h⟩

/-- What others do: they cancel runs that have not ended. -/
def others : Scope where
  deed deed := ∃ id now, deed = .update id (World.cancelPatch now) (some RunStatus.active)
  event _ := False

/-- What some others do: they cancel some runs that have not ended. -/
def cancelling (ids : String → Prop) : Scope where
  deed deed := ∃ id now, ids id ∧ deed = .update id (World.cancelPatch now) (some RunStatus.active)
  event _ := False

theorem cancelling_le_others (ids : String → Prop) : cancelling ids ≤ others :=
  ⟨fun _ ⟨id, now, _, h⟩ => ⟨id, now, h⟩, fun _ h => h⟩

/-- Whatever may be done. -/
def any : Scope where
  deed _ := True
  event _ := True

theorem le_any {scope : Scope} : scope ≤ any := ⟨fun _ _ => trivial, fun _ _ => trivial⟩

/-- A request looks at the store, or fails, or does a deed of the scope. -/
inductive Change (scope : Scope) (s t : Store) : Prop
  | same (same : s.Same t)
  | did {deed : Deed} (ok : scope.deed deed) (done : deed.Done s t)

theorem Change.mono {scope more : Scope} {s t : Store} (h : scope.Change s t) (hm : scope ≤ more) :
    more.Change s t := by
  cases h with
  | same same => exact .same same
  | did ok done => exact .did (hm.1 _ ok) done

theorem Change.stepsOf_le {scope : Scope} {s t : Store} (h : scope.Change s t) (execution : String) :
    s.stepsOf execution ≤ t.stepsOf execution := by
  cases h with
  | same same => rw [Store.stepsOf, Store.stepsOf, Store.recordsOf, Store.recordsOf, same.records]
  | did ok done => exact Store.stepsOf_le_of_done done execution

end Scope

namespace World

/-- Ids are given out in order, so that none of those to come is taken; and every record belongs to a run. -/
structure Sound (w : World) : Prop where
  keyed : w.store.Keyed
  executions : ∀ n, w.issued < n → w.store.execution? s!"id-{n}" = none
  records : ∀ n, w.issued < n → ∀ r ∈ w.store.records, r.id ≠ s!"id-{n}"
  owned : ∀ r ∈ w.store.records, (w.store.execution? r.execution).isSome

theorem sound_empty : ({} : World).Sound where
  keyed := ⟨List.nodup_nil, fun m hm entry he => by cases hm; cases he⟩
  executions _ _ := rfl
  records _ _ r hr := by cases hr
  owned r hr := by cases hr

/-- How the store of a world came out of that of another one, one request at a time. -/
inductive Leads (change : Store → Store → Prop) : World → World → Prop
  | refl (w : World) : Leads change w w
  | quiet {a b c : World} (h : Leads change a b) (store : c.store = b.store) (past : c.past = b.past) :
      Leads change a c
  | asked {a b c : World} (h : Leads change a b) (changed : change b.store c.store)
      (past : c.past = b.store :: b.past) : Leads change a c

theorem Leads.trans {change : Store → Store → Prop} {a b c : World} (h : Leads change a b)
    (h' : Leads change b c) : Leads change a c := by
  induction h' with
  | refl => exact h
  | quiet _ store past ih => exact .quiet ih store past
  | asked _ changed past ih => exact .asked ih changed past

/-- What no change undoes may be used to tell more of each change. -/
theorem Leads.refine {change finer : Store → Store → Prop} {a b : World} (keep : Store → Prop)
    (h : Leads change a b) (hk : ∀ s t, keep s → change s t → keep t ∧ finer s t) (ha : keep a.store) :
    keep b.store ∧ Leads finer a b := by
  induction h with
  | refl => exact ⟨ha, .refl _⟩
  | quiet _ store past ih =>
    obtain ⟨hb, hl⟩ := ih
    exact ⟨store ▸ hb, .quiet hl store past⟩
  | asked _ changed past ih =>
    obtain ⟨hb, hl⟩ := ih
    obtain ⟨hc, hf⟩ := hk _ _ hb changed
    exact ⟨hc, .asked hl hf past⟩

theorem Leads.keeps {change : Store → Store → Prop} {a b : World} (keep : Store → Prop)
    (h : Leads change a b) (hk : ∀ s t, keep s → change s t → keep t) (ha : keep a.store) : keep b.store :=
  have hr := h.refine keep fun s t hs hst => (⟨hk s t hs hst, hst⟩ : keep t ∧ change s t)
  (hr ha).1

theorem Leads.mono {change more : Store → Store → Prop} {a b : World} (h : Leads change a b)
    (hm : ∀ s t, change s t → more s t) : Leads more a b :=
  (h.refine (fun _ => True) (fun s t _ hst => ⟨trivial, hm s t hst⟩) trivial).2

/-- All that the store was, the latest last. -/
def timeline (w : World) : List Store := w.past.reverse ++ [w.store]

theorem timeline_asked {b c : World} (h : c.past = b.store :: b.past) :
    c.timeline = b.timeline ++ [c.store] := by
  simp [timeline, h]

theorem Leads.isChain_timeline {change : Store → Store → Prop} {a b : World} (h : Leads change a b)
    (ha : a.timeline.IsChain change) : b.timeline.IsChain change := by
  induction h with
  | refl => exact ha
  | quiet _ store past ih =>
    rw [timeline, store, past]
    exact ih
  | asked _ changed past ih =>
    rw [timeline_asked past, List.isChain_append]
    refine ⟨ih, List.isChain_singleton _, ?_⟩
    intro s hs t ht
    simp only [timeline, List.getLast?_append, List.getLast?_singleton, Option.some_or, Option.mem_def,
      Option.some.injEq, List.head?_cons] at hs ht
    exact hs ▸ ht ▸ changed

theorem Leads.timeline {change : Store → Store → Prop} {a b : World} (h : Leads change a b) :
    a.timeline <+: b.timeline := by
  induction h with
  | refl => exact List.prefix_rfl
  | quiet _ store past ih =>
    rw [World.timeline, World.timeline, store, past]
    exact ih
  | asked _ changed past ih =>
    rw [timeline_asked past]
    exact ih.trans (List.prefix_append _ _)

@[simp] theorem length_timeline (w : World) : w.timeline.length = w.past.length + 1 := by simp [timeline]

theorem length_past_le {a b : World} (h : a.timeline <+: b.timeline) : a.past.length ≤ b.past.length := by
  have hle := h.length_le
  rw [length_timeline, length_timeline] at hle
  omega

/-- What there has been from a world on begins with its own store. -/
theorem drop_timeline {a b : World} (h : a.timeline <+: b.timeline) :
    ∃ later, b.timeline = a.timeline ++ later ∧ b.timeline.drop a.past.length = a.store :: later := by
  obtain ⟨later, hb⟩ := h
  refine ⟨later, hb.symm, ?_⟩
  rw [← hb, timeline, List.append_assoc, List.drop_append_of_le_length (by simp),
    List.drop_of_length_le (by simp), List.nil_append, List.singleton_append]

theorem mem_drop_timeline {a b c : World} (hab : a.timeline <+: b.timeline) (hbc : b.timeline <+: c.timeline)
    {s : Store} (hs : s ∈ c.timeline.drop a.past.length) :
    s ∈ b.timeline.drop a.past.length ∨ s ∈ c.timeline.drop b.past.length := by
  obtain ⟨later, hc, hdrop⟩ := drop_timeline hbc
  have hlength := length_past_le hab
  rw [hc, List.drop_append_of_le_length (by rw [length_timeline]; omega)] at hs
  rw [hdrop]
  exact (List.mem_append.1 hs).imp_right (List.mem_cons_of_mem _)

theorem drop_timeline_asked {a b c : World} (hab : a.timeline <+: b.timeline) (past : c.past = b.store :: b.past) :
    c.timeline.drop a.past.length = b.timeline.drop a.past.length ++ [c.store] := by
  have hlength := length_past_le hab
  rw [timeline_asked past, List.drop_append_of_le_length (by rw [length_timeline]; omega)]

/-- What no change undoes is kept from each store to the later ones, the last of them among these. -/
theorem Leads.pairwise {change : Store → Store → Prop} {a b : World} (h : Leads change a b)
    (keep : Store → Prop) (hk : ∀ s t, keep s → change s t → keep t) :
    (b.timeline.drop a.past.length).Pairwise (fun s t => keep s → keep t) ∧
      ∀ s ∈ b.timeline.drop a.past.length, keep s → keep b.store := by
  induction h with
  | refl =>
    obtain ⟨later, htimeline, hdrop⟩ := drop_timeline (List.prefix_rfl (l := a.timeline))
    obtain rfl : later = [] := List.self_eq_append_right.1 htimeline
    rw [hdrop]
    exact ⟨List.pairwise_singleton _ _, fun s hs => List.mem_singleton.1 hs ▸ id⟩
  | quiet _ store past ih =>
    rw [World.timeline, store, past]
    exact ih
  | @asked b c hl changed past ih =>
    rw [drop_timeline_asked hl.timeline past]
    have hlast : ∀ s ∈ b.timeline.drop a.past.length, keep s → keep c.store :=
      fun s hs hkept => hk _ _ (ih.2 s hs hkept) changed
    refine ⟨List.pairwise_append.2 ⟨ih.1, List.pairwise_singleton _ _, fun s hs t ht => ?_⟩, fun s hs => ?_⟩
    · exact List.mem_singleton.1 ht ▸ hlast s hs
    · rcases List.mem_append.1 hs with hs | hs
      · exact hlast s hs
      · exact List.mem_singleton.1 hs ▸ id

/-- What no change undoes holds from a world on, wherever that world came in between. -/
theorem Leads.onward {change : Store → Store → Prop} {a b w : World} (keep : Store → Prop)
    (h : Leads change a b) (hk : ∀ s t, keep s → change s t → keep t) (haw : a.timeline <+: w.timeline)
    (hwb : w.timeline <+: b.timeline) (hw : keep w.store) : ∀ s ∈ b.timeline.drop w.past.length, keep s := by
  have hpairs := List.Pairwise.drop (i := w.past.length - a.past.length) (h.pairwise keep hk).1
  obtain ⟨later, -, hdrop⟩ := drop_timeline hwb
  rw [List.drop_drop, Nat.add_sub_cancel' (length_past_le haw), hdrop, List.pairwise_cons] at hpairs
  rw [hdrop]
  intro s hs
  rcases List.mem_cons.1 hs with rfl | hs
  · exact hw
  · exact hpairs.1 s hs hw

/-- What no change undoes holds of the store from then on. -/
theorem Leads.since {change : Store → Store → Prop} {a b : World} (keep : Store → Prop)
    (h : Leads change a b) (hk : ∀ s t, keep s → change s t → keep t) (ha : keep a.store) :
    ∀ s ∈ b.timeline.drop a.past.length, keep s := h.onward keep hk List.prefix_rfl h.timeline ha

/-- A world that grew within a scope. -/
structure Grown (scope : Scope) (a b : World) : Prop where
  sound : b.Sound
  leads : Leads scope.Change a b
  journal : ∃ events, b.journal = events ++ a.journal ∧ ∀ event ∈ events, scope.event event

/-- Sound worlds grow within a scope. -/
def Works (scope : Scope) (a b : World) : Prop := a.Sound → Grown scope a b

instance (scope : Scope) : IsPreorder World (Works scope) where
  refl a h := ⟨h, .refl a, [], rfl, by simp⟩
  trans a b c h h' ha := by
    have hb := h ha
    have hc := h' hb.sound
    obtain ⟨first, hfirst, hf⟩ := hb.journal
    obtain ⟨second, hsecond, hs⟩ := hc.journal
    refine ⟨hc.sound, hb.leads.trans hc.leads, second ++ first, ?_, ?_⟩
    · rw [hsecond, hfirst, List.append_assoc]
    · intro event he
      rcases List.mem_append.1 he with he | he
      · exact hs event he
      · exact hf event he

theorem Works.mono {scope more : Scope} {a b : World} (h : Works scope a b) (hm : scope ≤ more) :
    Works more a b := by
  intro ha
  obtain ⟨hs, hl, events, hj, hev⟩ := h ha
  exact ⟨hs, hl.mono fun _ _ hc => hc.mono hm, events, hj, fun event hmem => hm.2 event (hev event hmem)⟩

variable {scope : Scope}

theorem works_of_eq {a b : World} (hs : b.store = a.store) (hp : b.past = a.past)
    (hi : b.issued = a.issued) (hj : b.journal = a.journal) : Works scope a b := by
  intro h
  refine ⟨⟨?_, ?_, ?_, ?_⟩, .quiet (.refl a) hs hp, [], hj, by simp⟩
  · rw [hs]
    exact h.keyed
  · rw [hs, hi]
    exact h.executions
  · rw [hs, hi]
    exact h.records
  · rw [hs]
    exact h.owned

theorem within_note {event : Event} (h : scope.event event) : Act.Within (Works scope) (note event) := by
  intro w hw
  exact ⟨⟨hw.keyed, hw.executions, hw.records, hw.owned⟩, .quiet (.refl w) rfl rfl, [event], rfl,
    by simpa using h⟩

theorem within_now : Act.Within (Works scope) now := fun w => Std.Refl.refl w

section Sound

theorem id_injective {n m : Nat} (h : s!"id-{n}" = s!"id-{m}") : n = m := by
  have hr : n.repr = m.repr := (String.append_right_inj "id-").1 h
  have hd : Nat.toDigits 10 n = Nat.toDigits 10 m := by rw [← Nat.toList_repr, hr, Nat.toList_repr]
  rw [← Nat.ofDigitChars_ten_toDigits (n := n), hd, Nat.ofDigitChars_ten_toDigits]

variable {a b : World}

theorem Sound.same (h : a.Sound) (hi : b.issued = a.issued) (hs : a.store.Same b.store) : b.Sound := by
  refine ⟨hs.keyed h.keyed, ?_, ?_, ?_⟩
  · intro n hn
    rw [hs.execution?, h.executions n (hi ▸ hn)]
  · rw [hs.records, hi]
    exact h.records
  · intro r hr
    rw [hs.execution?]
    exact h.owned r (hs.records ▸ hr)

theorem Sound.replaced (h : a.Sound) (hi : b.issued = a.issued) {id : String} {e e' : Execution}
    (found : a.store.execution? id = some e) (hr : a.store.Replaced id e' b.store) : b.Sound := by
  refine ⟨hr.keyed h.keyed, ?_, ?_, hr.owned h.owned⟩
  · intro n hn
    have hnone := h.executions n (hi ▸ hn)
    rw [hr.execution?, if_neg, hnone]
    rintro rfl
    rw [hnone] at found
    exact absurd found (by simp)
  · rw [hr.records, hi]
    exact h.records

theorem Sound.rewrote (h : a.Sound) (hi : b.issued = a.issued) {r r' : StepRecord}
    (hr : a.store.Rewrote r r' b.store) : b.Sound := by
  refine ⟨hr.keyed h.keyed, ?_, ?_, ?_⟩
  · intro n hn
    rw [hr.execution?, h.executions n (hi ▸ hn)]
  · intro n hn old hold
    rw [hr.records, List.mem_map] at hold
    obtain ⟨before, hbefore, rfl⟩ := hold
    by_cases ho : before.id = r.id
    · rw [if_pos ho, hr.id]
      exact h.records n (hi ▸ hn) r hr.found
    · rw [if_neg ho]
      exact h.records n (hi ▸ hn) before hbefore
  · intro old hold
    rw [hr.records, List.mem_map] at hold
    obtain ⟨before, hbefore, rfl⟩ := hold
    rw [hr.execution?]
    by_cases ho : before.id = r.id
    · rw [if_pos ho, hr.execution]
      exact h.owned r hr.found
    · rw [if_neg ho]
      exact h.owned before hbefore

theorem Sound.created (h : a.Sound) (hi : b.issued = a.issued + 1) {e : Execution}
    (hr : a.store.Replaced a.nextId e b.store) : b.Sound := by
  refine ⟨hr.keyed h.keyed, ?_, ?_, hr.owned h.owned⟩
  · intro n hn
    have hne : s!"id-{n}" ≠ a.nextId := by
      intro he
      have := id_injective he
      omega
    rw [hr.execution?, if_neg hne]
    exact h.executions n (by omega)
  · intro n hn
    rw [hr.records]
    exact h.records n (by omega)

theorem Sound.added (h : a.Sound) (hi : b.issued = a.issued + 1) {r : StepRecord} (hid : r.id = a.nextId)
    (he : (a.store.execution? r.execution).isSome) (hr : a.store.Added r b.store) : b.Sound := by
  refine ⟨hr.keyed h.keyed, ?_, ?_, ?_⟩
  · intro n hn
    rw [hr.execution?]
    exact h.executions n (by omega)
  · intro n hn old hold
    rw [hr.records, List.mem_append, List.mem_singleton] at hold
    rcases hold with hold | rfl
    · exact h.records n (by omega) old hold
    · intro he
      have := id_injective (hid.symm.trans he)
      omega
  · intro old hold
    rw [hr.records, List.mem_append, List.mem_singleton] at hold
    rw [hr.execution?]
    rcases hold with hold | rfl
    · exact h.owned old hold
    · exact he

end Sound

end World

end Conductor
