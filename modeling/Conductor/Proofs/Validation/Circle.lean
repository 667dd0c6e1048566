import Conductor.Proofs.Validation.Accepted
import Conductor.Proofs.Validation.Search

/-! Steps that read no more than is visible where they stand read only steps that come before them, and
references of that kind make no circle. -/

namespace Conductor

namespace Validation

/-- Each name reads none of those from itself on. -/
def LeadsBack (g : Graph) : List String → Prop
  | [] => True
  | name :: rest => (∀ target ∈ g.targets name, target ∉ name :: rest) ∧ LeadsBack g rest

theorem LeadsBack.grounded {g : Graph} {rest : List String} (h : LeadsBack g rest) (before : List String)
    (hbefore : ∀ name ∈ before, g.Grounded name) (hnames : g.names = before ++ rest) :
    ∀ name ∈ g.names, g.Grounded name := by
  induction rest generalizing before with
  | nil =>
    rw [hnames, List.append_nil]
    exact hbefore
  | cons name rest ih =>
    have hname : g.Grounded name := by
      refine .intro name fun lower hl => ?_
      have hmem := hl.2
      rw [hnames] at hmem
      exact hbefore lower ((List.mem_append.1 hmem).resolve_right (h.1 lower hl.1))
    refine ih h.2 (before ++ [name]) (fun other ho => ?_) (by rw [hnames, List.append_assoc]; rfl)
    rcases List.mem_append.1 ho with ho | ho
    · exact hbefore other ho
    · rwa [List.mem_singleton.1 ho]

/-- Steps listed so that each reads no more than is visible and the ids of those before it. -/
def InOrder (g : Graph) (visible : List String) : List Step → Prop
  | [] => True
  | step :: rest => (∀ target ∈ g.targets step.id, target ∈ visible) ∧ InOrder g (visible ++ [step.id]) rest

theorem InOrder.mono {g : Graph} {visible more : List String} {steps : List Step} (h : InOrder g visible steps)
    (hsub : visible ⊆ more) : InOrder g more steps := by
  induction steps generalizing visible more with
  | nil => trivial
  | cons step rest ih =>
    have hnext : visible ++ [step.id] ⊆ more ++ [step.id] :=
      List.append_subset.2 ⟨List.Subset.trans hsub (List.subset_append_left ..), List.subset_append_right ..⟩
    exact ⟨fun target ht => hsub (h.1 target ht), ih h.2 hnext⟩

theorem InOrder.append {g : Graph} {visible : List String} {xs ys : List Step} (hx : InOrder g visible xs)
    (hy : InOrder g (visible ++ xs.map Step.id) ys) : InOrder g visible (xs ++ ys) := by
  induction xs generalizing visible with
  | nil => simpa using hy
  | cons step rest ih =>
    refine ⟨hx.1, ih hx.2 ?_⟩
    simpa using hy

theorem InOrder.leadsBack {g : Graph} {visible : List String} {steps : List Step} (h : InOrder g visible steps)
    (hd : (steps.map Step.id).Nodup) (hapart : ∀ id ∈ visible, id ∉ steps.map Step.id) :
    LeadsBack g (steps.map Step.id) := by
  induction steps generalizing visible with
  | nil => trivial
  | cons step rest ih =>
    obtain ⟨hnot, hd⟩ := List.nodup_cons.1 hd
    refine ⟨fun target ht => hapart target (h.1 target ht), ih h.2 hd fun id hid => ?_⟩
    rcases List.mem_append.1 hid with hid | hid
    · exact fun hm => hapart id hid (List.mem_cons_of_mem _ hm)
    · rw [List.mem_singleton.1 hid]
      exact hnot

section

variable {g : Graph}

theorem targets_of_readsFrom {visible : List String} {step : Step}
    (hr : references step = .ok (g.targets step.id)) (h : ReadsFrom visible step) :
    ∀ target ∈ g.targets step.id, target ∈ visible := by
  obtain ⟨names, hn, h⟩ := h
  cases hr.symm.trans hn
  exact h

mutual

theorem inOrder_of_sees {visible : List String} {step : Step}
    (hr : ∀ inner ∈ step.flat, references inner = .ok (g.targets inner.id)) (h : Sees visible step) :
    InOrder g visible step.flat := by
  have hmore : visible ⊆ visible ++ [step.id] := List.subset_append_left ..
  cases step with
  | condition id test whenTrue whenFalse =>
    rw [Sees] at h
    obtain ⟨hown, htrue, hfalse⟩ := h
    refine ⟨targets_of_readsFrom (hr _ (by simp [Step.flat])) hown, .append ?_ ?_⟩
    · exact (inOrder_of_seesAll (fun inner hi => hr inner (by simp [Step.flat, hi])) htrue).mono hmore
    · refine (inOrder_of_seesAll (fun inner hi => hr inner (by simp [Step.flat, hi])) hfalse).mono ?_
      exact List.Subset.trans hmore (List.subset_append_left ..)
  | parallel id branches =>
    rw [Sees] at h
    refine ⟨targets_of_readsFrom (hr _ (by simp [Step.flat])) h.1, ?_⟩
    exact (inOrder_of_seesEach (fun inner hi => hr inner (by simp [Step.flat, hi])) h.2).mono hmore
  | agent id agent operation input key => exact ⟨targets_of_readsFrom (hr _ (by simp [Step.flat])) h, trivial⟩
  | aggregate id sources how key => exact ⟨targets_of_readsFrom (hr _ (by simp [Step.flat])) h, trivial⟩
  | transform id fields key => exact ⟨targets_of_readsFrom (hr _ (by simp [Step.flat])) h, trivial⟩
  | validate id rules => exact ⟨targets_of_readsFrom (hr _ (by simp [Step.flat])) h, trivial⟩

theorem inOrder_of_seesAll {visible : List String} {steps : List Step}
    (hr : ∀ inner ∈ Step.flatAll steps, references inner = .ok (g.targets inner.id))
    (h : SeesAll visible steps) : InOrder g visible (Step.flatAll steps) := by
  cases steps with
  | nil => trivial
  | cons step rest =>
    rw [SeesAll] at h
    rw [Step.flatAll]
    refine .append (inOrder_of_sees (fun inner hi => hr inner (by simp [Step.flatAll, hi])) h.1) ?_
    exact inOrder_of_seesAll (fun inner hi => hr inner (by simp [Step.flatAll, hi])) h.2

theorem inOrder_of_seesEach {visible : List String} {steps : List Step}
    (hr : ∀ inner ∈ Step.flatAll steps, references inner = .ok (g.targets inner.id))
    (h : SeesEach visible steps) : InOrder g visible (Step.flatAll steps) := by
  cases steps with
  | nil => trivial
  | cons step rest =>
    rw [SeesEach] at h
    rw [Step.flatAll]
    refine .append (inOrder_of_sees (fun inner hi => hr inner (by simp [Step.flatAll, hi])) h.1) ?_
    refine (inOrder_of_seesEach (fun inner hi => hr inner (by simp [Step.flatAll, hi])) h.2).mono ?_
    exact List.subset_append_left ..

end

end

theorem names_of_graph {steps : List Step} {g : Graph} (h : graph steps = .ok g) :
    g.names = steps.map Step.id := by
  induction steps generalizing g with
  | nil =>
    cases h
    rfl
  | cons step rest ih =>
    obtain ⟨names, others, _, hg, rfl⟩ := graph_cons h
    rw [Assoc.names, List.map_cons, ← Assoc.names, ih hg, List.map_cons]

/-- References that lead back make no circle. -/
theorem not_circular {steps : List Step} {g : Graph} (hg : graph (Step.flatAll steps) = .ok g)
    (hd : ((Step.flatAll steps).map Step.id).Nodup) (h : SeesAll [] steps) : g.isCircular = false := by
  have hr := references_eq_targets hg hd
  have hback : LeadsBack g g.names := by
    rw [names_of_graph hg]
    exact (inOrder_of_seesAll hr h).leadsBack hd nofun
  rw [Graph.isCircular_eq_false, Graph.checkCircles_eq_ok]
  exact Graph.not_hasCircle (hback.grounded [] nofun rfl)

end Validation

end Conductor
