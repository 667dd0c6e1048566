import Conductor.Proofs.Except
import Conductor.Validation
import Mathlib.Data.List.Nodup

/-! What is known of a definition that was accepted: its agents are there, its ids are distinct,
every step tells which steps it reads, and each of these stands before it. -/

namespace Conductor

namespace Validation

variable {α : Type}

/-- All that a step reads is visible. -/
def ReadsFrom (visible : List String) (step : Step) : Prop :=
  ∃ names, references step = .ok names ∧ ∀ name ∈ names, name ∈ visible

mutual

/-- A step and all that it holds read what is visible where they stand. -/
def Sees (visible : List String) : Step → Prop
  | .condition id test whenTrue whenFalse =>
    ReadsFrom visible (.condition id test whenTrue whenFalse) ∧ SeesAll visible whenTrue ∧
      SeesAll visible whenFalse
  | .parallel id branches => ReadsFrom visible (.parallel id branches) ∧ SeesEach visible branches
  | step => ReadsFrom visible step

/-- Steps in turn, of which each makes the next ones see more. -/
def SeesAll (visible : List String) : List Step → Prop
  | [] => True
  | step :: rest => Sees visible step ∧ SeesAll (visible ++ step.flat.map Step.id) rest

/-- Steps side by side. -/
def SeesEach (visible : List String) : List Step → Prop
  | [] => True
  | step :: rest => Sees visible step ∧ SeesEach visible rest

end

structure Accepted (r : Registry α) (d : Definition) : Prop where
  agents : ∀ step ∈ d.flat, checkAgent r step = .ok ()
  distinct : (d.flat.map Step.id).Nodup
  told : ∀ step ∈ d.flat, ∃ names, references step = .ok names
  order : SeesAll [] d.steps

theorem nodup_of_checkIds {seen ids : List String} (h : checkIds seen ids = .ok ()) :
    ids.Nodup ∧ ∀ id ∈ ids, id ∉ seen := by
  induction ids generalizing seen with
  | nil => exact ⟨List.nodup_nil, fun id hi => by cases hi⟩
  | cons first rest ih =>
    unfold checkIds at h
    by_cases hs : first ∈ seen
    · rw [if_pos hs] at h
      cases h
    · rw [if_neg hs] at h
      obtain ⟨hnodup, hnot⟩ := ih h
      refine ⟨List.nodup_cons.2 ⟨fun hf => hnot first hf (by simp), hnodup⟩, fun id hi => ?_⟩
      rcases List.mem_cons.1 hi with rfl | hi
      · exact hs
      · exact fun hm => hnot id hi (by simp [hm])

theorem graph_cons {step : Step} {rest : List Step} {g : Graph} (h : graph (step :: rest) = .ok g) :
    ∃ names others, references step = .ok names ∧ graph rest = .ok others ∧
      g = (step.id, names) :: others := by
  rw [graph] at h
  cases hr : references step with
  | error e =>
    rw [hr] at h
    cases h
  | ok names =>
    rw [hr] at h
    cases hg : graph rest with
    | error e =>
      rw [hg] at h
      cases h
    | ok others =>
      rw [hg] at h
      cases h
      exact ⟨names, others, rfl, rfl, rfl⟩

/-- The graph has for each step what that step reads, since no other one goes by its id. -/
theorem references_eq_targets {steps : List Step} {g : Graph} (h : graph steps = .ok g)
    (hd : (steps.map Step.id).Nodup) : ∀ step ∈ steps, references step = .ok (g.targets step.id) := by
  induction steps generalizing g with
  | nil => exact fun step hs => by cases hs
  | cons first rest ih =>
    obtain ⟨names, others, hr, hg, rfl⟩ := graph_cons h
    rw [List.map_cons, List.nodup_cons] at hd
    intro step hs
    rcases List.mem_cons.1 hs with rfl | hs
    · rw [hr, Graph.targets, Assoc.get?, if_pos rfl]
      rfl
    · have hne : first.id ≠ step.id := fun he => hd.1 (he ▸ List.mem_map_of_mem hs)
      rw [ih hg hd.2 step hs, Graph.targets, Graph.targets, Assoc.get?, if_neg hne]

theorem mem_sortNames {names : List String} {name : String} :
    name ∈ Template.sortNames names ↔ name ∈ names := by
  rw [Template.sortNames, List.mem_mergeSort, List.mem_eraseDups]

theorem readsFrom_of_check {g : Graph} {visible : List String} {step : Step}
    (hr : references step = .ok (g.targets step.id)) (h : checkReferences g visible step = .ok ()) :
    ReadsFrom visible step := by
  refine ⟨_, hr, fun name hn => ?_⟩
  unfold checkReferences at h
  split at h
  · cases h
  · have hall := List.find?_eq_none.1 ‹_› name (mem_sortNames.2 hn)
    simpa using hall

mutual

theorem sees_of_check {g : Graph} {visible : List String} {step : Step}
    (hr : ∀ inner ∈ step.flat, references inner = .ok (g.targets inner.id))
    (h : checkStep g visible step = .ok ()) : Sees visible step := by
  cases step with
  | condition id test whenTrue whenFalse =>
    rw [checkStep] at h
    obtain ⟨_, hown, h⟩ := bind_eq_ok h
    obtain ⟨_, htrue, hfalse⟩ := bind_eq_ok h
    rw [Sees]
    refine ⟨readsFrom_of_check (hr _ (by simp [Step.flat])) hown, ?_, ?_⟩
    · exact seesAll_of_check (fun inner hi => hr inner (by simp [Step.flat, hi])) htrue
    · exact seesAll_of_check (fun inner hi => hr inner (by simp [Step.flat, hi])) hfalse
  | parallel id branches =>
    rw [checkStep] at h
    obtain ⟨_, hown, hbranches⟩ := bind_eq_ok h
    rw [Sees]
    refine ⟨readsFrom_of_check (hr _ (by simp [Step.flat])) hown, ?_⟩
    exact seesEach_of_check (fun inner hi => hr inner (by simp [Step.flat, hi])) hbranches
  | agent id agent operation input key => exact readsFrom_of_check (hr _ (by simp [Step.flat])) h
  | aggregate id sources how key => exact readsFrom_of_check (hr _ (by simp [Step.flat])) h
  | transform id fields key => exact readsFrom_of_check (hr _ (by simp [Step.flat])) h
  | validate id rules => exact readsFrom_of_check (hr _ (by simp [Step.flat])) h

theorem seesAll_of_check {g : Graph} {visible : List String} {steps : List Step}
    (hr : ∀ inner ∈ Step.flatAll steps, references inner = .ok (g.targets inner.id))
    (h : checkSequence g visible steps = .ok ()) : SeesAll visible steps := by
  cases steps with
  | nil => trivial
  | cons step rest =>
    rw [checkSequence] at h
    obtain ⟨_, hfirst, hrest⟩ := bind_eq_ok h
    rw [SeesAll]
    refine ⟨sees_of_check (fun inner hi => hr inner (by simp [Step.flatAll, hi])) hfirst, ?_⟩
    exact seesAll_of_check (fun inner hi => hr inner (by simp [Step.flatAll, hi])) hrest

theorem seesEach_of_check {g : Graph} {visible : List String} {steps : List Step}
    (hr : ∀ inner ∈ Step.flatAll steps, references inner = .ok (g.targets inner.id))
    (h : checkBranches g visible steps = .ok ()) : SeesEach visible steps := by
  cases steps with
  | nil => trivial
  | cons step rest =>
    rw [checkBranches] at h
    obtain ⟨_, hfirst, hrest⟩ := bind_eq_ok h
    rw [SeesEach]
    refine ⟨sees_of_check (fun inner hi => hr inner (by simp [Step.flatAll, hi])) hfirst, ?_⟩
    exact seesEach_of_check (fun inner hi => hr inner (by simp [Step.flatAll, hi])) hrest

end

theorem accepted_of_check {r : Registry α} {d : Definition} (h : check r d = .ok ()) : Accepted r d := by
  unfold check at h
  by_cases hname : allBlank d.name = true
  · rw [if_pos hname] at h
    cases h
  · by_cases hempty : d.steps.isEmpty = true
    · rw [if_neg hname, if_pos hempty] at h
      cases h
    · rw [if_neg hname, if_neg hempty] at h
      obtain ⟨_, hagents, h⟩ := bind_eq_ok h
      obtain ⟨_, hids, h⟩ := bind_eq_ok h
      obtain ⟨g, hgraph, h⟩ := bind_eq_ok h
      -- ids are checked first, so that the graph has one entry for each step
      have hdistinct := (nodup_of_checkIds hids).1
      have hr := references_eq_targets hgraph hdistinct
      refine ⟨forM_eq_ok hagents, hdistinct, fun step hs => ⟨_, hr step hs⟩, ?_⟩
      obtain ⟨_, -, h⟩ := bind_eq_ok h
      exact seesAll_of_check hr h

end Validation

end Conductor
