import Conductor.Proofs.Template.References
import Conductor.Proofs.Validation.Circle
import Conductor.Proofs.Validation.Order

/-! What a definition has to be in order to be accepted, said without the checks: neither their order, nor
the graph they build, nor the ids they carry down the tree. A definition is accepted just when it is so. -/

namespace Conductor

namespace Validation

variable {α : Type}

/-! What a step reads -/

/-- The texts of a step that are templates. -/
inductive Fills (s : String) : Step → Prop
  | input {id agent operation : String} {input : List (String × Json)} {key : Option String} :
    Json.Holds s (.obj input) → Fills s (.agent id agent operation input key)
  | field {id : String} {fields : List (String × Json)} {key : Option String} :
    Json.Holds s (.obj fields) → Fills s (.transform id fields key)

/-- The texts of a step that are expressions when they have no placeholder. -/
inductive Asks (s : String) : Step → Prop
  | test {id : String} {whenTrue whenFalse : List Step} : Asks s (.condition id s whenTrue whenFalse)
  | field {id : String} {rule : Rule} {rules : List Rule} :
    rule ∈ rules → rule.field = s → Asks s (.validate id rules)

structure Parses (step : Step) : Prop where
  templates : ∀ s, Fills s step → Template.Parses s
  bare : ∀ s, Asks s step → Template.ParsesBare s

inductive References (name : String) (step : Step) : Prop
  | template {s : String} : Fills s step → Template.Names s name → References name step
  | bare {s : String} : Asks s step → Template.NamesBare s name → References name step
  | source {id : String} {sources : List String} {how : Combine} {key : Option String} :
    step = .aggregate id sources how key → name ∈ sources → References name step

theorem gathers_ruleReferences (rules : List Rule) :
    Gathers Template.bareReferences (fun s => ∃ rule ∈ rules, rule.field = s) (ruleReferences rules) := by
  induction rules with
  | nil => exact .none (by simp)
  | cons rule rest ih =>
    rw [ruleReferences]
    refine ((Gathers.one rule.field).append ih).congr fun s => ?_
    simp [eq_comm]

/-- What the graph holds of a step: whether its texts parse, and then which ids they name. -/
structure Reading (step : Step) : Prop where
  readable : (∃ names, references step = .ok names) ↔ Parses step
  names : ∀ {names}, references step = .ok names → ∀ name, name ∈ names ↔ References name step

theorem Reading.of_templates {step : Step}
    (h : Gathers Template.textReferences (Fills · step) (references step)) (hbare : ∀ s, ¬ Asks s step)
    (hsource : ∀ id sources how key, step ≠ .aggregate id sources how key) : Reading step where
  readable := by
    rw [h.readable]
    constructor
    · exact fun hr => ⟨fun s hs => Template.textReferences_readable.1 (hr s hs), fun s hs => absurd hs (hbare s)⟩
    · exact fun hp s hs => Template.textReferences_readable.2 (hp.templates s hs)
  names hr name := by
    rw [h.names hr]
    constructor
    · rintro ⟨s, hs, hn⟩
      exact .template hs (Template.mem_textReferences.1 hn)
    · intro hn
      cases hn with
      | template hs hn => exact ⟨_, hs, Template.mem_textReferences.2 hn⟩
      | bare hs => exact absurd hs (hbare _)
      | source he => exact absurd he (hsource _ _ _ _)

theorem Reading.of_bare {step : Step}
    (h : Gathers Template.bareReferences (Asks · step) (references step)) (htemplates : ∀ s, ¬ Fills s step)
    (hsource : ∀ id sources how key, step ≠ .aggregate id sources how key) : Reading step where
  readable := by
    rw [h.readable]
    constructor
    · exact fun hr =>
        ⟨fun s hs => absurd hs (htemplates s), fun s hs => Template.bareReferences_readable.1 (hr s hs)⟩
    · exact fun hp s hs => Template.bareReferences_readable.2 (hp.bare s hs)
  names hr name := by
    rw [h.names hr]
    constructor
    · rintro ⟨s, hs, hn⟩
      exact .bare hs (Template.mem_bareReferences.1 hn)
    · intro hn
      cases hn with
      | template hs => exact absurd hs (htemplates _)
      | bare hs hn => exact ⟨_, hs, Template.mem_bareReferences.2 hn⟩
      | source he => exact absurd he (hsource _ _ _ _)

theorem reading (step : Step) : Reading step := by
  cases step with
  | agent id agent operation input key =>
    refine .of_templates ((Template.gathers_references _).congr fun s => ⟨fun h => ?_, .input⟩) nofun nofun
    cases h with
    | input h => exact h
  | transform id fields key =>
    refine .of_templates ((Template.gathers_references _).congr fun s => ⟨fun h => ?_, .field⟩) nofun nofun
    cases h with
    | field h => exact h
  | condition id test whenTrue whenFalse =>
    refine .of_bare ((Gathers.one test).congr fun s => ⟨fun h => ?_, fun h => h ▸ .test⟩) nofun nofun
    cases h
    rfl
  | validate id rules =>
    refine .of_bare ((gathers_ruleReferences rules).congr fun s => ⟨fun h => ?_, ?_⟩) nofun nofun
    · cases h with
      | field hr he => exact ⟨_, hr, he⟩
    · rintro ⟨rule, hr, he⟩
      exact .field hr he
  | parallel id branches => exact .of_templates (.none nofun) nofun nofun
  | aggregate id sources how key =>
    refine ⟨⟨fun _ => ⟨nofun, nofun⟩, fun _ => ⟨sources, rfl⟩⟩, fun hr name => ?_⟩
    cases hr
    refine ⟨.source rfl, fun h => ?_⟩
    cases h with
    | source he hn =>
      cases he
      exact hn
    | template hs => cases hs
    | bare hs => cases hs

/-! What a definition has to be -/

structure Specified (r : Registry α) (d : Definition) : Prop where
  name : ∃ c ∈ d.name.toList, isBlank c = false
  steps : d.steps ≠ []
  agents : ∀ {id agent operation input key}, Step.agent id agent operation input key ∈ d.flat →
    r.hasAgent agent = true ∧ r.hasOperation agent operation = true
  ids : (d.flat.map Step.id).Nodup
  texts : ∀ step ∈ d.flat, Parses step
  order : ∀ step ∈ d.flat, ∀ name, References name step →
    ∃ earlier, Before d.steps earlier step ∧ earlier.id = name

theorem allBlank_eq_false {s : String} : allBlank s = false ↔ ∃ c ∈ s.toList, isBlank c = false := by
  simp [allBlank]

theorem checkAgent_eq_ok {r : Registry α} {step : Step} : checkAgent r step = .ok () ↔
    ∀ {id agent operation input key}, step = .agent id agent operation input key →
      r.hasAgent agent = true ∧ r.hasOperation agent operation = true := by
  cases step with
  | agent id agent operation input key =>
    rw [checkAgent]
    constructor
    · intro h id' agent' operation' input' key' he
      cases he
      split at h
      · cases h
      · split at h
        · cases h
        · simp_all
    · intro h
      obtain ⟨ha, ho⟩ := h rfl
      simp [ha, ho]
  | condition id test whenTrue whenFalse => exact ⟨fun _ => nofun, fun _ => rfl⟩
  | parallel id branches => exact ⟨fun _ => nofun, fun _ => rfl⟩
  | aggregate id sources how key => exact ⟨fun _ => nofun, fun _ => rfl⟩
  | transform id fields key => exact ⟨fun _ => nofun, fun _ => rfl⟩
  | validate id rules => exact ⟨fun _ => nofun, fun _ => rfl⟩

theorem allowed_iff {step : Step} {before : Step → Step → Prop} :
    Allowed [] before step ↔
      Parses step ∧ ∀ name, References name step → ∃ earlier, before earlier step ∧ earlier.id = name := by
  constructor
  · rintro ⟨names, hr, h⟩
    refine ⟨(reading step).readable.1 ⟨names, hr⟩, fun name hn => ?_⟩
    exact (h name (((reading step).names hr name).2 hn)).resolve_left nofun
  · rintro ⟨hp, h⟩
    obtain ⟨names, hr⟩ := (reading step).readable.2 hp
    exact ⟨names, hr, fun name hn => .inr (h name (((reading step).names hr name).1 hn))⟩

theorem Specified.seesAll {r : Registry α} {d : Definition} (h : Specified r d) : SeesAll [] d.steps :=
  (seesAll_iff (List.Nodup.of_map _ h.ids)).2 fun step hs => allowed_iff.2 ⟨h.texts step hs, h.order step hs⟩

/-! From the specification back to the checks -/

theorem checkIds_of_nodup {seen ids : List String} (hd : ids.Nodup) (hnew : ∀ id ∈ ids, id ∉ seen) :
    checkIds seen ids = .ok () := by
  induction ids generalizing seen with
  | nil => rfl
  | cons first rest ih =>
    obtain ⟨hnot, hd⟩ := List.nodup_cons.1 hd
    rw [checkIds, if_neg (hnew first List.mem_cons_self)]
    refine ih hd fun id hid hseen => ?_
    rcases List.mem_cons.1 hseen with rfl | hseen
    · exact hnot hid
    · exact hnew id (List.mem_cons_of_mem _ hid) hseen

theorem graph_of_readable {steps : List Step} (h : ∀ step ∈ steps, ∃ names, references step = .ok names) :
    ∃ g, graph steps = .ok g := by
  induction steps with
  | nil => exact ⟨[], rfl⟩
  | cons step rest ih =>
    obtain ⟨names, hr⟩ := h step List.mem_cons_self
    obtain ⟨g, hg⟩ := ih fun inner hi => h inner (List.mem_cons_of_mem _ hi)
    exact ⟨(step.id, names) :: g, by rw [graph, hr, hg]; rfl⟩

section

variable {g : Graph}

theorem checkReferences_of_readsFrom {visible : List String} {step : Step}
    (hr : references step = .ok (g.targets step.id)) (h : ReadsFrom visible step) :
    checkReferences g visible step = .ok () := by
  have hnone : (Template.sortNames (g.targets step.id)).find? (· ∉ visible) = none := by
    refine List.find?_eq_none.2 fun name hn => ?_
    simpa using targets_of_readsFrom hr h name (mem_sortNames.1 hn)
  rw [checkReferences, hnone]

mutual

theorem checkStep_of_sees {visible : List String} {step : Step}
    (hr : ∀ inner ∈ step.flat, references inner = .ok (g.targets inner.id)) (h : Sees visible step) :
    checkStep g visible step = .ok () := by
  cases step with
  | condition id test whenTrue whenFalse =>
    rw [Sees] at h
    obtain ⟨hown, htrue, hfalse⟩ := h
    rw [checkStep, checkReferences_of_readsFrom (hr _ (by simp [Step.flat])) hown,
      checkSequence_of_seesAll (fun inner hi => hr inner (by simp [Step.flat, hi])) htrue,
      checkSequence_of_seesAll (fun inner hi => hr inner (by simp [Step.flat, hi])) hfalse]
    rfl
  | parallel id branches =>
    rw [Sees] at h
    rw [checkStep, checkReferences_of_readsFrom (hr _ (by simp [Step.flat])) h.1,
      checkBranches_of_seesEach (fun inner hi => hr inner (by simp [Step.flat, hi])) h.2]
    rfl
  | agent id agent operation input key => exact checkReferences_of_readsFrom (hr _ (by simp [Step.flat])) h
  | aggregate id sources how key => exact checkReferences_of_readsFrom (hr _ (by simp [Step.flat])) h
  | transform id fields key => exact checkReferences_of_readsFrom (hr _ (by simp [Step.flat])) h
  | validate id rules => exact checkReferences_of_readsFrom (hr _ (by simp [Step.flat])) h

theorem checkSequence_of_seesAll {visible : List String} {steps : List Step}
    (hr : ∀ inner ∈ Step.flatAll steps, references inner = .ok (g.targets inner.id))
    (h : SeesAll visible steps) : checkSequence g visible steps = .ok () := by
  cases steps with
  | nil => rfl
  | cons step rest =>
    rw [SeesAll] at h
    rw [checkSequence, checkStep_of_sees (fun inner hi => hr inner (by simp [Step.flatAll, hi])) h.1]
    exact checkSequence_of_seesAll (fun inner hi => hr inner (by simp [Step.flatAll, hi])) h.2

theorem checkBranches_of_seesEach {visible : List String} {steps : List Step}
    (hr : ∀ inner ∈ Step.flatAll steps, references inner = .ok (g.targets inner.id))
    (h : SeesEach visible steps) : checkBranches g visible steps = .ok () := by
  cases steps with
  | nil => rfl
  | cons step rest =>
    rw [SeesEach] at h
    rw [checkBranches, checkStep_of_sees (fun inner hi => hr inner (by simp [Step.flatAll, hi])) h.1]
    exact checkBranches_of_seesEach (fun inner hi => hr inner (by simp [Step.flatAll, hi])) h.2

end

end

theorem name_of_check {r : Registry α} {d : Definition} (h : check r d = .ok ()) :
    allBlank d.name = false ∧ d.steps ≠ [] := by
  unfold check at h
  by_cases hname : allBlank d.name = true
  · rw [if_pos hname] at h
    cases h
  · rw [if_neg hname] at h
    refine ⟨Bool.eq_false_iff.2 hname, fun hempty => ?_⟩
    rw [hempty] at h
    cases h

theorem specified_of_check {r : Registry α} {d : Definition} (h : check r d = .ok ()) : Specified r d := by
  obtain ⟨hname, hsteps⟩ := name_of_check h
  have ha := accepted_of_check h
  have hallowed := (seesAll_iff (List.Nodup.of_map _ ha.distinct)).1 ha.order
  exact {
    name := allBlank_eq_false.1 hname
    steps := hsteps
    agents := fun hs => checkAgent_eq_ok.1 (ha.agents _ hs) rfl
    ids := ha.distinct
    texts := fun step hs => (allowed_iff.1 (hallowed step hs)).1
    order := fun step hs => (allowed_iff.1 (hallowed step hs)).2 }

theorem Specified.graph {r : Registry α} {d : Definition} (h : Specified r d) :
    ∃ g, graph d.flat = .ok g ∧ g.isCircular = false := by
  obtain ⟨g, hg⟩ := graph_of_readable fun step hs => (reading step).readable.2 (h.texts step hs)
  exact ⟨g, hg, not_circular hg h.ids h.seesAll⟩

theorem Specified.check {r : Registry α} {d : Definition} (h : Specified r d) : check r d = .ok () := by
  obtain ⟨g, hg, hcircular⟩ := h.graph
  have hagents : d.flat.forM (checkAgent r) = .ok () := by
    refine ok_of_forM fun step hs => checkAgent_eq_ok.2 ?_
    rintro id agent operation input key rfl
    exact h.agents hs
  have hsteps : d.steps.isEmpty = false := by simpa using h.steps
  have hsequence := checkSequence_of_seesAll (references_eq_targets hg h.ids) h.seesAll
  have hids : checkIds [] (d.flat.map Step.id) = .ok () := checkIds_of_nodup h.ids fun _ _ => List.not_mem_nil
  have hblank : allBlank d.name = false := allBlank_eq_false.2 h.name
  rw [Validation.check, if_neg (Bool.eq_false_iff.1 hblank), if_neg (Bool.eq_false_iff.1 hsteps), hagents, hids, hg]
  change (g.checkCircles >>= _) = _
  rw [Graph.isCircular_eq_false.1 hcircular]
  exact hsequence

/-- Acceptance is exactly the specification. The search for circles never turns away what meets it. -/
theorem accepts_exactly_the_specified (r : Registry α) (d : Definition) :
    (check r d = .ok () ↔ Specified r d) ∧
      (Specified r d → ∃ g, graph d.flat = .ok g ∧ g.isCircular = false) :=
  ⟨⟨specified_of_check, Specified.check⟩, Specified.graph⟩

end Validation

end Conductor
