import Conductor.Proofs.Run.Trace
import Mathlib.Tactic.Abel

/-! What a trace accounts for. Whatever came of them, steps leave no more records and calls than there
are steps written; and when all went well, every step written either ran or was passed over for the
branch that a condition did not take. -/

namespace Conductor

/-- The operation that a step calls itself. -/
def Step.operation? : Step → Option (String × String)
  | agent _ name operation _ _ => some (name, operation)
  | _ => none

namespace Run

open Step

def ids (steps : List Step) : Multiset String := (steps.map Step.id : List String)

def operations (steps : List Step) : Multiset (String × String) :=
  (steps.filterMap Step.operation? : List (String × String))

@[simp] theorem ids_append (first second : List Step) : ids (first ++ second) = ids first + ids second := by
  simp [ids]

@[simp] theorem operations_append (first second : List Step) :
    operations (first ++ second) = operations first + operations second := by
  simp [operations]

/-- Records of a run that have all come to an end, one for each of some ids at most, and calls of some
operations at most. -/
structure Fits (own : String) (ids : Multiset String) (operations : Multiset (String × String)) (m : Share) :
    Prop where
  own : ∀ r ∈ m.records, r.execution = own
  ended : ∀ r ∈ m.records, r.status ∈ [.completed, .failed, .skipped]
  steps : m.records.map (·.step) ≤ ids
  calls : m.calls.map (fun call => (call.agent, call.operation)) ≤ operations

variable {env : Setting} {own : String}

theorem fits_zero {ids : Multiset String} {operations : Multiset (String × String)} : Fits own ids operations 0 :=
  ⟨by simp, by simp, Multiset.zero_le _, Multiset.zero_le _⟩

theorem Fits.add {ids ids' : Multiset String} {operations operations' : Multiset (String × String)} {m m' : Share}
    (h : Fits own ids operations m) (h' : Fits own ids' operations' m') :
    Fits own (ids + ids') (operations + operations') (m + m') where
  own r hr := (Multiset.mem_add.1 hr).elim (h.own r) (h'.own r)
  ended r hr := (Multiset.mem_add.1 hr).elim (h.ended r) (h'.ended r)
  steps := by
    rw [Share.records_add, Multiset.map_add]
    exact add_le_add h.steps h'.steps
  calls := by
    rw [Share.calls_add, Multiset.map_add]
    exact add_le_add h.calls h'.calls

/-- What steps leave is no more than is written in them. -/
abbrev Within (own : String) (steps : List Step) (m : Share) : Prop :=
  Fits own (ids (flatAll steps)) (operations (flatAll steps)) m

theorem Within.append {first second : List Step} {m m' : Share} (h : Within own first m)
    (h' : Within own second m') : Within own (first ++ second) (m + m') := by
  unfold Within
  rw [flatAll_append, ids_append, operations_append]
  exact h.add h'

theorem Skipped.within {steps : List Step} {rs : Multiset StepRecord} (h : Skipped own steps rs) :
    Within own steps { records := rs } where
  own r hr := (h.reads r hr).execution
  ended r hr := by simp [(h.reads r hr).status]
  steps := le_of_eq h.steps
  calls := Multiset.zero_le _

theorem Called.card_calls {id agent operation : String} {input : Members} {key : String} {c c' : Context}
    {out : Except Failure Output} {calls : Multiset Call}
    (h : Called env id agent operation input key c out c' calls) :
    calls.map (fun call => (call.agent, call.operation)) ≤ {(agent, operation)} := by
  cases h with
  | missing | unclear => exact Multiset.zero_le _
  | failed | malformed | answered => exact le_of_eq (Multiset.map_singleton _ _)

/-- What a step leaves besides its own record, as its body is. -/
abbrev Spends (own : String) (step : Step) (m : Share) : Prop :=
  Fits own (ids (flatAll step.children)) (operations (step :: flatAll step.children)) m

theorem within_of_ran {step : Step} {c c' : Context} {out : Except Failure StepResult} {m : Share}
    (hdid : ∀ {out m}, Did env own step c out c' m → Spends own step m) (h : Ran env own step c out c' m) :
    Within own [step] m := by
  have hflat : flatAll [step] = step :: flatAll step.children := by rw [flatAll, flatAll, List.append_nil, flat_eq]
  unfold Within
  rw [hflat]
  have hids : ids (step :: flatAll step.children) = {step.id} + ids (flatAll step.children) := rfl
  have hrecord {r : StepRecord} {status : StepStatus} {error : Json} {output : Json → Prop}
      {events : Multiset Event} (hr : r.Reads own step.id status error output)
      (hstatus : status ∈ [StepStatus.completed, .failed, .skipped]) :
      Fits own {step.id} 0 { records := {r}, events } := by
    refine ⟨?_, ?_, ?_, Multiset.zero_le _⟩
    · simpa using hr.execution
    · simpa [hr.status] using hstatus
    · simp [hr.step]
  rw [hids, ← zero_add (operations _)]
  cases h with
  | completed did reads => exact (hrecord reads (by simp)).add (hdid did)
  | failed did reads => exact (hrecord reads (by simp)).add (hdid did)

mutual

theorem spends_of_did (step : Step) {c c' : Context} {out : Except Failure Output} {m : Share}
    (h : Did env own step c out c' m) :
    Spends own step m := by
  cases step with
  | agent id agent operation input key =>
    cases h with
    | agent called => exact ⟨by simp, by simp, Multiset.zero_le _, called.card_calls⟩
  | condition id test whenTrue whenFalse =>
    have htaken {holds : Bool} {rs : Multiset StepRecord} {m : Share}
        (skipped : Skipped own (if holds then whenFalse else whenTrue) rs)
        (ran : Within own (if holds then whenTrue else whenFalse) m) :
        Within own (whenTrue ++ whenFalse) ({ records := rs } + m) := by
      cases holds with
      | true =>
        rw [add_comm]
        exact ran.append skipped.within
      | false => exact skipped.within.append ran
    cases h with
    | unclear => exact fits_zero
    | @took _ _ _ _ _ _ holds _ _ _ _ skipped ran =>
      refine htaken skipped ?_
      cases holds with
      | true => exact within_of_ranAll whenTrue ran
      | false => exact within_of_ranAll whenFalse ran
    | @broke _ _ _ _ _ _ holds _ _ _ _ skipped ran =>
      refine htaken skipped ?_
      cases holds with
      | true => exact within_of_ranAll whenTrue ran
      | false => exact within_of_ranAll whenFalse ran
  | parallel id steps =>
    cases h with
    | parallel ran joined => exact within_of_ranEach steps ran
  | aggregate =>
    cases h
    exact fits_zero
  | transform =>
    cases h
    exact fits_zero
  | validate =>
    cases h
    exact fits_zero

theorem within_of_ranAll (steps : List Step) {outputs : Assoc Output} {c c' : Context}
    {out : Except Failure (Assoc Output)} {m : Share} (h : RanAll env own steps outputs c out c' m) :
    Within own steps m := by
  cases steps with
  | nil =>
    cases h
    exact fits_zero
  | cons first rest =>
    cases h with
    | cons ran others => exact (within_of_ran (spends_of_did first) ran).append (within_of_ranAll rest others)
    | stopped ran => exact add_zero m ▸ (within_of_ran (spends_of_did first) ran).append fits_zero

theorem within_of_ranEach (steps : List Step) {fork : Context} {ends : List BranchEnd} {m : Share}
    (h : RanEach env own steps fork ends m) : Within own steps m := by
  cases steps with
  | nil =>
    cases h
    exact fits_zero
  | cons first rest =>
    cases h with
    | cons ran others => exact (within_of_ran (spends_of_did first) ran).append (within_of_ranEach rest others)

end

/-! Traces of steps that all went well -/

/-- A condition that was started, and what came of its test then. -/
def Asked (own : String) (events : Multiset Event) (step : Step) (holds : Bool) : Prop :=
  ∃ id test whenTrue whenFalse c store, step = .condition id test whenTrue whenFalse ∧
    .started own id c store ∈ events ∧ Template.condition c.view test = .ok holds

/-- How steps divide into those that run and those that are passed over: all that the branch holds which
a condition does not take, at any depth. -/
inductive Divides (asked : Step → Bool → Prop) : List Step → List Step → List Step → Prop
  | nil : Divides asked [] [] []
  | plain {step : Step} {rest ran skipped : List Step} (kind : step.kind ≠ .condition ∧ step.kind ≠ .parallel)
      (others : Divides asked rest ran skipped) : Divides asked (step :: rest) (step :: ran) skipped
  | condition {id test : String} {whenTrue whenFalse rest ran ran' skipped skipped' : List Step} {holds : Bool}
      (answer : asked (.condition id test whenTrue whenFalse) holds)
      (taken : Divides asked (if holds then whenTrue else whenFalse) ran skipped)
      (others : Divides asked rest ran' skipped') :
      Divides asked (.condition id test whenTrue whenFalse :: rest)
        (.condition id test whenTrue whenFalse :: (ran ++ ran'))
        (flatAll (if holds then whenFalse else whenTrue) ++ skipped ++ skipped')
  | parallel {id : String} {steps rest ran ran' skipped skipped' : List Step}
      (branches : Divides asked steps ran skipped) (others : Divides asked rest ran' skipped') :
      Divides asked (.parallel id steps :: rest) (.parallel id steps :: (ran ++ ran')) (skipped ++ skipped')

theorem Divides.mono {asked more : Step → Bool → Prop} {steps ran skipped : List Step}
    (h : Divides asked steps ran skipped) (hm : ∀ step holds, asked step holds → more step holds) :
    Divides more steps ran skipped := by
  induction h with
  | nil => exact .nil
  | plain kind _ ih => exact .plain kind ih
  | condition answer _ _ ih ih' => exact .condition (hm _ _ answer) ih ih'
  | parallel _ _ ih ih' => exact .parallel ih ih'

theorem Divides.append {asked : Step → Bool → Prop} {first second ran ran' skipped skipped' : List Step}
    (h : Divides asked first ran skipped) (h' : Divides asked second ran' skipped') :
    Divides asked (first ++ second) (ran ++ ran') (skipped ++ skipped') := by
  induction h with
  | nil => exact h'
  | plain kind _ ih => exact .plain kind ih
  | condition answer taken _ _ ih =>
    simp only [List.cons_append, List.append_assoc]
    simpa only [List.append_assoc] using Divides.condition answer taken ih
  | parallel branches _ _ ih =>
    simp only [List.cons_append, List.append_assoc]
    exact .parallel branches ih

/-- No step is lost, and none counts twice. -/
theorem Divides.whole {asked : Step → Bool → Prop} {steps ran skipped : List Step}
    (h : Divides asked steps ran skipped) : (ran : Multiset Step) + skipped = flatAll steps := by
  induction h with
  | nil => rfl
  | @plain step rest ran skipped kind _ ih =>
    have hflat : step.flat = [step] := by
      obtain ⟨hcondition, hparallel⟩ := kind
      cases step <;> first | exact absurd rfl hcondition | exact absurd rfl hparallel | simp [flat]
    rw [flatAll, hflat, ← Multiset.cons_coe, Multiset.cons_add, ih]
    rfl
  | @condition id test whenTrue whenFalse rest ran ran' skipped skipped' holds _ _ _ ih ih' =>
    rw [flatAll, flat, List.cons_append, ← Multiset.cons_coe, ← Multiset.cons_coe, Multiset.cons_add]
    refine congrArg (Multiset.cons _) ?_
    simp only [← Multiset.coe_add]
    rw [← ih']
    cases holds with
    | true =>
      simp only [if_true] at ih ⊢
      rw [← ih]
      abel
    | false =>
      simp only [Bool.false_eq_true, if_false] at ih ⊢
      rw [← ih]
      abel
  | @parallel id steps rest ran ran' skipped skipped' _ _ ih ih' =>
    rw [flatAll, flat, List.cons_append, ← Multiset.cons_coe, ← Multiset.cons_coe, Multiset.cons_add]
    refine congrArg (Multiset.cons _) ?_
    simp only [← Multiset.coe_add]
    rw [← ih, ← ih']
    abel

def entries (status : StepStatus) (steps : List Step) : Multiset (String × StepStatus) :=
  (steps.map fun step => (step.id, status) : List (String × StepStatus))

@[simp] theorem entries_append (status : StepStatus) (first second : List Step) :
    entries status (first ++ second) = entries status first + entries status second := by
  simp [entries]

/-- A record for each step that ran or was passed over, and a call for each agent step that ran. -/
structure Tally (ran skipped : List Step) (m : Share) : Prop where
  records : m.records.map (fun r => (r.step, r.status)) = entries .completed ran + entries .skipped skipped
  calls : m.calls.card = ran.countP (·.kind = .agent)

theorem tally_zero : Tally [] [] 0 := ⟨rfl, rfl⟩

theorem Tally.add {ran ran' skipped skipped' : List Step} {m m' : Share} (h : Tally ran skipped m)
    (h' : Tally ran' skipped' m') : Tally (ran ++ ran') (skipped ++ skipped') (m + m') where
  records := by
    rw [Share.records_add, Multiset.map_add, h.records, h'.records, entries_append, entries_append]
    exact add_add_add_comm _ _ _ _
  calls := by rw [Share.calls_add, Multiset.card_add, h.calls, h'.calls, List.countP_append]

theorem Skipped.tally {steps : List Step} {rs : Multiset StepRecord} (h : Skipped own steps rs) :
    Tally [] (flatAll steps) { records := rs } where
  records := by
    have hstatus : rs.map (fun r => (r.step, r.status)) = (rs.map (·.step)).map (·, StepStatus.skipped) := by
      rw [Multiset.map_map]
      exact Multiset.map_congr rfl fun r hr => by rw [(h.reads r hr).status]; rfl
    rw [hstatus, h.steps]
    show _ = (0 : Multiset _) + _
    rw [zero_add, entries, Multiset.map_coe, List.map_map]
    rfl
  calls := rfl

/-- Every step written has run or was passed over. -/
def Whole (own : String) (steps : List Step) (m : Share) : Prop :=
  ∃ ran skipped, Divides (Asked own m.events) steps ran skipped ∧ Tally ran skipped m

theorem asked_mono {few more : Multiset Event} (h : few ≤ more) {step : Step} {holds : Bool}
    (ha : Asked own few step holds) : Asked own more step holds := by
  obtain ⟨id, test, whenTrue, whenFalse, c, store, hstep, hevent, htest⟩ := ha
  exact ⟨id, test, whenTrue, whenFalse, c, store, hstep, Multiset.mem_of_le h hevent, htest⟩

theorem whole_nil : Whole own [] 0 := ⟨[], [], .nil, tally_zero⟩

theorem Whole.append {first second : List Step} {m m' : Share} (h : Whole own first m) (h' : Whole own second m') :
    Whole own (first ++ second) (m + m') := by
  obtain ⟨ran, skipped, divides, tally⟩ := h
  obtain ⟨ran', skipped', divides', tally'⟩ := h'
  refine ⟨ran ++ ran', skipped ++ skipped', Divides.append ?_ ?_, tally.add tally'⟩
  · exact divides.mono fun _ _ => asked_mono (Multiset.le_add_right _ _)
  · exact divides'.mono fun _ _ => asked_mono (Multiset.le_add_left _ _)

/-- What a step that went well makes whole once it is noted that it was started. -/
def Fills (own : String) (step : Step) (c : Context) (m : Share) : Prop :=
  ∀ events store, .started own step.id c store ∈ events → m.events ≤ events →
    ∃ ran skipped, Divides (Asked own events) [step] (step :: ran) skipped ∧
      m.records.map (fun r => (r.step, r.status)) = entries .completed ran + entries .skipped skipped ∧
      m.calls.card = (step :: ran).countP (·.kind = .agent)

theorem whole_of_ran {step : Step} {c c' : Context} {result : StepResult} {m : Share}
    (hdid : ∀ {output m}, Did env own step c (.ok output) c' m → Fills own step c m)
    (h : Ran env own step c (.ok result) c' m) : Whole own [step] m := by
  cases h with
  | @completed _ _ _ output cost m r store did reads =>
    let share : Share := { records := {r}, events := {.started own step.id c store} }
    obtain ⟨ran, skipped, divides, records, calls⟩ := hdid did (share + m).events store
      (Multiset.mem_add.2 (.inl (Multiset.mem_singleton_self _))) (Multiset.le_add_left _ _)
    refine ⟨step :: ran, skipped, divides, ?_, ?_⟩
    · have hr : (r.step, r.status) = (step.id, StepStatus.completed) := by rw [reads.step, reads.status]
      have hcons : entries .completed (step :: ran) = {(step.id, StepStatus.completed)} + entries .completed ran := rfl
      rw [Share.records_add, Multiset.map_add, records, Multiset.map_singleton, hr, hcons, add_assoc]
    · rw [Share.calls_add, Multiset.card_add, calls]
      exact zero_add _

theorem fills_plain {step : Step} {c : Context} {m : Share} (kind : step.kind ≠ .condition ∧ step.kind ≠ .parallel)
    (hrecords : m.records = 0) (hcalls : m.calls.card = if step.kind = .agent then 1 else 0) :
    Fills own step c m := by
  intro events store _ _
  refine ⟨[], [], .plain kind .nil, by rw [hrecords]; rfl, ?_⟩
  rw [hcalls, List.countP_cons, List.countP_nil]
  by_cases hk : step.kind = .agent <;> simp [hk]

mutual

theorem fills_of_did (step : Step) {c c' : Context} {output : Output} {m : Share}
    (h : Did env own step c (.ok output) c' m) : Fills own step c m := by
  cases step with
  | agent id agent operation input key =>
    cases h with
    | agent called =>
      cases called
      exact fills_plain ⟨nofun, nofun⟩ rfl rfl
  | condition id test whenTrue whenFalse =>
    cases h with
    | @took _ _ _ _ _ c' holds rs outputs m asked skipped ran =>
      have hwhole : Whole own (if holds then whenTrue else whenFalse) m := by
        cases holds with
        | true => exact whole_of_ranAll whenTrue ran
        | false => exact whole_of_ranAll whenFalse ran
      obtain ⟨ran', skipped', divides, tally⟩ := hwhole
      intro events store hstarted hevents
      have hdivides : Divides (Asked own events) [.condition id test whenTrue whenFalse]
          (.condition id test whenTrue whenFalse :: (ran' ++ []))
          (flatAll (if holds then whenFalse else whenTrue) ++ skipped' ++ []) := by
        refine .condition ⟨id, test, whenTrue, whenFalse, c, store, rfl, hstarted, asked⟩ ?_ .nil
        refine divides.mono fun _ _ => asked_mono ?_
        exact (zero_add m.events).symm.le.trans hevents
      rw [List.append_nil, List.append_nil] at hdivides
      have htally := skipped.tally.add tally
      exact ⟨ran', _, hdivides, htally.records, htally.calls⟩
  | parallel id steps =>
    cases h with
    | @parallel _ _ _ _ ends _ _ ran joined =>
      obtain ⟨ran', skipped', divides, tally⟩ := whole_of_ranEach steps ran (ok_of_joined joined)
      intro events store hstarted hevents
      have hdivides : Divides (Asked own events) [.parallel id steps] (.parallel id steps :: (ran' ++ []))
          (skipped' ++ []) := .parallel (divides.mono fun _ _ => asked_mono hevents) .nil
      rw [List.append_nil, List.append_nil] at hdivides
      exact ⟨ran', skipped', hdivides, tally.records, tally.calls⟩
  | aggregate =>
    cases h
    exact fills_plain ⟨nofun, nofun⟩ rfl rfl
  | transform =>
    cases h
    exact fills_plain ⟨nofun, nofun⟩ rfl rfl
  | validate =>
    cases h
    exact fills_plain ⟨nofun, nofun⟩ rfl rfl

theorem whole_of_ranAll (steps : List Step) {outputs outputs' : Assoc Output} {c c' : Context} {m : Share}
    (h : RanAll env own steps outputs c (.ok outputs') c' m) : Whole own steps m := by
  cases steps with
  | nil =>
    cases h
    exact whole_nil
  | cons first rest =>
    cases h with
    | cons ran others => exact (whole_of_ran (fills_of_did first) ran).append (whole_of_ranAll rest others)

theorem whole_of_ranEach (steps : List Step) {fork : Context} {ends : List BranchEnd} {m : Share}
    (h : RanEach env own steps fork ends m) (hok : ∀ b ∈ ends, ∃ result, b.outcome = .ok result) :
    Whole own steps m := by
  cases steps with
  | nil =>
    cases h
    exact whole_nil
  | cons first rest =>
    cases h with
    | @cons _ _ _ c out ends m m' ran others =>
      obtain ⟨result, rfl⟩ := hok _ (List.mem_cons_self ..)
      exact (whole_of_ran (fills_of_did first) ran).append
        (whole_of_ranEach rest others fun b hb => hok b (List.mem_cons_of_mem _ hb))

end

end Run

end Conductor
