import Conductor.Proofs.Run.Bodies

/-! What becomes of the steps of a run: which of them fail, for which cause, and what is written of them. The
message of a failure passes through all the steps that enclose it. -/

namespace Conductor

/-- What became of a step that was started, and of the steps in it that were started too. -/
inductive Fate where
  | plain (step : Step) (cause : Option Failure)
  | unclear (step : Step) (e : ParseError)
  | took (step : Step) (passed : List Step) (children : List Fate)
  | forked (step : Step) (branches : List Fate)

/-- What a record says of its step. -/
structure Line where
  step : String
  status : StepStatus
  error : Json

def StepRecord.line (r : StepRecord) : Line := ⟨r.step, r.status, r.error⟩

namespace Fate

def step : Fate → Step
  | plain step _ => step
  | unclear step _ => step
  | took step _ _ => step
  | forked step _ => step

mutual

/-- The message of a step that failed: that of its own failure, or of the first failure among the steps that it
holds, in the order in which they are written. -/
def message? : Fate → Option String
  | plain _ cause => cause.map Failure.message
  | unclear _ e => some e.message
  | took _ _ children => firstMessage? children
  | forked _ branches => firstMessage? branches

def firstMessage? : List Fate → Option String
  | [] => none
  | first :: rest => first.message?.or (firstMessage? rest)

end

def Fails (fate : Fate) : Prop := fate.message?.isSome

mutual

def flat : Fate → List Fate
  | plain step cause => [plain step cause]
  | unclear step e => [unclear step e]
  | took step passed children => took step passed children :: flatAll children
  | forked step branches => forked step branches :: flatAll branches

/-- All that became of some steps and of those in them. -/
def flatAll : List Fate → List Fate
  | [] => []
  | first :: rest => first.flat ++ flatAll rest

end

def line (fate : Fate) : Line :=
  match fate.message? with
  | none => ⟨fate.step.id, .completed, .null⟩
  | some text => ⟨fate.step.id, .failed, .str text⟩

def passedLine (step : Step) : Line := ⟨step.id, .skipped, .null⟩

mutual

/-- What is written of the steps that a step holds. -/
def held : Fate → List Line
  | plain .. => []
  | unclear .. => []
  | took _ passed children => (Step.flatAll passed).map passedLine ++ lines children
  | forked _ branches => lines branches

/-- What is written of steps, one line for each that was started or passed over. -/
def lines : List Fate → List Line
  | [] => []
  | first :: rest => first.line :: (first.held ++ lines rest)

end

mutual

/-- A step fails with every step in it that does. -/
theorem fails_of_mem_flat {part : Fate} (fate : Fate) (hp : part ∈ fate.flat) (hf : part.Fails) : fate.Fails := by
  cases fate with
  | plain step cause =>
    rw [flat, List.mem_singleton] at hp
    exact hp ▸ hf
  | unclear step e => exact rfl
  | took step passed children =>
    rw [flat, List.mem_cons] at hp
    rcases hp with rfl | hp
    · exact hf
    · rw [Fails, message?]
      exact fails_of_mem_flatAll children hp hf
  | forked step branches =>
    rw [flat, List.mem_cons] at hp
    rcases hp with rfl | hp
    · exact hf
    · rw [Fails, message?]
      exact fails_of_mem_flatAll branches hp hf

theorem fails_of_mem_flatAll {part : Fate} (fates : List Fate) (hp : part ∈ flatAll fates) (hf : part.Fails) :
    (firstMessage? fates).isSome := by
  cases fates with
  | nil => cases hp
  | cons first rest =>
    rw [flatAll, List.mem_append] at hp
    rw [firstMessage?, Option.isSome_or, Bool.or_eq_true]
    exact hp.imp (fails_of_mem_flat first · hf) (fails_of_mem_flatAll rest · hf)

end

theorem isSome_firstMessage? (fates : List Fate) :
    (firstMessage? fates).isSome ↔ ∃ fate ∈ fates, fate.Fails := by
  induction fates with
  | nil => simp [firstMessage?]
  | cons first rest ih =>
    rw [firstMessage?, Option.isSome_or, Bool.or_eq_true, ih, List.exists_mem_cons_iff]
    rfl

end Fate

namespace Run

open Fate

variable (env : Setting) (own : String)

/-- How the body of a step ends that holds no other steps, in the context in which the step was started. A
step that checks rules fails with the message of the first that does not hold. -/
inductive Bare (c : Context) : Step → Except Failure Output → Prop
  | agent {id agent operation : String} {input : Members} {key : Option String} {c' : Context}
      {out : Except Failure Output} {calls : Multiset Call}
      (called : Called env id agent operation input (Step.agent id agent operation input key).resultKey c
        out c' calls) :
      Bare c (.agent id agent operation input key) out
  | aggregate {id : String} {sources : List String} {how : Combine} {key : Option String} :
      Bare c (.aggregate id sources how key) (combine c sources how)
  | transform {id : String} {fields : Members} {key : Option String} :
      Bare c (.transform id fields key) ((Template.resolveOutput c.view fields).mapError .expression)
  | passed {id : String} {rules : List Rule} (holds : ∀ rule ∈ rules, rule.answer c.view = .ok true) :
      Bare c (.validate id rules) (.ok Json.null)
  | broken {id : String} {before after : List Rule} {rule : Rule}
      (holds : ∀ rule ∈ before, rule.answer c.view = .ok true) (not : rule.answer c.view = .ok false) :
      Bare c (.validate id (before ++ rule :: after)) (.error (.ruleFailed id rule.message))
  | unclear {id : String} {before after : List Rule} {rule : Rule} {e : ParseError}
      (holds : ∀ rule ∈ before, rule.answer c.view = .ok true) (not : rule.answer c.view = .error e) :
      Bare c (.validate id (before ++ rule :: after)) (.error (.expression e))

/-- What was the cause that something failed, if it did. -/
def cause? {α : Type} : Except Failure α → Option Failure
  | .ok _ => none
  | .error f => some f

mutual

/-- What became of a step, by what there was when it was started and what was noted when it failed. -/
inductive Befalls (events : Multiset Event) : Step → Fate → Prop
  | plain {step : Step} {c : Context} {store : Store} {out : Except Failure Output}
      (started : .started own step.id c store ∈ events) (ends : Bare env c step out)
      (noted : ∀ f, out = .error f → .failed own step.id f ∈ events) :
      Befalls events step (.plain step (cause? out))
  | unclear {id test : String} {whenTrue whenFalse : List Step} {c : Context} {store : Store} {e : ParseError}
      (started : .started own id c store ∈ events) (asked : Template.condition c.view test = .error e)
      (noted : .failed own id (.expression e) ∈ events) :
      Befalls events (.condition id test whenTrue whenFalse) (.unclear (.condition id test whenTrue whenFalse) e)
  | took {id test : String} {whenTrue whenFalse : List Step} {c : Context} {store : Store} {holds : Bool}
      {children : List Fate} (started : .started own id c store ∈ events)
      (asked : Template.condition c.view test = .ok holds)
      (ran : BefallsAll events (if holds then whenTrue else whenFalse) children) :
      Befalls events (.condition id test whenTrue whenFalse)
        (.took (.condition id test whenTrue whenFalse) (if holds then whenFalse else whenTrue) children)
  | forked {id : String} {steps : List Step} {branches : List Fate} (ran : BefallsEach events steps branches) :
      Befalls events (.parallel id steps) (.forked (.parallel id steps) branches)

/-- What became of a sequence. A step that fails is the last that is started. -/
inductive BefallsAll (events : Multiset Event) : List Step → List Fate → Prop
  | nil : BefallsAll events [] []
  | cons {first : Step} {rest : List Step} {fate : Fate} {fates : List Fate} (ran : Befalls events first fate)
      (went : ¬ fate.Fails) (others : BefallsAll events rest fates) :
      BefallsAll events (first :: rest) (fate :: fates)
  | stopped {first : Step} {rest : List Step} {fate : Fate} (ran : Befalls events first fate)
      (failed : fate.Fails) : BefallsAll events (first :: rest) [fate]

/-- What became of branches, all of which are started. -/
inductive BefallsEach (events : Multiset Event) : List Step → List Fate → Prop
  | nil : BefallsEach events [] []
  | cons {first : Step} {rest : List Step} {fate : Fate} {fates : List Fate} (ran : Befalls events first fate)
      (others : BefallsEach events rest fates) : BefallsEach events (first :: rest) (fate :: fates)

end

/-- Records that say just what became of some steps; those that failed have no output. -/
structure Tells (written : List Line) (m : Share) : Prop where
  records : m.records.map StepRecord.line = written
  bare : ∀ r ∈ m.records, r.status = .failed → r.output = .null

variable {env own} {c c' : Context} {m m' : Share}

theorem tells_zero : Tells [] 0 := ⟨rfl, by simp⟩

theorem Tells.add {written written' : List Line} (h : Tells written m) (h' : Tells written' m') :
    Tells (written ++ written') (m + m') where
  records := by rw [Share.records_add, Multiset.map_add, h.records, h'.records, Multiset.coe_add]
  bare r hr := (Multiset.mem_add.1 hr).elim (h.bare r) (h'.bare r)

theorem Skipped.tells {steps : List Step} {rs : Multiset StepRecord} (h : Skipped own steps rs) :
    Tells ((Step.flatAll steps).map passedLine) { records := rs } where
  records := by
    have hline : rs.map StepRecord.line = (rs.map (·.step)).map fun id => ⟨id, .skipped, .null⟩ := by
      rw [Multiset.map_map]
      refine Multiset.map_congr rfl fun r hr => ?_
      rw [StepRecord.line, (h.reads r hr).status, (h.reads r hr).error]
      rfl
    show rs.map StepRecord.line = _
    rw [hline, h.steps, Multiset.map_coe, List.map_map]
    rfl
  bare r hr hfailed := by
    rw [(h.reads r hr).status] at hfailed
    cases hfailed

/-- What became of a step whose body has ended, once it is noted that it was started and how it failed. -/
def Told (env : Setting) (own : String) (step : Step) (out : Except Failure Output) (c : Context) (m : Share) : Prop :=
  ∀ events store, .started own step.id c store ∈ events → (∀ f, out = .error f → .failed own step.id f ∈ events) →
    m.events ≤ events →
      ∃ fate, Befalls env own events step fate ∧ fate.step = step ∧ fate.message? = Failure.said out ∧
        Tells fate.held m

theorem message?_cause {α : Type} (step : Step) (out : Except Failure α) :
    (Fate.plain step (cause? out)).message? = Failure.said out := by
  cases out <;> rfl

theorem told_plain {step : Step} {out : Except Failure Output} (h : Bare env c step out) (hm : m.records = 0) :
    Told env own step out c m := fun _ _ hstarted hnoted _ =>
  ⟨_, .plain hstarted h hnoted, rfl, message?_cause step out, ⟨by rw [hm, held]; rfl, by simp [hm]⟩⟩

theorem told_validate (id : String) (rules : List Rule) :
    Told env own (.validate id rules) ((checkRules c.view id rules).map fun _ => Json.null) c 0 := by
  rcases checkRules_cases c.view id rules with
    ⟨hok, hall⟩ | ⟨before, rule, after, rfl, hbefore, ⟨hnot, hfailed⟩ | ⟨e, hnot, hfailed⟩⟩
  · rw [hok]
    exact told_plain (.passed hall) rfl
  · rw [hfailed]
    exact told_plain (.broken hbefore hnot) rfl
  · rw [hfailed]
    exact told_plain (.unclear hbefore hnot) rfl

theorem told_taken {id test : String} {whenTrue whenFalse : List Step} {holds : Bool} {rs : Multiset StepRecord}
    {out : Except Failure Output} (asked : Template.condition c.view test = .ok holds)
    (skipped : Skipped own (if holds then whenFalse else whenTrue) rs)
    (hran : ∀ events, m.events ≤ events → ∃ fates,
      BefallsAll env own events (if holds then whenTrue else whenFalse) fates ∧
        firstMessage? fates = Failure.said out ∧ Tells (lines fates) m) :
    Told env own (.condition id test whenTrue whenFalse) out c ({ records := rs } + m) := by
  intro events store hstarted _ hevents
  obtain ⟨fates, hfates, hsaid, htells⟩ := hran events ((zero_add m.events).symm.le.trans hevents)
  exact ⟨_, .took hstarted asked hfates, rfl, hsaid, skipped.tells.add htells⟩

theorem befalls_of_ran {step : Step} {out : Except Failure StepResult} {events : Multiset Event}
    (hdid : ∀ {out m}, Did env own step c out c' m → Told env own step out c m)
    (h : Ran env own step c out c' m) (hevents : m.events ≤ events) :
    ∃ fate, Befalls env own events step fate ∧ fate.message? = Failure.said out ∧ Tells (fate.line :: fate.held) m := by
  have hline {fate : Fate} {r : StepRecord} {status : StepStatus} {error : Json} {output : Json → Prop}
      {noted : Multiset Event} (hr : r.Reads own step.id status error output)
      (hsame : fate.line = ⟨step.id, status, error⟩) (hbare : status = .failed → r.output = .null) :
      Tells [fate.line] { records := {r}, events := noted } := by
    refine ⟨?_, ?_⟩
    · show Multiset.map StepRecord.line {r} = _
      rw [Multiset.map_singleton, StepRecord.line, hr.step, hr.status, hr.error, hsame]
      rfl
    · intro r' hr' hfailed
      obtain rfl := Multiset.mem_singleton.1 hr'
      exact hbare (hr.status ▸ hfailed)
  cases h with
  | @completed _ _ _ output cost m r store did reads =>
    obtain ⟨fate, hbefalls, hstep, hsaid, htells⟩ := hdid did events store
      (Multiset.mem_of_le hevents (by simp)) (fun _ => nofun) ((Multiset.le_add_left _ _).trans hevents)
    refine ⟨fate, hbefalls, hsaid, (hline reads ?_ nofun).add htells⟩
    rw [line, hsaid, hstep]
    rfl
  | @failed _ _ _ f m r store did reads =>
    have hnoted : ∀ g, (.error f : Except Failure Output) = .error g → .failed own step.id g ∈ events := by
      rintro _ ⟨⟩
      exact Multiset.mem_of_le hevents (by simp)
    obtain ⟨fate, hbefalls, hstep, hsaid, htells⟩ := hdid did events store
      (Multiset.mem_of_le hevents (by simp)) hnoted ((Multiset.le_add_left _ _).trans hevents)
    refine ⟨fate, hbefalls, ?_, (hline reads ?_ fun _ => reads.output).add htells⟩
    · rw [hsaid, Failure.said_error, Failure.said_error, Failure.message_ofStep]
    · rw [line, hsaid, hstep]
      rfl

mutual

theorem told_of_did (step : Step) {c c' : Context} {out : Except Failure Output} {m : Share}
    (h : Did env own step c out c' m) :
    Told env own step out c m := by
  cases step with
  | agent id agent operation input key =>
    cases h with
    | agent called => exact told_plain (.agent called) rfl
  | condition id test whenTrue whenFalse =>
    cases h with
    | unclear asked =>
      intro events store hstarted hnoted _
      exact ⟨_, .unclear hstarted asked (hnoted _ rfl), rfl, rfl, tells_zero⟩
    | @took _ _ _ _ _ _ holds _ outputs _ asked skipped ran =>
      refine told_taken asked skipped ?_
      cases holds with
      | true => exact fun events => befallsAll_of_ranAll whenTrue ran
      | false => exact fun events => befallsAll_of_ranAll whenFalse ran
    | @broke _ _ _ _ _ _ holds _ f _ asked skipped ran =>
      refine told_taken asked skipped ?_
      cases holds with
      | true => exact fun events => befallsAll_of_ranAll whenTrue ran
      | false => exact fun events => befallsAll_of_ranAll whenFalse ran
  | parallel id steps =>
    cases h with
    | @parallel _ _ _ _ ends _ _ ran joins =>
      intro events store _ _ hevents
      obtain ⟨fates, hfates, hsaid, htells⟩ := befallsEach_of_ranEach steps ran hevents
      refine ⟨_, .forked hfates, rfl, ?_, htells⟩
      rw [(joins.unique (settles_joinAll id ran.stays)).1, said_joinOutcome, ← hsaid]
      rfl
  | aggregate id sources how key =>
    cases h with
    | aggregate settles =>
      rw [(settles.unique (settles_aggregate id sources how _)).1]
      exact told_plain .aggregate rfl
  | transform id fields key =>
    cases h with
    | transform settles =>
      rw [(settles.unique (settles_transform id fields _)).1]
      exact told_plain .transform rfl
  | validate id rules =>
    cases h with
    | validate settles =>
      rw [(settles.unique (settles_validate id rules)).1]
      exact told_validate id rules

theorem befallsAll_of_ranAll (steps : List Step) {outputs : Assoc Output} {c c' : Context}
    {out : Except Failure (Assoc Output)} {m : Share} {events : Multiset Event}
    (h : RanAll env own steps outputs c out c' m) (hevents : m.events ≤ events) :
    ∃ fates, BefallsAll env own events steps fates ∧ firstMessage? fates = Failure.said out ∧ Tells (lines fates) m := by
  cases steps with
  | nil =>
    cases h
    exact ⟨[], .nil, rfl, tells_zero⟩
  | cons first rest =>
    cases h with
    | cons ran others =>
      obtain ⟨fate, hfate, hsaid, htells⟩ :=
        befalls_of_ran (told_of_did first) ran ((Multiset.le_add_right _ _).trans hevents)
      obtain ⟨fates, hfates, hrest, htells'⟩ :=
        befallsAll_of_ranAll rest others ((Multiset.le_add_left _ _).trans hevents)
      refine ⟨fate :: fates, .cons hfate (by simp [Fails, hsaid]) hfates, ?_, htells.add htells'⟩
      rw [firstMessage?, hsaid, hrest]
      rfl
    | stopped ran =>
      obtain ⟨fate, hfate, hsaid, htells⟩ := befalls_of_ran (told_of_did first) ran hevents
      refine ⟨[fate], .stopped hfate (by simp [Fails, hsaid]), ?_, ?_⟩
      · rw [firstMessage?, hsaid]
        rfl
      · rw [lines, lines, List.append_nil]
        exact htells

theorem befallsEach_of_ranEach (steps : List Step) {fork : Context} {ends : List BranchEnd} {m : Share}
    {events : Multiset Event} (h : RanEach env own steps fork ends m) (hevents : m.events ≤ events) :
    ∃ fates, BefallsEach env own events steps fates ∧
      firstMessage? fates = (ends.findSome? BranchEnd.failure?).map Failure.message ∧ Tells (lines fates) m := by
  cases steps with
  | nil =>
    cases h
    exact ⟨[], .nil, rfl, tells_zero⟩
  | cons first rest =>
    cases h with
    | @cons _ _ _ c out ends m m' ran others =>
      obtain ⟨fate, hfate, hsaid, htells⟩ :=
        befalls_of_ran (told_of_did first) ran ((Multiset.le_add_right _ _).trans hevents)
      obtain ⟨fates, hfates, hrest, htells'⟩ :=
        befallsEach_of_ranEach rest others ((Multiset.le_add_left _ _).trans hevents)
      refine ⟨fate :: fates, .cons hfate hfates, ?_, htells.add htells'⟩
      rw [firstMessage?, hsaid, hrest]
      cases out <;> rfl

end

end Run

end Conductor
