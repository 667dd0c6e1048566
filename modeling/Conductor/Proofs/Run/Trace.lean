import Conductor.Proofs.Run.Shares

/-! The trace of a run: which steps ran on which context and what came of them, with the records, calls
and events that they left. A run in which no request fails is told by such a trace, whatever the
branches of its parallel steps did to each other's turns. -/

namespace Conductor

/-! Work on the context alone -/

namespace Flow

variable {α β : Type}

/-- Work that neither waits nor touches the stage, and what it comes to. -/
def Settles (f : Flow α) (c : Context) (out : Except Failure α) (c' : Context) : Prop :=
  ∀ s, f c s = (.done (out, c'), s)

theorem Settles.unique {f : Flow α} {out out' : Except Failure α} {c c' c'' : Context} (h : Settles f c out c')
    (h' : Settles f c out' c'') : out = out' ∧ c' = c'' := by
  have hs := (h ⟨{}, .empty⟩).symm.trans (h' ⟨{}, .empty⟩)
  cases hs
  exact ⟨rfl, rfl⟩

/-- Work that settles everywhere, and does not fail with an exit. -/
def Quiet (f : Flow α) : Prop :=
  ∀ c, ∃ out c', Settles f c out c' ∧ ∀ e, out = .error e → e.isExit = false

theorem Quiet.stays {f : Flow α} {c c' : Context} {e : Failure} (hf : Quiet f) (h : Settles f c (.error e) c') :
    e.isExit = false := by
  obtain ⟨out, c'', hsettles, hstays⟩ := hf c
  exact hstays e (hsettles.unique h).1

theorem quiet_pure (v : α) : Quiet (pure v) := fun c => ⟨.ok v, c, fun _ => rfl, nofun⟩

theorem quiet_throw {e : Failure} (h : e.isExit = false) : Quiet (throw e : Flow α) :=
  fun c => ⟨.error e, c, fun _ => rfl, fun e' he => by cases he; exact h⟩

theorem quiet_get : Quiet get := fun c => ⟨.ok c, c, fun _ => rfl, nofun⟩

theorem quiet_modify (change : Context → Context) : Quiet (modify change) :=
  fun c => ⟨.ok ⟨⟩, change c, fun _ => rfl, nofun⟩

theorem quiet_ofExcept {ε : Type} {cause : ε → Failure} {result : Except ε α}
    (h : ∀ e, result = .error e → (cause e).isExit = false) : Quiet (Failure.ofExcept cause result) := by
  cases result with
  | error e => exact quiet_throw (h e rfl)
  | ok v => exact quiet_pure v

theorem Quiet.bind {f : Flow α} {g : α → Flow β} (hf : Quiet f) (hg : ∀ v, Quiet (g v)) : Quiet (f >>= g) := by
  intro c
  obtain ⟨out, c', hf, hstays⟩ := hf c
  cases out with
  | error e =>
    refine ⟨.error e, c', fun s => by rw [bind_apply, hf s]; rfl, fun e' he => ?_⟩
    cases he
    exact hstays e rfl
  | ok v =>
    obtain ⟨out, c'', hg, hstays⟩ := hg v c'
    exact ⟨out, c'', fun s => by rw [bind_apply, hf s]; exact hg s, hstays⟩

theorem makes_quiet {execution : String} {failed : Nat} {f : Flow α} {c : Context} {own : Share} (h : Quiet f) :
    Makes execution failed (fun out c' m => Settles f c out c' ∧ m = own) f c own := by
  intro s rest hs
  obtain ⟨out, c', hf, -⟩ := h c
  rw [hf s, Round.ownsTurn_iff]
  exact fun _ => ⟨own, hs, Round.owns_done.2 ⟨hf, rfl⟩⟩

end Flow

/-- How an output stands in a record: as it is, or closed over the steps that were there. -/
def Output.KeptIn (output : Output) (c : Context) (doc : Json) : Prop :=
  doc = output.value ∨ doc = output.closed c.levels

/-- What the record of a step says. -/
structure StepRecord.Reads (own id : String) (status : StepStatus) (error : Json) (output : Json → Prop)
    (r : StepRecord) : Prop where
  execution : r.execution = own
  step : r.step = id
  status : r.status = status
  error : r.error = error
  output : output r.output

namespace Run

open Conductor.Flow StepRecord

variable (env : Setting) (own : String)

/-- The records of steps that were passed over. -/
structure Skipped (steps : List Step) (rs : Multiset StepRecord) : Prop where
  steps : rs.map (·.step) = ((Step.flatAll steps).map Step.id : List String)
  reads : ∀ r ∈ rs, r.Reads own r.step .skipped .null (· = .null)

/-- What a call of an agent comes to. Only a reply that can be read counts as an answer. -/
inductive Called (id agent operation : String) (input : Members) (key : String) (c : Context) :
    Except Failure Output → Context → Multiset Call → Prop
  | missing {e : LookupError} (h : env.agents.get agent operation = .error e) :
      Called id agent operation input key c (.error (.lookup e)) c 0
  | unclear {script : Script} {e : ParseError} (found : env.agents.get agent operation = .ok script)
      (h : Template.resolveOutput c.view input = .error e) :
      Called id agent operation input key c (.error (.expression e)) c 0
  | failed {script : Script} {payload : Output} {n : Nat} {f : Failure}
      (found : env.agents.get agent operation = .ok script)
      (resolved : Template.resolveOutput c.view input = .ok payload)
      (ends : (script n payload.value).Ends (.error f)) (stays : f.isExit = false) :
      Called id agent operation input key c (.error f) c {⟨agent, operation, payload.value⟩}
  | malformed {script : Script} {payload : Output} {n : Nat} {envelope : Json} {echoed : Bool}
      {problems : List Problem} (found : env.agents.get agent operation = .ok script)
      (resolved : Template.resolveOutput c.view input = .ok payload)
      (ends : (script n payload.value).Ends (.ok (envelope, echoed)))
      (read : (Response.read envelope).toExcept = .error problems) :
      Called id agent operation input key c (.error (.malformed "AgentResponse" problems)) c
        {⟨agent, operation, payload.value⟩}
  | answered {script : Script} {payload : Output} {n : Nat} {envelope : Json} {echoed : Bool}
      {response : Response} {output : Output} (found : env.agents.get agent operation = .ok script)
      (resolved : Template.resolveOutput c.view input = .ok payload)
      (ends : (script n payload.value).Ends (.ok (envelope, echoed)))
      (read : (Response.read envelope).toExcept = .ok response)
      (handed : output = ⟨response.data, if echoed then payload.tables else []⟩) :
      Called id agent operation input key c (.ok output) (c.record id output (some key))
        {⟨agent, operation, payload.value⟩}

mutual

/-- A step that ran, from its start to the end of its record. -/
inductive Ran : Step → Context → Except Failure StepResult → Context → Share → Prop
  | completed {step : Step} {c c' : Context} {output : Output} {cost : Float} {m : Share} {r : StepRecord}
      {store : Store} (did : Did step c (.ok output) c' m)
      (reads : r.Reads own step.id .completed .null (output.KeptIn c')) :
      Ran step c (.ok ⟨output, cost⟩) c'
        ({ records := {r}, events := {.started own step.id c store} } + m)
  | failed {step : Step} {c c' : Context} {f : Failure} {m : Share} {r : StepRecord} {store : Store}
      (did : Did step c (.error f) c' m)
      (reads : r.Reads own step.id .failed (.str f.message) (· = .null)) :
      Ran step c (.error (f.ofStep step.id)) c'
        ({ records := {r}, events := {.started own step.id c store, .failed own step.id f} } + m)

/-- What a step did between the start and the end of its record. -/
inductive Did : Step → Context → Except Failure Output → Context → Share → Prop
  | agent {id agent operation : String} {input : Members} {key : Option String} {c c' : Context}
      {out : Except Failure Output} {calls : Multiset Call}
      (called : Called env id agent operation input (Step.agent id agent operation input key).resultKey c
        out c' calls) :
      Did (.agent id agent operation input key) c out c' { calls }
  | unclear {id test : String} {whenTrue whenFalse : List Step} {c : Context} {e : ParseError}
      (h : Template.condition c.view test = .error e) :
      Did (.condition id test whenTrue whenFalse) c (.error (.expression e)) c 0
  | took {id test : String} {whenTrue whenFalse : List Step} {c c' : Context} {holds : Bool}
      {rs : Multiset StepRecord} {outputs : Assoc Output} {m : Share}
      (asked : Template.condition c.view test = .ok holds)
      (skipped : Skipped own (if holds then whenFalse else whenTrue) rs)
      (ran : RanAll (if holds then whenTrue else whenFalse) [] c (.ok outputs) c' m) :
      Did (.condition id test whenTrue whenFalse) c (.ok (.ofEntries outputs))
        (c'.record id (.ofEntries outputs) none) ({ records := rs } + m)
  | broke {id test : String} {whenTrue whenFalse : List Step} {c c' : Context} {holds : Bool}
      {rs : Multiset StepRecord} {f : Failure} {m : Share}
      (asked : Template.condition c.view test = .ok holds)
      (skipped : Skipped own (if holds then whenFalse else whenTrue) rs)
      (ran : RanAll (if holds then whenTrue else whenFalse) [] c (.error f) c' m) :
      Did (.condition id test whenTrue whenFalse) c (.error f) c' ({ records := rs } + m)
  | parallel {id : String} {steps : List Step} {c c' : Context} {ends : List BranchEnd}
      {out : Except Failure Output} {m : Share} (ran : RanEach steps c.fork ends m)
      (joined : Settles (joinAll id ends) c out c') : Did (.parallel id steps) c out c' m
  | aggregate {id : String} {sources : List String} {how : Combine} {key : Option String} {c c' : Context}
      {out : Except Failure Output}
      (h : Settles (Run.aggregate id sources how (Step.aggregate id sources how key).resultKey) c out c') :
      Did (.aggregate id sources how key) c out c' 0
  | transform {id : String} {fields : Members} {key : Option String} {c c' : Context}
      {out : Except Failure Output}
      (h : Settles (Run.transform id fields (Step.transform id fields key).resultKey) c out c') :
      Did (.transform id fields key) c out c' 0
  | validate {id : String} {rules : List Rule} {c c' : Context} {out : Except Failure Output}
      (h : Settles (Run.validate id rules) c out c') : Did (.validate id rules) c out c' 0

/-- A sequence as far as it ran. What follows a step that failed was not started. -/
inductive RanAll : List Step → Assoc Output → Context → Except Failure (Assoc Output) → Context → Share → Prop
  | nil {outputs : Assoc Output} {c : Context} : RanAll [] outputs c (.ok outputs) c 0
  | cons {first : Step} {rest : List Step} {outputs : Assoc Output} {c c' c'' : Context} {result : StepResult}
      {out : Except Failure (Assoc Output)} {m m' : Share} (ran : Ran first c (.ok result) c' m)
      (others : RanAll rest (if first.isGate then outputs else outputs.put first.resultKey result.output) c'
        out c'' m') : RanAll (first :: rest) outputs c out c'' (m + m')
  | stopped {first : Step} {rest : List Step} {outputs : Assoc Output} {c c' : Context} {f : Failure} {m : Share}
      (ran : Ran first c (.error f) c' m) : RanAll (first :: rest) outputs c (.error f) c' m

/-- Branches, each of which ran on a fork of its own. -/
inductive RanEach : List Step → Context → List BranchEnd → Share → Prop
  | nil {fork : Context} : RanEach [] fork [] 0
  | cons {first : Step} {rest : List Step} {fork c : Context} {out : Except Failure StepResult}
      {ends : List BranchEnd} {m m' : Share} (ran : Ran first fork out c m) (others : RanEach rest fork ends m') :
      RanEach (first :: rest) fork (⟨first.resultKey, first.isGate, c.own, out⟩ :: ends) (m + m')

end

variable {env own} {failed : Nat} {c : Context}

/-! Bodies that work on the context alone -/

theorem quiet_record (id : String) (output : Output) (key : Option String) : Quiet (record id output key) :=
  quiet_modify _

theorem stays_combine {c : Context} {sources : List String} {how : Combine} {f : Failure}
    (h : combine c sources how = .error f) : f.isExit = false := by
  have hsum {outputs : Assoc Output} (h : sum outputs = .error f) : f.isExit = false := by
    obtain ⟨acc, entry, -, he⟩ := foldlM_eq_error h
    split at he
    · cases he
    · split at he <;> cases he
      rfl
    · cases he
      rfl
  cases how with
  | merge => cases h
  | concat => cases h
  | sum =>
    rw [combine] at h
    cases hs : sum (collect c sources) with
    | error e =>
      rw [hs] at h
      cases h
      exact hsum hs
    | ok total =>
      rw [hs] at h
      cases h

theorem quiet_aggregate (id : String) (sources : List String) (how : Combine) (key : String) :
    Quiet (aggregate id sources how key) :=
  quiet_get.bind fun _ => (quiet_ofExcept fun _ => stays_combine).bind fun _ =>
    (quiet_record _ _ _).bind fun _ => quiet_pure _

theorem quiet_view : Quiet view := quiet_get.bind fun _ => quiet_pure _

theorem quiet_transform (id : String) (fields : Members) (key : String) : Quiet (transform id fields key) :=
  quiet_view.bind fun _ => (quiet_ofExcept fun _ _ => rfl).bind fun _ => (quiet_record _ _ _).bind fun _ => quiet_pure _

theorem stays_checkRules {view : View} {id : String} {rules : List Rule} {f : Failure}
    (h : checkRules view id rules = .error f) : f.isExit = false := by
  induction rules with
  | nil => cases h
  | cons rule rest ih =>
    unfold checkRules at h
    split at h
    · cases h
      rfl
    · split at h
      · cases h
        rfl
      · exact ih h
      · cases h
        rfl

theorem quiet_validate (id : String) (rules : List Rule) : Quiet (validate id rules) :=
  quiet_view.bind fun _ => (quiet_ofExcept fun _ => stays_checkRules).bind fun _ => quiet_pure _

theorem settles_folding (outputs : Assoc Output) (ends : List BranchEnd) (c : Context) :
    ∃ out c', Settles (ends.foldlM join outputs) c out c' ∧ c'.input = c.input := by
  induction ends generalizing outputs c with
  | nil => exact ⟨.ok outputs, c, fun _ => rfl, rfl⟩
  | cons b rest ih =>
    have hjoin : ∃ out c', Settles (join outputs b) c out c' ∧ c'.input = c.input := by
      unfold join
      cases b.outcome with
      | error f => by_cases hexit : f.isExit = true <;> simp only [hexit] <;> exact ⟨_, c, fun _ => rfl, rfl⟩
      | ok result => exact ⟨_, _, fun _ => rfl, rfl⟩
    obtain ⟨out, c', hfirst, hinput⟩ := hjoin
    cases out with
    | error e => exact ⟨.error e, c', fun s => by rw [List.foldlM_cons, bind_apply, hfirst s]; rfl, hinput⟩
    | ok outputs =>
      obtain ⟨out, c'', hrest, hinput'⟩ := ih outputs c'
      exact ⟨out, c'', fun s => by rw [List.foldlM_cons, bind_apply, hfirst s]; exact hrest s, hinput'.trans hinput⟩

/-- However branches have ended, they are joined at once; and when that goes well, all of them have. -/
theorem settles_joining (id : String) (ends : List BranchEnd) (c : Context) :
    ∃ out c', Settles (joinAll id ends) c out c' ∧ c'.input = c.input ∧
      ∀ output, out = .ok output → ∀ b ∈ ends, ∃ result, b.outcome = .ok result := by
  obtain ⟨out, c', hfold, hinput⟩ := settles_folding [] ends c
  cases out with
  | error e => exact ⟨.error e, c', fun s => by rw [joinAll, bind_apply, hfold s]; rfl, hinput, nofun⟩
  | ok outputs =>
    cases hfailed : ends.findSome? BranchEnd.failure? with
    | some f =>
      exact ⟨.error (.stepFailed id f.message), c', fun s => by rw [joinAll, bind_apply, hfold s, hfailed]; rfl,
        hinput, nofun⟩
    | none =>
      refine ⟨.ok (.ofEntries outputs), c'.record id (.ofEntries outputs) none,
        fun s => by rw [joinAll, bind_apply, hfold s, hfailed]; rfl, hinput, fun _ _ b hb => ?_⟩
      have hnone := List.findSome?_eq_none_iff.1 hfailed b hb
      unfold BranchEnd.failure? at hnone
      cases hout : b.outcome with
      | error f => simp [hout] at hnone
      | ok result => exact ⟨result, rfl⟩

theorem ok_of_joined {id : String} {ends : List BranchEnd} {c c' : Context} {output : Output}
    (h : Settles (joinAll id ends) c (.ok output) c') : ∀ b ∈ ends, ∃ result, b.outcome = .ok result := by
  obtain ⟨out, c₁, hsettles, -, hall⟩ := settles_joining id ends c
  exact hall output (hsettles.unique h).1

/-- No branch has ended with an exit. -/
def Stay (ends : List BranchEnd) : Prop := ∀ b ∈ ends, ∀ f, b.outcome = .error f → f.isExit = false

section Join

variable {ends : List BranchEnd} (hends : Stay ends)
include hends

theorem quiet_joins (outputs : Assoc Output) : Quiet (ends.foldlM join outputs) := by
  induction ends generalizing outputs with
  | nil => exact quiet_pure outputs
  | cons first rest ih =>
    obtain ⟨hfirst, hrest⟩ := List.forall_mem_cons.1 hends
    have hjoin : Quiet (join outputs first) := by
      unfold join
      cases hout : first.outcome with
      | error f =>
        dsimp only
        rw [if_neg (Bool.eq_false_iff.1 (hfirst f hout))]
        exact quiet_pure _
      | ok result => exact (quiet_modify _).bind fun _ => quiet_pure _
    exact hjoin.bind fun next => ih hrest next

theorem quiet_joinAll (id : String) : Quiet (joinAll id ends) := by
  refine (quiet_joins hends []).bind fun outputs => ?_
  cases ends.findSome? BranchEnd.failure? with
  | some f => exact quiet_throw rfl
  | none => exact (quiet_record _ _ _).bind fun _ => quiet_pure _

end Join

/-! What is told of does not fail with an exit -/

theorem Ran.stays {step : Step} {c' : Context} {f : Failure} {m : Share} (h : Ran env own step c (.error f) c' m) :
    f.isExit = false := by
  cases h with
  | failed did reads => exact Failure.isExit_ofStep _ _

theorem RanAll.stays {steps : List Step} {outputs : Assoc Output} {c' : Context} {f : Failure} {m : Share}
    (h : RanAll env own steps outputs c (.error f) c' m) : f.isExit = false := by
  induction steps generalizing outputs c m with
  | nil => cases h
  | cons first rest ih =>
    cases h with
    | cons ran others => exact ih others
    | stopped ran => exact ran.stays

theorem RanEach.stays {steps : List Step} {ends : List BranchEnd} {m : Share} (h : RanEach env own steps c ends m) :
    Stay ends := by
  induction steps generalizing ends m with
  | nil =>
    cases h
    exact fun _ hb => by cases hb
  | cons first rest ih =>
    cases h with
    | cons ran others =>
      refine List.forall_mem_cons.2 ⟨?_, ih others⟩
      rintro f rfl
      exact ran.stays

theorem Called.stays {id agent operation key : String} {input : Members} {c' : Context} {f : Failure}
    {calls : Multiset Call} (h : Called env id agent operation input key c (.error f) c' calls) :
    f.isExit = false := by
  cases h with
  | missing => rfl
  | unclear => rfl
  | failed _ _ _ stays => exact stays
  | malformed => rfl

theorem Did.stays {step : Step} {c' : Context} {f : Failure} {m : Share} (h : Did env own step c (.error f) c' m) :
    f.isExit = false := by
  cases h with
  | agent called => exact called.stays
  | unclear => rfl
  | broke _ _ ran => exact ran.stays
  | parallel ran joined => exact (quiet_joinAll ran.stays _).stays joined
  | aggregate h => exact Quiet.stays (quiet_aggregate _ _ _ _) h
  | transform h => exact Quiet.stays (quiet_transform _ _ _) h
  | validate h => exact Quiet.stays (quiet_validate _ _) h

/-! Records -/

theorem reads_of_wrote {id : String} {status : StepStatus} {p : StepPatch} {r r' : StepRecord}
    (h : p.Wrote r r') (hr : r.Reads own id status .null (· = .null)) (ho : p.output = none)
    (he : p.error = none) (hs : p.status.all StepStatus.isKnown = true) :
    r'.Reads own id (p.status.getD status) .null (· = .null) where
  execution := by rw [h.kept]; exact hr.execution
  step := by rw [h.kept]; exact hr.step
  status := by rw [h.status hs, ← hr.status]
  error := (h.error he).trans hr.error
  output := (h.output ho).trans hr.output

/-- What a patch is that ends a record. -/
def endPatch (c : Context) (status : StepStatus) (now : Time) (cost : Float) (output : Output)
    (error : Option String) : StepPatch where
  status := some status
  completedAt := some (some now)
  cost := some (.real cost)
  output := if output.value.isNull then none else some (c.snapshot output)
  error := error.map .str

theorem reads_of_ended {id : String} {before status : StepStatus} {now : Time} {cost : Float} {output : Output}
    {error : Option String} {r r' : StepRecord}
    (h : (endPatch c status now cost output error).Wrote r r') (hs : status.isKnown = true)
    (hr : r.Reads own id before .null (· = .null)) :
    r'.Reads own id status (error.elim .null .str) (output.KeptIn c) where
  execution := by rw [h.kept]; exact hr.execution
  step := by rw [h.kept]; exact hr.step
  status := h.status hs
  error := by
    cases error with
    | none => exact (h.error rfl).trans hr.error
    | some text => exact h.text text rfl
  output := by
    by_cases hnull : output.value.isNull = true
    · have hkept := (h.output (if_pos hnull)).trans hr.output
      refine .inl (hkept.trans ?_)
      revert hnull
      cases output.value <;> simp [Json.isNull]
    · rcases h.snapshot _ (if_neg hnull) with hkept | hkept
      · exact .inl hkept
      · refine .inr (hkept.trans ?_)
        unfold Snapshot.stored Context.snapshot Output.snapshot Output.closed
        by_cases hopen : output.isOpen = true <;> simp [hopen]

theorem gives_finish {account : Account} {step : String} {r : StepRecord} {id key : String} {before status : StepStatus} {cost : Float} {output : Output}
    {error : Option String} {m : Share} (hkey : r.id = key) (hs : status.isKnown = true)
    (hr : r.Reads own id before .null (· = .null)) :
    Makes own failed
      (Gives c fun _ m' => ∃ r', r'.Reads own id status (error.elim .null .str) (output.KeptIn c) ∧
        m' = { records := {r'} } + m)
      (finish env account step key status cost output error) c ({ records := {r} } + m) := by
  subst hkey
  refine makes_wait_bind (gives_now.after ?_)
  rintro now _ rfl
  refine gives_get.after ?_
  rintro c _ ⟨rfl, rfl⟩
  refine gives_discard ((gives_updateStep (p := endPatch c status now cost output error) hr.execution).mono ?_)
  rintro out c' _ ⟨hc, v, hv, r', hwrote, hm⟩
  exact ⟨hc, v, hv, r', reads_of_ended hwrote hs hr, hm⟩

theorem gives_skip {account : Account} {step : String} {m : Share} :
    Makes own failed
      (Gives c fun _ m' => ∃ r, r.Reads own step .skipped .null (· = .null) ∧ m' = { records := {r} } + m)
      (skip env own account step) c m := by
  refine makes_wait_bind ((gives_createStep step).after ?_)
  rintro r _ ⟨hr, rfl⟩
  have hreads : r.Reads own step .pending .null (· = .null) := by
    rw [hr]
    exact ⟨rfl, rfl, rfl, rfl, rfl⟩
  refine makes_wait_bind (gives_now.after ?_)
  rintro now _ rfl
  refine gives_discard ((gives_updateStep hreads.execution).mono ?_)
  rintro out c' _ ⟨hc, v, hv, r', hwrote, hm⟩
  exact ⟨hc, v, hv, r', reads_of_wrote hwrote hreads rfl rfl rfl, hm⟩

theorem gives_skipAll (account : Account) (steps : List Step) :
    Makes own failed (Gives c fun _ m => ∃ rs, Skipped own steps rs ∧ m = { records := rs })
      (skipAll env own account steps) c 0 := by
  have hall (ids : List Step) (done : Share) : Makes own failed
      (Gives c fun _ m => ∃ rs : Multiset StepRecord, rs.map (·.step) = (ids.map Step.id : List String) ∧
        (∀ r ∈ rs, r.Reads own r.step .skipped .null (· = .null)) ∧ m = { records := rs } + done)
      (ids.forM fun step => skip env own account step.id) c done := by
    induction ids generalizing done with
    | nil => exact makes_pure ⟨rfl, ⟨⟩, rfl, 0, rfl, by simp, (zero_add _).symm⟩
    | cons step rest ih =>
      refine gives_skip.after ?_
      rintro v _ ⟨r, hr, rfl⟩
      refine (ih _).mono ?_
      rintro out c' _ ⟨hc, v, hv, rs, hsteps, hreads, rfl⟩
      refine ⟨hc, v, hv, {r} + rs, ?_, ?_, ?_⟩
      · rw [Multiset.map_add, hsteps, Multiset.map_singleton, hr.step]
        rfl
      · intro r' hr'
        rcases Multiset.mem_add.1 hr' with h | h
        · obtain rfl := Multiset.mem_singleton.1 h
          exact hr.step ▸ hr
        · exact hreads r' h
      · rw [← add_assoc]
        congr 1
        exact Share.ext (add_comm _ _) rfl rfl
  refine (hall (Step.flatAll steps) 0).mono ?_
  rintro out c' _ ⟨hc, v, hv, rs, hsteps, hreads, rfl⟩
  exact ⟨hc, v, hv, rs, ⟨hsteps, hreads⟩, add_zero _⟩

/-! Bodies -/

/-- A call that was made, with what came of it. -/
def CallMade (env : Setting) (agent operation : String) (input : Members) (c : Context) (asked : Output × CallEnd)
    (c' : Context) (m : Share) : Prop :=
  ∃ script n, c' = c ∧ env.agents.get agent operation = .ok script ∧
    Template.resolveOutput c.view input = .ok asked.1 ∧ (script n asked.1.value).Ends asked.2.outcome ∧
    (∀ f, asked.2.outcome = .error f → f.isExit = false) ∧
    m = { calls := {⟨agent, operation, asked.1.value⟩} }

theorem makes_call (account : Account) (id agent operation : String) (input : Members) (key : String) :
    Makes own failed
      (fun out c' m => match out with
        | .ok asked => CallMade env agent operation input c asked c' m
        | .error f => Called env id agent operation input key c (.error f) c' 0 ∧ m = 0)
      (call env account id agent operation input) c 0 := by
  refine makes_wait_bind ?_
  refine makes_ofExcept_bind (fun script found => ?_) fun e he => ⟨.missing he, rfl⟩
  refine gives_view.after ?_
  rintro _ _ ⟨rfl, rfl⟩
  refine makes_ofExcept_bind (fun payload resolved => ?_) fun e he => ⟨.unclear found he, rfl⟩
  refine (gives_look fun w => w.calls.length).after ?_
  rintro number _ rfl
  refine Makes.outcome_bind makes_invoke ?_
  rintro outcome c' m ⟨rfl, ⟨n, ends⟩, stays, rfl⟩
  rw [add_zero, add_zero]
  exact makes_pure ⟨script, n, rfl, found, resolved, ends, stays, rfl⟩

theorem makes_callAgent (account : Account) (id agent operation : String) (input : Members) (key : String) :
    Makes own failed (fun out c' m => ∃ calls, Called env id agent operation input key c out c' calls ∧ m = { calls })
      (callAgent env account id agent operation input key) c 0 := by
  refine (makes_call account id agent operation input key).bind ?_ ?_
  · rintro ⟨payload, number, outcome⟩ c' m asked
    obtain ⟨script, n, rfl, found, resolved, ends, stays, rfl⟩ := asked
    refine makes_wait_bind (makes_takeUp.bind ?_ ?_)
    · rintro ⟨envelope, echoed⟩ c' m ⟨rfl, rfl, rfl⟩
      refine makes_ofExcept_bind (fun response read => ?_) fun e he => ⟨_, .malformed found resolved ends he, rfl⟩
      refine (gives_charge account response.usage.cost).after ?_
      rintro _ _ rfl
      exact makes_record_bind (makes_pure ⟨_, .answered found resolved ends read rfl, rfl⟩)
    · rintro e c' m ⟨rfl, rfl, rfl⟩
      exact ⟨_, .failed found resolved ends (stays e rfl), rfl⟩
  · rintro e c' m ⟨called, rfl⟩
    exact ⟨0, called, rfl⟩

/-! Steps -/

section Steps

/-- How an attempt at a step ends, once its body has. -/
inductive Attempted (id : String) (c : Context) (c' : Context) (b : Share) :
    Except Failure Output → Except Failure StepResult → Share → Prop
  | completed {output : Output} {cost : Float} {r : StepRecord} {store : Store}
      (reads : r.Reads own id .completed .null (output.KeptIn c')) :
      Attempted id c c' b (.ok output) (.ok ⟨output, cost⟩)
        ({ records := {r}, events := {.started own id c store} } + b)
  | failed {f : Failure} {r : StepRecord} {store : Store}
      (reads : r.Reads own id .failed (.str f.message) (· = .null)) :
      Attempted id c c' b (.error f) (.error f)
        ({ records := {r}, events := {.started own id c store} } + b)

theorem makes_attempt (account : Account) {id : String} {body : Flow Output} [Grows body]
    {does : Except Failure Output → Context → Share → Prop} (h : Makes own failed does body c 0)
    (stays : ∀ f c' b, does (.error f) c' b → f.isExit = false) :
    Makes own failed
      (fun out c' m => ∃ o b, does o c' b ∧ @Attempted own id c c' b o out m)
      (attempt env own account id body) c 0 := by
  refine makes_wait_bind ((gives_createStep id).after ?_)
  rintro r _ ⟨hr, rfl⟩
  have hreads : r.Reads own id .pending .null (· = .null) := by
    rw [hr]
    exact ⟨rfl, rfl, rfl, rfl, rfl⟩
  refine (gives_noteStart id).after ?_
  rintro _ _ ⟨store, rfl⟩
  refine makes_wait_bind (gives_now.after ?_)
  rintro now _ rfl
  rw [add_zero, add_comm]
  refine (gives_discard (gives_updateStep hreads.execution)).after ?_
  rintro _ _ ⟨r', hwrote, rfl⟩
  have hrunning := reads_of_wrote hwrote hreads rfl rfl rfl
  have hid : r'.id = r.id := by rw [hwrote.named rfl]
  refine (gives_spent account).after ?_
  rintro before _ rfl
  refine h.outcome_bind fun out c' b hb => ?_
  rw [add_left_comm]
  have hshare (r' : StepRecord) : ({ records := {r'} } : Share) + (b + { events := {.started own id c store} }) =
      { records := {r'}, events := {.started own id c store} } + b := by
    rw [add_comm b, ← add_assoc, Share.records_add_events]
  cases out with
  | ok output =>
    refine (gives_spent account).after ?_
    rintro total _ rfl
    refine (gives_finish hid rfl hrunning).after ?_
    rintro _ _ ⟨r'', hend, rfl⟩
    rw [hshare]
    exact makes_pure ⟨_, b, hb, .completed hend⟩
  | error f =>
    rw [conclude, if_neg (Bool.eq_false_iff.1 (stays f c' b hb))]
    refine (gives_spent account).after ?_
    rintro total _ rfl
    refine (gives_finish hid rfl hrunning).after ?_
    rintro _ _ ⟨r'', hend, rfl⟩
    rw [hshare]
    have hbare : r''.output = .null := by simpa [Output.KeptIn, Output.closed, Output.isOpen] using hend.output
    exact makes_throw ⟨_, b, hb, .failed { hend with output := hbare }⟩

theorem makes_recorded (account : Account) {step : Step} {body : Flow Output} [Grows body]
    (h : Makes own failed (Did env own step c) body c 0) :
    Makes own failed (Ran env own step c) (recorded env own account step.id body) c 0 := by
  refine (makes_attempt account h fun f c' b => Did.stays).handling ?_ ?_ ?_
  · rintro result c' m ⟨o, b, did, attempted⟩
    cases attempted with
    | completed reads => exact .completed did reads
  · rintro e c' m hexit ⟨o, b, did, attempted⟩
    cases attempted with
    | failed reads => exact absurd hexit (Bool.eq_false_iff.1 did.stays)
  · rintro e c' m - ⟨o, b, did, attempted⟩
    cases attempted with
    | @failed f r store reads =>
      refine (gives_note (.failed own step.id e)).after ?_
      rintro _ _ rfl
      have hshare : ({ events := {.failed own step.id e} } : Share) +
          ({ records := {r}, events := {.started own step.id c store} } + b) =
            { records := {r}, events := {.started own step.id c store, .failed own step.id e} } + b := by
        rw [← add_assoc]
        refine congrArg (· + b) (Share.ext (zero_add _) (zero_add _) (add_comm _ _))
      rw [hshare]
      exact makes_throw (.failed did reads)

theorem makes_taken {account : Account} {id test : String} {whenTrue whenFalse : List Step} {holds : Bool}
    (asked : Template.condition c.view test = .ok holds)
    (h : Makes own failed (RanAll env own (if holds then whenTrue else whenFalse) [] c)
      (sequence env own account [] (if holds then whenTrue else whenFalse)) c 0) :
    Makes own failed (Did env own (.condition id test whenTrue whenFalse) c)
      (do
        skipAll env own account (if holds then whenFalse else whenTrue)
        let outputs ← sequence env own account [] (if holds then whenTrue else whenFalse)
        record id (.ofEntries outputs) none
        return .ofEntries outputs) c 0 := by
  refine (gives_skipAll account _).after ?_
  rintro _ _ ⟨rs, skipped, rfl⟩
  have hframe := h.frame { records := rs }
  rw [zero_add] at hframe
  refine hframe.bind ?_ ?_
  · rintro outputs c' _ ⟨m, rfl, ran⟩
    rw [add_comm]
    exact makes_record_bind (makes_pure (.took asked skipped ran))
  · rintro e c' _ ⟨m, rfl, ran⟩
    rw [add_comm]
    exact .broke asked skipped ran

theorem owns_onFork {fork : Context} {step : Step} {action : Flow StepResult} [Grows action]
    (h : Makes own failed (Ran env own step fork) action fork 0) :
    Round.Owns (estate own failed)
      (fun b m => ∃ out c, Ran env own step fork out c m ∧ b = ⟨step.resultKey, step.isGate, c.own, out⟩)
      (.go (onFork fork step action)) 0 := by
  refine Round.owns_go.2 fun s rest hs => ?_
  refine (h s rest hs).bind (fun out m ran t rest' ht => ?_) fun out t => drift.guar_refl t
  exact Round.ownsTurn_iff.2 fun _ => ⟨m, ht, Round.owns_done.2 ⟨out.1, out.2, ran, rfl⟩⟩

mutual

theorem makes_step (account : Account) (step : Step) (c : Context) :
    Makes own failed (Ran env own step c) (Run.step env own account step) c 0 := by
  cases step with
  | agent id agent operation input key =>
    rw [Run.step]
    refine @makes_recorded env own failed c account (.agent id agent operation input key) _ _ ?_
    refine (makes_callAgent account id agent operation input _).mono ?_
    rintro out c' m ⟨calls, called, rfl⟩
    exact .agent called
  | condition id test whenTrue whenFalse =>
    rw [Run.step]
    refine @makes_recorded env own failed c account (.condition id test whenTrue whenFalse) _ _ ?_
    refine gives_view.after ?_
    rintro _ _ ⟨rfl, rfl⟩
    refine makes_ofExcept_bind (fun holds asked => ?_) fun e he => .unclear he
    cases holds with
    | true => exact makes_taken asked (makes_sequence account [] whenTrue c)
    | false => exact makes_taken asked (makes_sequence account [] whenFalse c)
  | parallel id steps =>
    have hgrows (fork : Context) (first : Nat) :=
      follows_all (drifts_branches drift env own fork account first steps)
    rw [Run.step]
    refine @makes_recorded env own failed c account (.parallel id steps) _ _ ?_
    refine (gives_openAccounts account steps.length).after ?_
    rintro first _ rfl
    refine gives_get.after ?_
    rintro c _ ⟨rfl, rfl⟩
    have hall : Makes own failed (fun out c' m => ∃ ends, out = .ok ends ∧ c' = c ∧ RanEach env own steps c.fork ends m)
        (liftM (Process.all (branches env own c.fork account first steps)) : Flow (List BranchEnd)) c 0 :=
      makes_lift (fun s rest hs => Process.ownsTurn_all (owns_branches c.fork account first steps) hs)
        fun ends m ran => ⟨ends, rfl, rfl, ran⟩
    refine hall.bind ?_ ?_
    · rintro ends c' m ⟨ends', hends, rfl, ran⟩
      cases hends
      refine (makes_quiet (quiet_joinAll ran.stays id)).mono ?_
      rintro out c'' _ ⟨joined, rfl⟩
      exact .parallel ran joined
    · rintro e c' m ⟨ends, he, -⟩
      cases he
  | aggregate id sources how key =>
    rw [Run.step]
    refine @makes_recorded env own failed c account (.aggregate id sources how key) _ _ ?_
    refine (makes_quiet (quiet_aggregate id sources how _)).mono ?_
    rintro out c' m ⟨h, rfl⟩
    exact .aggregate h
  | transform id fields key =>
    rw [Run.step]
    refine @makes_recorded env own failed c account (.transform id fields key) _ _ ?_
    refine (makes_quiet (quiet_transform id fields _)).mono ?_
    rintro out c' m ⟨h, rfl⟩
    exact .transform h
  | validate id rules =>
    rw [Run.step]
    refine @makes_recorded env own failed c account (.validate id rules) _ _ ?_
    refine (makes_quiet (quiet_validate id rules)).mono ?_
    rintro out c' m ⟨h, rfl⟩
    exact .validate h

theorem makes_sequence (account : Account) (outputs : Assoc Output) (steps : List Step) (c : Context) :
    Makes own failed (RanAll env own steps outputs c) (sequence env own account outputs steps) c 0 := by
  cases steps with
  | nil =>
    rw [sequence]
    exact makes_pure .nil
  | cons first rest =>
    rw [sequence]
    refine (makes_step account first c).andThen (fun result c' m ran => ?_) fun e c' m ran => .stopped ran
    exact (makes_sequence account _ rest c').mono fun _ _ _ others => .cons ran others

theorem owns_branches (fork : Context) (account : Account) (n : Nat) (steps : List Step) :
    Round.Owns (estate own failed) (RanEach env own steps fork)
      (Round.all ((branches env own fork account n steps).map Round.go)) 0 := by
  cases steps with
  | nil =>
    rw [branches]
    exact Round.owns_done.2 .nil
  | cons first rest =>
    rw [branches]
    have hfirst := owns_onFork (makes_step (n :: account) first fork)
    have hrest := owns_branches fork account (n + 1) rest
    have dfirst : Round.Drifts (estate own failed).toWeather
        (.go (onFork fork first (Run.step env own (n :: account) first))) :=
      (drifts_onFork : Drifts drift _).safe_go
    have drest := safe_drifting (drifts_branches drift env own fork account (n + 1) rest)
    have hboth := hfirst.both hrest dfirst drest
    rw [add_zero] at hboth
    refine Round.Owns.map (hboth.mono ?_)
    rintro ⟨b, ends⟩ _ ⟨m₁, m₂, rfl, ⟨out, c, ran, rfl⟩, others⟩
    exact .cons ran others

end

end Steps

end Run

end Conductor
