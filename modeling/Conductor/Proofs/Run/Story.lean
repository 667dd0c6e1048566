import Conductor.Proofs.Except
import Conductor.Proofs.Run.Course

/-! The story of each step: the calls of its turns and the answers that it takes up, how it ends and what it writes. It
is told from the context alone in which the step is started, by the structure of the step. -/

namespace Conductor

/-- How some work goes: the dealings of its turns, how it ends, which is not with an exit, and the context that it
leaves. -/
structure Story (α : Type) where
  course : Course Dealing
  outcome : Except Failure α
  context : Context
  stays : ∀ f, outcome = .error f → f.isExit = false

/-- Work that goes by a story. -/
abbrev Flow.Enacts {α : Type} (env : Setting) (account : Account) (failed : Nat) (f : Flow α) (c : Context)
    (story : Story α) : Prop :=
  Flow.Pursues (dealLog env account failed) (fun out c' => out = story.outcome ∧ c' = story.context) f c story.course

namespace Run

open Conductor.Flow Round

variable {α β : Type} {env : Setting} {own : String} {account : Account} {failed : Nat} {c c' : Context}
  {k : Course Dealing} {goal : Except Failure β → Context → Prop}

/-! Records -/

theorem pursues_get_bind {g : Context → Flow β} (h : Pursues (dealLog env account failed) goal (g c) c k) :
    Pursues (dealLog env account failed) goal (get >>= g) c k := h

theorem pursues_view_bind {g : View → Flow β} (h : Pursues (dealLog env account failed) goal (g c.view) c k) :
    Pursues (dealLog env account failed) goal (view >>= g) c k := h

theorem pursues_ok_bind {ε : Type} {cause : ε → Failure} {v : α} {g : α → Flow β}
    (h : Pursues (dealLog env account failed) goal (g v) c k) :
    Pursues (dealLog env account failed) goal (Failure.ofExcept cause (.ok v) >>= g) c k := h

theorem pursues_now : Pursues (dealLog env account failed) (Stays c) (onWorld World.now) c {} :=
  pursues_onWorld fun _ _ => ⟨_, rfl⟩

theorem pursues_note (event : Event) : Pursues (dealLog env account failed) (Stays c) (onWorld (World.note event)) c {} :=
  pursues_onWorld fun _ _ => ⟨_, rfl⟩

theorem pursues_createStep (step : String) :
    Pursues (dealLog env account failed) (Stays c) (onWorld (World.createStep env own step)) c {} := by
  refine pursues_onWorld fun w hcalm => ?_
  unfold World.createStep at hcalm ⊢
  exact World.ok_of_reporting hcalm

theorem pursues_updateStep (id : String) (p : StepPatch) :
    Pursues (dealLog env account failed) (Stays c) (onWorld (World.updateStep env id (.ok p))) c {} := by
  refine pursues_onWorld fun w hcalm => ?_
  unfold World.updateStep at hcalm ⊢
  exact World.ok_of_reporting hcalm

theorem pursues_spent (other : Account) : Pursues (dealLog env account failed) (Stays c) (spent other) c {} :=
  pursues_onLedger (fun _ => rfl) (fun _ => ⟨_, rfl⟩) fun s => .refl account s.ledger

theorem pursues_openAccounts (other : Account) (count : Nat) :
    Pursues (dealLog env account failed) (Stays c) (openAccounts other count) c {} :=
  pursues_onLedger (fun _ => rfl) (fun _ => ⟨_, rfl⟩) fun s => Ledger.pays_forks other count s.ledger

theorem pursues_noteStart (step : String) :
    Pursues (dealLog env account failed) (Stays c) (noteStart own step) c {} := by
  unfold noteStart
  refine pursues_get_bind (pursues_onWorld fun w _ => ⟨⟨⟩, rfl⟩)

theorem pursues_finish (other : Account) (step id : String) (status : StepStatus) (cost : Float) (output : Output)
    (error : Option String) :
    Pursues (dealLog env account failed) (Stays c) (finish env other step id status cost output error) c
      (env.resting step .finish) := by
  rw [← Course.append_nil (env.resting step .finish)]
  exact pursues_wait_bind (pursues_now.after fun now => pursues_get_bind (pursues_discard (pursues_updateStep id _)))

theorem pursues_skip (other : Account) (step : String) :
    Pursues (dealLog env account failed) (Stays c) (skip env own other step) c
      (env.resting step .create ++ env.resting step .finish) := by
  rw [← Course.append_nil (env.resting step .finish)]
  exact pursues_wait_bind ((pursues_createStep step).after fun r =>
    pursues_wait_bind (pursues_now.after fun now => pursues_discard (pursues_updateStep r.id _)))

/-- Steps that are passed over one after the other. -/
def passing (env : Setting) : List Step → Course Dealing
  | [] => {}
  | step :: rest => (env.resting step.id .create ++ env.resting step.id .finish) ++ passing env rest

theorem pursues_skipAll (other : Account) (steps : List Step) :
    Pursues (dealLog env account failed) (Stays c) (skipAll env own other steps) c (passing env (Step.flatAll steps)) := by
  unfold skipAll
  induction Step.flatAll steps with
  | nil => exact pursues_out ⟨⟨⟩, rfl, rfl⟩
  | cons step rest ih =>
    refine Pursues.bind (pursues_skip other step.id) fun v c' hc => ?_
    obtain rfl : c' = c := hc
    exact ih

theorem pursues_conclude (step id : String) (before : Float) {out : Except Failure Output}
    (hstays : ∀ f, out = .error f → f.isExit = false) :
    Pursues (dealLog env account failed) (fun o c' => o.map StepResult.output = out ∧ c' = c)
      (conclude env account step id before out) c (env.resting step .finish) := by
  have hend {status : StepStatus} {cost : Float} {output : Output} {error : Option String}
      {g : Unit → Flow StepResult} [∀ v, Grows (g v)]
      (hg : Pursues (dealLog env account failed) (fun o c' => o.map StepResult.output = out ∧ c' = c) (g ⟨⟩) c {}) :
      Pursues (dealLog env account failed) (fun o c' => o.map StepResult.output = out ∧ c' = c)
        (finish env account step id status cost output error >>= g) c (env.resting step .finish) := by
    rw [← Course.append_nil (env.resting step .finish)]
    refine Pursues.bind (pursues_finish account step id status cost output error) fun v c' hc => ?_
    obtain rfl : c' = c := hc
    exact hg
  cases out with
  | ok output => exact (pursues_spent account).after fun total => hend (pursues_out ⟨rfl, rfl⟩)
  | error f =>
    unfold conclude
    dsimp only
    rw [if_neg (Bool.eq_false_iff.1 (hstays f rfl))]
    exact (pursues_spent account).after fun total => hend (pursues_out ⟨rfl, rfl⟩)

/-- The course of a step whose record is made and finished. -/
def recording (env : Setting) (step : String) (k : Course Dealing) : Course Dealing :=
  env.resting step .create ++ (env.resting step .start ++ (k ++ env.resting step .finish))

theorem pursues_attempt {body : Flow Output} [Grows body] (step : String) {out : Except Failure Output}
    (hstays : ∀ f, out = .error f → f.isExit = false)
    (h : Pursues (dealLog env account failed) (fun o c₁ => o = out ∧ c₁ = c') body c k) :
    Pursues (dealLog env account failed) (fun o c₁ => o.map StepResult.output = out ∧ c₁ = c')
      (attempt env own account step body) c (recording env step k) := by
  refine pursues_wait_bind ((pursues_createStep step).after fun r => ?_)
  refine (pursues_noteStart step).after fun _ => ?_
  refine pursues_wait_bind (pursues_now.after fun now => ?_)
  refine (pursues_discard (pursues_updateStep r.id _)).after fun _ => ?_
  refine (pursues_spent account).after fun before => ?_
  refine Pursues.bind h.outcome ?_
  rintro o c₁ ⟨rfl, rfl⟩
  exact pursues_conclude step r.id before hstays

/-- A record is kept of a step, and a failure in it becomes one of the step. -/
theorem pursues_recorded {body : Flow Output} [Grows body] (step : String) {out : Except Failure Output}
    (hstays : ∀ f, out = .error f → f.isExit = false)
    (h : Pursues (dealLog env account failed) (fun o c₁ => o = out ∧ c₁ = c') body c k) :
    Pursues (dealLog env account failed)
      (fun o c₁ => o.map StepResult.output = out.mapError (·.ofStep step) ∧ c₁ = c')
      (recorded env own account step body) c (recording env step k) := by
  refine (pursues_attempt step hstays h).handling ?_ ?_
  · rintro result c₁ ⟨rfl, hc⟩
    exact ⟨rfl, hc⟩
  · rintro e c₁ ⟨rfl, hc⟩
    exact ⟨hstays e rfl, (pursues_note _).after fun _ => pursues_out ⟨rfl, hc⟩⟩

/-! Bodies -/

/-- A call that is made, unless it ends with an exit. -/
theorem pursues_invoke {agent operation : String} {script : Script} {payload : Json} {outcome : Outcome} {echoes : Bool}
    (h : ∀ n, (script n payload).cancels = none ∧ (script n payload).outcome = outcome ∧
      (script n payload).echoes = echoes) :
    Pursues (dealLog env account failed) (fun out c' => out = .ok (outcome.result echoes) ∧ c' = c)
      (Failure.outcome (onWorld (World.invoke env agent operation script payload))) c
      ⟨[.asks ⟨agent, operation, payload⟩], []⟩ := by
  intro s hs
  have hturn : Failure.outcome (onWorld (World.invoke env agent operation script payload)) c s =
      (.done (.ok (World.invoke env agent operation script payload s.world).1, c),
        { s with world := (World.invoke env agent operation script payload s.world).2 }) := rfl
  rw [hturn]
  have hlater := Act.later (World.invoke env agent operation script payload) s.world
  obtain ⟨mid, hcalls, -, -, -, hsilent⟩ := @World.invoke_calls env agent operation script payload s.world
  refine pursuesTurn_of fun hcalm => ⟨hs.fit.trans hlater.refusals.length_le, ⟨?_, ?_⟩, pursues_done.2 ⟨.refl _, ?_, rfl⟩⟩
  · exact hsilent.calls.trans hcalls
  · exact Ledger.pays_asks _ s.ledger
  · exact congrArg Except.ok (World.invoke_result h (hcalm.trans hs.fit))

theorem pursues_call (id : String) {agent operation : String} {input : Members} {script : Script} {payload : Output}
    {outcome : Outcome} {echoes : Bool} (found : env.agents.get agent operation = .ok script)
    (resolved : Template.resolveOutput c.view input = .ok payload)
    (h : ∀ n, (script n payload.value).cancels = none ∧ (script n payload.value).outcome = outcome ∧
      (script n payload.value).echoes = echoes) :
    Pursues (dealLog env account failed)
      (fun out c' => ∃ number, out = .ok (payload, ⟨number, outcome.result echoes⟩) ∧ c' = c)
      (call env account id agent operation input) c
      (env.resting id .call ++ ⟨[.asks ⟨agent, operation, payload.value⟩], []⟩) := by
  refine pursues_wait_bind ?_
  rw [found]
  refine pursues_ok_bind (pursues_view_bind ?_)
  rw [resolved]
  refine pursues_ok_bind ?_
  have hlook : Pursues (dealLog env account failed) (Stays c) (onWorld do return (← get).calls.length) c {} :=
    pursues_onWorld fun w _ => ⟨w.calls.length, rfl⟩
  refine hlook.after fun number => ?_
  rw [← Course.append_nil (Course.mk _ _)]
  refine Pursues.bind (p := fun v c' => v = outcome.result echoes ∧ c' = c) ((pursues_invoke h).mono ?_) ?_
  · rintro out c' ⟨rfl, rfl⟩
    exact ⟨_, rfl, rfl, rfl⟩
  · rintro v c' ⟨rfl, rfl⟩
    exact pursues_out ⟨number, rfl, rfl⟩

theorem pursues_settle (id key : String) (payload : Output) (answer : CallEnd) :
    Pursues (dealLog env account failed)
      (fun out c' => out = reply payload answer.outcome ∧ c' = published c id (some key) (reply payload answer.outcome))
      (settle env account id key payload answer) c (env.resting id .answer ++ ⟨[.takes answer.outcome], []⟩) := by
  have hgrows : Grows (settled account id key payload answer) := by
    unfold settled
    infer_instance
  rw [settle_eq]
  refine pursues_wait_bind fun s hs => ?_
  rw [settled_apply]
  refine pursuesTurn_of fun _ => ⟨hs.fit, ⟨?_, Ledger.pays_settle answer.outcome s.ledger⟩,
    pursues_done.2 ⟨.refl _, rfl, rfl⟩⟩
  exact (List.append_nil _).symm

theorem stays_reply {payload : Output} {outcome : Except Failure (Json × Bool)} {f : Failure}
    (h : ∀ f, outcome = .error f → f.isExit = false) (hf : reply payload outcome = .error f) : f.isExit = false := by
  cases outcome with
  | error e =>
    cases hf
    exact h f rfl
  | ok answer =>
    obtain ⟨problems, -, rfl⟩ := mapError_eq_error (map_eq_error hf)
    rfl

theorem story_callAgent (hsteady : env.Steady) (id agent operation : String) (input : Members) (key : String)
    (c : Context) : ∃ story : Story Output, ∀ account failed,
      Enacts env account failed (callAgent env account id agent operation input key) c story := by
  have hbroken {e : Failure} {account : Account} {failed : Nat}
      {g : Output × CallEnd → Flow Output} [∀ v, Grows (g v)]
      (h : Pursues (dealLog env account failed) (fun out c' => ∃ e', out = .error e' ∧ e' = e ∧ c' = c)
        (call env account id agent operation input) c (env.resting id .call)) :
      Pursues (dealLog env account failed) (fun out c' => out = .error e ∧ c' = c)
        (call env account id agent operation input >>= g) c (env.resting id .call) := by
    refine Pursues.fail (p := fun e' c' => e' = e ∧ c' = c) h ?_
    rintro e' c' ⟨rfl, rfl⟩
    exact ⟨rfl, rfl⟩
  cases hfound : env.agents.get agent operation with
  | error e =>
    refine ⟨⟨env.resting id .call, .error (.lookup e), c, fun f hf => by cases hf; rfl⟩, fun account failed =>
      hbroken ?_⟩
    unfold call
    rw [hfound, ← Course.append_nil (env.resting id .call)]
    exact pursues_wait_bind (pursues_out ⟨_, rfl, rfl, rfl⟩)
  | ok script =>
    cases hpayload : Template.resolveOutput c.view input with
    | error e =>
      refine ⟨⟨env.resting id .call, .error (.expression e), c, fun f hf => by cases hf; rfl⟩, fun account failed =>
        hbroken ?_⟩
      unfold call
      rw [hfound, ← Course.append_nil (env.resting id .call)]
      refine pursues_wait_bind (pursues_ok_bind (pursues_view_bind ?_))
      rw [hpayload]
      exact pursues_out ⟨_, rfl, rfl, rfl⟩
    | ok payload =>
      obtain ⟨outcome, echoes, hscript⟩ := hsteady agent operation script hfound payload.value
      let out := reply payload (outcome.result echoes)
      refine ⟨⟨(env.resting id .call ++ ⟨[.asks ⟨agent, operation, payload.value⟩], []⟩) ++
          (env.resting id .answer ++ ⟨[.takes (outcome.result echoes)], []⟩), out, published c id (some key) out,
        fun f => stays_reply fun _ => Outcome.stays_result⟩, fun account failed => ?_⟩
      refine Pursues.bind (p := fun v c' => v.1 = payload ∧ v.2.outcome = outcome.result echoes ∧ c' = c)
        ((pursues_call id hfound hpayload hscript).mono ?_) ?_
      · rintro _ c' ⟨number, rfl, rfl⟩
        exact ⟨_, rfl, rfl, rfl, rfl⟩
      · rintro ⟨asked, answer⟩ c' ⟨rfl, hanswer, rfl⟩
        have hsettle : Pursues (dealLog env account failed) _ (settle env account id key asked answer) c' _ :=
          pursues_settle id key asked answer
        rw [hanswer] at hsettle
        exact hsettle

/-! Branches -/

/-- A branch that has ended, without what it cost. -/
def free (b : BranchEnd) : BranchEnd := { b with outcome := b.outcome.map fun result => ⟨result.output, 0⟩ }

theorem mergeInto_free (own : Layer) (b : BranchEnd) : mergeInto own (free b) = mergeInto own b := by
  obtain ⟨key, isGate, layer, outcome⟩ := b
  cases outcome <;> rfl

theorem collectEnd_free (outputs : Assoc Output) (b : BranchEnd) :
    collectEnd outputs (free b) = collectEnd outputs b := by
  obtain ⟨key, isGate, layer, outcome⟩ := b
  cases outcome <;> rfl

theorem failure?_free (b : BranchEnd) : BranchEnd.failure? (free b) = BranchEnd.failure? b := by
  obtain ⟨key, isGate, layer, outcome⟩ := b
  cases outcome <;> rfl

/-- What branches have cost does not matter to how they are joined. -/
theorem joined_free (c : Context) (ends : List BranchEnd) : joined c (ends.map free) = joined c ends := by
  rw [joined, List.foldl_map, joined]
  simp only [mergeInto_free]

theorem joinOutcome_free (id : String) (ends : List BranchEnd) :
    joinOutcome id (ends.map free) = joinOutcome id ends := by
  rw [joinOutcome, List.findSome?_map, List.foldl_map, joinOutcome]
  simp only [collectEnd_free, Function.comp_def, failure?_free]

theorem stay_of_free {ends : List BranchEnd} (h : Stay (ends.map free)) : Stay ends := by
  intro b hb f hf
  refine h (free b) (List.mem_map_of_mem hb) f ?_
  rw [free, hf]
  rfl

/-- How a branch ends whose story is known. -/
def endOf (step : Step) (story : Story Output) : BranchEnd where
  key := step.resultKey
  isGate := step.isGate
  own := story.context.own
  outcome := story.outcome.map fun output => ⟨output, 0⟩

theorem stay_endOf (steps : List Step) (stories : List (Story Output)) : Stay (List.zipWith endOf steps stories) := by
  intro b hb f hf
  obtain ⟨i, hi, rfl⟩ := List.getElem_of_mem hb
  rw [List.getElem_zipWith] at hf
  exact Story.stays _ f (map_eq_error hf)

/-- A step that goes by its story, in whatever run, on whatever account and whatever others do meanwhile. -/
def Goes (env : Setting) (c : Context) (step : Step) (story : Story Output) : Prop :=
  ∀ own account failed, Pursues (dealLog env account failed)
    (fun out c' => out.map StepResult.output = story.outcome ∧ c' = story.context) (Run.step env own account step) c
    story.course

/-- Courses side by side, each entry with a mark of the course that it belongs to. -/
def sideBySide {B : Type} (tag : Nat → Dealing → B) : Nat → List (Course Dealing) → List (List B)
  | _, [] => []
  | n, k :: rest => Course.beside (k.map (tag n)).turns (sideBySide tag (n + 1) rest)

theorem sideBySide_unmarked (n m : Nat) (ks : List (Course Dealing)) :
    sideBySide (fun _ a => a) n ks = sideBySide (fun _ a => a) m ks := by
  induction ks generalizing n m with
  | nil => rfl
  | cons k rest ih => rw [sideBySide, sideBySide, ih (n + 1) (m + 1)]

theorem pursuesTurn_onFork {fork : Context} {step : Step} {story : Story Output} (h : Goes env fork step story)
    (own : String) {s : Stage} (hs : (dealLog env account failed).Opens s) :
    PursuesTurn (dealLog env account failed) (fun b => free b = endOf step story) story.course s
      (onFork fork step (Run.step env own account step) s) := by
  rw [← Course.append_nil story.course]
  refine (h own account failed s hs).bind (fun out ho t ht => ?_) fun out t => drift.guar_refl t
  refine pursuesTurn_done ht ?_
  obtain ⟨out, c'⟩ := out
  obtain ⟨ho, rfl⟩ := ho
  rw [free, endOf, ← ho]
  cases out <;> rfl

theorem pursues_branches {B : Type} {adds : List B → Stage → Stage → Prop} {hnil : ∀ s, adds [] s s}
    {happend : ∀ {new more a b c}, adds new a b → adds more b c → adds (new ++ more) a c} {tag : Nat → Dealing → B}
    {fork : Context} {steps : List Step} {stories : List (Story Output)}
    (hadds : ∀ n new s t, s.Pays (n :: account) new t → adds (new.map (tag n)) s t)
    (h : List.Forall₂ (Goes env fork) steps stories) (own : String) (first : Nat) :
    Round.Pursues (chronicle env failed adds hnil happend)
      (fun ends => ends.map free = List.zipWith endOf steps stories)
      (sideBySide tag first (stories.map Story.course))
      (Round.all ((branches env own fork account first steps).map Round.go)) := by
  induction h generalizing first with
  | nil => exact Round.pursues_done.2 ⟨.refl _, rfl⟩
  | @cons step story steps stories hfirst _ ih =>
    rw [branches]
    have hgo : Round.Pursues (dealLog env (first :: account) failed) (fun b => free b = endOf step story) story.course.turns
        (.go (onFork fork step (Run.step env own (first :: account) step))) :=
      Round.pursues_go.2 ⟨story.course, .refl _, fun s hs => pursuesTurn_onFork hfirst own hs⟩
    have hmarked : Round.Pursues (chronicle env failed adds hnil happend) (fun b => free b = endOf step story)
        (story.course.map (tag first)).turns (.go (onFork fork step (Run.step env own (first :: account) step))) :=
      hgo.relabel id (fun _ => Iff.rfl) (fun _ => Iff.rfl) (hadds first)
    have dfirst : Round.Drifts (chronicle env failed adds hnil happend).toWeather
        (.go (onFork fork step (Run.step env own (first :: account) step))) :=
      Drifts.safe_go (T := drift) drifts_onFork
    have drest : Round.Drifts (chronicle env failed adds hnil happend).toWeather
        (Round.all ((branches env own fork account (first + 1) steps).map Round.go)) :=
      safe_drifting (T := drift) (drifts_branches drift env own fork account (first + 1) steps)
    refine Round.Pursues.map ((hmarked.both (ih (first + 1)) dfirst drest).mono ?_)
    rintro ⟨b, ends⟩ ⟨hb, hends⟩
    rw [List.map_cons, hb, hends]
    rfl

theorem pursues_branches_within {fork : Context} {steps : List Step} {stories : List (Story Output)}
    (h : List.Forall₂ (Goes env fork) steps stories) (own : String) (account : Account) (failed first : Nat) :
    Round.Pursues (dealLog env account failed) (fun ends => ends.map free = List.zipWith endOf steps stories)
      (sideBySide (fun _ a => a) 0 (stories.map Story.course))
      (Round.all ((branches env own fork account first steps).map Round.go)) := by
  rw [sideBySide_unmarked 0 first]
  refine pursues_branches (fun n new s t hpays => ?_) h own first
  rw [List.map_id']
  exact ⟨hpays.calls, hpays.ledger.above⟩

/-! Steps -/

/-- How a step goes whose body goes by a story. -/
def recordedStory (env : Setting) (step : String) (story : Story Output) : Story Output where
  course := recording env step story.course
  outcome := story.outcome.mapError (·.ofStep step)
  context := story.context
  stays f hf := by
    obtain ⟨e, -, rfl⟩ := mapError_eq_error hf
    exact Failure.isExit_ofStep step e

theorem goes_of_body {step : Step} (story : Story Output)
    (h : ∀ own account failed, ∃ body : Flow Output, Grows body ∧
      Run.step env own account step = recorded env own account step.id body ∧
      Enacts env account failed body c story) : Goes env c step (recordedStory env step.id story) := by
  intro own account failed
  obtain ⟨body, hgrows, hstep, hbody⟩ := h own account failed
  rw [hstep]
  exact pursues_recorded step.id story.stays hbody

/-- How a parallel step goes whose branches go by their stories. -/
def parallelStory (id : String) (steps : List Step) (c : Context) (stories : List (Story Output)) : Story Output where
  course := Process.waiting (sideBySide (fun _ a => a) 0 (stories.map Story.course))
  outcome := joinOutcome id (List.zipWith endOf steps stories)
  context := published (joined c (List.zipWith endOf steps stories)) id none
    (joinOutcome id (List.zipWith endOf steps stories))
  stays f hf := by
    unfold joinOutcome at hf
    split at hf <;> cases hf
    rfl

theorem pursues_parallel {id : String} {steps : List Step} {stories : List (Story Output)}
    (h : List.Forall₂ (Goes env c.fork) steps stories) (own : String) (account : Account) (failed : Nat) :
    ∃ body : Flow Output, Grows body ∧
      Run.step env own account (.parallel id steps) = recorded env own account id body ∧
      Enacts env account failed body c (parallelStory id steps c stories) := by
  have hgrows (fork : Context) (first : Nat) :=
    follows_all (drifts_branches drift env own fork account first steps)
  refine ⟨_, ?_, by rw [Run.step], ?_⟩
  · infer_instance
  · refine (pursues_openAccounts account steps.length).after fun first => ?_
    refine pursues_get_bind ?_
    have hall := pursues_lift (c := c) fun s hs =>
      Process.pursuesTurn_all (pursues_branches_within h own account failed first) hs
    rw [parallelStory, ← Course.append_nil (Process.waiting _)]
    refine Pursues.bind hall ?_
    rintro ends c' ⟨hends, rfl⟩
    have hstay : Stay ends := stay_of_free (hends ▸ stay_endOf steps stories)
    have hjoin := settles_joinAll (c := c') id hstay
    rw [← joined_free c' ends, ← joinOutcome_free id ends, hends] at hjoin
    exact pursues_settles hjoin

/-- How a choice goes on, once it is made. -/
def takenStory (env : Setting) (id : String) (passed : List Step) (story : Story (Assoc Output)) : Story Output where
  course := passing env (Step.flatAll passed) ++ story.course
  outcome := story.outcome.map Output.ofEntries
  context := published story.context id none (story.outcome.map Output.ofEntries)
  stays f hf := story.stays f (map_eq_error hf)

theorem pursues_taken {id : String} {passed taken : List Step} {story : Story (Assoc Output)}
    (h : ∀ own account failed, Enacts env account failed (sequence env own account [] taken) c story) (own : String)
    (account : Account) (failed : Nat) :
    Enacts env account failed
      (do
        skipAll env own account passed
        let outputs ← sequence env own account [] taken
        record id (.ofEntries outputs) none
        return .ofEntries outputs)
      c (takenStory env id passed story) := by
  obtain ⟨k, out, c', hstays⟩ := story
  refine Pursues.bind (pursues_skipAll account passed) fun v c₁ hc => ?_
  obtain rfl : c₁ = c := hc
  cases out with
  | error f =>
    refine Pursues.fail (p := fun e c₁ => e = f ∧ c₁ = c') ((h own account failed).mono fun out c₁ hout => ?_) ?_
    · exact ⟨f, hout.1, rfl, hout.2⟩
    · rintro e c₁ ⟨rfl, rfl⟩
      exact ⟨rfl, rfl⟩
  | ok outputs =>
    rw [← Course.append_nil k]
    refine Pursues.bind (p := fun v c₁ => v = outputs ∧ c₁ = c') ((h own account failed).mono fun out c₁ hout => ?_) ?_
    · exact ⟨outputs, hout.1, rfl, hout.2⟩
    · rintro v c₁ ⟨rfl, rfl⟩
      exact fun s hs => pursuesTurn_done hs ⟨rfl, rfl⟩

mutual

theorem story_step (hsteady : env.Steady) (step : Step) (c : Context) : ∃ story, Goes env c step story := by
  cases step with
  | agent id agent operation input key =>
    obtain ⟨story, hstory⟩ :=
      story_callAgent hsteady id agent operation input (Step.agent id agent operation input key).resultKey c
    exact ⟨_, goes_of_body story fun own account failed =>
      ⟨_, inferInstance, by rw [Run.step]; rfl, hstory account failed⟩⟩
  | condition id test whenTrue whenFalse =>
    cases hasked : Template.condition c.view test with
    | error e =>
      refine ⟨_, goes_of_body ⟨{}, .error (.expression e), c, fun f hf => by cases hf; rfl⟩
        fun own account failed => ⟨_, inferInstance, by rw [Run.step]; rfl, ?_⟩⟩
      refine pursues_view_bind ?_
      rw [hasked]
      exact pursues_out ⟨rfl, rfl⟩
    | ok holds =>
      obtain ⟨story, hstory⟩ : ∃ story : Story (Assoc Output), ∀ own account failed,
          Enacts env account failed (sequence env own account [] (if holds then whenTrue else whenFalse)) c story := by
        cases holds
        · exact story_sequence hsteady [] whenFalse c
        · exact story_sequence hsteady [] whenTrue c
      refine ⟨_, goes_of_body (takenStory env id (if holds then whenFalse else whenTrue) story)
        fun own account failed => ⟨_, inferInstance, by rw [Run.step]; rfl, ?_⟩⟩
      refine pursues_view_bind ?_
      rw [hasked]
      refine pursues_ok_bind ?_
      cases holds
      · exact pursues_taken hstory own account failed
      · exact pursues_taken hstory own account failed
  | parallel id steps =>
    obtain ⟨stories, hstories⟩ := story_each hsteady steps c.fork
    exact ⟨_, goes_of_body _ (pursues_parallel hstories)⟩
  | aggregate id sources how key =>
    exact ⟨_, goes_of_body ⟨{}, _, _, fun _ => stays_combine⟩ fun own account failed => ⟨_, inferInstance, by
      rw [Run.step]; rfl, pursues_settles (settles_aggregate id sources how _)⟩⟩
  | transform id fields key =>
    refine ⟨_, goes_of_body ⟨{}, _, _, fun f hf => ?_⟩ fun own account failed => ⟨_, inferInstance, by
      rw [Run.step]; rfl, pursues_settles (settles_transform id fields _)⟩⟩
    obtain ⟨e, -, rfl⟩ := mapError_eq_error hf
    rfl
  | validate id rules =>
    exact ⟨_, goes_of_body ⟨{}, _, _, fun f hf => stays_checkRules (map_eq_error hf)⟩ fun own account failed =>
      ⟨_, inferInstance, by rw [Run.step]; rfl, pursues_settles (settles_validate id rules)⟩⟩

theorem story_sequence (hsteady : env.Steady) (outputs : Assoc Output) (steps : List Step) (c : Context) :
    ∃ story : Story (Assoc Output), ∀ own account failed,
      Enacts env account failed (sequence env own account outputs steps) c story := by
  cases steps with
  | nil =>
    refine ⟨⟨{}, .ok outputs, c, fun _ => nofun⟩, fun own account failed => ?_⟩
    rw [sequence]
    exact pursues_out ⟨rfl, rfl⟩
  | cons first rest =>
    obtain ⟨⟨k, out, c', hstays⟩, hfirst⟩ := story_step hsteady first c
    cases out with
    | error f =>
      refine ⟨⟨k, .error f, c', fun e he => by cases he; exact hstays f rfl⟩, fun own account failed => ?_⟩
      rw [sequence]
      refine Pursues.fail (p := fun e c₁ => e = f ∧ c₁ = c') ((hfirst own account failed).mono fun out c₁ hout => ?_) ?_
      · exact ⟨f, map_eq_error hout.1, rfl, hout.2⟩
      · rintro e c₁ ⟨rfl, rfl⟩
        exact ⟨rfl, rfl⟩
    | ok output =>
      obtain ⟨⟨k', out', c'', hstays'⟩, hrest⟩ :=
        story_sequence hsteady (if first.isGate then outputs else outputs.put first.resultKey output) rest c'
      refine ⟨⟨k ++ k', out', c'', hstays'⟩, fun own account failed => ?_⟩
      rw [sequence]
      refine Pursues.bind (p := fun v c₁ => v.output = output ∧ c₁ = c')
        ((hfirst own account failed).mono fun out c₁ hout => ?_) ?_
      · obtain ⟨v, rfl, hv⟩ := map_eq_ok hout.1
        exact ⟨v, rfl, hv, hout.2⟩
      · rintro v c₁ ⟨rfl, rfl⟩
        exact hrest own account failed

theorem story_each (hsteady : env.Steady) (steps : List Step) (c : Context) :
    ∃ stories, List.Forall₂ (Goes env c) steps stories := by
  cases steps with
  | nil => exact ⟨[], .nil⟩
  | cons first rest =>
    obtain ⟨story, hfirst⟩ := story_step hsteady first c
    obtain ⟨stories, hrest⟩ := story_each hsteady rest c
    exact ⟨story :: stories, .cons hfirst hrest⟩

end

end Run

end Conductor
