import Conductor.Proofs.Run.Flow
import Conductor.Proofs.World.Failures
import Conductor.Proofs.World.Notes

/-! What the steps of a run do to the world, whatever they are: they write records of this run, call
agents, and note how they start and fail. -/

namespace Conductor

namespace Run

open Conductor.Flow World

variable {α β : Type} {env : Setting} {execution : String} {scope : Scope} {c : Context} {s : Stage}

/-- Terms on what others make of the world and on what the work makes of it. -/
def terms (rely guar : World → World → Prop) [IsPreorder World rely] [IsPreorder World guar] : Terms Stage where
  rely a b := rely a.world b.world
  guar a b := guar a.world b.world
  rely_refl a := Std.Refl.refl a.world
  rely_trans h h' := IsTrans.trans _ _ _ h h'
  guar_refl a := Std.Refl.refl a.world
  guar_trans h h' := IsTrans.trans _ _ _ h h'

/-- Terms on which everyone keeps to one scope and notes what is started. -/
abbrev diary (scope : Scope) : Terms Stage := terms (Reports scope) (Reports scope)

theorem beside_self (scope : Scope) : (diary scope).Beside (diary scope) (diary scope) := ⟨id, id, id, id, id, id⟩

/-- The scope of the steps of a run. `fine` tells for each step which causes of a failure are in order. -/
structure Covers (scope : Scope) (execution : String) (fine : String → Failure → Prop) : Prop where
  others : Scope.others ≤ scope
  record : ∀ step, scope.deed (.record execution step)
  started : ∀ step context store, scope.event (.started execution step context store)
  failed : ∀ step f, fine step f → scope.event (.failed execution step f)
  plain : ∀ step f, f.isPlain = true → fine step f

/-- The causes that a step itself can give for a failure, apart from those of the requests it makes. -/
def FailsFinely (env : Setting) (fine : String → Failure → Prop) : Step → Prop
  | .agent id agent operation input _ =>
    (∀ e, env.agents.get agent operation = .error e → fine id (.lookup e)) ∧
      ∀ view e, Template.resolveOutput view input = .error e → fine id (.expression e)
  | .condition id test _ _ => ∀ view e, Template.condition view test = .error e → fine id (.expression e)
  | .parallel _ _ => True
  | .aggregate _ _ _ _ => True
  | .transform id fields _ =>
    ∀ view e, Template.resolveOutput view fields = .error e → fine id (.expression e)
  | .validate id rules => ∀ view f, checkRules view id rules = .error f → fine id f

/-- Nothing within the scope undoes it. -/
def Lasting (scope : Scope) (keep : World → Prop) : Prop := ∀ a b, Works scope a b → keep a → keep b

/-- A sound world with the run that is under way. -/
def Under (execution : String) (w : World) : Prop := w.Sound ∧ w.Has execution

theorem lasting_under (scope : Scope) (execution : String) : Lasting scope (Under execution) :=
  fun _ _ h ha => ⟨(h ha.1).sound, (h ha.1).leads.has ha.2⟩

theorem lasting_holds (scope : Scope) (id execution step : String) :
    Lasting scope fun w => Under execution w ∧ w.Holds id execution step :=
  fun _ _ h ha => ⟨lasting_under scope execution _ _ h ha.1, (h ha.1.1).leads.holds ha.2⟩

/-- A record of a step that was noted when it was started. -/
def Going (id execution step : String) (w : World) : Prop :=
  (Under execution w ∧ w.Holds id execution step) ∧ w.Started execution step

theorem lasting_going (scope : Scope) (id execution step : String) : Lasting scope (Going id execution step) :=
  fun a b h ha => ⟨lasting_holds scope id execution step a b h ha.1, (h ha.1.1.1).started ha.2⟩

/-- Ends in a world of that kind and fails, if at all, for a cause of that kind. -/
def Ends (keep : World → Prop) (p : Failure → Prop) (out : Except Failure α) (_ : Context)
    (s : Stage) : Prop :=
  keep s.world ∧ ∀ e, out = .error e → p e

/-- Work that keeps to its scope wherever it starts. -/
def Keeps (keep : World → Prop) (scope : Scope) (p : Failure → Prop) (f : Flow α) : Prop :=
  ∀ c s, keep s.world → Safe (diary scope) (Ends keep p) f c s

section Keeps

variable {keep keep' : World → Prop} {p : Failure → Prop} {f : Flow α} {g : α → Flow β}

theorem Keeps.bind (hf : Keeps keep scope p f) (hg : ∀ v, Keeps keep scope p (g v)) :
    Keeps keep scope p (f >>= g) :=
  fun c s hs => (hf c s hs).bind (fun v c t ho => hg v c t ho.1) fun e _ _ ho =>
    ⟨ho.1, fun e' h => ho.2 e' (by cases h; rfl)⟩

theorem Keeps.discard (hf : Keeps keep scope p f) : Keeps keep scope p (discard f) := by
  refine fun c s hs => Safe.discard ((hf c s hs).mono fun out _ _ ho => ⟨ho.1, fun e he => ?_⟩)
  cases out with
  | error e' =>
    cases he
    exact ho.2 e rfl
  | ok v => cases he

theorem Keeps.mono {q : Failure → Prop} (hf : Keeps keep scope p f) (h : ∀ e, p e → q e) :
    Keeps keep scope q f :=
  fun c s hs => (hf c s hs).mono fun _ _ _ ho => ⟨ho.1, fun e he => h e (ho.2 e he)⟩

theorem Keeps.carry (hf : Keeps keep scope p f) (hl : Lasting scope keep')
    (hk : ∀ w, keep' w → keep w) : Keeps keep' scope p f := fun c s hs =>
  ((hf c s (hk _ hs)).frame (fun a b h => hl a.world b.world h.works) (fun a b h => hl a.world b.world h.works) hs).mono
    fun _ _ _ ho => ⟨ho.2, ho.1.2⟩

/-- Work that also yields values of some kind. -/
def Provides (keep : World → Prop) (scope : Scope) (p : Failure → Prop) (q : α → Prop) (f : Flow α) : Prop :=
  ∀ c s, keep s.world → Safe (diary scope) (fun out c t => Ends keep p out c t ∧ ∀ v, out = .ok v → q v) f c s

theorem Provides.bind {q : α → Prop} (hf : Provides keep scope p q f) (hg : ∀ v, q v → Keeps keep scope p (g v)) :
    Keeps keep scope p (f >>= g) :=
  fun c s hs => (hf c s hs).bind (fun v c t ho => hg v (ho.2 v rfl) c t ho.1.1) fun e _ _ ho =>
    ⟨ho.1.1, fun e' h => ho.1.2 e' (by cases h; rfl)⟩

theorem Keeps.bind_provides {q : β → Prop} (hf : Keeps keep scope p f) (hg : ∀ v, Provides keep scope p q (g v)) :
    Provides keep scope p q (f >>= g) :=
  fun c s hs => (hf c s hs).bind (fun v c t ho => hg v c t ho.1) fun e _ _ ho =>
    ⟨⟨ho.1, fun e' h => ho.2 e' (by cases h; rfl)⟩, fun _ hv => by cases hv⟩

theorem provides_pure {q : α → Prop} {v : α} (h : q v) : Provides keep scope p q (pure v) :=
  fun _ _ hs => safe_pure ⟨⟨hs, fun e he => by cases he⟩, fun _ hv => by cases hv; exact h⟩

theorem Provides.bind_pure {γ : Type} {q : α → Prop} {q' : γ → Prop} {h : α → γ} (hf : Provides keep scope p q f)
    (hq : ∀ v, q v → q' (h v)) : Provides keep scope p q' (do return h (← f)) :=
  fun c s hs => (hf c s hs).bind (fun v c t ho => provides_pure (hq v (ho.2 v rfl)) c t ho.1.1) fun e _ _ ho =>
    ⟨⟨ho.1.1, fun e' h => ho.1.2 e' (by cases h; rfl)⟩, fun _ hv => by cases hv⟩

theorem Keeps.outcome (hf : Keeps keep scope p f) :
    Provides keep scope p (fun out => ∀ e, out = .error e → p e) (Failure.outcome f) :=
  fun c s hs => Safe.outcome ((hf c s hs).mono fun out _ _ ho =>
    ⟨⟨ho.1, fun e he => by cases he⟩, fun v hv => by cases hv; exact ho.2⟩)

theorem Keeps.outcome_bind {g : Except Failure α → Flow β} (hf : Keeps keep scope p f)
    (hg : ∀ out, (∀ e, out = .error e → p e) → Keeps keep scope p (g out)) :
    Keeps keep scope p (Failure.outcome f >>= g) := hf.outcome.bind hg

theorem keeps_pure (v : α) : Keeps keep scope p (pure v) :=
  fun _ _ hs => safe_pure ⟨hs, fun e he => by cases he⟩

theorem keeps_throw {e : Failure} (h : p e) : Keeps keep scope p (throw e : Flow α) :=
  fun _ _ hs => safe_throw ⟨hs, fun e' he => by cases he; exact h⟩

theorem keeps_get : Keeps keep scope p get := fun _ _ hs => safe_get ⟨hs, fun e he => by cases he⟩

theorem keeps_modify (change : Context → Context) : Keeps keep scope p (modify change) :=
  fun _ _ hs => safe_modify ⟨hs, fun e he => by cases he⟩

theorem keeps_of {result : Except Failure α} (h : ∀ e, result = .error e → p e) :
    Keeps keep scope p (Failure.of result) := fun _ _ hs => safe_of ⟨hs, h⟩

theorem keeps_ofExcept {ε : Type} {cause : ε → Failure} {result : Except ε α}
    (h : ∀ e, result = .error e → p (cause e)) : Keeps keep scope p (Failure.ofExcept cause result) := by
  refine fun _ _ hs => safe_ofExcept ⟨hs, fun e he => ?_⟩
  cases result with
  | error e' =>
    cases he
    exact h e' rfl
  | ok v => cases he

theorem keeps_onWorld {action : Act World α} (hl : Lasting scope keep)
    (hw : ∀ w, keep w → Reports scope w (action w).2) (hp : ∀ w e, (action w).1 = .error e → p e) :
    Keeps keep scope p (onWorld action) :=
  fun _ s hs => safe_onWorld (hw s.world hs) ⟨hl _ _ (hw s.world hs).works hs, hp s.world⟩

theorem keeps_onLedger {action : Act Stage α} (hw : ∀ s, (action s).2.world = s.world)
    (hp : ∀ s e, (action s).1 = .error e → p e) : Keeps keep scope p (onStage action) := by
  refine fun _ s hs => safe_onStage ?_ ⟨by rwa [hw], hp s⟩
  show Reports scope s.world (action s).2.world
  rw [hw]
  exact Std.Refl.refl _

theorem keeps_now (hl : Lasting scope keep) : Keeps keep scope p (onWorld World.now) :=
  keeps_onWorld hl (fun w _ => Std.Refl.refl w) fun w e he => by cases he

theorem keeps_wait (hl : Lasting scope keep) (account : Account) (step : String) (moment : Moment) :
    Keeps keep scope p (wait env account step moment) := by
  refine fun c s hs => safe_wait.mono fun out c' t ho => ?_
  exact ⟨hl _ _ ho.2.2.works hs, fun e he => by cases ho.1.symm.trans he⟩

theorem keeps_charge (account : Account) (amount : Float) : Keeps keep scope p (charge account amount) :=
  keeps_onLedger (fun _ => rfl) fun s e he => by cases he

theorem keeps_spent (account : Account) : Keeps keep scope p (spent account) :=
  keeps_onLedger (fun _ => rfl) fun s e he => by cases he

theorem keeps_openAccounts (account : Account) (count : Nat) :
    Keeps keep scope p (openAccounts account count) :=
  keeps_onLedger (fun _ => rfl) fun s e he => by cases he

theorem keeps_view : Keeps keep scope p view := keeps_get.bind fun _ => keeps_pure _

theorem keeps_record (step : String) (output : Output) (key : Option String) :
    Keeps keep scope p (record step output key) := keeps_modify _

end Keeps

theorem plainly_sum {outputs : Assoc Output} {f : Failure} (h : sum outputs = .error f) :
    f.isPlain = true := by
  obtain ⟨acc, entry, -, he⟩ := foldlM_eq_error h
  split at he
  · cases he
  · split at he <;> cases he
    rfl
  · cases he
    rfl

theorem plainly_combine {c : Context} {sources : List String} {how : Combine} {f : Failure}
    (h : combine c sources how = .error f) : f.isPlain = true := by
  cases how with
  | merge => cases h
  | concat => cases h
  | sum =>
    rw [combine] at h
    cases hs : sum (collect c sources) with
    | error e =>
      rw [hs] at h
      cases h
      exact plainly_sum hs
    | ok total =>
      rw [hs] at h
      cases h

section Bodies

theorem keeps_transform {id : String} {fields : Members} (key : String) {key' : Option String}
    (hf : FailsFinely env fine (.transform id fields key')) :
    Keeps (Under execution) scope (fine id) (transform id fields key) := by
  refine keeps_view.bind fun v => (keeps_ofExcept fun e he => hf v e he).bind fun output => ?_
  exact (keeps_record _ _ _).bind fun _ => keeps_pure _

theorem keeps_validate {id : String} {rules : List Rule} (hf : FailsFinely env fine (.validate id rules)) :
    Keeps (Under execution) scope (fine id) (validate id rules) :=
  keeps_view.bind fun v => (keeps_of fun e he => hf v e he).bind fun _ => keeps_pure _

variable (hc : Covers scope execution fine)
include hc

theorem provides_call (account : Account) {id agent operation : String} {input : Members} {key : Option String}
    (hf : FailsFinely env fine (.agent id agent operation input key)) :
    Provides (Under execution) scope (fine id) (fun asked => ∀ e, asked.2.outcome = .error e → fine id e)
      (call env account id agent operation input) := by
  have hl := lasting_under scope execution
  refine (keeps_wait hl account id .call).bind_provides fun _ => (keeps_ofExcept hf.1).bind_provides fun script => ?_
  refine keeps_view.bind_provides fun v => (keeps_ofExcept fun e he => hf.2 v e he).bind_provides fun payload => ?_
  refine (keeps_onWorld hl (fun w _ => Std.Refl.refl w) fun w e he => by cases he).bind_provides fun w => ?_
  have hworks : Act.Within (Works .others) (World.invoke env agent operation script payload.value) :=
    within_invoke Scope.le_rfl agent operation script payload.value
  have hinvoke := keeps_onWorld (p := fine id) hl (fun w _ => (hworks w).reports_of_others hc.others)
    fun w e he => hc.plain id e (plainly_invoke _ _ _ _ w e he)
  exact hinvoke.outcome.bind_pure fun _ ho => ho

theorem keeps_settle (account : Account) (id key : String) (payload : Output) {answer : CallEnd}
    (hf : ∀ e, answer.outcome = .error e → fine id e) :
    Keeps (Under execution) scope (fine id) (settle env account id key payload answer) := by
  have hl := lasting_under scope execution
  refine (keeps_wait hl account id .answer).bind fun _ => Keeps.bind ?_ fun reply => ?_
  · exact keeps_onWorld hl (fun w _ => (within_takeUp answer w).reports_of_others hc.others)
      fun w e he => hf e (by rwa [takeUp_apply] at he)
  · refine (keeps_ofExcept fun e _ => hc.plain id _ rfl).bind fun response => ?_
    exact (keeps_charge _ _).bind fun _ => (keeps_record _ _ _).bind fun _ => keeps_pure _

theorem keeps_callAgent (account : Account) {id agent operation : String} {input : Members} (key : String)
    {key' : Option String} (hf : FailsFinely env fine (.agent id agent operation input key')) :
    Keeps (Under execution) scope (fine id) (callAgent env account id agent operation input key) :=
  (provides_call hc account hf).bind fun asked ho => keeps_settle hc account id key asked.1 ho

theorem keeps_aggregate (id : String) (sources : List String) (how : Combine) (key : String) :
    Keeps (Under execution) scope (fine id) (aggregate id sources how key) := by
  refine keeps_get.bind fun c => Keeps.bind (keeps_of fun e he => ?_) fun output => ?_
  · exact hc.plain id e (plainly_combine he)
  · exact (keeps_record _ _ _).bind fun _ => keeps_pure _

end Bodies

section Records

variable (hc : Covers scope execution fine)
include hc

/-- What follows the note that a step is started. -/
theorem Keeps.started {id step : String} {p : Failure → Prop} {g : Unit → Flow α}
    (hg : Keeps (Going id execution step) scope p (g ⟨⟩)) :
    Keeps (fun w => Under execution w ∧ w.Holds id execution step) scope p (noteStart execution step >>= g) := by
  intro c s hs
  have hw : Reports scope s.world (World.note (.started execution step c s.world.store) s.world).2 :=
    reports_note (hc.started step c s.world.store) s.world
  have hgoing : Going id execution step (World.note (.started execution step c s.world.store) s.world).2 :=
    ⟨lasting_holds scope id execution step _ _ hw.works hs, c, s.world.store, List.mem_cons_self⟩
  have hnoted : Safe (diary scope) (fun out _ t => out = .ok ⟨⟩ ∧ Going id execution step t.world)
      (onWorld do World.note (.started execution step c (← get).store)) c s := safe_onWorld hw ⟨rfl, hgoing⟩
  refine hnoted.bind (fun v c t ho => ?_) fun e c t ho => ?_
  · exact (hg c t ho.2).mono fun _ _ _ h => ⟨h.1.1, h.2⟩
  · cases ho.1

section Plain

variable {p : Failure → Prop} (hp : ∀ f : Failure, f.isPlain = true → p f)
include hp

theorem keeps_updateStep {keep : World → Prop} {id step : String} {patch : StepPatch} (hl : Lasting scope keep)
    (hk : ∀ w, keep w → w.Holds id execution step ∧ (patch.status = some .skipped ∨ w.Started execution step)) :
    Keeps keep scope p (onWorld (World.updateStep env id (.ok patch))) :=
  keeps_onWorld hl
    (fun w hw => reports_updateStep hc.others patch (hc.record step) (hk w hw).1 (hk w hw).2)
    fun w e he => hp e (plainly_updateStep id patch w e he)

theorem Keeps.created {step : String} {g : StepRecord → Flow α}
    (hg : ∀ r, Keeps (fun w => Under execution w ∧ w.Holds r.id execution step) scope p (g r)) :
    Keeps (Under execution) scope p (onWorld (World.createStep env execution step) >>= g) := by
  intro c s hs
  have hw : Reports scope s.world (World.createStep env execution step s.world).2 :=
    reports_createStep hc.others (hc.record step) hs.2
  have hmade : Safe (diary scope) (fun out _ t => Under execution t.world ∧
      (∀ r, out = .ok r → t.world.Holds r.id execution step) ∧ ∀ e, out = .error e → p e)
      (onWorld (World.createStep env execution step)) c s := by
    refine safe_onWorld hw ⟨lasting_under scope execution _ _ hw.works hs, fun r hr => ?_, fun e he => ?_⟩
    · exact holds_of_createStep hs.1 (Prod.ext hr rfl)
    · exact hp e (plainly_createStep execution step s.world e he)
  refine hmade.bind (fun r c t ho => ?_) fun e c t ho => ?_
  · exact (hg r c t ⟨ho.1, ho.2.1 r rfl⟩).mono fun _ _ _ h => ⟨h.1.1, h.2⟩
  · exact ⟨ho.1, fun e' he => ho.2.2 e' (by cases he; rfl)⟩

theorem keeps_finish (account : Account) (step id : String) (status : StepStatus) (cost : Float) (output : Output)
    (error : Option String) :
    Keeps (Going id execution step) scope p (finish env account step id status cost output error) := by
  have hl := lasting_going scope id execution step
  refine (keeps_wait hl account step .finish).bind fun _ => (keeps_now hl).bind fun now => ?_
  exact keeps_get.bind fun c => (keeps_updateStep hc hp hl fun w hw => ⟨hw.1.2, .inr hw.2⟩).discard

theorem keeps_skip (account : Account) (step : String) :
    Keeps (Under execution) scope p (skip env execution account step) := by
  refine (keeps_wait (lasting_under scope execution) account step .create).bind fun _ => Keeps.created hc hp fun r => ?_
  have hl := lasting_holds scope r.id execution step
  refine (keeps_wait hl account step .finish).bind fun _ => (keeps_now hl).bind fun now => ?_
  exact (keeps_updateStep hc hp hl fun w hw => ⟨hw.2, .inl rfl⟩).discard

theorem keeps_skipAll (account : Account) (steps : List Step) :
    Keeps (Under execution) scope p (skipAll env execution account steps) := by
  unfold skipAll
  induction Step.flatAll steps with
  | nil => exact keeps_pure _
  | cons step rest ih => exact (keeps_skip hc hp account step.id).bind fun _ => ih

end Plain

theorem keeps_conclude (account : Account) (step id : String) (before : Float)
    {out : Except Failure Output} (ho : ∀ e, out = .error e → fine step e) :
    Keeps (Going id execution step) scope (fine step) (conclude env account step id before out) := by
  cases out with
  | ok output =>
    exact (keeps_spent account).bind fun _ =>
      (keeps_finish hc (hc.plain step) _ _ _ _ _ _ _).bind fun _ => keeps_pure _
  | error f =>
    have hend : Keeps (Going id execution step) scope (fine step) (do
        finish env account step id .failed ((← spent account) - before) Json.null (some f.message)
        throw f : Flow StepResult) :=
      (keeps_spent account).bind fun _ => (keeps_finish hc (hc.plain step) _ _ _ _ _ _ _).bind fun _ =>
        keeps_throw (ho f rfl)
    rw [conclude]
    split_ifs
    · exact keeps_throw (ho f rfl)
    · exact hend

theorem keeps_attempt (account : Account) {step : String} {body : Flow Output}
    (hb : Keeps (Under execution) scope (fine step) body) :
    Keeps (Under execution) scope (fine step) (attempt env execution account step body) := by
  refine (keeps_wait (lasting_under scope execution) account step .create).bind fun _ => ?_
  refine Keeps.created hc (hc.plain step) fun r => Keeps.started hc ?_
  have hl := lasting_going scope r.id execution step
  refine (keeps_wait hl account step .start).bind fun _ => (keeps_now hl).bind fun now => ?_
  refine (keeps_updateStep hc (hc.plain step) hl fun w hw => ⟨hw.1.2, .inr hw.2⟩).discard.bind fun _ =>
    (keeps_spent account).bind fun before => ?_
  refine Keeps.outcome_bind ((hb.carry hl fun w h => h.1.1)) fun out ho =>
    keeps_conclude hc account step r.id before ho

theorem keeps_within {step : String} {f : Flow α} (hf : Keeps (Under execution) scope (fine step) f) :
    Keeps (Under execution) scope (·.isPlain = true) (within execution step f) := by
  refine fun c s hs => (hf c s hs).handling (fun v c t ho => ⟨ho.1, fun e he => by cases he⟩)
    (fun e c t hexit ho => ⟨ho.1, fun e' he => by cases he; exact Failure.isPlain_of_isExit hexit⟩)
    fun e c t _ ho => ?_
  have hnote : Keeps (Under execution) scope (·.isPlain = true)
      (onWorld (World.note (.failed execution step e))) :=
    keeps_onWorld (lasting_under scope execution) (fun w _ => reports_note (hc.failed step e (ho.2 e rfl)) w)
      fun w e he => by cases he
  exact (hnote.bind fun _ => keeps_throw (Failure.isPlain_ofStep step e)) c t ho.1

theorem keeps_recorded (account : Account) {step : String} {body : Flow Output}
    (hb : Keeps (Under execution) scope (fine step) body) :
    Keeps (Under execution) scope (·.isPlain = true) (recorded env execution account step body) :=
  keeps_within hc (keeps_attempt hc account hb)

end Records

section Steps

theorem safe_all {ps : List (Process Stage BranchEnd)}
    (h : ∀ p ∈ ps, ∀ s, Under execution s.world → Round.SafeTurn (diary scope)
      (fun _ t => Under execution t.world) (p s) s)
    (hs : Under execution s.world) :
    Round.Safe (diary scope) (fun _ t => Under execution t.world) (Round.all (ps.map Round.go)) s := by
  induction ps with
  | nil => exact Round.safe_done.2 hs
  | cons p rest ih =>
    have hfirst : Round.Safe (diary scope) (fun _ t => Under execution t.world) (.go p) s := by
      refine Round.safe_go.2 fun t ht => Round.safeTurn_iff.1 ?_
      exact h p (List.mem_cons_self ..) t (lasting_under scope execution _ _ ht.works hs)
    have hrest := ih fun q hq => h q (List.mem_cons_of_mem _ hq)
    have hl : ∀ a b : Stage, (diary scope).rely a b → Under execution a.world → Under execution b.world :=
      fun a b hr => lasting_under scope execution _ _ hr.works
    show Round.Safe _ _ (Round.map _ ((Round.go p).both (Round.all (rest.map Round.go)))) s
    refine Round.Safe.map ((hfirst.both hrest (beside_self scope) (fun _ => hl) fun _ => hl).mono
      (fun _ _ hr => hr) (fun _ _ hg => hg) fun _ _ ho => ho.1)

theorem safe_onFork {fork : Context} {step : Step} {action : Flow StepResult} {p : Failure → Prop}
    (h : Keeps (Under execution) scope p action) (hs : Under execution s.world) :
    Round.SafeTurn (diary scope) (fun _ t => Under execution t.world) (onFork fork step action s) s :=
  Round.SafeTurn.bind (h fork s hs) fun _ t ho =>
    Round.safeTurn_iff.2 ⟨(diary scope).guar_refl t, Round.safe_done.2 ho.1⟩

theorem keeps_join {p : Failure → Prop} (hp : ∀ f : Failure, f.isPlain = true → p f) (outputs : Assoc Output) (b : BranchEnd) :
    Keeps (Under execution) scope p (join outputs b) := by
  unfold join
  cases b.outcome with
  | error f =>
    dsimp only
    split_ifs with hexit
    · exact keeps_throw (hp f (Failure.isPlain_of_isExit hexit))
    · exact keeps_pure _
  | ok result => exact (keeps_modify _).bind fun _ => keeps_pure _

theorem keeps_joinAll {p : Failure → Prop} (hp : ∀ f : Failure, f.isPlain = true → p f) (id : String)
    (ends : List BranchEnd) : Keeps (Under execution) scope p (joinAll id ends) := by
  have hfold : ∀ outputs, Keeps (Under execution) scope p (ends.foldlM join outputs) := by
    induction ends with
    | nil => exact fun outputs => keeps_pure outputs
    | cons first rest ih => exact fun outputs => (keeps_join hp outputs first).bind fun next => ih next
  refine (hfold []).bind fun outputs => ?_
  cases ends.findSome? BranchEnd.failure? with
  | some f => exact keeps_throw (hp _ rfl)
  | none => exact (keeps_record _ _ _).bind fun _ => keeps_pure _

mutual

theorem keeps_step (hc : Covers scope execution fine) (account : Account) (step : Step)
    (hf : ∀ inner ∈ step.flat, FailsFinely env fine inner) :
    Keeps (Under execution) scope (·.isPlain = true) (Run.step env execution account step) := by
  cases step with
  | agent id agent operation input key =>
    exact keeps_recorded hc account (keeps_callAgent hc account _
      (hf (.agent id agent operation input key) (by simp [Step.flat])))
  | condition id test whenTrue whenFalse =>
    have htest := hf (.condition id test whenTrue whenFalse) (by simp [Step.flat])
    have htrue := keeps_sequence hc account [] whenTrue fun inner hi => hf inner (by simp [Step.flat, hi])
    have hfalse := keeps_sequence hc account [] whenFalse fun inner hi => hf inner (by simp [Step.flat, hi])
    refine keeps_recorded hc account ?_
    refine keeps_view.bind fun v => (keeps_ofExcept fun e he => htest v e he).bind fun holds => ?_
    cases holds with
    | true =>
      refine (keeps_skipAll hc (hc.plain id) account whenFalse).bind fun _ => ?_
      refine (htrue.mono (hc.plain id)).bind fun outputs => ?_
      exact (keeps_record _ _ _).bind fun _ => keeps_pure _
    | false =>
      refine (keeps_skipAll hc (hc.plain id) account whenTrue).bind fun _ => ?_
      refine (hfalse.mono (hc.plain id)).bind fun outputs => ?_
      exact (keeps_record _ _ _).bind fun _ => keeps_pure _
  | parallel id steps =>
    refine keeps_recorded hc account ?_
    refine (keeps_openAccounts account steps.length).bind fun first => keeps_get.bind fun outer => ?_
    refine Keeps.bind (fun c s hs => ?_) fun ends => keeps_joinAll (hc.plain id) id ends
    have hbranches := safe_branches hc outer.fork account first steps fun inner hi =>
      hf inner (by simp [Step.flat, hi])
    exact safe_lift (Process.safeTurn_all (safe_all hbranches hs) fun _ a b hr =>
      lasting_under scope execution _ _ hr.works)
      fun v t ht => ⟨ht, fun e he => by cases he⟩
  | aggregate id sources how key => exact keeps_recorded hc account (keeps_aggregate hc id sources how _)
  | transform id fields key =>
    exact keeps_recorded hc account (keeps_transform _ (hf (.transform id fields key) (by simp [Step.flat])))
  | validate id rules => exact keeps_recorded hc account (keeps_validate (hf _ (by simp [Step.flat])))

theorem keeps_sequence (hc : Covers scope execution fine) (account : Account) (outputs : Assoc Output)
    (steps : List Step) (hf : ∀ inner ∈ Step.flatAll steps, FailsFinely env fine inner) :
    Keeps (Under execution) scope (·.isPlain = true) (sequence env execution account outputs steps) := by
  cases steps with
  | nil => exact keeps_pure _
  | cons first rest =>
    have hfirst := keeps_step hc account first fun inner hi => hf inner (by simp [Step.flatAll, hi])
    refine hfirst.bind fun result => ?_
    exact keeps_sequence hc account _ rest fun inner hi => hf inner (by simp [Step.flatAll, hi])

theorem safe_branches (hc : Covers scope execution fine) (fork : Context) (account : Account) (n : Nat)
    (steps : List Step) (hf : ∀ inner ∈ Step.flatAll steps, FailsFinely env fine inner) :
    ∀ p ∈ branches env execution fork account n steps, ∀ s, Under execution s.world →
      Round.SafeTurn (diary scope) (fun _ t => Under execution t.world) (p s) s := by
  cases steps with
  | nil => exact fun p hp => by simp [branches] at hp
  | cons first rest =>
    intro p hp s hs
    rw [branches, List.mem_cons] at hp
    rcases hp with rfl | hp
    · exact safe_onFork (keeps_step hc (n :: account) first fun inner hi =>
        hf inner (by simp [Step.flatAll, hi])) hs
    · exact safe_branches hc fork account (n + 1) rest
        (fun inner hi => hf inner (by simp [Step.flatAll, hi])) p hp s hs

end

end Steps

end Run

end Conductor
