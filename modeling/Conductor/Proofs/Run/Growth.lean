import Conductor.Engine
import Conductor.Proofs.Ledger
import Conductor.Proofs.Run.Flow
import Conductor.Proofs.World.Later

/-! What every turn of the work on a run keeps to, whatever others do meanwhile. In particular it only adds to
what there has been. -/

namespace Conductor

open World

/-- A stage to which others have only added. -/
structure Stage.Later (a b : Stage) : Prop where
  world : World.Later a.world b.world
  ledger : a.ledger.Proper → b.ledger.Proper

/-- Terms of one who relies on nothing and only adds to what there has been. -/
def drift : Terms Stage where
  rely _ _ := True
  guar := Stage.Later
  rely_refl _ := trivial
  rely_trans _ _ := trivial
  guar_refl a := ⟨Std.Refl.refl a.world, id⟩
  guar_trans h h' := ⟨IsTrans.trans _ _ _ h.world h'.world, fun hp => h'.ledger (h.ledger hp)⟩

namespace Flow

variable {α β : Type}

/-- Work whose turns keep to some terms, whatever comes of it. -/
class Follows (T : Terms Stage) (f : Flow α) : Prop where
  safe : ∀ c s, Safe T (fun _ _ _ => True) f c s

abbrev Grows (f : Flow α) : Prop := Follows drift f

theorem Grows.turn (f : Flow α) [h : Grows f] (c : Context) (s : Stage) : drift.guar s (f c s).2 :=
  (Round.safeTurn_iff.1 (h.safe c s)).1

theorem later (f : Flow α) [h : Grows f] (c : Context) (s : Stage) : Later s.world (f.exec c s).2.world :=
  (h.safe c s).exec.1.world

theorem proper (f : Flow α) [h : Grows f] (c : Context) {s : Stage} (hs : s.ledger.Proper) :
    (f.exec c s).2.ledger.Proper := (h.safe c s).exec.1.ledger hs

/-- Terms of one who relies on nothing, and who may wait, look on and open accounts. -/
class Lenient (T : Terms Stage) : Prop where
  rely : ∀ a b, T.rely a b
  idle : ∀ {s : Stage} {w : World}, Idle s.world w → T.guar s { s with world := w }
  forks : ∀ (s : Stage) (account : Account) (count : Nat), T.guar s { s with
    ledger := (List.range count).foldl (fun ledger _ => ledger.fork account) s.ledger }

instance : Lenient drift where
  rely _ _ := trivial
  idle h := ⟨h.toLater, id⟩
  forks s account count := ⟨Std.Refl.refl s.world, fun h => h.forks account count⟩

section Combinators

variable {T : Terms Stage} {f : Flow α} {g : α → Flow β}

instance (v : α) : Follows T (pure v : Flow α) := ⟨fun _ _ => safe_pure trivial⟩

instance (e : Failure) : Follows T (throw e : Flow α) := ⟨fun _ _ => safe_throw trivial⟩

instance : Follows T (get : Flow Context) := ⟨fun _ _ => safe_get trivial⟩

instance (change : Context → Context) : Follows T (modify change : Flow PUnit) :=
  ⟨fun _ _ => safe_modify trivial⟩

instance [hf : Follows T f] [hg : ∀ v, Follows T (g v)] : Follows T (f >>= g) :=
  ⟨fun c s => (hf.safe c s).bind (fun v c t _ => (hg v).safe c t) fun _ _ _ _ => trivial⟩

instance [hf : Follows T f] : Follows T (discard f) := ⟨fun c s => Safe.discard (hf.safe c s)⟩

instance [hf : Follows T f] : Follows T (Failure.outcome f) := ⟨fun c s => Safe.outcome (hf.safe c s)⟩

instance {handle : Failure → Flow α} [hf : Follows T f] [hh : ∀ e, Follows T (handle e)] :
    Follows T (tryCatch f handle) :=
  ⟨fun c s => (hf.safe c s).tryCatch (fun _ _ _ _ => trivial) fun e c t _ => (hh e).safe c t⟩

instance {handle : Failure → Flow α} [hf : Follows T f] [hh : ∀ e, Follows T (handle e)] :
    Follows T (Failure.handling f handle) :=
  ⟨fun c s => (hf.safe c s).handling (fun _ _ _ _ => trivial) (fun _ _ _ _ _ => trivial)
    fun e c t _ _ => (hh e).safe c t⟩

instance (result : Except Failure α) : Follows T (Failure.of result : Flow α) := ⟨fun _ _ => safe_of trivial⟩

instance {ε : Type} (cause : ε → Failure) (result : Except ε α) :
    Follows T (Failure.ofExcept cause result : Flow α) := ⟨fun _ _ => safe_ofExcept trivial⟩

instance (action : Act World α) [hT : Lenient T] [ha : Act.Idles action] : Follows T (Run.onWorld action) :=
  ⟨fun _ s => safe_onWorld (hT.idle (ha.within s.world)) trivial⟩

instance (action : Act World α) [ha : Act.Grows action] : Grows (Run.onWorld action) :=
  ⟨fun _ s => safe_onWorld ⟨ha.later s.world, id⟩ trivial⟩

theorem grows_onLedger {action : Act Stage α} (h : ∀ s, (action s).2.world = s.world)
    (hp : ∀ s, s.ledger.Proper → (action s).2.ledger.Proper) : Grows (Run.onStage action) := by
  refine ⟨fun _ s => safe_onStage ⟨?_, hp s⟩ trivial⟩
  rw [h]
  exact Std.Refl.refl _

instance {ι : Type} {items : List ι} {each : ι → Flow PUnit} [h : ∀ item, Follows T (each item)] :
    Follows T (items.forM each) := by
  induction items with
  | nil => exact inferInstanceAs (Follows T (pure ⟨⟩ : Flow PUnit))
  | cons first rest ih => exact inferInstanceAs (Follows T (each first >>= fun _ => rest.forM each))

instance {p : Prop} [Decidable p] {f' : Flow α} [Follows T f] [Follows T f'] :
    Follows T (if p then f else f') := by
  split <;> infer_instance

theorem later_of_first (first : Act World α) (g : α → Flow β) [∀ v, Grows (g v)] {c : Context} {s : Stage} :
    Later (first s.world).2 ((Run.onWorld first >>= g).exec c s).2.world := by
  rcases hfirst : first s.world with ⟨e | v, t⟩
  · rw [exec_bind_error (by rw [exec_onWorld, hfirst])]
    exact Std.Refl.refl t
  · rw [exec_bind_ok (by rw [exec_onWorld, hfirst])]
    exact later (g v) c { s with world := t }

theorem later_handling {f : Flow α} (handle : Failure → Flow α) [∀ e, Grows (handle e)] {c : Context} {s : Stage}
    {w : World} (h : Later w (f.exec c s).2.world) : Later w (exec (Failure.handling f handle) c s).2.world := by
  rw [exec_handling]
  rcases hran : f.exec c s with ⟨⟨e | v, c'⟩, t⟩
  · rw [hran] at h
    dsimp only
    split_ifs
    · exact h
    · exact IsTrans.trans _ _ _ h (later (handle e) c' t)
  · rw [hran] at h
    exact h

end Combinators

end Flow

namespace Run

open Conductor.Flow

variable {T : Terms Stage} (env : Setting) (execution : String)

instance (rounds : Nat) : Follows T (liftM (Process.rest rounds : Process Stage Unit) : Flow Unit) :=
  ⟨fun _ s => safe_lift (Process.safeTurn_rest rounds s) fun _ _ _ => trivial⟩

instance (account : Account) (step : String) (moment : Moment) : Follows T (wait env account step moment) :=
  ⟨fun _ _ => safe_wait.mono fun _ _ _ _ => trivial⟩

/-! On the context alone -/

instance (step : String) (output : Output) (key : Option String) : Follows T (record step output key) := by
  unfold record
  infer_instance

instance : Follows T view := by
  unfold view
  infer_instance

instance (account : Account) : Follows T (spent account) := ⟨fun _ s => safe_onStage (T.guar_refl s) trivial⟩

instance (id : String) (sources : List String) (how : Combine) (key : String) :
    Follows T (aggregate id sources how key) := by
  unfold aggregate
  infer_instance

instance (id : String) (fields : Members) (key : String) : Follows T (transform id fields key) := by
  unfold transform
  infer_instance

instance (id : String) (rules : List Rule) : Follows T (validate id rules) := by
  unfold validate
  infer_instance

instance (outputs : Assoc Output) (b : BranchEnd) : Follows T (join outputs b) := by
  unfold join
  cases b.outcome <;> dsimp only <;> infer_instance

instance (id : String) (ends : List BranchEnd) : Follows T (joinAll id ends) := by
  have hfold (outputs : Assoc Output) : Follows T (ends.foldlM join outputs) := by
    induction ends generalizing outputs with
    | nil => exact inferInstanceAs (Follows T (pure outputs))
    | cons first rest ih => exact inferInstanceAs (Follows T (join outputs first >>= fun _ => _))
  have hend (found : Option Failure) (outputs : Assoc Output) : Follows T (match found with
      | some f => throw (.stepFailed id f.message)
      | none => do
        record id (.ofEntries outputs) none
        return .ofEntries outputs : Flow Output) := by
    cases found <;> infer_instance
  unfold joinAll
  infer_instance

/-! With requests -/

section Lenient

variable [hT : Lenient T]

instance (account : Account) (count : Nat) : Follows T (openAccounts account count) :=
  ⟨fun _ s => safe_onStage (hT.forks s account count) trivial⟩

instance (step : String) : Follows T (noteStart execution step) := by
  unfold noteStart
  infer_instance

instance {α : Type} (step : String) (action : Flow α) [Follows T action] :
    Follows T (within execution step action) := by
  unfold within
  infer_instance

instance (account : Account) (step id : String) (status : StepStatus) (cost : Float) (output : Output)
    (error : Option String) : Follows T (finish env account step id status cost output error) := by
  unfold finish
  infer_instance

instance (account : Account) (step id : String) (before : Float) (out : Except Failure Output) :
    Follows T (conclude env account step id before out) := by
  unfold conclude
  cases out <;> dsimp only <;> infer_instance

instance (account : Account) (step id : String) (body : Flow Output) [Follows T body] :
    Follows T (carryOut env account step id body) := by
  unfold carryOut
  infer_instance

instance (account : Account) (step : String) (body : Flow Output) [Follows T body] :
    Follows T (attempt env execution account step body) := by
  unfold attempt
  infer_instance

instance (account : Account) (step : String) (body : Flow Output) [Follows T body] :
    Follows T (recorded env execution account step body) := by
  unfold recorded
  infer_instance

instance (account : Account) (step : String) : Follows T (skip env execution account step) := by
  unfold skip
  infer_instance

instance (account : Account) (steps : List Step) : Follows T (skipAll env execution account steps) := by
  unfold skipAll
  infer_instance

end Lenient

/-- Terms of one who may also call agents and charge what their calls cost. -/
class Charges (T : Terms Stage) : Prop extends Lenient T where
  calls : ∀ account id agent operation input key, Follows T (callAgent env account id agent operation input key)

instance (account : Account) (amount : Float) : Grows (charge account amount) :=
  grows_onLedger (fun _ => rfl) fun _ h => h.charge account amount

instance (account : Account) (id agent operation : String) (input : Members) :
    Grows (call env account id agent operation input) := by
  unfold call
  infer_instance

instance (account : Account) (id key : String) (payload : Output) (answer : CallEnd) :
    Grows (settle env account id key payload answer) := by
  unfold settle
  infer_instance

instance : Charges env drift where
  calls account id agent operation input key := by
    unfold callAgent
    infer_instance

instance [h : Charges env T] (account : Account) (id agent operation : String) (input : Members) (key : String) :
    Follows T (callAgent env account id agent operation input key) := h.calls account id agent operation input key

/-! Steps -/

/-- A process whose turns keep to some terms. -/
def Drifts (T : Terms Stage) (p : Process Stage BranchEnd) : Prop :=
  ∀ s, Round.SafeTurn T (fun _ _ => True) (p s) s

theorem drifts_onFork {fork : Context} {step : Step} {action : Flow StepResult} [h : Follows T action] :
    Drifts T (onFork fork step action) := fun s =>
  Round.SafeTurn.bind (h.safe fork s) fun _ t _ =>
    Round.safeTurn_iff.2 ⟨T.guar_refl t, Round.safe_done.2 trivial⟩

theorem Drifts.safe_go {p : Process Stage BranchEnd} (h : Drifts T p) (s : Stage) :
    Round.Safe T (fun _ _ => True) (.go p) s :=
  Round.safe_go.2 fun t _ => Round.safeTurn_iff.1 (h t)

theorem safe_drifting [hT : Lenient T] {ps : List (Process Stage BranchEnd)} (h : ∀ p ∈ ps, Drifts T p) (s : Stage) :
    Round.Safe T (fun _ _ => True) (Round.all (ps.map Round.go)) s := by
  induction ps with
  | nil => exact Round.safe_done.2 trivial
  | cons p rest ih =>
    have hfirst := (h p (List.mem_cons_self ..)).safe_go s
    have hrest := ih fun q hq => h q (List.mem_cons_of_mem _ hq)
    have hbeside : T.Beside T T := ⟨id, id, id, id, fun _ => hT.rely _ _, fun _ => hT.rely _ _⟩
    have hboth := hfirst.both hrest hbeside (fun _ _ _ _ => id) fun _ _ _ _ => id
    show Round.Safe _ _ (Round.map _ ((Round.go p).both (Round.all (rest.map Round.go)))) s
    exact Round.Safe.map (hboth.mono (fun _ _ hr => hr) (fun _ _ hg => hg) fun _ _ _ => trivial)

theorem follows_all [Lenient T] {ps : List (Process Stage BranchEnd)} (h : ∀ p ∈ ps, Drifts T p) :
    Follows T (liftM (Process.all ps) : Flow (List BranchEnd)) :=
  ⟨fun _ s => safe_lift (Process.safeTurn_all (safe_drifting h s) fun _ _ _ _ => id) fun _ _ _ => trivial⟩

section Steps

variable (T) [Charges env T]

mutual

/-- Whatever the step, its body is run between the start and the end of a record. -/
theorem step_recorded (account : Account) (step : Step) : ∃ body : Flow Output, Follows T body ∧
    Run.step env execution account step = recorded env execution account step.id body := by
  have hlenient : Lenient T := Charges.toLenient env
  cases step with
  | agent id agent operation input key =>
    refine ⟨_, ?_, by rw [Run.step]; rfl⟩
    infer_instance
  | condition id test whenTrue whenFalse =>
    have htrue := follows_sequence account [] whenTrue
    have hfalse := follows_sequence account [] whenFalse
    refine ⟨_, ?_, by rw [Run.step]; rfl⟩
    infer_instance
  | parallel id steps =>
    have hall (fork : Context) (first : Nat) := follows_all (drifts_branches fork account first steps)
    refine ⟨_, ?_, by rw [Run.step]; rfl⟩
    infer_instance
  | aggregate id sources how key =>
    refine ⟨_, ?_, by rw [Run.step]; rfl⟩
    infer_instance
  | transform id fields key =>
    refine ⟨_, ?_, by rw [Run.step]; rfl⟩
    infer_instance
  | validate id rules =>
    refine ⟨_, ?_, by rw [Run.step]; rfl⟩
    infer_instance

theorem follows_sequence (account : Account) (outputs : Assoc Output) (steps : List Step) :
    Follows T (sequence env execution account outputs steps) := by
  have hlenient : Lenient T := Charges.toLenient env
  cases steps with
  | nil =>
    rw [sequence]
    infer_instance
  | cons first rest =>
    obtain ⟨body, hbody, hfirst⟩ := step_recorded account first
    have hrest (outputs : Assoc Output) := follows_sequence account outputs rest
    rw [sequence, hfirst]
    infer_instance

theorem drifts_branches (fork : Context) (account : Account) (n : Nat) (steps : List Step) :
    ∀ p ∈ branches env execution fork account n steps, Drifts T p := by
  have hlenient : Lenient T := Charges.toLenient env
  cases steps with
  | nil => exact fun p hp => by simp [branches] at hp
  | cons first rest =>
    intro p hp
    rw [branches, List.mem_cons] at hp
    rcases hp with rfl | hp
    · obtain ⟨body, hbody, hfirst⟩ := step_recorded (n :: account) first
      rw [hfirst]
      exact drifts_onFork
    · exact drifts_branches fork account (n + 1) rest p hp

end

instance (account : Account) (step : Step) : Follows T (Run.step env execution account step) := by
  have hlenient : Lenient T := Charges.toLenient env
  obtain ⟨body, hbody, hstep⟩ := step_recorded T env execution account step
  rw [hstep]
  infer_instance

instance (account : Account) (outputs : Assoc Output) (steps : List Step) :
    Follows T (sequence env execution account outputs steps) :=
  follows_sequence T env execution account outputs steps

instance (account : Account) (id : String) (passed taken : List Step) : Follows T (do
    skipAll env execution account passed
    let outputs ← sequence env execution account [] taken
    record id (.ofEntries outputs) none
    return .ofEntries outputs : Flow Output) := by
  have hlenient : Lenient T := Charges.toLenient env
  infer_instance

end Steps

end Run

namespace Engine

variable (env : Setting)

instance (id : String) (status : RunStatus) (error : Option String) (results : ExecutionPatch) :
    Act.Idles (conclude env id status error results) := by
  unfold conclude
  infer_instance

instance (id : String) : Act.Idles (start env id) := by
  unfold start
  infer_instance

instance (id : String) (f : Failure) : Act.Idles (abort env id f) := by
  unfold abort
  infer_instance

section Drive

variable {T : Terms Stage} [hT : Run.Charges env T]

instance (execution : String) (steps : List Step) : Flow.Follows T (runSteps env execution steps) := by
  have hlenient : Flow.Lenient T := hT.toLenient
  induction steps with
  | nil => exact inferInstanceAs (Flow.Follows T (pure ⟨⟩ : Flow Unit))
  | cons step rest ih =>
    unfold runSteps
    infer_instance

instance (id : String) (status : RunStatus) (error : Option String) :
    Flow.Follows T (finish env id status error) := by
  have hlenient : Flow.Lenient T := hT.toLenient
  unfold finish
  infer_instance

instance (d : Definition) (id : String) : Flow.Follows T (drive env d id) := by
  have hlenient : Flow.Lenient T := hT.toLenient
  have hend (outcome : Except Failure Unit) : Flow.Follows T (match outcome with
      | .ok _ => finish env id .completed none
      | .error f => if f.isOfStep then finish env id .failed (some f.message) else throw f :
        Flow Execution) := by
    cases outcome <;> infer_instance
  unfold drive
  infer_instance

end Drive

/-- What becomes of a run once it has its record. -/
def driven (d : Definition) (own : String) (input : Json) : Act World Execution :=
  Failure.handling (fun w =>
    let ((result, _), s) := (drive env d own).exec { input } ⟨w, .empty⟩
    (result, s.world)) fun f => do
  abort env own f
  throw f

theorem run_eq (d : Definition) (input : Json) :
    run env d input = World.createExecution env d.id input >>= fun e => driven env d e.id input := rfl

/-- An exit passes by the one who drives a run. -/
theorem driven_apply (d : Definition) (own : String) (input : Json) (w : World) :
    driven env d own input w =
      match (drive env d own).exec { input } ⟨w, .empty⟩ with
      | ((.ok v, _), s) => (.ok v, s.world)
      | ((.error f, _), s) => if f.isExit then (.error f, s.world) else
          (do
            abort env own f
            throw f : Act World Execution) s.world := by
  rw [driven, Act.handling_apply]
  rcases (drive env d own).exec { input } ⟨w, .empty⟩ with ⟨⟨f | x, c⟩, s⟩ <;> rfl

instance (d : Definition) (own : String) (input : Json) : Act.Grows (driven env d own input) := by
  have hdrive : Act.Grows (fun w =>
      let ((result, _), s) := (drive env d own).exec { input } ⟨w, .empty⟩
      (result, s.world) : Act World Execution) := ⟨fun w => Flow.later (drive env d own) { input } ⟨w, .empty⟩⟩
  unfold driven
  infer_instance

instance (d : Definition) (input : Json) : Act.Grows (run env d input) := by
  rw [run_eq]
  infer_instance

end Engine

end Conductor
