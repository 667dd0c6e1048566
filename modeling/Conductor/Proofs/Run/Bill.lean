import Conductor.Proofs.Ledger.Totals
import Conductor.Proofs.Run.Growth
import Conductor.Proofs.World.History
import Conductor.Proofs.World.Silence

/-! What a run is charged for: the answers of agents that can be read. An answer is taken up and charged for in one turn,
so that no one else ever sees the one without the other. When no branch waits for an answer, calls and answers keep
step. -/

namespace Conductor

namespace Flow

variable {α β : Type} {T : Terms Stage}

theorem Follows.bind {f : Flow α} {g : α → Flow β} (hf : Follows T f) (hg : ∀ v, Follows T (g v)) :
    Follows T (f >>= g) := inferInstance

end Flow

/-- The bill of some calls: the sum of what they cost, in the order in which their answers were taken up. -/
def bill (ends : List CallEnd) (before : Float) : Float := Ledger.sum (ends.filterMap CallEnd.cost?) before

theorem bill_append (ends more : List CallEnd) (before : Float) :
    bill (ends ++ more) before = bill more (bill ends before) := by
  rw [bill, List.filterMap_append, Ledger.sum_append]
  rfl

/-- A ledger in which a call has been charged for, if its answer can be read. -/
def Ledger.settle (l : Ledger) (account : Account) (outcome : Except Failure (Json × Bool)) : Ledger :=
  match costOf outcome with
  | some cost => l.charge account cost
  | none => l

/-- A ledger in which the run has been charged for some calls. -/
structure Ledger.Bills (ends : List CallEnd) (a b : Ledger) : Prop where
  root : b.isOpen [] = true
  total : b.total [] = bill ends (a.total [])

/-- A stage that comes of another one by taking up answers for which the run has been charged. -/
def Stage.Billed (a b : Stage) : Prop :=
  ∃ ends, b.world.answers = a.world.answers ++ ends ∧ (a.ledger.isOpen [] = true → a.ledger.Bills ends b.ledger)

theorem Stage.billed_of_none {a b : Stage} (ha : b.world.answers = a.world.answers)
    (hl : a.ledger.isOpen [] = true → a.ledger.Bills [] b.ledger) : a.Billed b :=
  ⟨[], ha.trans (List.append_nil _).symm, hl⟩

/-- Terms of one who relies on nothing and charges the run for every answer. -/
def billing : Terms Stage where
  rely _ _ := True
  guar := Stage.Billed
  rely_refl _ := trivial
  rely_trans _ _ := trivial
  guar_refl a := Stage.billed_of_none rfl fun h => ⟨h, rfl⟩
  guar_trans := by
    rintro a b c ⟨ends, hanswers, hbills⟩ ⟨more, hanswers', hbills'⟩
    refine ⟨ends ++ more, by rw [hanswers', hanswers, List.append_assoc], fun h => ?_⟩
    have hfirst := hbills h
    have hsecond := hbills' hfirst.root
    exact ⟨hsecond.root, by rw [bill_append, ← hfirst.total, hsecond.total]⟩

namespace Run

open Conductor.Flow World

variable {env : Setting}

theorem bills_forks (account : Account) (count : Nat) {l : Ledger} (h : l.isOpen [] = true) :
    l.Bills [] ((List.range count).foldl (fun ledger _ => ledger.fork account) l) := by
  refine List.foldlRecOn (List.range count) _ ⟨h, rfl⟩ fun l' hl' _ _ => ?_
  exact ⟨(Ledger.isOpen_fork account []).2 (.inl hl'.root), (Ledger.total_fork account hl'.root).trans hl'.total⟩

instance : Lenient billing where
  rely _ _ := trivial
  idle h := Stage.billed_of_none h.answers fun h => ⟨h, rfl⟩
  forks _ account count := Stage.billed_of_none rfl fun h => bills_forks account count h

/-- A call is not charged for before its answer is taken up. -/
instance (agent operation : String) (script : Script) (payload : Json) :
    Follows billing (onWorld (invoke env agent operation script payload)) := by
  refine ⟨fun c s => safe_onWorld (Stage.billed_of_none ?_ fun h => ⟨h, rfl⟩) trivial⟩
  obtain ⟨mid, -, hanswers, -, -, hsilent⟩ := @invoke_calls env agent operation script payload s.world
  exact hsilent.answers.trans hanswers

instance (account : Account) (id agent operation : String) (input : Members) :
    Follows billing (call env account id agent operation input) := by
  unfold call
  infer_instance

/-- Goes on with a call whose answer is there. -/
def settled (account : Account) (id key : String) (payload : Output) (answer : CallEnd) : Flow Output := do
  let (envelope, echoed) ← onWorld (takeUp answer)
  let response ← Failure.ofExcept (.malformed "AgentResponse") (Response.read envelope).toExcept
  charge account response.usage.cost
  let output : Output := ⟨response.data, if echoed then payload.tables else []⟩
  record id output (some key)
  return output

theorem settle_eq (account : Account) (id key : String) (payload : Output) (answer : CallEnd) :
    settle env account id key payload answer = (do
      wait env account id .answer
      settled account id key payload answer) := rfl

/-- What comes of the answer to a call. -/
def reply (payload : Output) (outcome : Except Failure (Json × Bool)) : Except Failure Output :=
  outcome >>= fun answer =>
    ((Response.read answer.1).toExcept.mapError (.malformed "AgentResponse")).map fun response =>
      ⟨response.data, if answer.2 then payload.tables else []⟩

/-- A context after a body that publishes what it gives. -/
def published (c : Context) (id : String) (key : Option String) : Except Failure Output → Context
  | .ok output => c.record id output key
  | .error _ => c

/-- An answer that is there is taken up, charged for and published in one turn. -/
theorem settled_apply (account : Account) (id key : String) (payload : Output) (answer : CallEnd) (c : Context)
    (s : Stage) : settled account id key payload answer c s =
      (.done (reply payload answer.outcome, published c id (some key) (reply payload answer.outcome)),
        ⟨{ s.world with answers := s.world.answers ++ [answer] }, s.ledger.settle account answer.outcome⟩) := by
  have hturn : onWorld (takeUp answer) c s = (.done (answer.outcome, c),
      { s with world := { s.world with answers := s.world.answers ++ [answer] } }) := by
    rw [onWorld_apply, takeUp_apply]
  rw [settled, bind_apply, hturn, Round.bindPair_eq, Round.bind, reply, Ledger.settle]
  rcases answer.outcome with f | ⟨envelope, echoed⟩
  · rfl
  · dsimp only [next, bind, Except.bind, costOf]
    cases (Response.read envelope).toExcept <;> rfl

theorem bills_settle (account : Account) (answer : CallEnd) {l : Ledger} (h : l.isOpen [] = true) :
    l.Bills [answer] (l.settle account answer.outcome) := by
  have hcost : answer.cost? = costOf answer.outcome := rfl
  unfold Ledger.settle
  cases hc : costOf answer.outcome with
  | none => exact ⟨h, by simp [bill, hcost, hc, Ledger.sum]⟩
  | some cost =>
    refine ⟨(Ledger.isOpen_charge account [] cost).trans h, (Ledger.total_charge cost h).trans ?_⟩
    simp [bill, hcost, hc, Ledger.sum]

instance (account : Account) (id key : String) (payload : Output) (answer : CallEnd) :
    Follows billing (settle env account id key payload answer) := by
  rw [settle_eq]
  refine Follows.bind inferInstance fun _ => ⟨fun c s => ?_⟩
  rw [Flow.Safe, settled_apply]
  exact Round.safeTurn_iff.2 ⟨⟨[answer], rfl, bills_settle account answer⟩, Round.safe_done.2 trivial⟩

instance : Charges env billing where
  calls account id agent operation input key := by
    unfold callAgent
    infer_instance

end Run

/-! Answers that are there at once -/

/-- No branch waits for an answer. -/
class Setting.Prompt (env : Setting) : Prop where
  answer : ∀ turns account step, env.pauses turns account step .answer = 0

/-- Between two stages every call has been answered before the next one was made. -/
def Stage.InStep (a b : Stage) : Prop :=
  ∃ ends, b.world.answers = a.world.answers ++ ends ∧
    b.world.calls.length = a.world.calls.length + ends.length ∧
    ends.map CallEnd.number = List.range' a.world.calls.length ends.length

theorem Stage.inStep_of_none {a b : Stage} (ha : b.world.answers = a.world.answers) (hc : b.world.calls = a.world.calls) :
    a.InStep b := ⟨[], ha.trans (List.append_nil _).symm, by rw [hc]; rfl, rfl⟩

theorem Stage.inStep_of_one {a b : Stage} {outcome : Except Failure (Json × Bool)}
    (ha : b.world.answers = a.world.answers ++ [⟨a.world.calls.length, outcome⟩])
    (hc : b.world.calls.length = a.world.calls.length + 1) : a.InStep b := ⟨_, ha, hc, rfl⟩

/-- Terms of one who relies on nothing and has every call answered before the next one is made. -/
def inStep : Terms Stage where
  rely _ _ := True
  guar := Stage.InStep
  rely_refl _ := trivial
  rely_trans _ _ := trivial
  guar_refl _ := Stage.inStep_of_none rfl rfl
  guar_trans := by
    rintro a b c ⟨ends, hanswers, hcalls, hnumbers⟩ ⟨more, hanswers', hcalls', hnumbers'⟩
    refine ⟨ends ++ more, by rw [hanswers', hanswers, List.append_assoc], ?_, ?_⟩
    · rw [hcalls', hcalls, List.length_append, Nat.add_assoc]
    · rw [List.map_append, hnumbers, hnumbers', hcalls, List.length_append, List.range'_append_1]

theorem Round.bind_bind {σ α β γ : Type} (f : α → Process σ β) (g : β → Process σ γ) (r : Round σ α) (s : σ) :
    Round.bindPair g (r.bind f s) = r.bind (fun v t => Round.bindPair g (f v t)) s := by
  induction r using Round.turnInduction generalizing s with
  | done value => rfl
  | go next ih =>
    refine Prod.ext (congrArg Round.go (funext fun t => ?_)) rfl
    have hfirst := congrArg (Round.bindPair g) (Round.bindPair_eq f (next t))
    exact hfirst.trans ((ih t (next t).2).trans (Round.bindPair_eq _ (next t)).symm)

namespace Flow

variable {α β γ : Type} {c c' : Context} {s t : Stage}

theorem bind_bind (f : Flow α) (g : α → Flow β) (h : β → Flow γ) (c : Context) (s : Stage) :
    ((f >>= g) >>= h) c s = (f >>= fun v => g v >>= h) c s := by
  rw [bind_apply, bind_apply, bind_apply, Round.bindPair_eq (next g), Round.bindPair_eq (next fun v => g v >>= h),
    Round.bind_bind]
  congr 1
  funext ⟨out, c'⟩ t
  cases out with
  | error e => rfl
  | ok v => exact (bind_apply (g v) h c' t).symm

theorem bind_of_done {f : Flow α} (g : α → Flow β) {v : α} (h : f c s = (.done (.ok v, c'), t)) :
    (f >>= g) c s = g v c' t := by
  rw [bind_apply, h, Round.bindPair_eq, Round.bind]
  rfl

end Flow

namespace Run

open Conductor.Flow World

variable {env : Setting} {c : Context} {s : Stage}

instance : Lenient inStep where
  rely _ _ := trivial
  idle h := Stage.inStep_of_none h.answers h.calls
  forks _ _ _ := Stage.inStep_of_none rfl rfl

theorem wait_answer [henv : env.Prompt] (account : Account) (step : String) (c : Context) (s : Stage) :
    wait env account step .answer c s = (.done (.ok ⟨⟩, c), s) := by
  refine (bind_of_done _ (onWorld_apply _ c s)).trans ?_
  rw [henv.answer]
  rfl

/-- Work that ends in the turn in which it starts, with every call in it answered. -/
def Closes {α : Type} (f : Flow α) (c : Context) (s : Stage) : Prop :=
  ∃ out t, f c s = (.done out, t) ∧ s.InStep t

section Closes

variable {α β γ : Type} {f : Flow α} {g : α → Flow β}

theorem Closes.safe (h : Closes f c s) : Flow.Safe inStep (fun _ _ _ => True) f c s := by
  obtain ⟨out, t, hf, hstep⟩ := h
  rw [Flow.Safe, hf]
  exact Round.safeTurn_iff.2 ⟨hstep, Round.safe_done.2 trivial⟩

theorem Closes.assoc {h : β → Flow γ} (hc : Closes (f >>= fun v => g v >>= h) c s) : Closes ((f >>= g) >>= h) c s := by
  rwa [Closes, bind_bind]

theorem Closes.after {v : α} {c' : Context} (hf : f c s = (.done (.ok v, c'), s)) (hg : Closes (g v) c' s) :
    Closes (f >>= g) c s := by
  rwa [Closes, bind_of_done g hf]

theorem closes_ofExcept_bind {ε : Type} {cause : ε → Failure} {result : Except ε α}
    (h : ∀ v, result = .ok v → Closes (g v) c s) : Closes (Failure.ofExcept cause result >>= g) c s := by
  cases result with
  | error e => exact ⟨_, s, rfl, Stage.inStep_of_none rfl rfl⟩
  | ok v => exact h v rfl

end Closes

/-- Once its answer is there, a call is settled without another turn. -/
theorem settle_turn [env.Prompt] (account : Account) (id key : String) (payload : Output) (answer : CallEnd) (c : Context)
    (s : Stage) : ∃ out t, settle env account id key payload answer c s = (.done out, t) ∧
      t.world = { s.world with answers := s.world.answers ++ [answer] } := by
  rw [settle_eq, bind_of_done _ (wait_answer account id c s), settled_apply]
  exact ⟨_, _, rfl, rfl⟩

theorem closes_invoke [env.Prompt] (account : Account) (id key agent operation : String) (script : Script)
    (payload : Output) : Closes (Failure.outcome (onWorld (World.invoke env agent operation script payload.value)) >>=
      fun outcome => settle env account id key payload ⟨s.world.calls.length, outcome⟩) c s := by
  let out := World.invoke env agent operation script payload.value s.world
  obtain ⟨mid, hcalls, hanswers, -, -, hsilent⟩ :=
    @invoke_calls env agent operation script payload.value s.world
  obtain ⟨ended, t, hsettle, hworld⟩ :=
    @settle_turn env _ account id key payload ⟨s.world.calls.length, out.1⟩ c { s with world := out.2 }
  have hinvoke : Failure.outcome (onWorld (World.invoke env agent operation script payload.value)) c s =
      (.done (.ok out.1, c), { s with world := out.2 }) := rfl
  refine ⟨ended, t, (bind_of_done _ hinvoke).trans hsettle, @Stage.inStep_of_one s t out.1 ?_ ?_⟩
  · rw [hworld, ← hanswers, ← hsilent.answers]
  · rw [hworld]
    show out.2.calls.length = _
    rw [hsilent.calls, hcalls, List.length_append]
    rfl

instance [env.Prompt] : Charges env inStep where
  calls account id agent operation input key := by
    refine ⟨fun c s => ?_⟩
    unfold Flow.Safe callAgent call
    rw [bind_bind]
    refine safe_wait_bind fun s _ => Closes.safe ?_
    refine Closes.assoc (closes_ofExcept_bind fun script _ => ?_)
    refine Closes.assoc (Closes.after rfl ?_)
    refine Closes.assoc (closes_ofExcept_bind fun payload _ => ?_)
    refine Closes.assoc (Closes.after rfl ?_)
    exact Closes.assoc (closes_invoke account id key agent operation script payload)

end Run

end Conductor
