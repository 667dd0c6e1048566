import Conductor.Proofs.Run.Bill
import Conductor.Proofs.Run.Trace

/-! What the bodies of steps come to that work on their context alone, and how the ends of branches are
joined. -/

namespace Conductor

namespace Flow

variable {α β : Type} {c c' c'' : Context}

theorem Settles.bind {f : Flow α} {g : α → Flow β} {v : α} {out : Except Failure β} (h : Settles f c (.ok v) c')
    (h' : Settles (g v) c' out c'') : Settles (f >>= g) c out c'' := by
  intro s
  rw [bind_apply, h s]
  exact h' s

end Flow

/-- What is said of a failure, if there was one. -/
def Failure.said {α : Type} : Except Failure α → Option String
  | .ok _ => none
  | .error f => some f.message

@[simp] theorem Failure.said_ok {α : Type} (v : α) : said (.ok v) = none := rfl

@[simp] theorem Failure.said_error {α : Type} (f : Failure) : said (.error f : Except Failure α) = some f.message :=
  rfl

theorem Failure.said_map {α β : Type} (change : α → β) (out : Except Failure α) : said (out.map change) = said out := by
  cases out <;> rfl

/-- What comes of the check of one rule. -/
def Rule.answer (rule : Rule) (view : View) : Except ParseError Bool :=
  Template.evaluateText view rule.field >>= Template.satisfies rule.condition

namespace Run

open Conductor.Flow

variable {c : Context}

theorem settles_publishing {ε : Type} (id : String) (key : Option String) (cause : ε → Failure)
    (result : Except ε Output) :
    Settles (do
      let output ← Failure.ofExcept cause result
      record id output key
      return output) c (result.mapError cause) (published c id key (result.mapError cause)) := by
  cases result <;> exact fun _ => rfl

theorem settles_aggregate (id : String) (sources : List String) (how : Combine) (key : String) :
    Settles (aggregate id sources how key) c (combine c sources how)
      (published c id (some key) (combine c sources how)) := by
  have hsame : (combine c sources how).mapError (fun f => f) = combine c sources how := by
    cases combine c sources how <;> rfl
  intro s
  have h := settles_publishing (c := c) id (some key) (fun f => f) (combine c sources how) s
  rwa [hsame] at h

theorem settles_transform (id : String) (fields : Members) (key : String) :
    Settles (transform id fields key) c ((Template.resolveOutput c.view fields).mapError .expression)
      (published c id (some key) ((Template.resolveOutput c.view fields).mapError .expression)) :=
  fun s => settles_publishing id (some key) .expression (Template.resolveOutput c.view fields) s

theorem settles_validate (id : String) (rules : List Rule) :
    Settles (validate id rules) c ((checkRules c.view id rules).map fun _ => Json.null) c := by
  have h (result : Except Failure Unit) :
      Settles (do Failure.of result; return Json.null : Flow Output) c (result.map fun _ => Json.null) c := by
    cases result <;> exact fun _ => rfl
  exact fun s => h (checkRules c.view id rules) s

theorem checkRules_cases (view : View) (id : String) (rules : List Rule) :
    (checkRules view id rules = .ok () ∧ ∀ rule ∈ rules, rule.answer view = .ok true) ∨
      ∃ before rule after, rules = before ++ rule :: after ∧ (∀ r ∈ before, r.answer view = .ok true) ∧
        ((rule.answer view = .ok false ∧ checkRules view id rules = .error (.ruleFailed id rule.message)) ∨
          ∃ e, rule.answer view = .error e ∧ checkRules view id rules = .error (.expression e)) := by
  induction rules with
  | nil => exact .inl ⟨rfl, by simp⟩
  | cons rule rest ih =>
    have hcheck : checkRules view id (rule :: rest) = match rule.answer view with
        | .ok true => checkRules view id rest
        | .ok false => .error (.ruleFailed id rule.message)
        | .error e => .error (.expression e) := by
      unfold Rule.answer
      conv_lhs => unfold checkRules
      cases Template.evaluateText view rule.field with
      | error e => rfl
      | ok value =>
        simp only [bind, Except.bind]
        rcases Template.satisfies rule.condition value with e | _ | _ <;> rfl
    rw [hcheck]
    cases hanswer : rule.answer view with
    | error e => exact .inr ⟨[], rule, rest, rfl, by simp, .inr ⟨e, hanswer, rfl⟩⟩
    | ok holds =>
      cases holds with
      | false => exact .inr ⟨[], rule, rest, rfl, by simp, .inl ⟨hanswer, rfl⟩⟩
      | true =>
        rcases ih with ⟨hok, hall⟩ | ⟨before, first, after, rfl, hbefore, hfirst⟩
        · exact .inl ⟨hok, List.forall_mem_cons.2 ⟨hanswer, hall⟩⟩
        · exact .inr ⟨rule :: before, first, after, rfl, List.forall_mem_cons.2 ⟨hanswer, hbefore⟩, hfirst⟩

/-! Joins -/

/-- What is on a level once a branch has been merged into it, if it succeeded. -/
def mergeInto (own : Layer) (b : BranchEnd) : Layer :=
  match b.outcome with
  | .ok _ => own.absorb b.own
  | .error _ => own

/-- The outputs that are collected once a branch has added its own. -/
def collectEnd (outputs : Assoc Output) (b : BranchEnd) : Assoc Output :=
  match b.outcome with
  | .ok result => if b.isGate then outputs else outputs.put b.key result.output
  | .error _ => outputs

/-- The context in which branches have been joined. -/
def joined (c : Context) (ends : List BranchEnd) : Context := { c with own := ends.foldl mergeInto c.own }

/-- What comes of a join: the outputs, or the first failure in the order of the branches. -/
def joinOutcome (id : String) (ends : List BranchEnd) : Except Failure Output :=
  match ends.findSome? BranchEnd.failure? with
  | some f => .error (.stepFailed id f.message)
  | none => .ok (.ofEntries (ends.foldl collectEnd []))

theorem settles_joins (outputs : Assoc Output) {ends : List BranchEnd} (hends : Stay ends) :
    Settles (ends.foldlM join outputs) c (.ok (ends.foldl collectEnd outputs)) (joined c ends) := by
  induction ends generalizing outputs c with
  | nil => exact fun _ => rfl
  | cons b rest ih =>
    obtain ⟨hb, hrest⟩ := List.forall_mem_cons.1 hends
    have hfirst : Settles (join outputs b) c (.ok (collectEnd outputs b)) { c with own := mergeInto c.own b } := by
      unfold join collectEnd mergeInto
      cases hout : b.outcome with
      | error f =>
        dsimp only
        rw [if_neg (Bool.eq_false_iff.1 (hb f hout))]
        exact fun _ => rfl
      | ok result => exact fun _ => rfl
    exact hfirst.bind (ih _ hrest)

theorem settles_joinAll (id : String) {ends : List BranchEnd} (hends : Stay ends) :
    Settles (joinAll id ends) c (joinOutcome id ends) (published (joined c ends) id none (joinOutcome id ends)) := by
  refine (settles_joins [] hends).bind ?_
  unfold joinOutcome
  cases ends.findSome? BranchEnd.failure? <;> exact fun _ => rfl

theorem said_joinOutcome (id : String) (ends : List BranchEnd) :
    Failure.said (joinOutcome id ends) = (ends.findSome? BranchEnd.failure?).map Failure.message := by
  unfold joinOutcome
  cases ends.findSome? BranchEnd.failure? <;> rfl

end Run

end Conductor
