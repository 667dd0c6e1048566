import Conductor.Proofs.Run.Story

/-! The branches of a parallel step are isolated from each other. What comes of a branch is the same whether it runs
beside others, before or after them, or alone. -/

namespace Conductor

/-- What comes of a branch: how it ends, what it writes, and its dealings with agents. -/
structure Lot where
  outcome : Except Failure Output
  own : Layer
  dealings : List Dealing

namespace Lot

def calls (lot : Lot) : List Call := callsOf lot.dealings

/-- What a branch costs: the sum of what its calls cost, in the order in which they are answered. -/
def total (lot : Lot) : Float := Ledger.sum (costsOf lot.dealings) 0.0

/-- What a branch was seen to do to which a lot fell. Branches of its own may come in another order when pauses are not
even. -/
structure Seen (lot : Lot) (env : Setting) (made : List Dealing) : Prop where
  perm : made.Perm lot.dealings
  same : env.Even → made = lot.dealings

/-- How a branch has ended to which a lot fell. -/
structure Told (lot : Lot) (step : Step) (b : BranchEnd) : Prop where
  key : b.key = step.resultKey
  isGate : b.isGate = step.isGate
  own : b.own = lot.own
  outcome : b.outcome.map StepResult.output = lot.outcome

end Lot

namespace Run

open Conductor.Flow Round

variable (env : Setting) (own : String) (account : Account)

/-- A branch with no others. -/
def alone (step : Step) : Flow BranchEnd := do
  let n ← openAccounts account 1
  let fork := (← get).fork
  (onFork fork step (Run.step env own (n :: account) step) : Process Stage BranchEnd)

variable {env own account} {α : Type} {c : Context} {s : Stage}

/-- A stage in which some accounts have been opened below one. -/
def opened (account : Account) (count : Nat) (s : Stage) : Stage :=
  { s with ledger := s.ledger.openBelow account count }

/-- What was done for one of the accounts below another one. -/
def madeFor (n : Nat) (entries : List (Nat × Dealing)) : List Dealing := (entries.filter (·.1 = n)).map Prod.snd

theorem madeFor_append (n : Nat) (entries more : List (Nat × Dealing)) :
    madeFor n (entries ++ more) = madeFor n entries ++ madeFor n more := by
  rw [madeFor, List.filter_append, List.map_append]
  rfl

theorem madeFor_mark_self (n : Nat) (made : List Dealing) : madeFor n (made.map fun a => (n, a)) = made := by
  simp [madeFor, List.filter_map, Function.comp_def]

theorem madeFor_mark_of_ne {n m : Nat} (h : m ≠ n) (made : List Dealing) :
    madeFor n (made.map fun a => (m, a)) = [] := by
  simp [madeFor, List.filter_map, Function.comp_def, h]

end Run

/-- A stage after some dealings, each of which is paid for by one of the accounts below another one. -/
structure Stage.PaysEach (account : Account) (entries : List (Nat × Dealing)) (s t : Stage) : Prop where
  calls : t.world.calls = s.world.calls ++ callsOf (entries.map Prod.snd)
  totals : ∀ n, s.ledger.isOpen (n :: account) = true → t.ledger.isOpen (n :: account) = true ∧
    t.ledger.total (n :: account) = Ledger.sum (costsOf (Run.madeFor n entries)) (s.ledger.total (n :: account))

theorem Stage.PaysEach.refl (account : Account) (s : Stage) : s.PaysEach account [] s :=
  ⟨(List.append_nil _).symm, fun _ ho => ⟨ho, rfl⟩⟩

theorem Stage.PaysEach.trans {account : Account} {entries more : List (Nat × Dealing)} {s t u : Stage}
    (h : s.PaysEach account entries t) (h' : t.PaysEach account more u) : s.PaysEach account (entries ++ more) u where
  calls := by rw [h'.calls, h.calls, List.map_append, callsOf, callsOf, callsOf, List.filterMap_append, List.append_assoc]
  totals n ho := by
    obtain ⟨ho, htotal⟩ := h.totals n ho
    obtain ⟨ho', htotal'⟩ := h'.totals n ho
    refine ⟨ho', ?_⟩
    rw [htotal', htotal, Run.madeFor_append, costsOf, costsOf, costsOf, List.filterMap_append, Ledger.sum_append]

/-- An account pays for its own calls, and those beside it do not. -/
theorem Stage.Pays.each {account : Account} {n : Nat} {made : List Dealing} {s t : Stage}
    (h : s.Pays (n :: account) made t) : s.PaysEach account (made.map fun a => (n, a)) t where
  calls := by
    rw [h.calls, List.map_map]
    congr 2
    exact (List.map_id made).symm
  totals m ho := by
    refine ⟨h.ledger.isOpen ho, ?_⟩
    by_cases hm : m = n
    · rw [hm, Run.madeFor_mark_self]
      exact h.ledger.total (hm ▸ ho) (List.suffix_refl _)
    · rw [Run.madeFor_mark_of_ne (Ne.symm hm)]
      exact h.ledger.beside hm ho

namespace Run

open Conductor.Flow Round

variable {env : Setting} {own : String} {account : Account} {c fork : Context} {s : Stage}

end Run

namespace Run

open Conductor.Flow Round

variable {env : Setting} {c : Context} {story : Step → Story Output}

end Run

end Conductor
