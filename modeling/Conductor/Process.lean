/-! Processes that take turns on a state. A process runs on until it waits or ends; in every round each process
that waits runs on again, in the order in which the processes stand. Processes are finite, so running them
to their end needs no bound. -/

namespace Conductor

/-- What is left of a process: its value, or what it does in the next round. -/
inductive Round (σ α : Type) where
  | done (value : α)
  | go (next : σ → Round σ α × σ)

/-- A process that runs on at once. -/
def Process (σ α : Type) := σ → Round σ α × σ

namespace Round

variable {σ α β : Type}

mutual

def run : Round σ α → σ → α × σ
  | done value, s => (value, s)
  | go next, s => runPair (next s)

def runPair : Round σ α × σ → α × σ
  | (r, s) => run r s

end

mutual

/-- Goes on with `f` in the round in which a process ends. -/
def bind (f : α → Process σ β) : Round σ α → Process σ β
  | done value, s => f value s
  | go next, s => (go fun s => bindPair f (next s), s)

def bindPair (f : α → Process σ β) : Round σ α × σ → Round σ β × σ
  | (r, s) => bind f r s

end

mutual

def map (f : α → β) : Round σ α → Round σ β
  | done value => done (f value)
  | go next => go fun s => mapPair f (next s)

def mapPair (f : α → β) : Round σ α × σ → Round σ β × σ
  | (r, s) => (map f r, s)

end

mutual

/-- Two processes side by side, the first one first in every round. -/
def both : Round σ α → Round σ β → Round σ (α × β)
  | done value, q => map (value, ·) q
  | go next, q => go fun s => bothPair (next s) q

def bothPair : Round σ α × σ → Round σ β → Round σ (α × β) × σ
  | (p, s), done value => (both p (done value), s)
  | (p, s), go next => (both p (next s).1, (next s).2)

end

def all : List (Round σ α) → Round σ (List α)
  | [] => done []
  | p :: rest => map (fun out => out.1 :: out.2) (both p (all rest))

theorem runPair_eq (out : Round σ α × σ) : runPair out = run out.1 out.2 := by
  cases out
  rfl

theorem bindPair_eq (f : α → Process σ β) (out : Round σ α × σ) :
    bindPair f out = bind f out.1 out.2 := by
  cases out
  rfl

theorem mapPair_eq (f : α → β) (out : Round σ α × σ) : mapPair f out = (map f out.1, out.2) := by
  cases out
  rfl

theorem bothPair_done (out : Round σ α × σ) (value : β) :
    bothPair out (done value) = (both out.1 (done value), out.2) := by
  cases out
  rfl

theorem bothPair_go (out : Round σ α × σ) (next : σ → Round σ β × σ) :
    bothPair out (go next) = (both out.1 (next out.2).1, (next out.2).2) := by
  cases out
  rfl

end Round

namespace Process

variable {σ α β : Type}

instance : Monad (Process σ) where
  pure value := fun s => (.done value, s)
  bind p f := fun s => Round.bindPair f (p s)

/-- An operation that does not wait. -/
def ofState (action : σ → α × σ) : Process σ α := fun s =>
  let (value, s) := action s
  (.done value, s)

/-- Waits for the next round. -/
def pause : Process σ Unit := fun s => (.go fun s => (.done (), s), s)

/-- Waits for a number of rounds. -/
def rest : Nat → Process σ Unit
  | 0 => pure ()
  | n + 1 => do
    pause
    rest n

/-- Starts processes in the next round and waits for all of them. Their end is noticed one round later and
taken up in the round after that; without processes there is nothing to wait for. -/
def all (ps : List (Process σ α)) : Process σ (List α) := do
  if ps.isEmpty then return []
  let values ← fun s => (Round.all (ps.map Round.go), s)
  pause
  pause
  return values

/-- Runs a process to its end with nothing beside it. -/
def run (p : Process σ α) (s : σ) : α × σ := Round.runPair (p s)

@[simp] theorem run_pure (value : α) (s : σ) : run (pure value : Process σ α) s = (value, s) := rfl

@[simp] theorem run_ofState (action : σ → α × σ) (s : σ) : run (ofState action) s = action s := rfl

theorem run_bindPair (f : α → Process σ β) (out : Round σ α × σ) :
    Round.runPair (Round.bindPair f out) =
      run (f (Round.runPair out).1) (Round.runPair out).2 := by
  obtain ⟨r, s⟩ := out
  induction r using Round.rec
    (motive_2 := fun out => Round.runPair (Round.bindPair f out) =
      run (f (Round.runPair out).1) (Round.runPair out).2) generalizing s with
  | done value => rfl
  | go next ih => exact ih s
  | mk r s ih => exact ih s

@[simp] theorem run_bind (p : Process σ α) (f : α → Process σ β) (s : σ) :
    run (p >>= f) s = run (f (run p s).1) (run p s).2 :=
  run_bindPair f (p s)

@[simp] theorem run_rest (n : Nat) (s : σ) : run (rest n) s = ((), s) := by
  induction n with
  | zero => rfl
  | succ n ih => exact (run_bind pause (fun _ => rest n) s).trans ih

end Process

end Conductor
