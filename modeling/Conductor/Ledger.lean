/-! Costs of a run. Every account is opened below another one, down to the account of the run itself, and a
charge counts for the account and for all that it stands below. -/

namespace Conductor

/-- The numbers of the forks that lead to an account, the last one first. -/
abbrev Account := List Nat

/-- The open accounts with their totals. -/
structure Ledger where
  entries : List (Account × Float)

namespace Ledger

def empty : Ledger := ⟨[([], 0.0)]⟩

def find? (entries : List (Account × Float)) (account : Account) : Option Float :=
  match entries with
  | [] => none
  | (name, total) :: rest => if name = account then some total else find? rest account

def isOpen (l : Ledger) (account : Account) : Bool := (find? l.entries account).isSome

def total (l : Ledger) (account : Account) : Float := (find? l.entries account).getD 0.0

/-- Adds an amount to an account and to those above it. -/
def charge (l : Ledger) (account : Account) (amount : Float) : Ledger :=
  ⟨l.entries.map fun entry =>
    if entry.1.isSuffixOf account then (entry.1, entry.2 + amount) else entry⟩

/-- The accounts opened directly below one. -/
def forks (l : Ledger) (account : Account) : Nat :=
  (l.entries.filter fun entry => !entry.1.isEmpty && entry.1.tail = account).length

/-- The name of the next account below one. -/
def next (l : Ledger) (account : Account) : Account := l.forks account :: account

def fork (l : Ledger) (account : Account) : Ledger := ⟨l.entries ++ [(l.next account, 0.0)]⟩

theorem find?_map (entries : List (Account × Float)) (change : Account → Float → Float)
    (account : Account) :
    find? (entries.map fun entry => (entry.1, change entry.1 entry.2)) account =
      (find? entries account).map (change account) := by
  induction entries with
  | nil => rfl
  | cons entry rest ih =>
    obtain ⟨name, amount⟩ := entry
    by_cases h : name = account
    · subst h
      simp [find?]
    · simp [find?, h, ih]

theorem charge_eq (l : Ledger) (account : Account) (amount : Float) :
    (l.charge account amount).entries = l.entries.map fun entry =>
      (entry.1, if entry.1 <:+ account then entry.2 + amount else entry.2) := by
  unfold charge
  simp only [List.map_inj_left]
  intro entry _
  by_cases h : entry.1 <:+ account
  · simp [h, List.isSuffixOf_iff_suffix.2 h]
  · have : entry.1.isSuffixOf account = false := by
      rw [Bool.eq_false_iff]
      exact fun hs => h (List.isSuffixOf_iff_suffix.1 hs)
    simp [h, this]

theorem total_charge {l : Ledger} {account other : Account} (amount : Float)
    (h : l.isOpen other = true) :
    (l.charge account amount).total other =
      if other <:+ account then l.total other + amount else l.total other := by
  unfold total
  rw [charge_eq, find?_map l.entries (fun name t => if name <:+ account then t + amount else t)]
  obtain ⟨t, ht⟩ := Option.isSome_iff_exists.1 h
  simp [ht]

end Ledger

end Conductor
