import Conductor.Ledger
import Mathlib.Data.List.Basic

/-! What the totals of a ledger are: each the sum, in their order, of the amounts that were charged to the account
or to one below it. -/

namespace Conductor

namespace Ledger

/-- What is done to a ledger. -/
inductive Move where
  | fork (account : Account)
  | charge (account : Account) (amount : Float)

/-- Ledgers that come of the first account by opening accounts below open ones and charging open ones. -/
inductive Grown : List Move → Ledger → Prop
  | empty : Grown [] .empty
  | fork {moves : List Move} {l : Ledger} {account : Account} (grown : Grown moves l)
      (isOpen : l.isOpen account = true) : Grown (moves ++ [.fork account]) (l.fork account)
  | charge {moves : List Move} {l : Ledger} {account : Account} {amount : Float} (grown : Grown moves l)
      (isOpen : l.isOpen account = true) : Grown (moves ++ [.charge account amount]) (l.charge account amount)

/-- The amount that counts for an account, if it was charged to it or to one below it. -/
def Move.amount? (account : Account) : Move → Option Float
  | fork _ => none
  | charge below amount => if account <:+ below then some amount else none

/-- The sum of some amounts, from the first to the last. -/
def sum (amounts : List Float) (first : Float) : Float := amounts.foldl (· + ·) first

theorem sum_append (amounts more : List Float) (first : Float) :
    sum (amounts ++ more) first = sum more (sum amounts first) := List.foldl_append

variable {l : Ledger}

theorem find?_append (entries more : List (Account × Float)) (account : Account) :
    find? (entries ++ more) account = (find? entries account).or (find? more account) := by
  induction entries with
  | nil => rfl
  | cons entry rest ih =>
    rw [List.cons_append, find?, find?, ih]
    by_cases h : entry.1 = account
    · rw [if_pos h, if_pos h]
      rfl
    · rw [if_neg h, if_neg h]

theorem isOpen_fork (account other : Account) :
    (l.fork account).isOpen other = true ↔ l.isOpen other = true ∨ other = l.next account := by
  rw [isOpen, fork, find?_append, Option.isSome_or, Bool.or_eq_true, find?, isOpen]
  by_cases h : l.next account = other
  · simp [h]
  · simp [h, find?, Ne.symm h]

theorem isOpen_charge (account other : Account) (amount : Float) :
    (l.charge account amount).isOpen other = l.isOpen other := by
  rw [isOpen, charge_eq, find?_map l.entries (fun name t => if name <:+ account then t + amount else t),
    Option.isSome_map, isOpen]

theorem forks_fork (account other : Account) :
    (l.fork account).forks other = l.forks other + if account = other then 1 else 0 := by
  rw [forks, fork, List.filter_append, List.length_append, forks]
  by_cases h : account = other <;> simp [next, h]

theorem forks_charge (account other : Account) (amount : Float) :
    (l.charge account amount).forks other = l.forks other := by
  rw [forks, charge_eq, List.filter_map, List.length_map]
  rfl

theorem total_fork (account : Account) {other : Account} (h : l.isOpen other = true) :
    (l.fork account).total other = l.total other := by
  obtain ⟨t, ht⟩ := Option.isSome_iff_exists.1 h
  rw [total, total, fork, find?_append, ht]
  rfl

/-- The accounts below one are numbered by their order, and stand below open ones. -/
structure Numbered (l : Ledger) : Prop where
  root : l.isOpen [] = true
  above : ∀ n account, l.isOpen (n :: account) = true → l.isOpen account = true
  counted : ∀ n account, l.isOpen (n :: account) = true → n < l.forks account

theorem Numbered.suffix (h : l.Numbered) {account below : Account} (hs : account <:+ below)
    (hb : l.isOpen below = true) : l.isOpen account = true := by
  induction below with
  | nil => rwa [List.suffix_nil.1 hs]
  | cons n rest ih =>
    rcases List.suffix_cons_iff.1 hs with rfl | hs
    · exact hb
    · exact ih hs (h.above n rest hb)

theorem Numbered.not_open_next (h : l.Numbered) (account : Account) : l.isOpen (l.next account) ≠ true :=
  fun hopen => Nat.lt_irrefl _ (h.counted _ _ hopen)

theorem numbered_empty : empty.Numbered where
  root := rfl
  above n account h := by cases h
  counted n account h := by cases h

theorem Numbered.fork (h : l.Numbered) {account : Account} (hopen : l.isOpen account = true) :
    (l.fork account).Numbered where
  root := (isOpen_fork account []).2 (.inl h.root)
  above n other ho := by
    refine (isOpen_fork account other).2 (.inl ?_)
    rcases (isOpen_fork account _).1 ho with ho | ho
    · exact h.above n other ho
    · rwa [(List.cons.inj ho).2]
  counted n other ho := by
    rw [forks_fork]
    rcases (isOpen_fork account _).1 ho with ho | ho
    · exact Nat.lt_of_lt_of_le (h.counted n other ho) (Nat.le_add_right _ _)
    · obtain ⟨rfl, rfl⟩ := List.cons.inj ho
      simp

theorem Numbered.charge (h : l.Numbered) (account : Account) (amount : Float) : (l.charge account amount).Numbered where
  root := by rw [isOpen_charge, h.root]
  above n other ho := by
    rw [isOpen_charge] at ho ⊢
    exact h.above n other ho
  counted n other ho := by
    rw [isOpen_charge] at ho
    rw [forks_charge]
    exact h.counted n other ho

theorem Numbered.total_next (h : l.Numbered) (account : Account) : (l.fork account).total (l.next account) = 0.0 := by
  have hnone : find? l.entries (l.next account) = none := Option.not_isSome_iff_eq_none.1 (h.not_open_next account)
  rw [total, Ledger.fork, find?_append, hnone, find?, if_pos rfl]
  rfl

variable {moves : List Move}

theorem Grown.numbered (h : Grown moves l) : l.Numbered := by
  induction h with
  | empty => exact numbered_empty
  | fork _ hopen ih => exact ih.fork hopen
  | charge _ _ ih => exact ih.charge _ _

theorem Grown.open_of_charge (h : Grown moves l) {account : Account} {amount : Float}
    (hm : .charge account amount ∈ moves) : l.isOpen account = true := by
  induction h with
  | empty => cases hm
  | fork _ _ ih => exact (isOpen_fork _ _).2 (.inl (ih (by simpa using hm)))
  | charge _ hopen ih =>
    rw [isOpen_charge]
    rcases List.mem_append.1 hm with hm | hm
    · exact ih hm
    · cases List.mem_singleton.1 hm
      exact hopen

/-- The total of an account is the sum of the amounts that were charged to it or below it. -/
theorem Grown.total_eq (h : Grown moves l) {account : Account} (hopen : l.isOpen account = true) :
    l.total account = sum (moves.filterMap (Move.amount? account)) 0.0 := by
  induction h with
  | empty =>
    have hroot : account = [] := by
      rw [isOpen, Ledger.empty, find?] at hopen
      by_contra hne
      rw [if_neg (Ne.symm hne)] at hopen
      cases hopen
    rw [hroot]
    rfl
  | @fork moves l above grown ho ih =>
    rw [List.filterMap_append, show [Move.fork above].filterMap (Move.amount? account) = [] from rfl, List.append_nil]
    rcases (isOpen_fork above account).1 hopen with hopen | rfl
    · rw [total_fork above hopen, ih hopen]
    · -- nothing was charged below an account before it was opened
      have hnot := grown.numbered.not_open_next above
      have hnone : moves.filterMap (Move.amount? (l.next above)) = [] := by
        refine List.filterMap_eq_nil_iff.2 fun move hmove => ?_
        cases move with
        | fork _ => rfl
        | charge below amount =>
          exact if_neg fun hs => hnot (grown.numbered.suffix hs (grown.open_of_charge hmove))
      rw [hnone, grown.numbered.total_next]
      rfl
  | @charge moves l charged amount grown ho ih =>
    rw [isOpen_charge] at hopen
    rw [total_charge amount hopen, ih hopen, List.filterMap_append, sum_append]
    by_cases hs : account <:+ charged <;> simp [Move.amount?, hs, sum]

/-- A ledger after some accounts have been opened below one. -/
def openBelow (l : Ledger) (account : Account) (count : Nat) : Ledger :=
  (List.range count).foldl (fun ledger _ => ledger.fork account) l

theorem openBelow_succ (l : Ledger) (account : Account) (count : Nat) :
    l.openBelow account (count + 1) = (l.openBelow account count).fork account := by
  rw [openBelow, List.range_succ, List.foldl_append]
  rfl

/-- Accounts that have just been opened follow those that were there, and nothing has been charged to them. -/
theorem Numbered.openBelow (h : l.Numbered) {account : Account} (hopen : l.isOpen account = true) (count : Nat) :
    (l.openBelow account count).Numbered ∧ (l.openBelow account count).isOpen account = true ∧
      (l.openBelow account count).forks account = l.forks account + count ∧
      ∀ i < count, (l.openBelow account count).isOpen ((l.forks account + i) :: account) = true ∧
        (l.openBelow account count).total ((l.forks account + i) :: account) = 0.0 := by
  induction count with
  | zero => exact ⟨h, hopen, rfl, fun i hi => absurd hi (Nat.not_lt_zero i)⟩
  | succ count ih =>
    obtain ⟨hnumbered, ho, hforks, hall⟩ := ih
    rw [openBelow_succ]
    generalize l.openBelow account count = l' at hnumbered ho hforks hall
    refine ⟨hnumbered.fork ho, (isOpen_fork _ _).2 (.inl ho), by rw [forks_fork, hforks, if_pos rfl, Nat.add_assoc],
      fun i hi => ?_⟩
    have hnext : l'.next account = (l.forks account + count) :: account := by rw [next, hforks]
    rcases Nat.lt_succ_iff_lt_or_eq.1 hi with hi | rfl
    · obtain ⟨hi, htotal⟩ := hall i hi
      exact ⟨(isOpen_fork _ _).2 (.inl hi), by rw [total_fork account hi, htotal]⟩
    · exact ⟨(isOpen_fork _ _).2 (.inr hnext.symm), by rw [← hnext, hnumbered.total_next]⟩

end Ledger

end Conductor
