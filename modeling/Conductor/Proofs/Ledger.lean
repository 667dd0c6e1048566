import Conductor.Ledger
import Conductor.Proofs.Number.Zero

/-! Totals start from zero and are only added to, so that none is ever the zero with a sign, which alone a sum
with zero would change. -/

namespace Conductor

namespace Ledger

variable {l : Ledger}

/-- No total is the zero with a sign. -/
def Proper (l : Ledger) : Prop := ∀ entry ∈ l.entries, entry.2 ≠ -0.0

theorem zero_ne_neg_zero : (0.0 : Float) ≠ -0.0 := by decide +kernel

theorem proper_empty : empty.Proper := by
  rintro entry hentry
  obtain rfl := List.mem_singleton.1 hentry
  exact zero_ne_neg_zero

theorem Proper.charge (h : l.Proper) (account : Account) (amount : Float) : (l.charge account amount).Proper := by
  rintro entry hentry
  rw [charge_eq, List.mem_map] at hentry
  obtain ⟨before, hbefore, rfl⟩ := hentry
  dsimp only
  split
  · exact Number.add_ne_zero (h before hbefore) amount
  · exact h before hbefore

theorem Proper.fork (h : l.Proper) (account : Account) : (l.fork account).Proper := by
  rintro entry hentry
  rcases List.mem_append.1 hentry with hentry | hentry
  · exact h entry hentry
  · obtain rfl := List.mem_singleton.1 hentry
    exact zero_ne_neg_zero

theorem Proper.forks (h : l.Proper) (account : Account) (count : Nat) :
    ((List.range count).foldl (fun ledger _ => ledger.fork account) l).Proper :=
  List.foldlRecOn (List.range count) _ h fun _ h _ _ => h.fork account

theorem mem_of_find? {entries : List (Account × Float)} {account : Account} {x : Float}
    (h : find? entries account = some x) : (account, x) ∈ entries := by
  induction entries with
  | nil => cases h
  | cons entry rest ih =>
    by_cases he : entry.1 = account
    · rw [find?, if_pos he] at h
      cases h
      subst he
      exact List.mem_cons_self ..
    · rw [find?, if_neg he] at h
      exact List.mem_cons_of_mem _ (ih h)

theorem Proper.total (h : l.Proper) (account : Account) : l.total account ≠ -0.0 := by
  unfold Ledger.total
  cases hfound : find? l.entries account with
  | none => exact zero_ne_neg_zero
  | some x => exact h _ (mem_of_find? hfound)

end Ledger

end Conductor
