import Conductor.Proofs.Engine.Paths
import Conductor.Proofs.Store.Look

/-! A run leaves what is not its own as it is: all other runs, their records and the workflows. What else happens
to a run meanwhile is that it is cancelled, because an agent that was called asked for that, or somebody else. -/

namespace Conductor

open Store

namespace World

variable {env : Setting} {base a b w : World} {m : Remit} {id : String}

/-- A run of others is as it was, unless somebody has cancelled it. -/
inductive Spared (env : Setting) (base a b : World) (id : String) : Prop
  | same (h : b.store.execution? id = a.store.execution? id)
  | cancelled {e : Execution} {now : Time} (why : Passed env base b id ∨ Arrived env base b id)
      (found : a.store.execution? id = some e) (was : e.status ∈ RunStatus.active)
      (is : b.store.execution? id = some { e with status := .cancelled, completedAt := some now })

theorem Stride.spared (h : Stride env base m a b) (hruns : ¬ m.runs id) (hcancels : ¬ m.cancels id) :
    Spared env base a b id := by
  cases h.onRuns with
  | same h => exact .same (h id)
  | @turned other e e' turn found replaced =>
    by_cases hid : id = other
    · subst hid
      have hb : b.store.execution? id = some e' := by rw [replaced.execution?, if_pos rfl]
      cases turn with
      | cancelled why was is =>
        refine .cancelled ?_ found was (is ▸ hb)
        cases why with
        | asked hm => exact absurd hm hcancels
        | passed hp => exact .inl (hp.mono h.calls)
        | arrived ha => exact .inr (ha.mono h.turns)
      | started ok | completed ok | failed ok | aborted ok | results ok | dropped ok => exact absurd ok hruns
    · exact .same (by rw [replaced.execution?, if_neg hid])
  | opened ok replaced =>
    have hid : id ≠ a.nextId := fun he => hruns (he ▸ ok)
    exact .same (by rw [replaced.execution?, if_neg hid])

theorem Path.spared (h : Path env base m a b) (hruns : ¬ m.runs id) (hcancels : ¬ m.cancels id) :
    Spared env base a b id := by
  induction h with
  | refl => exact .same rfl
  | @tail b c hpath hs ih =>
    have hstep := hs.spared hruns hcancels
    cases ih with
    | same hb =>
      cases hstep with
      | same hc => exact .same (hc.trans hb)
      | cancelled why found was is => exact .cancelled why (hb ▸ found) was is
    | cancelled why found was is =>
      cases hstep with
      | same hc =>
        exact .cancelled (why.imp (fun h => h.mono hs.calls) fun h => h.mono hs.turns) found was (hc.trans is)
      | cancelled why' found' was' is' =>
        -- nobody cancels a run twice
        rw [is] at found'
        cases found'
        exact absurd was' (by simp [RunStatus.active])

theorem Path.shelf (h : Path env base m a b) (hm : ¬ m.shelves) : b.store.shelf = a.store.shelf := by
  induction h with
  | refl => rfl
  | tail _ hs ih =>
    cases hs.onShelf with
    | same h => exact h.trans ih
    | shelved ok store => exact absurd ok hm

theorem Path.recordsOf (h : Path env base m a b) (hm : ¬ m.steps id) :
    b.store.recordsOf id = a.store.recordsOf id := by
  induction h with
  | refl => rfl
  | tail _ hs ih =>
    refine Eq.trans ?_ ih
    cases hs.onRecords with
    | same h => rw [Store.recordsOf, h, Store.recordsOf]
    | @recorded execution step ok added =>
      have hid : execution ≠ id := fun he => hm (he ▸ ok)
      simp [Store.recordsOf, added.records, List.filter_append, hid]
    | @rewrote r r' ok turn rewrote =>
      have hid : r.execution ≠ id := fun he => hm (he ▸ ok)
      exact rewrote.filter (by simp [hid]) (by simp [rewrote.execution, hid])

theorem Path.named (h : Path env base m a b) (ha : ∀ e, a.store.execution? id = some e → e.id = id) :
    ∀ e, b.store.execution? id = some e → e.id = id := by
  induction h with
  | refl => exact ha
  | @tail b c _ hs ih =>
    intro e he
    cases hs.onRuns with
    | same h => exact ih e (h id ▸ he)
    | @turned other x x' turn found replaced =>
      rw [replaced.execution?] at he
      by_cases hid : id = other
      · rw [if_pos hid] at he
        cases he
        exact turn.named.trans (ih x (hid ▸ found))
      · rw [if_neg hid] at he
        exact ih e he
    | opened ok replaced =>
      rw [replaced.execution?] at he
      by_cases hid : id = b.nextId
      · rw [if_pos hid] at he
        cases he
        exact hid.symm
      · rw [if_neg hid] at he
        exact ih e he

end World

namespace Engine

open World

variable {env : Setting} {w : World} {action : Act World Execution}

/-- A call for a new run, which finds none of the ids to come in use. The run is there under the next id, and
whatever was there before is as it was. -/
structure Apart (env : Setting) (w : World) (out : Except Failure Execution × World) : Prop where
  executions : ∀ id, id ≠ w.nextId → Spared env w w out.2 id
  records : ∀ id, id ≠ w.nextId → out.2.store.recordsOf id = w.store.recordsOf id
  workflows : out.2.store.shelf = w.store.shelf
  own : ∀ e, out.1 = .ok e → e.id = w.nextId
  fresh : w.store.execution? w.nextId = none ∧ w.store.recordsOf w.nextId = []
  recordsFresh : ∀ r ∈ out.2.store.recordsOf w.nextId, ∀ old ∈ w.store.records, old.id ≠ r.id
  distinct : (out.2.store.records.map (·.id)).Nodup

end Engine

end Conductor
