import Conductor.Proofs.Engine.Stop
import Conductor.Proofs.Run.Bill

/-! What a run costs in the end, whether it went well, failed or was cancelled, and whatever requests failed. -/

namespace Conductor

namespace Flow

variable {α : Type}

theorem billed (f : Flow α) [h : Follows billing f] (c : Context) (s : Stage) : s.Billed (f.exec c s).2 :=
  (h.safe c s).exec.1

end Flow

namespace Store

/-- A run costs what its record says. -/
def Costs (own : String) (total : Float) (s : Store) : Prop :=
  ∃ e, s.execution? own = some e ∧ e.cost = .real total

theorem Leaves.costs {own : String} {total : Float} {s t : Store} (h : Leaves own s t) (hs : Costs own total s) :
    Costs own total t := by
  obtain ⟨e, he, hcost⟩ := hs
  rcases h.execution with hsame | ⟨x, now, hx, -, ht⟩
  · exact ⟨e, hsame.trans he, hcost⟩
  · rw [he] at hx
    cases hx
    exact ⟨_, ht, hcost⟩

theorem costs_of_wrote {own : String} {total : Float} {p : ExecutionPatch} {e e' : Execution} {s t : Store}
    (hp : p.cost = some (.real total)) (hwrote : p.Wrote e e') (hrep : s.Replaced own e' t) (htotal : total ≠ -0.0) :
    Costs own total t := by
  refine ⟨e', (hrep.execution? own).trans (if_pos rfl), ?_⟩
  rcases hwrote.real total hp with hcost | hcost
  · exact hcost
  · rwa [Number.add_zero htotal] at hcost

end Store

namespace Engine

open World Store

variable {env : Setting} {own : String} {w t : World} {x : Execution} {total : Float}

/-- A look at a run that brings it back, with what others have done before it. -/
theorem getExecution_ok (hw : w.Sound) (h : World.getExecution env own w = (.ok x, t)) :
    Leaves own w.store t.store ∧ t.store.Shows own x := by
  have hothers : Works .others w (World.findExecution env own w).2 := within_findExecution Scope.le_rfl own w
  obtain ⟨found, u, hfind, hfound⟩ := Act.bind_ok h
  rw [hfind] at hothers
  have hleaves := leaves_of_others hothers hw own
  cases found with
  | none => cases hfound
  | some e =>
    cases hfound
    obtain ⟨mid, -, hout⟩ := requested env .findExecution (onStore (Store.findExecution own)) w
    rcases hout with ⟨f, v, hout, -⟩ | hout
    · have hraised := hfind.symm.trans hout
      cases hraised
    · have hlook := hfind.symm.trans (hout.trans (reporting_onStore _ _))
      have hread : (Store.findExecution own mid.store).1 = .ok (some x) := (congrArg Prod.fst hlook).symm
      have hstore : t.store = mid.store := (congrArg (·.2.store) hlook).trans (findExecution_snd mid.store own)
      exact ⟨hleaves, by rw [hstore]; exact shows_of_findExecution hread⟩

theorem update_costs {p : ExecutionPatch} {expected : Option (List RunStatus)} {v : Option Execution} (hw : w.Sound)
    (hne : p.isEmpty = false) (hp : p.cost = some (.real total)) (htotal : total ≠ -0.0)
    (h : World.updateExecution env own (.ok p) expected w = (.ok v, t)) :
    t.Sound ∧ (Costs own total t.store ∨ v = none ∧ expected.isSome) := by
  obtain ⟨mid, hmid, hout⟩ := updateExecution_cases env own p hne expected w
  rcases hout with ⟨f, u, hout, -⟩ | ⟨⟨f | v', u⟩, hu, hout⟩
  · rw [hout] at h
    cases h
  · rw [hout] at h
    cases h
  · rw [hout] at h
    cases h
    refine ⟨(hmid.works hw).sound.updated rfl hu rfl, ?_⟩
    cases hu with
    | passed found asked status => exact .inr ⟨rfl, by rw [asked]; rfl⟩
    | wrote found asked wrote replaced answer => exact .inl (costs_of_wrote hp wrote replaced htotal)

/-- A run that is ended and comes back: it was written as ended, or its results alone were, when it was not running any
more; then it was looked up. -/
theorem conclude_ok {status : RunStatus} {error : Option String} {c : Context}
    (h : conclude env own status error (results c total) w = (.ok x, t)) :
    ∃ updated u v, World.updateExecution env own (.ok (endPatch (results c total) status error w.time))
        (some [.running]) w = (.ok updated, u) ∧
      (updated.isSome = true ∧ v = u ∨ updated = none ∧
        ∃ again, World.updateExecution env own (.ok (results c total)) none u = (.ok again, v)) ∧
      World.getExecution env own v = (.ok x, t) := by
  rw [conclude_apply] at h
  obtain ⟨updated, u, hupdate, hrest⟩ := Act.bind_ok h
  cases updated with
  | some e => exact ⟨_, u, u, hupdate, .inl ⟨rfl, rfl⟩, hrest⟩
  | none =>
    obtain ⟨_, v, hagain, hget⟩ := Act.bind_ok (show (discard (World.updateExecution env own
      (.ok (results c total)) none) >>= fun _ => World.getExecution env own) u = (.ok x, t) from hrest)
    rw [Act.discard_apply] at hagain
    rcases hout : World.updateExecution env own (.ok (results c total)) none u with ⟨f | again, v'⟩
    · rw [hout] at hagain
      cases hagain
    · rw [hout] at hagain
      cases hagain
      exact ⟨_, u, _, hupdate, .inr ⟨rfl, again, hout⟩, hget⟩

theorem conclude_costs {status : RunStatus} {error : Option String} {c : Context} (hw : w.Sound)
    (htotal : total ≠ -0.0) (h : conclude env own status error (results c total) w = (.ok x, t)) :
    Costs own total t.store ∧ x.cost = .real total ∧ t.store.Shows own x := by
  obtain ⟨updated, u, v, hupdate, hwritten, hget⟩ := conclude_ok h
  obtain ⟨hsound, hcosts⟩ := update_costs hw rfl rfl htotal hupdate
  have hv : v.Sound ∧ Costs own total v.store := by
    rcases hwritten with ⟨hsome, rfl⟩ | ⟨-, again, hagain⟩
    · refine ⟨hsound, hcosts.resolve_right fun hnone => ?_⟩
      rw [hnone.1] at hsome
      cases hsome
    · obtain ⟨hsound', hcosts'⟩ := update_costs hsound rfl rfl htotal hagain
      exact ⟨hsound', hcosts'.resolve_right fun hnone => by cases hnone.2⟩
  obtain ⟨hleaves, hshows⟩ := getExecution_ok hv.1 hget
  obtain ⟨e, he, hcost⟩ := hleaves.costs hv.2
  obtain ⟨y, hy, hshown⟩ := hshows.execution
  rw [he] at hy
  cases hy
  exact ⟨⟨e, he, hcost⟩, hshown.2 _ hcost, hshows⟩

variable {d : Definition} {input : Json} {made started : World} {out : Except Failure Unit} {c c' : Context} {s s' : Stage}

theorem conclude_of_finish {status : RunStatus} {error : Option String}
    (h : (finish env own status error).exec c s = ((.ok x, c'), s')) :
    conclude env own status error (results c (s.ledger.total [])) s.world = (.ok x, s'.world) := by
  rw [exec_finish_eq] at h
  exact Prod.ext (congrArg (·.1.1) h) (congrArg (·.2.world) h)

/-- A run that comes back was ended where its steps had stopped, and as they had ended. -/
theorem drive_ok (h : (drive env d own).exec { input } ⟨made, .empty⟩ = ((.ok x, c'), s')) :
    ∃ started out c s, Stops env d own input made started out c s ∧
      conclude env own (endStatus out) (endError out) (results c (s.ledger.total [])) s.world = (.ok x, s'.world) := by
  have hcourse := course env d own { input } ⟨made, .empty⟩
  generalize (drive env d own).exec { input } ⟨made, .empty⟩ = out at h hcourse
  cases hcourse with
  | stuck start => cases h
  | early start => exact ⟨_, _, _, _, .early start, conclude_of_finish h⟩
  | ended start steps _ => exact ⟨_, _, _, _, .late start steps, conclude_of_finish h⟩
  | broken start steps => cases h

theorem run_ok (h : Engine.run env d input w = (.ok x, t)) :
    ∃ e made started out c s, World.createExecution env d.id input w = (.ok e, made) ∧
      Stops env d e.id input made started out c s ∧
      conclude env e.id (endStatus out) (endError out) (results c (s.ledger.total [])) s.world = (.ok x, t) := by
  have hupshot := upshot env d input w
  generalize Engine.run env d input w = out at h hupshot
  cases hupshot with
  | unmade create => cases h
  | returned create drove =>
    cases h
    obtain ⟨started, out, c, s, hstops, hconclude⟩ := drive_ok drove
    exact ⟨_, _, started, out, c, s, create, hstops, hconclude⟩
  | escaped create drove => cases h
  | broken create drove => cases h

/-- A run has been charged for every answer by the time its steps have stopped. -/
theorem Stops.billed (h : Stops env d own input made started out c s) (hmade : Run.Under own made) :
    Stage.Billed ⟨made, .empty⟩ s ∧ s.ledger.Proper ∧ s.world.Sound := by
  have hbegun {b : Bool} (hb : start env own made = (.ok b, started)) :
      Stage.Billed ⟨made, .empty⟩ ⟨started, .empty⟩ ∧ Run.Under own started := by
    have hbilled := Flow.billed (Run.onWorld (start env own)) { input } ⟨made, .empty⟩
    have hunder := Run.lasting_under .onRuns own _ _ (within_start env Scope.takesRuns_onRuns own made) hmade
    rw [Flow.exec_onWorld, hb] at hbilled
    rw [hb] at hunder
    exact ⟨hbilled, hunder⟩
  cases h with
  | early hb =>
    obtain ⟨hbilled, hunder⟩ := hbegun hb
    exact ⟨hbilled, Ledger.proper_empty, hunder.1⟩
  | late hb ran =>
    obtain ⟨hbilled, hunder⟩ := hbegun hb
    have hsteps := Flow.billed (runSteps env own d.steps) { input } ⟨started, .empty⟩
    have hproper := Flow.proper (runSteps env own d.steps) { input } (s := ⟨started, .empty⟩) Ledger.proper_empty
    have hworks := works_runSteps env d.steps { input } (s := ⟨started, .empty⟩) hunder
    rw [ran] at hsteps hproper hworks
    exact ⟨billing.guar_trans hbilled hsteps, hproper, (hworks hunder.1).sound⟩

/-- What a run costs that comes back: the sum of what its calls cost whose answers could be read. -/
theorem run_costs (hw : w.Sound) (h : Engine.run env d input w = (.ok x, t)) :
    ∃ e made ends, World.createExecution env d.id input w = (.ok e, made) ∧ t.answers = w.answers ++ ends ∧
      Costs e.id (bill ends 0.0) t.store ∧ x.cost = .real (bill ends 0.0) ∧ t.store.Shows e.id x := by
  obtain ⟨e, made, started, out, c, s, hcreate, hstops, hconclude⟩ := run_ok h
  obtain ⟨⟨ends, hanswers, hbills⟩, hproper, hsound⟩ := hstops.billed (begun_createExecution env hw hcreate).under
  have htotal : s.ledger.total [] = bill ends 0.0 := (hbills rfl).total
  rw [htotal] at hconclude
  have hne : bill ends 0.0 ≠ -0.0 := htotal ▸ hproper.total []
  have hbefore := Act.idle (World.createExecution env d.id input) w
  have hafter := Act.idle (conclude env e.id (endStatus out) (endError out) (results c (bill ends 0.0))) s.world
  rw [hcreate] at hbefore
  rw [hconclude] at hafter
  exact ⟨e, made, ends, hcreate, by rw [hafter.answers, hanswers, hbefore.answers],
    conclude_costs hsound hne hconclude⟩

end Engine

end Conductor
