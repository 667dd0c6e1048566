import Conductor.Proofs.Engine.Lifecycle
import Conductor.Proofs.Run.Paths

/-! The strides of a whole run, and of every other operation of the engine. A run opens, starts and ends one
execution, whose id none has had before, and records steps under it alone. -/

namespace Conductor

open World Store

/-- What a run may do. -/
def Remit.ofRun (own : String) : Remit := { runs := (· = own), steps := (· = own) }

theorem Remit.within_ofRun (own : String) : (Remit.ofSteps own).Within (.ofRun own) :=
  ⟨fun _ => False.elim, fun _ => id, fun _ => False.elim, False.elim⟩

namespace Engine

variable {env : Setting} {base : World} {own : String} {w : World} {context : Context} {total : Float}

theorem tends_start (own : String) : Tends env base (.ofRun own) w (start env own w).2 := by
  have hupdate : Tends env base (.ofRun own) w
      (World.updateExecution env own (.ok (startPatch w.time)) (some [.pending]) w).2 := by
    refine tends_updateExecution rfl fun mid e e' hmid _ asked wrote => ?_
    have hnamed := wrote.named rfl
    rw [(wrote.output rfl).1, (wrote.output rfl).2, wrote.error rfl, wrote.cost rfl, ← hmid.time] at hnamed
    exact .started rfl (List.mem_singleton.1 (asked _ rfl)) hnamed
  rw [start_apply, Act.bind_apply]
  rcases hout : World.updateExecution env own (.ok (startPatch w.time)) (some [.pending]) w with ⟨f | started, t⟩ <;>
    rwa [hout] at hupdate

theorem at_start {b : Bool} {t : World} (hr : Ready base w) (hat : w.store.At own [.pending, .cancelled])
    (h : start env own w = (.ok b, t)) : t.store.At own [if b then .running else .cancelled] := by
  have hput : Put own (startPatch w.time) (some [.pending]) [.pending, .cancelled]
      (World.updateExecution env own (.ok (startPatch w.time)) (some [.pending]) w) :=
    put_updateExecution rfl hr hat (by decide)
  rw [start_apply] at h
  obtain ⟨updated, t', hout, h⟩ := Act.bind_ok h
  rw [hout] at hput
  cases h
  cases updated with
  | none => exact hput.cancelled
  | some e =>
    cases hput with
    | wrote wrote found answer => exact ⟨_, found, by rw [wrote.named rfl]; exact List.mem_cons_self⟩

theorem tends_results (hat : w.store.At own [.cancelled]) :
    Tends env base (.ofRun own) w (World.updateExecution env own (.ok (results context total)) none w).2 := by
  refine tends_updateExecution rfl fun mid e e' hmid found _ wrote => ?_
  obtain ⟨_, hfound, hstatus⟩ := hmid.at (by decide) hat
  rw [found] at hfound
  cases hfound
  have hnamed := wrote.named rfl
  rw [wrote.error rfl] at hnamed
  exact .results rfl (List.mem_singleton.1 hstatus) hnamed

/-- How the end of the steps lets a run end. -/
inductive Ending : RunStatus → Option String → Prop
  | completed : Ending .completed none
  | failed (text : String) : Ending .failed (some text)

theorem turn_of_ending {status : RunStatus} {error : Option String} {now : Time} {e e' : Execution}
    (hend : Ending status error) (hnow : w.time = now) (hwas : e.status = .running)
    (hwrote : (endPatch (results context total) status error now).Wrote e e') :
    World.Turn env base (.ofRun own) w own e e' := by
  subst hnow
  have hnamed := hwrote.named (by cases hend <;> rfl)
  cases hend with
  | completed =>
    rw [hwrote.error rfl] at hnamed
    exact .completed rfl hwas hnamed
  | failed text =>
    rw [hwrote.text text rfl] at hnamed
    exact .failed rfl hwas hnamed

/-- What becomes of a run. Whoever gets an execution has seen it by the id of the run. -/
structure Seen (env : Setting) (base : World) (own : String) (w : World) (out : Except Failure Execution × World) :
    Prop where
  path : Path env base (.ofRun own) w out.2
  seen : ∀ e, out.1 = .ok e → ∃ t, Path env base (.ofRun own) w t ∧ World.getExecution env own t = out

theorem Seen.after {t : World} {out : Except Failure Execution × World} (h : Seen env base own t out)
    (hpath : Path env base (.ofRun own) w t) : Seen env base own w out where
  path := hpath.trans h.path
  seen e he := by
    obtain ⟨u, hu, hget⟩ := h.seen e he
    exact ⟨u, hpath.trans hu, hget⟩

theorem seen_error (f : Failure) (w : World) : Seen env base own w (.error f, w) := ⟨.refl, fun _ => nofun⟩

theorem seen_getExecution (hr : Ready base w) : Seen env base own w (World.getExecution env own w) := by
  have hget : Tends env base (.ofRun own) w (World.getExecution env own w).2 := Act.Follows.within w
  exact ⟨(hget hr).1, fun _ _ => ⟨w, .refl, rfl⟩⟩

theorem seen_conclude {status : RunStatus} {error : Option String} (hend : Ending status error) (hr : Ready base w)
    (hat : w.store.At own [.running, .cancelled]) :
    Seen env base own w (conclude env own status error (results context total) w) := by
  let ended := endPatch (results context total) status error w.time
  have hupdate : Tends env base (.ofRun own) w (World.updateExecution env own (.ok ended) (some [.running]) w).2 :=
    tends_updateExecution rfl fun mid e e' hmid _ asked wrote =>
      turn_of_ending hend hmid.time (List.mem_singleton.1 (asked _ rfl)) wrote
  have hput : Put own ended (some [.running]) [.running, .cancelled]
      (World.updateExecution env own (.ok ended) (some [.running]) w) := put_updateExecution rfl hr hat (by decide)
  rw [conclude_apply, Act.bind_apply]
  rcases hout : World.updateExecution env own (.ok ended) (some [.running]) w with ⟨f | _ | updated, t⟩
  · rw [hout] at hupdate
    exact (seen_error f t).after (hupdate hr).1
  · -- passed over: a run that is not running any more was cancelled
    rw [hout] at hupdate hput
    have hpath : Path env base (.ofRun own) w t := (hupdate hr).1
    have hresults : Tends env base (.ofRun own) t
        (World.updateExecution env own (.ok (results context total)) none t).2 :=
      tends_results hput.cancelled
    refine Seen.after ?_ hpath
    rw [Act.andThen_ok]
    simp only [Option.isNone_none, if_true, Act.bind_apply, Act.discard_apply]
    rcases hlast : World.updateExecution env own (.ok (results context total)) none t with ⟨f | x, u⟩
    · rw [hlast] at hresults
      exact (seen_error f u).after (hresults (hpath.ready hr)).1
    · rw [hlast] at hresults
      have hgone : Path env base (.ofRun own) t u := (hresults (hpath.ready hr)).1
      exact (seen_getExecution (hgone.ready (hpath.ready hr))).after hgone
  · rw [hout] at hupdate
    have hpath : Path env base (.ofRun own) w t := (hupdate hr).1
    exact (seen_getExecution (hpath.ready hr)).after hpath

theorem seen_finish {status : RunStatus} {error : Option String} (hend : Ending status error) (c : Context) {s : Stage}
    (hr : Ready base s.world) (hat : s.world.store.At own [.running, .cancelled]) :
    Seen env base own s.world
      (((finish env own status error).exec c s).1.1, ((finish env own status error).exec c s).2.world) :=
  @seen_conclude env base own s.world c (s.ledger.total []) status error hend hr hat

theorem ending (out : Except Failure Unit) : Ending (endStatus out) (endError out) := by
  cases out with
  | ok v => exact .completed
  | error f => exact .failed f.message

theorem seen_drive (d : Definition) (c : Context) {s : Stage} (hr : Ready base s.world)
    (hat : s.world.store.At own [.pending, .cancelled]) :
    Seen env base own s.world (((drive env d own).exec c s).1.1, ((drive env d own).exec c s).2.world) := by
  have hpath {out : Except Failure Bool} {t : World} (hout : start env own s.world = (out, t)) :
      Path env base (.ofRun own) s.world t := by
    have hstart : Tends env base (.ofRun own) s.world (start env own s.world).2 := tends_start own
    rw [hout] at hstart
    exact (hstart hr).1
  have hbusy {t : World} (hout : start env own s.world = (.ok true, t)) :
      ((runSteps env own d.steps).exec c { s with world := t }).2.OnPath env base t own := by
    have hminds : Flow.Minds env base t own (runSteps env own d.steps) := inferInstance
    have hat : t.store.At own [.running, .cancelled] :=
      (at_start hr hat hout).mono fun _ h => List.mem_cons.2 (.inl (List.mem_singleton.1 h))
    exact hminds.exec (s := { s with world := t }) ((hpath hout).ready hr) hat
  have hcourse := course env d own c s
  generalize (drive env d own).exec c s = out at hcourse ⊢
  cases hcourse with
  | @stuck f t start => exact (seen_error f t).after (hpath start)
  | @early t start =>
    exact (seen_finish (s := { s with world := t }) .completed c ((hpath start).ready hr)
      ((at_start hr hat start).mono fun _ => List.mem_cons_of_mem _)).after (hpath start)
  | @ended _ out c' u start steps _ =>
    have hsteps := hbusy start
    rw [steps] at hsteps
    exact (seen_finish (ending out) c' hsteps.ready hsteps.there).after
      ((hpath start).trans (hsteps.path.mono (Remit.within_ofRun own)))
  | @broken _ f _ u start steps =>
    -- left to the one who drives the run
    have hsteps := hbusy start
    rw [steps] at hsteps
    exact (seen_error f u.world).after ((hpath start).trans (hsteps.path.mono (Remit.within_ofRun own)))

theorem tends_abort (f : Failure) : Tends env base (.ofRun own) w (abort env own f w).2 := by
  rw [abort_snd]
  refine tends_updateExecution rfl fun mid e e' hmid _ asked wrote => ?_
  have hnamed := wrote.named rfl
  rw [(wrote.output rfl).1, (wrote.output rfl).2, wrote.text f.message rfl, wrote.cost rfl, ← hmid.time] at hnamed
  exact .aborted rfl (asked _ rfl) hnamed

/-- A run is the only one that its own requests change, and its id is the next one to be given. -/
theorem seen_run (d : Definition) (input : Json) (hr : Ready base w) :
    Seen env base w.nextId w (run env d input w) := by
  obtain ⟨hcreated, hopened⟩ : Tends env base (.ofRun w.nextId) w (World.createExecution env d.id input w).2 ∧ _ :=
    opened_createExecution rfl hr
  have hdrive {e : Execution} {made : World} (hout : World.createExecution env d.id input w = (.ok e, made)) :
      e.id = w.nextId ∧ Path env base (.ofRun w.nextId) w made ∧ Ready base made ∧
        Seen env base w.nextId made (((drive env d e.id).exec { input } ⟨made, .empty⟩).1.1,
          ((drive env d e.id).exec { input } ⟨made, .empty⟩).2.world) := by
    rw [hout] at hcreated hopened
    obtain ⟨hid, hat⟩ := hopened e rfl
    have hpath := (hcreated hr).1
    rw [hid]
    exact ⟨rfl, hpath, hpath.ready hr, seen_drive d { input } (s := ⟨made, .empty⟩) (hpath.ready hr) hat⟩
  have hupshot := upshot env d input w
  generalize run env d input w = out at hupshot ⊢
  cases hupshot with
  | @unmade f t create =>
    rw [create] at hcreated
    exact (seen_error f t).after (hcreated hr).1
  | returned create drove =>
    obtain ⟨-, hpath, -, hseen⟩ := hdrive create
    rw [drove] at hseen
    exact hseen.after hpath
  | @escaped e _ f _ u create drove =>
    obtain ⟨-, hpath, -, hseen⟩ := hdrive create
    rw [drove] at hseen
    exact (seen_error f u.world).after (hpath.trans hseen.path)
  | @broken e _ f x _ u create drove =>
    obtain ⟨hid, hpath, hready, hseen⟩ := hdrive create
    rw [drove] at hseen
    have habort : Tends env base (.ofRun w.nextId) u.world (abort env w.nextId f u.world).2 := tends_abort f
    rw [hid]
    exact (seen_error x _).after ((hpath.trans hseen.path).trans (habort (hseen.path.ready hready)).1)

/-! Everything else -/

section

variable {m : Remit}

instance (input : Json) : Act.Follows (Tends env base m) (requireProject input) := by
  unfold requireProject
  split
  · infer_instance
  · infer_instance

instance (id : String) : Act.Follows (Tends env base m) (findDefinition env id) := by
  have hfound (found : Option StoredWorkflow) : Act.Follows (Tends env base m) (match found with
      | some stored => pure stored.definition
      | none => throw (.unknownWorkflow id) : Act World Definition) := by
    cases found <;> infer_instance
  unfold findDefinition
  split
  · infer_instance
  · infer_instance

instance (doc : Json) : Act.Follows (Tends env base m) (readDefinition doc) := by
  have hname : Act.Follows (Tends env base m) (modify fun w : World => { w with named := w.named + 1 }) :=
    Act.follows_modify fun _ => tends_of_idle rfl rfl rfl (fun _ => Int.le_refl _) List.prefix_rfl (Nat.le_refl _)
  unfold readDefinition
  infer_instance

instance (id : String) : Act.Follows (Tends env base m) (status env id) := by
  unfold status
  infer_instance

instance (workflow : String) (input : Json) : Act.Follows (Tends env base m) (estimate env workflow input) := by
  unfold estimate
  infer_instance

instance : Act.Follows (Tends env base m) (listWorkflows env) := by
  unfold listWorkflows
  infer_instance

theorem follows_cancel {id : String} (hm : m.cancels id) : Act.Follows (Tends env base m) (cancel env id) :=
  ⟨fun _ => tends_cancel (.asked hm)⟩

theorem follows_store (hm : m.shelves) (d : Definition) : Act.Follows (Tends env base m) (store env d) := by
  have hcreate : Act.Follows (Tends env base m) (World.createWorkflow env d) := follows_createWorkflow hm d
  unfold store
  infer_instance

theorem follows_createModel (hm : m.shelves) (d : Definition) : Act.Follows (Tends env base m) (createModel env d) := by
  have hstore : Act.Follows (Tends env base m) (store env d) := follows_store hm d
  unfold createModel
  infer_instance

theorem follows_createCustom (hm : m.shelves) (doc : Json) : Act.Follows (Tends env base m) (createCustom env doc) := by
  have hstore (d : Definition) : Act.Follows (Tends env base m) (store env d) := follows_store hm d
  unfold createCustom
  infer_instance

end

/-- A call for a new run. -/
inductive Launches (env : Setting) : Act World Execution → Prop
  | execute (workflow : String) (input : Json) : Launches env (execute env workflow input)
  | executeCustom (doc input : Json) : Launches env (executeCustom env doc input)
  | executeModel (d : Definition) (input : Json) : Launches env (executeModel env d input)

theorem seen_after {α : Type} {first : Act World α} {next : α → Act World Execution}
    [hfirst : Act.Follows (Tends env base {}) first] (hr : Ready base w)
    (hnext : ∀ v t, Ready base t → Seen env base t.nextId t (next v t)) :
    Seen env base w.nextId w ((first >>= next) w) := by
  have hpath := (hfirst.within w hr).1
  have hothers : Path env base (.ofRun w.nextId) w (first w).2 :=
    hpath.mono .none
  have hid : (first w).2.nextId = w.nextId := congrArg (fun n => s!"id-{n + 1}") hpath.issued_of_others
  rw [Act.bind_apply]
  rcases hout : first w with ⟨f | v, t⟩
  · rw [hout] at hothers
    exact (seen_error f t).after hothers
  · rw [hout] at hothers hid hpath
    refine Seen.after ?_ hothers
    rw [← hid]
    exact hnext v t (hpath.ready hr)

theorem Launches.seen {action : Act World Execution} (h : Launches env action) (hr : Ready base w) :
    Seen env base w.nextId w (action w) := by
  cases h with
  | execute workflow input =>
    exact seen_after hr fun _ t ht => seen_after ht fun d u hu => seen_run d input hu
  | executeCustom doc input =>
    exact seen_after hr fun _ t ht => seen_after ht fun d u hu => seen_run d input hu
  | executeModel d input => exact seen_after hr fun _ t ht => seen_run d input ht

end Engine

end Conductor
