import Conductor.Proofs.Engine.Course
import Conductor.Proofs.World.Life

/-! The statuses of a run under every mix of operations. In its course a run writes its own record
in five ways, each of them where it knows enough of the status: others may have cancelled the run in
between, and any request may have failed. -/

namespace Conductor

namespace World

theorem leaves_of_others {a b : World} (h : Works .others a b) (ha : a.Sound) (id : String) :
    Store.Leaves id a.store b.store := by
  refine (h ha).leads.keeps (Store.Leaves id a.store) (fun s u hs changed => ?_) ((Store.Same.refl _).leaves id)
  cases changed with
  | same same => exact hs.trans (same.leaves id)
  | did ok done =>
    obtain ⟨other, now, rfl⟩ := ok
    exact hs.trans (Store.leaves_of_cancel done id)

end World

namespace Engine

open World Store

variable (env : Setting) {own : String} {w : World}

structure Came (own : String) (post : Store → Prop) (a b : World) : Prop where
  sound : b.Sound
  leads : Leads (Runs own) a b
  post : post b.store

theorem Came.trans {own : String} {mid post : Store → Prop} {a b c : World} (h : Came own mid a b)
    (h' : Came own post b c) : Came own post a c := ⟨h'.sound, h.leads.trans h'.leads, h'.post⟩

theorem Came.mono {own : String} {mid post : Store → Prop} {a b : World} (h : Came own mid a b)
    (hm : ∀ s, mid s → post s) : Came own post a b := ⟨h.sound, h.leads, hm _ h.post⟩

abbrev Went (own : String) : World → World → Prop := Came own fun _ => True

theorem Came.andThen {α β : Type} (mid : Except Failure α → Store → Prop) {out : Except Failure α × World}
    {next : α → Act World β} (h : Came own (mid out.1) w out.2)
    (hn : ∀ v t, t.Sound → mid (.ok v) t.store → Went own t (next v t).2) :
    Went own w (Act.andThen out next).2 := by
  rcases out with ⟨f | v, t⟩
  · exact h.mono fun _ _ => trivial
  · exact (h.mono fun _ _ => trivial).trans (hn v t h.sound h.post)

theorem came_of_others {statuses : List RunStatus} {a b : World} (h : Works .others a b) (ha : a.Sound)
    (hc : .cancelled ∈ statuses) (hs : At own statuses a.store) : Came own (At own statuses) a b := by
  have hstep (s t : Store) (hs : At own statuses s) (changed : Scope.others.Change s t) :
      At own statuses t ∧ Runs own s t := by
    cases changed with
    | same same => exact ⟨(same.leaves own).at hc hs, same.runs⟩
    | did ok done =>
      obtain ⟨id, now, rfl⟩ := ok
      exact ⟨(leaves_of_cancel done own).at hc hs, runs_of_cancel done⟩
  obtain ⟨hpost, hleads⟩ := (h ha).leads.refine _ hstep hs
  exact ⟨(h ha).sound, hleads, hpost⟩

theorem went_of_others {a b : World} (h : Works .others a b) (ha : a.Sound) : Went own a b := by
  refine ⟨(h ha).sound, (h ha).leads.mono fun s t changed => ?_, trivial⟩
  cases changed with
  | same same => exact same.runs
  | did ok done =>
    obtain ⟨id, now, rfl⟩ := ok
    exact runs_of_cancel done

theorem runs_of_steps {scope : Scope} {a b : World} (h : Works scope a b) (ha : a.Sound)
    (hs : ∀ deed, scope.deed deed → Scope.others.deed deed ∨ ∃ step, deed = .record own step)
    (hb : At own [.running, .cancelled] a.store) : Came own (At own [.running, .cancelled]) a b := by
  have hstep (s t : Store) (hb : At own [.running, .cancelled] s) (changed : scope.Change s t) :
      At own [.running, .cancelled] t ∧ Runs own s t := by
    cases changed with
    | same same => exact ⟨(same.leaves own).at (by simp) hb, same.runs⟩
    | did ok done =>
      rcases hs _ ok with ⟨id, now, rfl⟩ | ⟨step, rfl⟩
      · exact ⟨(leaves_of_cancel done own).at (by simp) hb, runs_of_cancel done⟩
      · exact ⟨at_of_record done hb, runs_of_record done hb⟩
  obtain ⟨hpost, hleads⟩ := (h ha).leads.refine _ hstep hb
  exact ⟨(h ha).sound, hleads, hpost⟩

theorem updateExecution_cases (own : String) (p : ExecutionPatch) (hp : p.isEmpty = false)
    (expected : Option (List RunStatus)) (w : World) :
    ∃ mid, Awaits env .updateExecution w mid ∧
      ((∃ f t, World.updateExecution env own (.ok p) expected w = (.error f, t) ∧ Refuses f w t) ∨
        ∃ out, mid.store.Updated own p expected out ∧
          World.updateExecution env own (.ok p) expected w = (out.1, mid.asked out)) := by
  obtain ⟨mid, hmid, hout⟩ := requested env .updateExecution
    (onStore (Store.updateExecution own p expected)) w
  refine ⟨mid, hmid, ?_⟩
  rcases hout with hout | hout
  · exact .inl hout
  · exact .inr ⟨_, mid.store.updated own p hp expected, hout.trans (reporting_onStore _ _)⟩

/-- One update of the run, by its three ends: it fails, is passed over for the status, or is written. -/
theorem came_of_updated (p : ExecutionPatch) (expected : Option (List RunStatus)) (statuses : List RunStatus)
    (post : Except Failure (Option Execution) → Store → Prop) (hp : p.isEmpty = false)
    (hc : .cancelled ∈ statuses) (hw : w.Sound) (hs : At own statuses w.store)
    (failed : ∀ f s, At own statuses s → post (.error f) s)
    (passed : ∀ s e, s.execution? own = some e → e.status ∈ statuses →
      (∃ asked, expected = some asked ∧ e.status ∉ asked) → post (.ok none) s)
    (wrote : ∀ s t e e' result, s.execution? own = some e → e.status ∈ statuses →
      (∀ asked, expected = some asked → e.status ∈ asked) → p.Wrote e e' → s.Replaced own e' t →
      result ≠ .ok none → Runs own s t ∧ post result t) :
    Came own (post (World.updateExecution env own (.ok p) expected w).1) w
      (World.updateExecution env own (.ok p) expected w).2 := by
  obtain ⟨mid, hmid, hout⟩ := updateExecution_cases env own p hp expected w
  -- others may have cancelled the run before its update, which is one of the statuses
  have hm := came_of_others hmid.others hw hc hs
  rcases hout with ⟨f, t, hf, ht⟩ | ⟨out, hu, hf⟩
  · rw [hf]
    exact (came_of_others ht.works hw hc hs).mono (failed f)
  · rw [hf]
    have hsound := hm.sound.updated (b := mid.asked out) rfl hu rfl
    refine hm.trans ⟨hsound, ?_, ?_⟩
    · refine .asked (.refl mid) ?_ rfl
      cases hu with
      | refused f => exact (Same.refl _).runs
      | passed => exact (Same.refl _).runs
      | wrote found asked hwrote replaced answer =>
        obtain ⟨e, he, hstatus⟩ := hm.post
        rw [found] at he
        cases he
        exact (wrote _ _ _ _ _ found hstatus asked hwrote replaced answer).1
    · obtain ⟨e, he, hstatus⟩ := hm.post
      cases hu with
      | refused f => exact failed f _ ⟨e, he, hstatus⟩
      | passed found asked status =>
        rw [found] at he
        cases he
        exact passed _ _ found hstatus ⟨_, asked, status⟩
      | wrote found asked hwrote replaced answer =>
        rw [found] at he
        cases he
        exact (wrote _ _ _ _ _ found hstatus asked hwrote replaced answer).2

/-- What an update leaves that moves a run on to a status: a run of that status, or one that others have cancelled. -/
def Moved (own : String) (status : RunStatus) : Except Failure (Option Execution) → Store → Prop
  | .ok (some _), s => At own [status] s
  | .ok none, s => At own [.cancelled] s
  | .error _, _ => True

theorem came_moved {p : ExecutionPatch} {before after : RunStatus} (hp : p.isEmpty = false)
    (hafter : p.status = some after) (hmove : before.Move after) (hw : w.Sound)
    (hs : At own [before, .cancelled] w.store) :
    Came own (Moved own after (World.updateExecution env own (.ok p) (some [before]) w).1) w
      (World.updateExecution env own (.ok p) (some [before]) w).2 := by
  refine came_of_updated env p (some [before]) [before, .cancelled] (Moved own after) hp (by simp) hw hs
    (fun _ _ _ => trivial) ?_ ?_
  · rintro s e he hstatus ⟨asked, hasked, hnot⟩
    cases hasked
    refine ⟨e, he, ?_⟩
    simp only [List.mem_cons, List.not_mem_nil, or_false] at hstatus hnot ⊢
    exact hstatus.resolve_left hnot
  · intro s t e e' result he _ hasked hwrote hrep hresult
    have hwas : e.status = before := by simpa using hasked _ rfl
    have his : e'.status = after := by
      rw [hwrote.status (by rw [hafter]; exact hmove.isKnown), hafter]
      rfl
    refine ⟨hrep.runs_move he (by rw [hwas, his]; exact hmove), ?_⟩
    rcases result with f | _ | e''
    · trivial
    · exact absurd rfl hresult
    · exact ⟨e', (hrep.execution? own).trans (if_pos rfl), by simp [his]⟩

theorem came_start (hw : w.Sound) (hs : At own [.pending, .cancelled] w.store) :
    Came own (fun s => match (start env own w).1 with
      | .ok true => At own [.running, .cancelled] s
      | .ok false => At own [.cancelled] s
      | .error _ => True) w (start env own w).2 := by
  have hmoved := came_moved env (p := startPatch w.time) rfl rfl .start hw hs
  rw [start_apply, Act.bind_apply]
  revert hmoved
  generalize World.updateExecution env own _ (some [.pending]) w = out
  intro hmoved
  rcases out with ⟨f | _ | e, t⟩
  · exact hmoved
  · exact hmoved
  · exact hmoved.mono fun s hs => hs.mono (by simp)

theorem went_results (context : Context) (total : Float) (hw : w.Sound) (hs : At own [.cancelled] w.store) :
    Went own w (World.updateExecution env own (.ok (results context total)) none w).2 := by
  refine came_of_updated env (results context total) none [.cancelled] (fun _ _ => True) rfl (by simp) hw hs
    (fun _ _ _ => trivial) (fun _ _ _ _ _ => trivial) ?_
  intro s t e e' result he hstatus _ hwrote hrep _
  have hcancelled : e.status = .cancelled := by simpa using hstatus
  refine ⟨hrep.runs_results he hcancelled ?_, trivial⟩
  have herror := hwrote.error rfl
  have hnamed := hwrote.named rfl
  rw [herror] at hnamed
  exact hnamed

theorem move_of_ended {status : RunStatus} (h : status = .completed ∨ status = .failed) :
    RunStatus.Move .running status := by
  rcases h with rfl | rfl
  · exact .complete
  · exact .fail

theorem went_conclude {status : RunStatus} (hstatus : status = .completed ∨ status = .failed)
    (error : Option String) (context : Context) (total : Float) (hw : w.Sound)
    (hs : At own [.running, .cancelled] w.store) :
    Went own w (conclude env own status error (results context total) w).2 := by
  have hget (t : World) (ht : t.Sound) : Went own t (World.getExecution env own t).2 :=
    went_of_others (within_getExecution Scope.le_rfl own t) ht
  have hmoved := came_moved env (p := endPatch (results context total) status error w.time) rfl rfl
    (move_of_ended hstatus) hw hs
  rw [conclude_apply, Act.bind_apply]
  refine Came.andThen (Moved own status) hmoved fun updated t ht hpost => ?_
  cases updated with
  | some e => exact hget t ht
  | none =>
    -- passed over: a run that is not running any more was cancelled
    have hcancelled : At own [.cancelled] t.store := hpost
    simp only [Option.isNone_none, if_true, Act.bind_apply, Act.discard_apply]
    exact Came.andThen (fun _ _ => True) (went_results env context total ht hcancelled)
      fun _ u hu _ => hget u hu

theorem went_abort (f : Failure) (hw : w.Sound) (hs : w.Has own) : Went own w (abort env own f w).2 := by
  obtain ⟨e, he⟩ := Option.isSome_iff_exists.1 hs
  rw [abort_snd]
  refine came_of_updated env _ (some RunStatus.active) [e.status, .cancelled] (fun _ _ => True) rfl
    (by simp) hw ⟨e, he, by simp⟩ (fun _ _ _ => trivial) (fun _ _ _ _ _ => trivial) ?_
  intro s t e e' result he _ hasked hwrote hrep _
  have hfailed : e'.status = .failed := hwrote.status rfl
  refine ⟨hrep.runs_move he ?_, trivial⟩
  have hactive : e.status = .pending ∨ e.status = .running := by
    simpa [RunStatus.active] using hasked _ rfl
  rw [hfailed]
  rcases hactive with h | h <;> rw [h]
  · exact .spoil
  · exact .fail

/-! A whole run -/

/-- What the steps of a run may do. -/
def stepScope (own : String) : Scope where
  deed deed := Scope.others.deed deed ∨ ∃ step, deed = .record own step
  event _ := True

theorem covers_stepScope (own : String) : Run.Covers (stepScope own) own fun _ _ => True where
  others := ⟨fun _ h => .inl h, fun _ _ => trivial⟩
  record step := .inr ⟨step, rfl⟩
  started _ _ _ := trivial
  failed _ _ _ := trivial
  plain _ _ _ := trivial

theorem failsFinely_any (step : Step) : Run.FailsFinely env (fun _ _ => True) step := by
  cases step <;> simp [Run.FailsFinely]

theorem works_step (account : Account) (step : Step) (c : Context) {s : Stage} (hs : Run.Under own s.world) :
    Works (stepScope own) s.world ((Run.step env own account step).exec c s).2.world :=
  ((Run.keeps_step (covers_stepScope own) account step fun inner _ => failsFinely_any env inner) c s hs).exec.1.works

theorem reports_runSteps (steps : List Step) (c : Context) {s : Stage} (hs : Run.Under own s.world) :
    Reports (stepScope own) s.world ((runSteps env own steps).exec c s).2.world :=
  ((keeps_runSteps env (covers_stepScope own) steps fun inner _ => failsFinely_any env inner) c s hs).exec.1

theorem works_runSteps (steps : List Step) (c : Context) {s : Stage} (hs : Run.Under own s.world) :
    Works (stepScope own) s.world ((runSteps env own steps).exec c s).2.world := (reports_runSteps env steps c hs).works

theorem under_of_at {statuses : List RunStatus} (hw : w.Sound) (hs : At own statuses w.store) :
    Run.Under own w := by
  obtain ⟨e, he, -⟩ := hs
  exact ⟨hw, Option.isSome_iff_exists.2 ⟨e, he⟩⟩

theorem exec_finish (status : RunStatus) (error : Option String) (c : Context) (s : Stage) :
    ((finish env own status error).exec c s).2.world =
      (conclude env own status error (results c (s.ledger.total [])) s.world).2 := rfl

theorem went_finish {status : RunStatus} (hstatus : status = .completed ∨ status = .failed)
    (error : Option String) (c : Context) {s : Stage} (hw : s.world.Sound)
    (hs : At own [.running, .cancelled] s.world.store) :
    Went own s.world ((finish env own status error).exec c s).2.world := by
  rw [exec_finish env]
  exact went_conclude env hstatus error c _ hw hs

theorem came_runSteps (steps : List Step) (c : Context) {s : Stage} (hw : s.world.Sound)
    (hs : At own [.running, .cancelled] s.world.store) :
    Came own (At own [.running, .cancelled]) s.world ((runSteps env own steps).exec c s).2.world := by
  exact runs_of_steps (works_runSteps env steps c (under_of_at hw hs)) hw (fun _ h => h) hs

theorem went_drive (d : Definition) (c : Context) {s : Stage} (hw : s.world.Sound)
    (hs : At own [.pending, .cancelled] s.world.store) :
    Went own s.world ((drive env d own).exec c s).2.world := by
  have hstart := came_start env hw hs
  have hbusy {t : World} (hout : start env own s.world = (.ok true, t)) :
      Came own (At own [.running, .cancelled]) s.world
        ((runSteps env own d.steps).exec c { s with world := t }).2.world := by
    rw [hout] at hstart
    exact hstart.trans (came_runSteps env d.steps c (s := { s with world := t }) hstart.sound hstart.post)
  have hcourse := course env d own c s
  generalize (drive env d own).exec c s = out at hcourse ⊢
  cases hcourse with
  | stuck start =>
    rw [start] at hstart
    exact hstart
  | @early t start =>
    rw [start] at hstart
    have hcancelled : At own [.cancelled] t.store := hstart.post
    exact hstart.trans (went_finish env (s := { s with world := t }) (.inl rfl) none c hstart.sound
      (hcancelled.mono fun _ h => List.mem_cons_of_mem _ h))
  | @ended _ out c' _ start steps _ =>
    have hran := hbusy start
    rw [steps] at hran
    exact hran.trans (went_finish env (endStatus_eq out) _ c' hran.sound hran.post)
  | broken start steps =>
    have hran := hbusy start
    rw [steps] at hran
    exact hran.mono fun _ _ => trivial

theorem has_of_went {a b : World} (h : Went own a b) (ha : a.Has own) : b.Has own :=
  h.leads.keeps (fun s => (s.execution? own).isSome) (fun _ _ hs hr => hr.lives.has hs) ha

theorem fresh_of_others {a b : World} (h : Works .others a b) (ha : a.Sound)
    (hb : b.store.execution? own = none) : a.store.execution? own = none := by
  cases he : a.store.execution? own with
  | none => rfl
  | some e =>
    have hhas : b.Has own := (h ha).leads.has (show a.Has own by rw [Has, he]; rfl)
    rw [Has, hb] at hhas
    cases hhas

theorem came_cancelled_at_once {made : World} {out : Except Failure (Option Execution) × Store}
    (hsound : made.Sound) (hat : At own [.pending] made.store)
    (hu : made.store.Updated own { status := some .cancelled } none out) :
    Came own (At own [.pending, .cancelled]) made (made.asked out) := by
  have hsound' := hsound.updated (b := made.asked out) rfl hu rfl
  cases hu with
  | refused f => exact ⟨hsound', .asked (.refl made) (Same.refl _).runs rfl, hat.mono (by simp)⟩
  | passed found asked status => cases asked
  | @wrote x x' t result found asked wrote replaced answer =>
    obtain ⟨y, hy, hstatus⟩ := hat
    rw [found] at hy
    cases hy
    have hx : x.status = .pending := by simpa using hstatus
    have hx' : x'.status = .cancelled := wrote.status rfl
    refine ⟨hsound', .asked (.refl made) (replaced.runs_move found ?_) rfl, ?_⟩
    · rw [hx, hx']
      exact .drop
    · exact ⟨x', (replaced.execution? own).trans (if_pos rfl), by simp [hx']⟩

theorem came_createExecution (hw : w.Sound) (workflow : String) (input : Json) :
    ∃ own, w.store.execution? own = none ∧
      Went own w (World.createExecution env workflow input w).2 ∧
      ∀ e t, World.createExecution env workflow input w = (.ok e, t) →
        e.id = own ∧ At own [.pending, .cancelled] t.store := by
  rcases createExecution_cases env hw workflow input with
    ⟨f, t, hout, ht⟩ | ⟨mid, made, e, hmid, hmake, hout⟩
  · refine ⟨w.nextId, hw.executions _ (Nat.lt_succ_self _), ?_, ?_⟩
    · rw [hout]
      exact went_of_others ht.works hw
    · intro e t' h
      rw [h] at hout
      cases hout
  · have hsound := (hmid.works hw).sound
    have hfresh := hmake.fresh hsound
    have hmade : Came e.id (At e.id [.pending]) mid made :=
      ⟨hmake.sound hsound,
        .asked (.refl mid) (hmake.replaced.runs_appear hfresh hmake.pending) hmake.past,
        e, by rw [hmake.replaced.execution?, if_pos rfl], by simp [hmake.pending]⟩
    refine ⟨e.id, fresh_of_others hmid.others hw hfresh, ?_⟩
    have hwent : Went e.id w made := (went_of_others hmid.others hw).trans (hmade.mono fun _ _ => trivial)
    rcases hout with hout | ⟨out, hu, hout⟩
    · rw [hout]
      refine ⟨hwent, ?_⟩
      intro e' t h
      cases h
      exact ⟨rfl, hmade.post.mono (by simp)⟩
    · rw [hout]
      have hgone := came_cancelled_at_once hmade.sound hmade.post hu
      refine ⟨hwent.trans (hgone.mono fun _ _ => trivial), ?_⟩
      intro e' t h
      rcases out with ⟨f | found, t'⟩
      · cases h
      · cases h
        exact ⟨rfl, hgone.post⟩

theorem went_run (d : Definition) (input : Json) (hw : w.Sound) :
    ∃ own, w.store.execution? own = none ∧ Went own w (run env d input w).2 := by
  obtain ⟨own, hfresh, hwent, hok⟩ := came_createExecution env hw d.id input
  refine ⟨own, hfresh, ?_⟩
  have hdrive {e : Execution} {made : World} (hout : World.createExecution env d.id input w = (.ok e, made)) :
      e.id = own ∧ made.Has own ∧ Went own w made ∧
        Went own made ((drive env d e.id).exec { input } ⟨made, .empty⟩).2.world := by
    obtain ⟨rfl, hat⟩ := hok e made hout
    rw [hout] at hwent
    exact ⟨rfl, (under_of_at hwent.sound hat).2, hwent,
      went_drive env d { input } (s := ⟨made, .empty⟩) hwent.sound hat⟩
  have hupshot := upshot env d input w
  generalize run env d input w = out at hupshot ⊢
  cases hupshot with
  | unmade create =>
    rw [create] at hwent
    exact hwent
  | returned create drove =>
    obtain ⟨-, -, hmade, hgone⟩ := hdrive create
    rw [drove] at hgone
    exact hmade.trans hgone
  | escaped create drove =>
    obtain ⟨-, -, hmade, hgone⟩ := hdrive create
    rw [drove] at hgone
    exact hmade.trans hgone
  | broken create drove =>
    obtain ⟨rfl, hhas, hmade, hgone⟩ := hdrive create
    rw [drove] at hgone
    exact hmade.trans (hgone.trans (went_abort env _ hgone.sound (has_of_went hgone hhas)))

end Engine

end Conductor
