import Conductor.Proofs.World.Requests

/-! The records of one step of a run: who may touch them, and what the two requests that do make of them. -/

namespace Conductor

/-- What is done to the records of some steps of a run, besides what others do. -/
def Scope.recording (execution : String) (own : String → Prop) (event : Event → Prop) : Scope where
  deed deed := others.deed deed ∨ ∃ step, own step ∧ deed = .record execution step
  event := event

namespace World

variable {execution : String} {own more : String → Prop} {event : Event → Prop} {env : Setting} {w t : World}

theorem others_le_recording : Scope.others ≤ .recording execution own event :=
  ⟨fun _ h => .inl h, fun _ h => h.elim⟩

theorem recording_le (h : ∀ step, own step → more step) :
    Scope.recording execution own event ≤ .recording execution more event := by
  refine ⟨fun deed hd => ?_, fun _ he => he⟩
  rcases hd with hd | ⟨step, hs, rfl⟩
  · exact .inl hd
  · exact .inr ⟨step, h step hs, rfl⟩

theorem recordsAt_eq_of_done {s t : Store} {deed : Deed} (hd : deed.Done s t) {step : String}
    (hn : deed ≠ .record execution step) : t.recordsAt execution step = s.recordsAt execution step := by
  have hfalse {r : StepRecord} (hr : deed = .record r.execution r.step) :
      (decide (r.execution = execution) && decide (r.step = step)) = false := by
    rw [Bool.and_eq_false_iff, decide_eq_false_iff_not, decide_eq_false_iff_not, ← not_and_or]
    rintro ⟨rfl, rfl⟩
    exact hn hr
  unfold Store.recordsAt
  cases hd with
  | created fresh pending replaced => rw [replaced.records]
  | updated found asked wrote replaced => rw [replaced.records]
  | added added =>
    rw [added.records, List.filter_append]
    simp [hfalse rfl]
  | rewrote rewrote =>
    exact rewrote.filter (hfalse rfl) (by rw [rewrote.execution, rewrote.step]; exact hfalse rfl)

theorem Works.recordsAt_eq {a b : World} (h : Works (.recording execution own event) a b) (ha : a.Sound)
    {step : String} (hn : ¬ own step) :
    b.store.recordsAt execution step = a.store.recordsAt execution step := by
  refine (h ha).leads.keeps (fun s => s.recordsAt execution step = a.store.recordsAt execution step) ?_ rfl
  intro s t hs changed
  cases changed with
  | same same => rwa [Store.recordsAt, same.records]
  | did ok done =>
    refine (recordsAt_eq_of_done done ?_).trans hs
    rintro rfl
    rcases ok with ⟨id, now, he⟩ | ⟨other, ho, he⟩
    · cases he
    · cases he
      exact hn ho

theorem recordsAt_eq_of_others {a b : World} (h : Works .others a b) (ha : a.Sound) (step : String) :
    b.store.recordsAt execution step = a.store.recordsAt execution step := by
  have hrecording : Works (.recording execution (fun _ => False) fun _ => False) a b :=
    h.mono others_le_recording
  exact hrecording.recordsAt_eq ha id

theorem createStep_recorded {step : String} {r : StepRecord} (hw : w.Sound)
    (h : createStep env execution step w = (.ok r, t)) :
    t.store.recordsAt execution step = w.store.recordsAt execution step ++ [r] ∧
      r = { id := r.id, execution, step } := by
  rcases createStep_cases env hw execution step with ⟨f, t', hout, _⟩ | ⟨mid, r', t', hmid, added, rfl, hout⟩
  · rw [h] at hout
    cases hout
  · rw [h] at hout
    cases hout
    refine ⟨?_, rfl⟩
    show t'.recordsAt execution step = _
    rw [← recordsAt_eq_of_others hmid.others hw, Store.recordsAt, added.records, List.filter_append]
    simp [Store.recordsAt]

theorem holds_of_recordsAt {step : String} {r : StepRecord} (hr : w.store.recordsAt execution step = [r]) :
    w.Holds r.id execution step := by
  have hmem : r ∈ w.store.recordsAt execution step := by simp [hr]
  obtain ⟨hrecords, hstep⟩ := List.mem_filter.1 hmem
  simp only [Bool.and_eq_true, decide_eq_true_eq] at hstep
  exact ⟨r, hrecords, rfl, hstep⟩

theorem updateStep_recorded {step : String} {r v : StepRecord} {p : StepPatch} (hw : w.Sound)
    (hr : w.store.recordsAt execution step = [r]) (h : updateStep env r.id (.ok p) w = (.ok v, t)) :
    ∃ r', p.Wrote r r' ∧ r'.id = r.id ∧ t.store.recordsAt execution step = [r'] := by
  rcases updateStep_cases env hw r.id p with
    ⟨f, t', hout, _⟩ | ⟨mid, old, new, out, hmid, named, wrote, rewrote, hout⟩
  · rw [h] at hout
    cases hout
  · obtain ⟨-, rfl⟩ := Prod.mk.inj (h.symm.trans hout)
    show ∃ r', p.Wrote r r' ∧ r'.id = r.id ∧ out.2.recordsAt execution step = [r']
    have hmine : mid.store.recordsAt execution step = [r] :=
      (recordsAt_eq_of_others hmid.others hw step).trans hr
    obtain ⟨mine, hmem, hid, hexecution, hstep⟩ := holds_of_recordsAt hmine
    have hold : mine = old := rewrote.alone mine hmem (hid.trans named.symm)
    have hsame : mine = r := by
      have hat : mine ∈ mid.store.recordsAt execution step :=
        List.mem_filter.2 ⟨hmem, by simp [hexecution, hstep]⟩
      simpa [hmine] using hat
    subst hold
    subst hsame
    exact ⟨new, wrote, rewrote.id, rewrote.recordsAt hmine⟩

theorem works_createStep_recording (env : Setting) {step : String} (hu : w.Has execution) :
    Works (.recording execution (· = step) event) w (createStep env execution step w).2 :=
  works_createStep others_le_recording (.inr ⟨step, rfl, rfl⟩) hu

theorem works_updateStep_recording (env : Setting) {step : String} {r : StepRecord}
    (hr : w.store.recordsAt execution step = [r]) (p : StepPatch) :
    Works (.recording execution (· = step) event) w (updateStep env r.id (.ok p) w).2 :=
  works_updateStep others_le_recording p (.inr ⟨step, rfl, rfl⟩) (holds_of_recordsAt hr)

end World

end Conductor
