import Conductor.Proofs.World.Requests

/-! What is noted of the steps of runs. A record shows that its step was started only if that was noted before, with
what the step could read then. -/

namespace Conductor

namespace Scope

/-- Deeds on runs alone, and no events. -/
def onRuns : Scope where
  deed deed := ∀ execution step, deed ≠ .record execution step
  event _ := False

end Scope

namespace World

variable {scope more : Scope} {env : Setting} {a b w : World} {execution step : String}

theorem Leads.records_eq (h : Leads Scope.onRuns.Change a b) : b.store.records = a.store.records := by
  refine h.keeps (fun s => s.records = a.store.records) (fun s t hs changed => ?_) rfl
  cases changed with
  | same same => exact same.records.trans hs
  | did ok done =>
    cases done with
    | created fresh pending replaced => exact replaced.records.trans hs
    | updated found asked wrote replaced => exact replaced.records.trans hs
    | added added => exact absurd rfl (ok _ _)
    | rewrote rewrote => exact absurd rfl (ok _ _)

/-- It was noted that a step of a run was started. -/
def Started (w : World) (execution step : String) : Prop :=
  ∃ context store, .started execution step context store ∈ w.journal

/-- Whatever has been started was noted. -/
def Noted (w : World) : Prop :=
  ∀ r ∈ w.store.records, r.status ≠ .pending → r.status ≠ .skipped → w.Started r.execution r.step

theorem noted_empty : ({} : World).Noted := fun _ => nofun

theorem Grown.started (h : Grown scope a b) (ha : a.Started execution step) : b.Started execution step := by
  obtain ⟨context, store, hmem⟩ := ha
  obtain ⟨events, hj, -⟩ := h.journal
  exact ⟨context, store, hj ▸ List.mem_append_right events hmem⟩

/-- Sound worlds grow within a scope, and note what is started. -/
def Reports (scope : Scope) (a b : World) : Prop := a.Sound → Grown scope a b ∧ (a.Noted → b.Noted)

theorem Reports.works (h : Reports scope a b) : Works scope a b := fun ha => (h ha).1

instance (scope : Scope) : IsPreorder World (Reports scope) where
  refl a h := ⟨Std.Refl.refl (r := Works scope) a h, id⟩
  trans a b c h h' ha := by
    obtain ⟨hb, hnoted⟩ := h ha
    obtain ⟨hc, hnoted'⟩ := h' hb.sound
    exact ⟨IsTrans.trans (r := Works scope) a b c h.works h'.works ha, fun hn => hnoted' (hnoted hn)⟩

theorem Reports.mono (h : Reports scope a b) (hm : scope ≤ more) : Reports more a b :=
  fun ha => ⟨h.works.mono hm ha, (h ha).2⟩

/-- What leaves the records alone starts nothing. -/
theorem Grown.noted (h : Grown scope a b) (hr : b.store.records = a.store.records) (ha : a.Noted) : b.Noted :=
  fun r hmem hpending hskipped => h.started (ha r (hr ▸ hmem) hpending hskipped)

theorem Works.reports (h : Works .onRuns a b) : Reports .onRuns a b := fun ha =>
  ⟨h ha, (h ha).noted (h ha).leads.records_eq⟩

theorem Works.reports_of_others (h : Works .others a b) (ho : Scope.others ≤ scope) : Reports scope a b := fun ha =>
  ⟨h.mono ho ha, (h ha).noted (records_of_others h ha)⟩

theorem reports_note {event : Event} (h : scope.event event) : Act.Within (Reports scope) (note event) :=
  fun w hw => ⟨within_note h w hw, (within_note h w hw).noted rfl⟩

/-- A new record is of a step that has not been started. -/
theorem reports_createStep (ho : Scope.others ≤ scope) (hd : scope.deed (.record execution step))
    (he : w.Has execution) : Reports scope w (createStep env execution step w).2 := by
  intro hw
  have hgrown : Grown scope w (createStep env execution step w).2 := works_createStep ho hd he hw
  refine ⟨hgrown, fun hn => ?_⟩
  rcases createStep_cases env hw execution step with ⟨f, t, hout, ht⟩ | ⟨mid, r, t, hmid, added, rfl, hout⟩
  · rw [hout] at hgrown ⊢
    exact hgrown.noted (records_of_others ht.works hw) hn
  · rw [hout] at hgrown ⊢
    intro r hr hpending hskipped
    rcases List.mem_append.1 (added.records ▸ hr) with hr | hr
    · exact hgrown.started (hn r (records_of_others hmid.others hw ▸ hr) hpending hskipped)
    · rw [List.mem_singleton.1 hr] at hpending
      exact absurd rfl hpending

/-- A record is written to when its step is skipped, or when that was noted to have started. -/
theorem reports_updateStep (ho : Scope.others ≤ scope) {id : String} (p : StepPatch)
    (hd : scope.deed (.record execution step)) (hh : w.Holds id execution step)
    (hs : p.status = some .skipped ∨ w.Started execution step) :
    Reports scope w (updateStep env id (.ok p) w).2 := by
  intro hw
  have hgrown : Grown scope w (updateStep env id (.ok p) w).2 := works_updateStep ho p hd hh hw
  refine ⟨hgrown, fun hn => ?_⟩
  rcases updateStep_cases env hw id p with
    ⟨f, t, hout, ht⟩ | ⟨mid, r, r', out, hmid, named, wrote, rewrote, hout⟩
  · rw [hout] at hgrown ⊢
    exact hgrown.noted (records_of_others ht.works hw) hn
  · rw [hout] at hgrown ⊢
    intro new hnew hpending hskipped
    have hbefore := records_of_others hmid.others hw
    obtain ⟨old, hold, rfl⟩ := List.mem_map.1 (rewrote.records ▸ hnew)
    by_cases hid : old.id = r.id
    · rw [if_pos hid] at hskipped ⊢
      obtain ⟨mine, hmine, hname, hexecution, hstep⟩ := hh
      have hr := rewrote.alone mine (hbefore ▸ hmine) (hname.trans named.symm)
      rw [rewrote.execution, rewrote.step, ← hr, hexecution, hstep]
      rcases hs with hs | hs
      · refine absurd ?_ hskipped
        rw [wrote.status (by rw [hs]; rfl), hs]
        rfl
      · exact hgrown.started hs
    · rw [if_neg hid] at hpending hskipped ⊢
      exact hgrown.started (hn old (hbefore ▸ hold) hpending hskipped)

end World

end Conductor
