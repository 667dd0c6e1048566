import Conductor.Proofs.Process.Safety

/-! A process on two states, of which one is the image of the other. It ends with the same value on both, in the
same round, and its turns lead to a state and its image, whatever others do to both meanwhile. Nothing is
asked of it once the state is no longer calm. -/

namespace Conductor

/-- How a state is seen in its image, and which states are fit for that. -/
structure Mirror (σ : Type) extends Weather σ where
  fit : σ → Prop
  image : σ → σ

variable {σ α β : Type}

namespace Round

mutual

def Mirrored (M : Mirror σ) : Round σ α → Prop
  | done _ => True
  | go next => ∀ s, M.fit s → MirroredTurn M (next (M.image s)) (next s)

/-- A turn by what it has left, beside the same turn in the image. -/
def MirroredTurn (M : Mirror σ) (seen : Round σ α × σ) : Round σ α × σ → Prop
  | (r, t) => M.calm t → seen = (r, M.image t) ∧ M.fit t ∧ Mirrored M r

end

variable {M : Mirror σ}

@[simp] theorem mirrored_done {value : α} : Mirrored M (done value) := by simp [Mirrored]

@[simp] theorem mirrored_go {next : σ → Round σ α × σ} :
    Mirrored M (go next) ↔ ∀ s, M.fit s → MirroredTurn M (next (M.image s)) (next s) := by
  simp [Mirrored]

theorem mirroredTurn_iff {seen out : Round σ α × σ} : MirroredTurn M seen out ↔
    (M.calm out.2 → seen = (out.1, M.image out.2) ∧ M.fit out.2 ∧ Mirrored M out.1) := by
  obtain ⟨r, t⟩ := out
  simp [MirroredTurn]

theorem mirroredTurn_still {r : Round σ α} {s : σ} (hs : M.fit s) (hr : Mirrored M r) :
    MirroredTurn M (r, M.image s) (r, s) := mirroredTurn_iff.2 fun _ => ⟨rfl, hs, hr⟩

theorem Mirrored.map {f : α → β} {r : Round σ α} (h : Mirrored M r) : Mirrored M (r.map f) := by
  induction r using turnInduction with
  | done value =>
    rw [Round.map]
    exact mirrored_done
  | go next ih =>
    rw [mirrored_go] at h
    rw [Round.map, mirrored_go]
    intro s hs
    rw [mapPair_eq, mapPair_eq, mirroredTurn_iff]
    intro hcalm
    obtain ⟨hseen, ht, hr⟩ := mirroredTurn_iff.1 (h s hs) hcalm
    exact ⟨by rw [hseen], ht, ih s hr⟩

theorem Mirrored.bind {f : α → Process σ β} {r : Round σ α} {s : σ} (h : Mirrored M r) (hs : M.fit s)
    (hf : ∀ v s, M.fit s → MirroredTurn M (f v (M.image s)) (f v s)) (hd : ∀ v s, M.drift.guar s (f v s).2) :
    MirroredTurn M (r.bind f (M.image s)) (r.bind f s) := by
  induction r using turnInduction generalizing s with
  | done value => exact hf value s hs
  | go next ih =>
    rw [Round.bind, Round.bind]
    refine mirroredTurn_still hs (mirrored_go.2 fun t ht => ?_)
    rw [bindPair_eq, bindPair_eq, mirroredTurn_iff]
    intro hcalm
    -- what follows only drifts, so it was calm when the process ended its turn
    obtain ⟨hseen, ht', hr⟩ := mirroredTurn_iff.1 (mirrored_go.1 h t ht) (M.calm_of_drift (drift_bind hd _ _) hcalm)
    rw [hseen]
    exact mirroredTurn_iff.1 (ih t hr ht') hcalm

theorem MirroredTurn.bind {f : α → Process σ β} {seen out : Round σ α × σ} (h : MirroredTurn M seen out)
    (hf : ∀ v s, M.fit s → MirroredTurn M (f v (M.image s)) (f v s)) (hd : ∀ v s, M.drift.guar s (f v s).2) :
    MirroredTurn M (bindPair f seen) (bindPair f out) := by
  rw [bindPair_eq, bindPair_eq, mirroredTurn_iff]
  intro hcalm
  obtain ⟨hseen, ht, hr⟩ := mirroredTurn_iff.1 h (M.calm_of_drift (drift_bind hd _ _) hcalm)
  rw [hseen]
  exact mirroredTurn_iff.1 (hr.bind ht hf hd) hcalm

theorem Mirrored.both {p : Round σ α} {q : Round σ β} (hp : Mirrored M p) (hq : Mirrored M q)
    (dp : Drifts M.toWeather p) (dq : Drifts M.toWeather q) : Mirrored M (p.both q) := by
  induction p using turnInduction generalizing q with
  | done value =>
    rw [Round.both]
    exact hq.map
  | go next ih =>
    rw [Round.both, mirrored_go]
    intro s hs
    have hfirst := mirroredTurn_iff.1 (mirrored_go.1 hp s hs)
    have dfirst := dp.turn s
    cases q with
    | done value =>
      rw [bothPair_done, bothPair_done, mirroredTurn_iff]
      intro hcalm
      obtain ⟨hseen, ht, hr⟩ := hfirst hcalm
      exact ⟨by rw [hseen], ht, ih s hr hq dfirst.2 dq⟩
    | go nextq =>
      rw [bothPair_go, bothPair_go, mirroredTurn_iff]
      intro hcalm
      have dsecond := dq.turn (next s).2
      -- the first turn was calm, because the second one only drifted
      obtain ⟨hseen, ht, hr⟩ := hfirst (M.calm_of_drift dsecond.1 hcalm)
      obtain ⟨hseen', hu, hr'⟩ := mirroredTurn_iff.1 (mirrored_go.1 hq _ ht) hcalm
      rw [hseen]
      exact ⟨by rw [hseen'], hu, ih s hr hr' dfirst.2 dsecond.2⟩

theorem Mirrored.run {r : Round σ α} {s : σ} (h : Mirrored M r) (hs : M.fit s) (d : Drifts M.toWeather r)
    (hcalm : M.calm (r.run s).2) :
    r.run (M.image s) = ((r.run s).1, M.image (r.run s).2) ∧ M.fit (r.run s).2 := by
  induction r using turnInduction generalizing s with
  | done value => exact ⟨rfl, hs⟩
  | go next ih =>
    rw [Round.run, runPair_eq] at hcalm
    rw [Round.run, Round.run, runPair_eq, runPair_eq]
    have dn := d.turn s
    obtain ⟨hseen, ht, hr⟩ := mirroredTurn_iff.1 (mirrored_go.1 h s hs) (dn.2.calm_run hcalm)
    rw [hseen]
    exact ih s hr ht dn.2 hcalm

end Round

namespace Process

open Round

variable {M : Mirror σ}

/-- A process that may be started in any fit state. -/
def Mirrored (M : Mirror σ) (p : Process σ α) : Prop := ∀ s, M.fit s → MirroredTurn M (p (M.image s)) (p s)

theorem Mirrored.bind {p : Process σ α} {f : α → Process σ β} (h : Mirrored M p) (hf : ∀ v, Mirrored M (f v))
    (hd : ∀ v s, M.drift.guar s (f v s).2) : Mirrored M (p >>= f) :=
  fun s hs => MirroredTurn.bind (h s hs) hf hd

theorem mirrored_pure (value : α) : Mirrored M (pure value : Process σ α) :=
  fun _ hs => mirroredTurn_still hs mirrored_done

theorem mirrored_pause : Mirrored M (pause : Process σ Unit) :=
  fun _ hs => mirroredTurn_still hs (mirrored_go.2 fun _ ht => mirroredTurn_still ht mirrored_done)

theorem mirrored_rest (n : Nat) : Mirrored M (rest n : Process σ Unit) := by
  induction n with
  | zero => exact mirrored_pure ()
  | succ n ih =>
    refine mirrored_pause.bind (fun _ => ih) fun _ s => ?_
    cases n <;> exact M.drift.guar_refl s

theorem mirrored_all {ps : List (Process σ α)} (h : Round.Mirrored M (Round.all (ps.map Round.go))) :
    Mirrored M (Process.all ps) := by
  cases ps with
  | nil => exact mirrored_pure []
  | cons p ps =>
    have hstart : Mirrored M fun s => (Round.all ((p :: ps).map Round.go), s) := fun s hs => mirroredTurn_still hs h
    refine hstart.bind (fun values => mirrored_pause.bind (fun _ => mirrored_pause.bind (fun _ => ?_) ?_) ?_) ?_
    · exact mirrored_pure values
    all_goals exact fun _ s => M.drift.guar_refl s

theorem Mirrored.run {p : Process σ α} (h : Mirrored M p) {s : σ} (hs : M.fit s)
    (d : SafeTurn M.drift (fun _ _ => True) (p s) s) (hcalm : M.calm (p.run s).2) :
    p.run (M.image s) = ((p.run s).1, M.image (p.run s).2) ∧ M.fit (p.run s).2 := by
  rw [Process.run, runPair_eq] at hcalm
  rw [Process.run, Process.run, runPair_eq, runPair_eq]
  have dr : Drifts M.toWeather (p s).1 := drifts_of_turn d
  obtain ⟨hseen, ht, hr⟩ := mirroredTurn_iff.1 (h s hs) (dr.calm_run hcalm)
  rw [hseen]
  exact hr.run ht dr hcalm

end Process

end Conductor
