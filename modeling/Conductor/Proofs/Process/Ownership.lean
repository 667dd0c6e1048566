import Conductor.Proofs.Process.Safety
import Mathlib.Algebra.Group.Basic

/-! What a process makes of its own share of a state. Whatever the rest is and whatever others make of
it, a turn of the process leaves the rest as it finds it; and the process ends with a value and a share
of which its aim holds. Nothing is asked of it once the state is no longer calm. -/

namespace Conductor

/-- What of a state can be owned, and in which states. -/
structure Estate (σ M : Type) extends Weather σ where
  fit : σ → Prop
  whole : σ → M

variable {σ M α β : Type} [AddCommMonoid M]

/-- A state is divided between one's own share and the rest. -/
structure Estate.Holds (E : Estate σ M) (own rest : M) (s : σ) : Prop where
  calm : E.calm s
  fit : E.fit s
  whole : E.whole s = own + rest

namespace Round

mutual

def Owns (E : Estate σ M) (aim : α → M → Prop) : Round σ α → M → Prop
  | done value, own => aim value own
  | go next, own => ∀ s rest, E.Holds own rest s → OwnsTurn E aim rest (next s)

/-- A turn by what it has left, when the rest was as it is. -/
def OwnsTurn (E : Estate σ M) (aim : α → M → Prop) (rest : M) : Round σ α × σ → Prop
  | (r, t) => E.calm t → ∃ own, E.Holds own rest t ∧ Owns E aim r own

end

variable {E : Estate σ M} {aim : α → M → Prop} {own rest : M}

@[simp] theorem owns_done {value : α} : Owns E aim (done value) own ↔ aim value own := by simp [Owns]

@[simp] theorem owns_go {next : σ → Round σ α × σ} :
    Owns E aim (go next) own ↔ ∀ s rest, E.Holds own rest s → OwnsTurn E aim rest (next s) := by
  simp [Owns]

theorem ownsTurn_iff {out : Round σ α × σ} :
    OwnsTurn E aim rest out ↔ (E.calm out.2 → ∃ own, E.Holds own rest out.2 ∧ Owns E aim out.1 own) := by
  obtain ⟨r, t⟩ := out
  simp [OwnsTurn]

theorem Owns.mono {aim' : α → M → Prop} {r : Round σ α} (h : Owns E aim r own)
    (ha : ∀ v m, aim v m → aim' v m) : Owns E aim' r own := by
  induction r using turnInduction generalizing own with
  | done value => exact owns_done.2 (ha _ _ (owns_done.1 h))
  | go next ih =>
    rw [owns_go] at h ⊢
    intro s rest hs
    have hn := ownsTurn_iff.1 (h s rest hs)
    refine ownsTurn_iff.2 fun hcalm => ?_
    obtain ⟨own', hs', hr⟩ := hn hcalm
    exact ⟨own', hs', ih s hr⟩

theorem OwnsTurn.mono {aim' : α → M → Prop} {out : Round σ α × σ} (h : OwnsTurn E aim rest out)
    (ha : ∀ v m, aim v m → aim' v m) : OwnsTurn E aim' rest out := by
  rw [ownsTurn_iff] at h ⊢
  intro hcalm
  obtain ⟨own, hs, hr⟩ := h hcalm
  exact ⟨own, hs, hr.mono ha⟩

theorem Owns.frame {r : Round σ α} (h : Owns E aim r own) (more : M) :
    Owns E (fun v m => ∃ m', m = m' + more ∧ aim v m') r (own + more) := by
  induction r using turnInduction generalizing own with
  | done value => exact owns_done.2 ⟨own, rfl, owns_done.1 h⟩
  | go next ih =>
    rw [owns_go] at h ⊢
    intro s rest hs
    have hn := ownsTurn_iff.1 (h s (more + rest) ⟨hs.calm, hs.fit, by rw [hs.whole, add_assoc]⟩)
    refine ownsTurn_iff.2 fun hcalm => ?_
    obtain ⟨own', hs', hr⟩ := hn hcalm
    exact ⟨own' + more, ⟨hs'.calm, hs'.fit, by rw [hs'.whole, add_assoc]⟩, ih s hr⟩

theorem Owns.map {aim' : β → M → Prop} {f : α → β} {r : Round σ α}
    (h : Owns E (fun v m => aim' (f v) m) r own) : Owns E aim' (r.map f) own := by
  induction r using turnInduction generalizing own with
  | done value => simpa [Round.map] using h
  | go next ih =>
    rw [owns_go] at h
    rw [Round.map, owns_go]
    intro s rest hs
    rw [mapPair_eq]
    have hn := ownsTurn_iff.1 (h s rest hs)
    refine ownsTurn_iff.2 fun hcalm => ?_
    obtain ⟨own', hs', hr⟩ := hn hcalm
    exact ⟨own', hs', ih s hr⟩

/-- What goes on in the round in which a process ends starts from the share that it has left. -/
theorem Owns.bind {aim' : β → M → Prop} {f : α → Process σ β} {r : Round σ α} {s : σ}
    (h : Owns E aim r own) (hs : E.Holds own rest s)
    (hf : ∀ v m, aim v m → ∀ s rest, E.Holds m rest s → OwnsTurn E aim' rest (f v s))
    (hd : ∀ v s, E.drift.guar s (f v s).2) : OwnsTurn E aim' rest (r.bind f s) := by
  induction r using turnInduction generalizing own rest s with
  | done value => exact hf value own (owns_done.1 h) s rest hs
  | go next ih =>
    rw [Round.bind, ownsTurn_iff]
    refine fun _ => ⟨own, hs, owns_go.2 fun t rest' ht => ?_⟩
    rw [bindPair_eq, ownsTurn_iff]
    intro hcalm
    -- what follows only drifts, so it was calm when the process ended its turn
    have hmid := E.calm_of_drift (drift_bind hd (next t).1 (next t).2) hcalm
    obtain ⟨own', ht', hr⟩ := ownsTurn_iff.1 (owns_go.1 h t rest' ht) hmid
    exact ownsTurn_iff.1 (ih t hr ht') hcalm

theorem OwnsTurn.bind {aim' : β → M → Prop} {f : α → Process σ β} {out : Round σ α × σ}
    (h : OwnsTurn E aim rest out)
    (hf : ∀ v m, aim v m → ∀ s rest, E.Holds m rest s → OwnsTurn E aim' rest (f v s))
    (hd : ∀ v s, E.drift.guar s (f v s).2) : OwnsTurn E aim' rest (bindPair f out) := by
  rw [bindPair_eq, ownsTurn_iff]
  intro hcalm
  have hmid := E.calm_of_drift (drift_bind hd out.1 out.2) hcalm
  obtain ⟨own, hs, hr⟩ := ownsTurn_iff.1 h hmid
  exact ownsTurn_iff.1 (hr.bind hs hf hd) hcalm

/-- Two processes side by side make of their shares together what each makes of its own. -/
theorem Owns.both {aim₁ : α → M → Prop} {aim₂ : β → M → Prop} {p : Round σ α} {q : Round σ β} {own₁ own₂ : M}
    (hp : Owns E aim₁ p own₁) (hq : Owns E aim₂ q own₂) (dp : Drifts E.toWeather p)
    (dq : Drifts E.toWeather q) :
    Owns E (fun v m => ∃ m₁ m₂, m = m₁ + m₂ ∧ aim₁ v.1 m₁ ∧ aim₂ v.2 m₂) (p.both q) (own₁ + own₂) := by
  induction p using turnInduction generalizing q own₁ own₂ with
  | done value =>
    rw [Round.both]
    refine Owns.map ((add_comm own₂ own₁ ▸ hq.frame own₁).mono ?_)
    rintro v m ⟨m₂, rfl, h₂⟩
    exact ⟨own₁, m₂, add_comm _ _, owns_done.1 hp, h₂⟩
  | go next ih =>
    rw [Round.both, owns_go]
    intro s rest hs
    have hfirst := ownsTurn_iff.1 (owns_go.1 hp s (own₂ + rest) ⟨hs.calm, hs.fit, by rw [hs.whole, add_assoc]⟩)
    have dfirst := dp.turn s
    cases q with
    | done value =>
      rw [bothPair_done, ownsTurn_iff]
      intro hcalm
      obtain ⟨own, ht, hr⟩ := hfirst hcalm
      exact ⟨own + own₂, ⟨ht.calm, ht.fit, by rw [ht.whole, add_assoc]⟩, ih s hr hq dfirst.2 dq⟩
    | go nextq =>
      rw [bothPair_go, ownsTurn_iff]
      intro hcalm
      have dsecond := dq.turn (next s).2
      -- the first turn was calm, because the second one only drifted
      obtain ⟨own, ht, hr⟩ := hfirst (E.calm_of_drift dsecond.1 hcalm)
      have hsecond := ownsTurn_iff.1 (owns_go.1 hq _ (own + rest)
        ⟨ht.calm, ht.fit, by rw [ht.whole, add_left_comm]⟩)
      obtain ⟨own', hu, hr'⟩ := hsecond hcalm
      exact ⟨own + own', ⟨hu.calm, hu.fit, by rw [hu.whole, ← add_assoc, add_comm own' own]⟩,
        ih s hr hr' dfirst.2 dsecond.2⟩

theorem Owns.run {r : Round σ α} {s : σ} (h : Owns E aim r own) (hs : E.Holds own rest s)
    (d : Drifts E.toWeather r) (hcalm : E.calm (r.run s).2) :
    ∃ own, E.Holds own rest (r.run s).2 ∧ aim (r.run s).1 own := by
  induction r using turnInduction generalizing own s with
  | done value =>
    rw [Round.run] at hcalm ⊢
    exact ⟨own, hs, owns_done.1 h⟩
  | go next ih =>
    rw [Round.run, runPair_eq] at hcalm ⊢
    have dn := d.turn s
    obtain ⟨own', hs', hr⟩ := ownsTurn_iff.1 (owns_go.1 h s rest hs) (dn.2.calm_run hcalm)
    exact ih s hr hs' dn.2 hcalm

end Round

namespace Process

open Round

variable {E : Estate σ M} {own rest : M}

theorem ownsTurn_pause {aim : α → M → Prop} {p : Process σ α} {s : σ} (hs : E.Holds own rest s)
    (h : ∀ t rest, E.Holds own rest t → OwnsTurn E aim rest (p t)) :
    OwnsTurn E aim rest ((pause >>= fun _ => p) s) :=
  ownsTurn_iff.2 fun _ => ⟨own, hs, owns_go.2 fun t rest' ht => h t rest' ht⟩

theorem ownsTurn_rest (n : Nat) {s : σ} (hs : E.Holds own rest s) :
    OwnsTurn E (fun _ m => m = own) rest (Process.rest n s) := by
  induction n generalizing rest s with
  | zero => exact ownsTurn_iff.2 fun _ => ⟨own, hs, owns_done.2 rfl⟩
  | succ n ih => exact ownsTurn_pause hs fun t rest' ht => ih ht

theorem ownsTurn_all {aim : List α → M → Prop} {ps : List (Process σ α)} {s : σ}
    (h : Owns E aim (Round.all (ps.map Round.go)) own) (hs : E.Holds own rest s) :
    OwnsTurn E aim rest (Process.all ps s) := by
  cases ps with
  | nil => exact ownsTurn_iff.2 fun _ => ⟨own, hs, h⟩
  | cons p ps =>
    have hstart : OwnsTurn E aim rest (Round.all ((p :: ps).map Round.go), s) :=
      ownsTurn_iff.2 fun _ => ⟨own, hs, h⟩
    refine hstart.bind (fun values m hm t rest' ht => ?_) fun values t => E.drift.guar_refl t
    refine ownsTurn_pause ht fun t rest' ht => ownsTurn_pause ht fun t rest' ht => ?_
    exact ownsTurn_iff.2 fun _ => ⟨m, ht, owns_done.2 hm⟩

theorem ownsTurn_run {aim : α → M → Prop} {p : Process σ α} {s : σ} (h : OwnsTurn E aim rest (p s))
    (d : SafeTurn E.drift (fun _ _ => True) (p s) s) (hcalm : E.calm (p.run s).2) :
    ∃ own, E.Holds own rest (p.run s).2 ∧ aim (p.run s).1 own := by
  rw [Process.run, runPair_eq] at hcalm ⊢
  have dr : Drifts E.toWeather (p s).1 := drifts_of_turn d
  obtain ⟨own, hs, hr⟩ := ownsTurn_iff.1 h (dr.calm_run hcalm)
  exact hr.run hs dr hcalm

end Process

end Conductor
