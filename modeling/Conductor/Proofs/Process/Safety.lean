import Conductor.Process

/-! What a process does beside others. While it waits the others change the state as its terms let
it rely on; in each of its turns it changes the state as its terms make it guarantee; and it ends
with a value and a state of which its aim holds. -/

namespace Conductor

/-- What a process may rely on while it waits, and what it guarantees of each of its turns. -/
structure Terms (σ : Type) where
  rely : σ → σ → Prop
  guar : σ → σ → Prop
  rely_refl : ∀ a, rely a a
  rely_trans : ∀ {a b c}, rely a b → rely b c → rely a c
  guar_refl : ∀ a, guar a a
  guar_trans : ∀ {a b c}, guar a b → guar b c → guar a c

namespace Terms

variable {σ : Type}

/-- What others do not undo. -/
def Stable (T : Terms σ) (p : σ → Prop) : Prop := ∀ a b, T.rely a b → p a → p b

/-- Terms that hold the process also to what another one relies on. -/
def bearing (T U : Terms σ) : Terms σ where
  rely := T.rely
  guar a b := T.guar a b ∧ U.rely a b
  rely_refl := T.rely_refl
  rely_trans := T.rely_trans
  guar_refl a := ⟨T.guar_refl a, U.rely_refl a⟩
  guar_trans h h' := ⟨T.guar_trans h.1 h'.1, U.rely_trans h.2 h'.2⟩

/-- Terms on which two processes stand side by side: what each guarantees the other may rely on. -/
structure Beside (T T₁ T₂ : Terms σ) : Prop where
  rely_left : ∀ {a b}, T.rely a b → T₁.rely a b
  rely_right : ∀ {a b}, T.rely a b → T₂.rely a b
  guar_left : ∀ {a b}, T₁.guar a b → T.guar a b
  guar_right : ∀ {a b}, T₂.guar a b → T.guar a b
  left_right : ∀ {a b}, T₁.guar a b → T₂.rely a b
  right_left : ∀ {a b}, T₂.guar a b → T₁.rely a b

end Terms

variable {σ α β : Type}

namespace Round

@[elab_as_elim]
theorem turnInduction {motive : Round σ α → Prop} (done : ∀ value, motive (done value))
    (go : ∀ next, (∀ s, motive (next s).1) → motive (go next)) (r : Round σ α) : motive r :=
  Round.rec (motive_1 := motive) (motive_2 := fun out => motive out.1) done go (fun _ _ h => h) r

mutual

def Safe (T : Terms σ) (aim : α → σ → Prop) : Round σ α → σ → Prop
  | done value, s => aim value s
  | go next, s => ∀ t, T.rely s t → SafeTurn T aim (next t) t

/-- A turn that began in a state, by what it has left. -/
def SafeTurn (T : Terms σ) (aim : α → σ → Prop) : Round σ α × σ → σ → Prop
  | (r, t), s => T.guar s t ∧ Safe T aim r t

end

variable {T : Terms σ} {aim : α → σ → Prop}

@[simp] theorem safe_done {value : α} {s : σ} : Safe T aim (done value) s ↔ aim value s := by
  simp [Safe]

theorem safeTurn_iff {out : Round σ α × σ} {s : σ} :
    SafeTurn T aim out s ↔ T.guar s out.2 ∧ Safe T aim out.1 out.2 := by
  obtain ⟨r, t⟩ := out
  simp [SafeTurn]

@[simp] theorem safe_go {next : σ → Round σ α × σ} {s : σ} :
    Safe T aim (go next) s ↔
      ∀ t, T.rely s t → T.guar t (next t).2 ∧ Safe T aim (next t).1 (next t).2 := by
  simp only [Safe, safeTurn_iff]

theorem Safe.mono {U : Terms σ} {aim' : α → σ → Prop} {r : Round σ α} {s : σ} (h : Safe T aim r s)
    (hr : ∀ a b, U.rely a b → T.rely a b) (hg : ∀ a b, T.guar a b → U.guar a b)
    (ha : ∀ v a, aim v a → aim' v a) : Safe U aim' r s := by
  induction r using turnInduction generalizing s with
  | done value => exact safe_done.2 (ha _ _ (safe_done.1 h))
  | go next ih =>
    rw [safe_go] at h ⊢
    intro t ht
    have ht' := h t (hr _ _ ht)
    exact ⟨hg _ _ ht'.1, ih t ht'.2⟩

theorem Safe.frame {keep : σ → Prop} {r : Round σ α} {s : σ} (h : Safe T aim r s)
    (hr : T.Stable keep) (hg : ∀ a b, T.guar a b → keep a → keep b) (hs : keep s) :
    Safe T (fun v a => aim v a ∧ keep a) r s := by
  induction r using turnInduction generalizing s with
  | done value => exact safe_done.2 ⟨safe_done.1 h, hs⟩
  | go next ih =>
    rw [safe_go] at h ⊢
    intro t ht
    have hn := h t ht
    exact ⟨hn.1, ih t hn.2 (hg _ _ hn.1 (hr _ _ ht hs))⟩

theorem SafeTurn.frame {keep : σ → Prop} {out : Round σ α × σ} {s : σ} (h : SafeTurn T aim out s)
    (hr : T.Stable keep) (hg : ∀ a b, T.guar a b → keep a → keep b) (hs : keep s) :
    SafeTurn T (fun v a => aim v a ∧ keep a) out s := by
  rw [safeTurn_iff] at h ⊢
  exact ⟨h.1, h.2.frame hr hg (hg _ _ h.1 hs)⟩

/-- A process that waits bears what the others do meanwhile. -/
theorem Safe.after {r : Round σ α} {s t : σ} (h : Safe T aim r s) (ha : ∀ v, T.Stable (aim v))
    (ht : T.rely s t) : Safe T aim r t := by
  cases r with
  | done value => exact safe_done.2 (ha value _ _ ht (safe_done.1 h))
  | go next =>
    rw [safe_go] at h ⊢
    exact fun u hu => h u (T.rely_trans ht hu)

theorem Safe.map {aim' : β → σ → Prop} {f : α → β} {r : Round σ α} {s : σ}
    (h : Safe T (fun v a => aim' (f v) a) r s) : Safe T aim' (r.map f) s := by
  induction r using turnInduction generalizing s with
  | done value => simpa [Round.map] using h
  | go next ih =>
    rw [safe_go] at h
    rw [Round.map, safe_go]
    intro t ht
    rw [mapPair_eq]
    exact ⟨(h t ht).1, ih t (h t ht).2⟩

/-- What goes on in the round in which a process ends adds to the last turn of that process. -/
theorem Safe.bind {aim' : β → σ → Prop} {f : α → Process σ β} {r : Round σ α} {s a : σ}
    (h : Safe T aim r s) (hf : ∀ v b, aim v b → SafeTurn T aim' (f v b) b) (ha : T.guar a s) :
    SafeTurn T aim' (r.bind f s) a := by
  induction r using turnInduction generalizing s a with
  | done value =>
    have hv := safeTurn_iff.1 (hf value s (safe_done.1 h))
    exact safeTurn_iff.2 ⟨T.guar_trans ha hv.1, hv.2⟩
  | go next ih =>
    rw [Round.bind, safeTurn_iff]
    refine ⟨ha, safe_go.2 fun t ht => ?_⟩
    have hn := safe_go.1 h t ht
    rw [bindPair_eq]
    exact safeTurn_iff.1 (ih t hn.2 hn.1)

theorem SafeTurn.bind {aim' : β → σ → Prop} {f : α → Process σ β} {out : Round σ α × σ} {s : σ}
    (h : SafeTurn T aim out s) (hf : ∀ v b, aim v b → SafeTurn T aim' (f v b) b) :
    SafeTurn T aim' (bindPair f out) s := by
  rw [safeTurn_iff] at h
  rw [bindPair_eq]
  exact h.2.bind hf h.1

theorem Safe.both {T₁ T₂ : Terms σ} {aim₁ : α → σ → Prop} {aim₂ : β → σ → Prop} {p : Round σ α}
    {q : Round σ β} {s : σ} (hp : Safe T₁ aim₁ p s) (hq : Safe T₂ aim₂ q s) (hT : T.Beside T₁ T₂)
    (h₁ : ∀ v, T₁.Stable (aim₁ v)) (h₂ : ∀ v, T₂.Stable (aim₂ v)) :
    Safe T (fun v a => aim₁ v.1 a ∧ aim₂ v.2 a) (p.both q) s := by
  induction p using turnInduction generalizing q s with
  | done value =>
    -- the one that has ended only waits: the other one must not undo its aim
    have hbears : Safe (T.bearing T₁) aim₂ q s := hq.mono (fun _ _ => hT.rely_right)
      (fun _ _ h => ⟨hT.guar_right h, hT.right_left h⟩) fun _ _ h => h
    have hkeeps := hbears.frame (fun a b h => h₁ value a b (hT.rely_left h))
      (fun a b h => h₁ value a b h.2) (safe_done.1 hp)
    rw [Round.both]
    refine Safe.map ?_
    exact hkeeps.mono (fun _ _ h => h) (fun _ _ h => h.1) fun _ _ h => ⟨h.2, h.1⟩
  | go next ih =>
    rw [Round.both, safe_go]
    intro t ht
    have hn := safe_go.1 hp t (hT.rely_left ht)
    have hnt := T₂.rely_trans (hT.rely_right ht) (hT.left_right hn.1)
    cases q with
    | done value =>
      rw [bothPair_done]
      exact ⟨hT.guar_left hn.1, ih t hn.2 (hq.after h₂ hnt)⟩
    | go nextq =>
      rw [bothPair_go]
      have hnq := safe_go.1 hq _ hnt
      exact ⟨T.guar_trans (hT.guar_left hn.1) (hT.guar_right hnq.1),
        ih t (hn.2.after h₁ (hT.right_left hnq.1)) hnq.2⟩

theorem Safe.run {r : Round σ α} {s a : σ} (h : Safe T aim r s) (ha : T.guar a s) :
    T.guar a (r.run s).2 ∧ aim (r.run s).1 (r.run s).2 := by
  induction r using turnInduction generalizing s a with
  | done value =>
    rw [Round.run]
    exact ⟨ha, safe_done.1 h⟩
  | go next ih =>
    have hn := safe_go.1 h s (T.rely_refl s)
    rw [Round.run, runPair_eq]
    exact ih s hn.2 (T.guar_trans ha hn.1)

end Round

/-- In which states anything is asked of processes. A state that is not calm does not become so again in any of
their turns, whatever others do. -/
structure Weather (σ : Type) where
  drift : Terms σ
  drifts : ∀ a b, drift.rely a b
  calm : σ → Prop
  calm_of_drift : ∀ {a b}, drift.guar a b → calm b → calm a

namespace Round

/-- A process whose turns drift. -/
abbrev Drifts (W : Weather σ) (r : Round σ α) : Prop := ∀ s, Safe W.drift (fun _ _ => True) r s

variable {W : Weather σ}

theorem Drifts.turn {next : σ → Round σ α × σ} (h : Drifts W (go next)) (s : σ) :
    W.drift.guar s (next s).2 ∧ Drifts W (next s).1 := by
  have hs := safe_go.1 (h s) s (W.drifts s s)
  refine ⟨hs.1, fun t => ?_⟩
  exact hs.2.after (fun _ _ _ _ => id) (W.drifts _ t)

theorem drifts_of_turn {out : Round σ α × σ} {s : σ} (h : SafeTurn W.drift (fun _ _ => True) out s) :
    Drifts W out.1 := fun t => (safeTurn_iff.1 h).2.after (fun _ _ _ _ => id) (W.drifts _ t)

theorem drift_bind {f : α → Process σ β} (hf : ∀ v s, W.drift.guar s (f v s).2) (r : Round σ α) (s : σ) :
    W.drift.guar s (r.bind f s).2 := by
  cases r with
  | done value => exact hf value s
  | go next => exact W.drift.guar_refl s

/-- What was calm when a process had run to its end was so before. -/
theorem Drifts.calm_run {r : Round σ α} (h : Drifts W r) {s : σ} (hcalm : W.calm (r.run s).2) : W.calm s :=
  W.calm_of_drift ((h s).run (W.drift.guar_refl s)).1 hcalm

end Round

namespace Process

open Round

variable {T : Terms σ}

theorem safeTurn_run {aim : α → σ → Prop} {p : Process σ α} {s : σ} (h : SafeTurn T aim (p s) s) :
    T.guar s (p.run s).2 ∧ aim (p.run s).1 (p.run s).2 := by
  rw [safeTurn_iff] at h
  rw [Process.run, runPair_eq]
  exact h.2.run h.1

theorem safeTurn_pause {aim : α → σ → Prop} {p : Process σ α} {s : σ}
    (h : ∀ t, T.rely s t → SafeTurn T aim (p t) t) :
    SafeTurn T aim ((pause >>= fun _ => p) s) s := by
  refine safeTurn_iff.2 ⟨T.guar_refl s, safe_go.2 fun t ht => ?_⟩
  exact safeTurn_iff.1 (h t ht)

theorem safeTurn_rest (n : Nat) (s : σ) : SafeTurn T (fun _ t => T.rely s t) (rest n s) s := by
  induction n generalizing s with
  | zero => exact safeTurn_iff.2 ⟨T.guar_refl s, safe_done.2 (T.rely_refl s)⟩
  | succ n ih =>
    refine safeTurn_pause fun t ht => ?_
    have hrest := safeTurn_iff.1 (ih t)
    exact safeTurn_iff.2 ⟨hrest.1, hrest.2.mono (fun _ _ => id) (fun _ _ => id) fun _ _ => T.rely_trans ht⟩

/-- Starting processes changes nothing yet, and their ends are taken up two rounds after the last of them. -/
theorem safeTurn_all {aim : List α → σ → Prop} {ps : List (Process σ α)} {s : σ}
    (h : Safe T aim (Round.all (ps.map Round.go)) s) (ha : ∀ values, T.Stable (aim values)) :
    SafeTurn T aim (Process.all ps s) s := by
  cases ps with
  | nil => exact safeTurn_iff.2 ⟨T.guar_refl s, h⟩
  | cons p rest =>
    have hstart : SafeTurn T aim (Round.all ((p :: rest).map Round.go), s) s :=
      safeTurn_iff.2 ⟨T.guar_refl s, h⟩
    refine hstart.bind fun values b hb => ?_
    refine safeTurn_pause fun t ht => safeTurn_pause fun u hu => ?_
    exact safeTurn_iff.2 ⟨T.guar_refl u, safe_done.2 (ha values _ _ (T.rely_trans ht hu) hb)⟩

end Process

end Conductor
