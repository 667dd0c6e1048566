import Conductor.Proofs.Process.Safety

/-! The course of a process: what it adds to a log in each of its turns, and how it ends, where neither depends on
the states in which its turns begin. Such a process takes the same course whatever others do meanwhile. How long it
waits may depend on them, unless it is strict; then what it adds comes in another order. Nothing is asked of it once
the state is no longer calm. -/

namespace Conductor

/-- What is added in each turn, from the one in which a process is started. -/
structure Course (A : Type) where
  now : List A := []
  later : List (List A) := []

namespace Course

variable {A B : Type}

def turns (k : Course A) : List (List A) := k.now :: k.later

/-- All that is added, in its order. -/
def entries (k : Course A) : List A := k.turns.flatten

/-- One course and then another, which begins in the turn in which the first one ends. -/
def follow (now : List A) : List (List A) → Course A → Course A
  | [], k => ⟨now ++ k.now, k.later⟩
  | next :: later, k => ⟨now, (follow next later k).turns⟩

instance : Append (Course A) := ⟨fun k k' => follow k.now k.later k'⟩

theorem append_def (k k' : Course A) : k ++ k' = follow k.now k.later k' := rfl

/-- Turns that are taken side by side. -/
def beside : List (List A) → List (List A) → List (List A)
  | [], others => others
  | turn :: rest, [] => turn :: rest
  | turn :: rest, other :: others => (turn ++ other) :: beside rest others

def map (f : A → B) (k : Course A) : Course B := ⟨k.now.map f, k.later.map (List.map f)⟩

@[simp] theorem beside_nil (turns : List (List A)) : beside turns [] = turns := by
  cases turns <;> rfl

theorem follow_nil (now : List A) (later : List (List A)) : follow now later {} = ⟨now, later⟩ := by
  induction later generalizing now with
  | nil => simp [follow]
  | cons next rest ih => rw [follow, ih, turns]

@[simp] theorem append_nil (k : Course A) : k ++ ({} : Course A) = k := follow_nil k.now k.later

@[simp] theorem nil_append (k : Course A) : ({} : Course A) ++ k = k := rfl

theorem entries_append (k k' : Course A) : (k ++ k').entries = k.entries ++ k'.entries := by
  obtain ⟨now, later⟩ := k
  rw [append_def]
  induction later generalizing now with
  | nil => simp [follow, entries, turns]
  | cons next rest ih =>
    have hrest : (follow next rest k').turns.flatten = next ++ rest.flatten ++ k'.entries := ih next
    show now ++ (follow next rest k').turns.flatten = now ++ (next ++ rest.flatten) ++ k'.entries
    simp only [hrest, List.append_assoc]

theorem perm_flatten_beside (turns others : List (List A)) :
    (beside turns others).flatten.Perm (turns.flatten ++ others.flatten) := by
  induction turns generalizing others with
  | nil => exact .refl _
  | cons turn rest ih =>
    cases others with
    | nil => simp [beside]
    | cons other others =>
      have hmiddle := List.perm_append_comm_assoc other rest.flatten others.flatten
      have hrest := ((ih others).append_left other).trans hmiddle
      simpa [beside] using hrest.append_left turn

/-- Turns in which the same is added, and by the same turns when they are strict. -/
structure Alike (strict : Prop) (turns others : List (List A)) : Prop where
  perm : turns.flatten.Perm others.flatten
  same : strict → turns = others

variable {strict : Prop} {turns turns' others others' : List (List A)}

theorem Alike.refl (turns : List (List A)) : Alike strict turns turns := ⟨.refl _, fun _ => rfl⟩

theorem Alike.trans (h : Alike strict turns others) (h' : Alike strict others others') : Alike strict turns others' :=
  ⟨h.perm.trans h'.perm, fun hs => (h.same hs).trans (h'.same hs)⟩

theorem Alike.symm (h : Alike strict turns others) : Alike strict others turns :=
  ⟨h.perm.symm, fun hs => (h.same hs).symm⟩

theorem Alike.cons (now : List A) (h : Alike strict turns others) : Alike strict (now :: turns) (now :: others) :=
  ⟨h.perm.append_left now, fun hs => congrArg (now :: ·) (h.same hs)⟩

theorem Alike.append {k k' l l' : Course A} (h : Alike strict k.turns k'.turns) (h' : Alike strict l.turns l'.turns) :
    Alike strict (k ++ l).turns (k' ++ l').turns where
  perm := by
    have hentries := h.perm.append h'.perm
    rwa [show (k ++ l).turns.flatten = k.turns.flatten ++ l.turns.flatten from entries_append k l,
      show (k' ++ l').turns.flatten = k'.turns.flatten ++ l'.turns.flatten from entries_append k' l']
  same hs := by
    obtain ⟨now, later⟩ := k
    obtain ⟨now', later'⟩ := k'
    obtain ⟨next, rest⟩ := l
    obtain ⟨next', rest'⟩ := l'
    cases h.same hs
    cases h'.same hs
    rfl

theorem Alike.beside (h : Alike strict turns turns') (h' : Alike strict others others') :
    Alike strict (Course.beside turns others) (Course.beside turns' others') where
  perm := (perm_flatten_beside turns others).trans
    ((h.perm.append h'.perm).trans (perm_flatten_beside turns' others').symm)
  same hs := by rw [h.same hs, h'.same hs]

theorem Alike.map (f : A → B) (h : Alike strict turns others) :
    Alike strict (turns.map (List.map f)) (others.map (List.map f)) where
  perm := by
    rw [← List.map_flatten, ← List.map_flatten]
    exact h.perm.map f
  same hs := by rw [h.same hs]

end Course

open Course

/-- What turns add to the states in which they are taken, in which states anything is asked of them, and whether they
are strict. -/
structure Chronicle (σ A : Type) extends Weather σ where
  strict : Prop
  fit : σ → Prop
  adds : List A → σ → σ → Prop
  adds_nil : ∀ s, adds [] s s
  adds_append : ∀ {new more a b c}, adds new a b → adds more b c → adds (new ++ more) a c

variable {σ A B α β : Type}

/-- A state in which a turn may begin. -/
structure Chronicle.Opens (K : Chronicle σ A) (s : σ) : Prop where
  calm : K.calm s
  fit : K.fit s

namespace Round

mutual

/-- A process that adds what it is to add in turns like those that are given, and ends as it is meant to. -/
def Pursues (K : Chronicle σ A) (aim : α → Prop) (turns : List (List A)) : Round σ α → Prop
  | done value => Alike K.strict [] turns ∧ aim value
  | go next => ∃ k : Course A, Alike K.strict k.turns turns ∧ ∀ s, K.Opens s → PursuesTurn K aim k s (next s)

/-- A turn that began in a state, by what it has left. -/
def PursuesTurn (K : Chronicle σ A) (aim : α → Prop) (k : Course A) (s : σ) : Round σ α × σ → Prop
  | (r, t) => K.calm t →
    K.fit t ∧ ∃ k' : Course A, Alike K.strict k'.turns k.turns ∧ K.adds k'.now s t ∧ Pursues K aim k'.later r

end

variable {K : Chronicle σ A} {aim : α → Prop} {turns turns' : List (List A)} {k k' : Course A} {s : σ}

theorem pursues_done {value : α} : Pursues K aim turns (done value) ↔ Alike K.strict [] turns ∧ aim value := by
  rw [Pursues]

theorem pursues_go {next : σ → Round σ α × σ} :
    Pursues K aim turns (go next) ↔
      ∃ k : Course A, Alike K.strict k.turns turns ∧ ∀ s, K.Opens s → PursuesTurn K aim k s (next s) := by
  rw [Pursues]

theorem pursuesTurn_iff {out : Round σ α × σ} :
    PursuesTurn K aim k s out ↔ (K.calm out.2 → K.fit out.2 ∧
      ∃ k' : Course A, Alike K.strict k'.turns k.turns ∧ K.adds k'.now s out.2 ∧ Pursues K aim k'.later out.1) := by
  obtain ⟨r, t⟩ := out
  rw [PursuesTurn]

/-- A turn in which the given course is taken. -/
theorem pursuesTurn_of {out : Round σ α × σ}
    (h : K.calm out.2 → K.fit out.2 ∧ K.adds k.now s out.2 ∧ Pursues K aim k.later out.1) : PursuesTurn K aim k s out :=
  pursuesTurn_iff.2 fun hcalm => (h hcalm).imp_right fun hturn => ⟨k, .refl _, hturn⟩

theorem Pursues.alike {r : Round σ α} (h : Pursues K aim turns r) (ha : Alike K.strict turns turns') :
    Pursues K aim turns' r := by
  cases r with
  | done value =>
    rw [pursues_done] at h ⊢
    exact ⟨h.1.trans ha, h.2⟩
  | go next =>
    obtain ⟨k, hk, hnext⟩ := pursues_go.1 h
    exact pursues_go.2 ⟨k, hk.trans ha, hnext⟩

theorem PursuesTurn.alike {out : Round σ α × σ} (h : PursuesTurn K aim k s out)
    (ha : Alike K.strict k.turns k'.turns) : PursuesTurn K aim k' s out := by
  refine pursuesTurn_iff.2 fun hcalm => ?_
  obtain ⟨hfit, k₁, hk₁, hturn⟩ := pursuesTurn_iff.1 h hcalm
  exact ⟨hfit, k₁, hk₁.trans ha, hturn⟩

theorem Pursues.mono {aim' : α → Prop} {r : Round σ α} (h : Pursues K aim turns r) (ha : ∀ v, aim v → aim' v) :
    Pursues K aim' turns r := by
  induction r using turnInduction generalizing turns with
  | done value =>
    rw [pursues_done] at h ⊢
    exact ⟨h.1, ha _ h.2⟩
  | go next ih =>
    obtain ⟨k, hk, hnext⟩ := pursues_go.1 h
    refine pursues_go.2 ⟨k, hk, fun s hs => pursuesTurn_iff.2 fun hcalm => ?_⟩
    obtain ⟨hfit, k', hk', hadds, hr⟩ := pursuesTurn_iff.1 (hnext s hs) hcalm
    exact ⟨hfit, k', hk', hadds, ih s hr⟩

theorem PursuesTurn.mono {aim' : α → Prop} {out : Round σ α × σ} (h : PursuesTurn K aim k s out)
    (ha : ∀ v, aim v → aim' v) : PursuesTurn K aim' k s out := by
  refine pursuesTurn_iff.2 fun hcalm => ?_
  obtain ⟨hfit, k', hk', hadds, hr⟩ := pursuesTurn_iff.1 h hcalm
  exact ⟨hfit, k', hk', hadds, hr.mono ha⟩

theorem pursuesTurn_done {value : α} (hs : K.Opens s) (h : aim value) : PursuesTurn K aim {} s (done value, s) :=
  pursuesTurn_of fun _ => ⟨hs.fit, K.adds_nil s, pursues_done.2 ⟨.refl _, h⟩⟩

/-- What is added may be told in another way. -/
theorem Pursues.relabel {K' : Chronicle σ B} {f : A → B} {r : Round σ α} (h : Pursues K aim turns r)
    (hstrict : K'.strict → K.strict) (hcalm : ∀ s, K'.calm s ↔ K.calm s) (hfit : ∀ s, K'.fit s ↔ K.fit s)
    (hadds : ∀ new s t, K.adds new s t → K'.adds (new.map f) s t) :
    Pursues K' aim (turns.map (List.map f)) r := by
  have hmap {turns others : List (List A)} (ha : Alike K.strict turns others) :
      Alike K'.strict (turns.map (List.map f)) (others.map (List.map f)) :=
    Alike.map f ⟨ha.perm, fun hs => ha.same (hstrict hs)⟩
  induction r using turnInduction generalizing turns with
  | done value =>
    rw [pursues_done] at h ⊢
    exact ⟨hmap h.1, h.2⟩
  | go next ih =>
    obtain ⟨k, hk, hnext⟩ := pursues_go.1 h
    refine pursues_go.2 ⟨k.map f, hmap hk, fun s hs => pursuesTurn_iff.2 fun ht => ?_⟩
    have hopens : K.Opens s := ⟨(hcalm s).1 hs.calm, (hfit s).1 hs.fit⟩
    obtain ⟨hfit', k', hk', hadd, hr⟩ := pursuesTurn_iff.1 (hnext s hopens) ((hcalm _).1 ht)
    exact ⟨(hfit _).2 hfit', k'.map f, hmap hk', hadds _ _ _ hadd, ih s hr⟩

theorem Pursues.map {aim' : β → Prop} {f : α → β} {r : Round σ α} (h : Pursues K (fun v => aim' (f v)) turns r) :
    Pursues K aim' turns (r.map f) := by
  induction r using turnInduction generalizing turns with
  | done value =>
    rw [pursues_done] at h
    exact pursues_done.2 h
  | go next ih =>
    obtain ⟨k, hk, hnext⟩ := pursues_go.1 h
    rw [Round.map]
    refine pursues_go.2 ⟨k, hk, fun s hs => ?_⟩
    rw [mapPair_eq, pursuesTurn_iff]
    intro hcalm
    obtain ⟨hfit, k', hk', hadds, hr⟩ := pursuesTurn_iff.1 (hnext s hs) hcalm
    exact ⟨hfit, k', hk', hadds, ih s hr⟩

/-- What goes on in the turn in which a process ends goes on in its course. -/
theorem PursuesTurn.bind {aim' : β → Prop} {f : α → Process σ β} {out : Round σ α × σ} {k' : Course A}
    (h : PursuesTurn K aim k s out)
    (hf : ∀ v, aim v → ∀ t, K.Opens t → PursuesTurn K aim' k' t (f v t))
    (hd : ∀ v t, K.drift.guar t (f v t).2) : PursuesTurn K aim' (k ++ k') s (bindPair f out) := by
  obtain ⟨r, t⟩ := out
  rw [bindPair]
  induction r using turnInduction generalizing k s t with
  | done value =>
    rw [Round.bind, pursuesTurn_iff]
    intro hcalm
    have ht := K.calm_of_drift (hd value t) hcalm
    obtain ⟨hfit, ⟨now, later⟩, hk, hadds, hdone⟩ := pursuesTurn_iff.1 h ht
    obtain ⟨hnil, haim⟩ := pursues_done.1 hdone
    obtain ⟨hfit', ⟨now', later'⟩, hk', hadds', hr⟩ := pursuesTurn_iff.1 (hf value haim t ⟨ht, hfit⟩) hcalm
    have hended : Alike K.strict (⟨now, []⟩ : Course A).turns k.turns := (hnil.cons now).trans hk
    exact ⟨hfit', ⟨now ++ now', later'⟩, hended.append hk', K.adds_append hadds hadds', hr⟩
  | go next ih =>
    rw [Round.bind, pursuesTurn_iff]
    intro hcalm
    obtain ⟨hfit, ⟨now, later⟩, hk, hadds, hgo⟩ := pursuesTurn_iff.1 h hcalm
    obtain ⟨rest, hrest, hnext⟩ := pursues_go.1 hgo
    have htaken : Alike K.strict (⟨now, rest.turns⟩ : Course A).turns k.turns := (hrest.cons now).trans hk
    refine ⟨hfit, ⟨now, (rest ++ k').turns⟩, htaken.append (.refl k'.turns), hadds,
      pursues_go.2 ⟨rest ++ k', .refl _, fun u hu => ?_⟩⟩
    rw [bindPair_eq]
    exact ih u (next u).2 (hnext u hu)

/-- Two processes side by side take their courses side by side. -/
theorem Pursues.both {aim' : β → Prop} {p : Round σ α} {q : Round σ β} {others : List (List A)}
    (hp : Pursues K aim turns p) (hq : Pursues K aim' others q) (dp : Drifts K.toWeather p)
    (dq : Drifts K.toWeather q) :
    Pursues K (fun v => aim v.1 ∧ aim' v.2) (Course.beside turns others) (p.both q) := by
  induction p using turnInduction generalizing q turns others with
  | done value =>
    obtain ⟨hnil, hv⟩ := pursues_done.1 hp
    rw [Round.both]
    have hrest : Pursues K (fun v => aim v.1 ∧ aim' v.2) others (q.map (value, ·)) :=
      Pursues.map (hq.mono fun _ hw => ⟨hv, hw⟩)
    exact hrest.alike (hnil.beside (.refl others))
  | go next ih =>
    obtain ⟨k, hk, hnext⟩ := pursues_go.1 hp
    rw [Round.both]
    cases q with
    | done value =>
      have hnil := (pursues_done.1 hq).1
      have hbeside := hk.beside hnil
      rw [Course.beside_nil] at hbeside
      refine pursues_go.2 ⟨k, hbeside, fun s hs => ?_⟩
      rw [bothPair_done, pursuesTurn_iff]
      intro hcalm
      obtain ⟨hfit, k', hk', hadds, hr⟩ := pursuesTurn_iff.1 (hnext s hs) hcalm
      have hrest := ih s hr (pursues_done.2 ⟨.refl [], (pursues_done.1 hq).2⟩) (dp.turn s).2 dq
      rw [Course.beside_nil] at hrest
      exact ⟨hfit, k', hk', hadds, hrest⟩
    | go nextq =>
      obtain ⟨l, hl, hnextq⟩ := pursues_go.1 hq
      refine pursues_go.2 ⟨⟨k.now ++ l.now, Course.beside k.later l.later⟩, hk.beside hl, fun s hs => ?_⟩
      rw [bothPair_go, pursuesTurn_iff]
      intro hcalm
      have dfirst := dp.turn s
      have dsecond := dq.turn (next s).2
      -- the first turn was calm, because the second one only drifted
      have hmid := K.calm_of_drift dsecond.1 hcalm
      obtain ⟨hfit, k', hk', hadds, hr⟩ := pursuesTurn_iff.1 (hnext s hs) hmid
      obtain ⟨hfit', l', hl', hadds', hr'⟩ := pursuesTurn_iff.1 (hnextq _ ⟨hmid, hfit⟩) hcalm
      exact ⟨hfit', ⟨k'.now ++ l'.now, Course.beside k'.later l'.later⟩, hk'.beside hl',
        K.adds_append hadds hadds', ih s hr hr' dfirst.2 dsecond.2⟩

theorem Pursues.run {r : Round σ α} (h : Pursues K aim turns r) (hs : K.Opens s) (d : Drifts K.toWeather r)
    (hcalm : K.calm (r.run s).2) :
    K.fit (r.run s).2 ∧ (∃ taken, Alike K.strict taken turns ∧ K.adds taken.flatten s (r.run s).2) ∧
      aim (r.run s).1 := by
  induction r using turnInduction generalizing turns s with
  | done value =>
    obtain ⟨hnil, hv⟩ := pursues_done.1 h
    rw [Round.run]
    exact ⟨hs.fit, ⟨[], hnil, K.adds_nil s⟩, hv⟩
  | go next ih =>
    obtain ⟨k, hk, hnext⟩ := pursues_go.1 h
    rw [Round.run, runPair_eq] at hcalm ⊢
    have dn := d.turn s
    have hmid := dn.2.calm_run hcalm
    obtain ⟨hfit, k', hk', hadds, hr⟩ := pursuesTurn_iff.1 (hnext s hs) hmid
    obtain ⟨hfit', ⟨taken, htaken, hadds'⟩, hv⟩ := ih s hr ⟨hmid, hfit⟩ dn.2 hcalm
    exact ⟨hfit', ⟨k'.now :: taken, (htaken.cons k'.now).trans (hk'.trans hk), K.adds_append hadds hadds'⟩, hv⟩

end Round

namespace Process

open Round

variable {K : Chronicle σ A} {aim : α → Prop} {k : Course A} {s : σ}

theorem pursuesTurn_wait {turns : List (List A)} {r : Round σ α} (hs : K.Opens s) (h : Pursues K aim turns r) :
    PursuesTurn K aim ⟨[], turns⟩ s (r, s) :=
  pursuesTurn_of fun _ => ⟨hs.fit, K.adds_nil s, h⟩

theorem pursuesTurn_pause {p : Process σ α} (hs : K.Opens s) (h : ∀ t, K.Opens t → PursuesTurn K aim k t (p t)) :
    PursuesTurn K aim ⟨[], k.turns⟩ s ((pause >>= fun _ => p) s) :=
  pursuesTurn_wait hs (pursues_go.2 ⟨k, .refl _, h⟩)

theorem pursuesTurn_rest (n : Nat) (hs : K.Opens s) :
    PursuesTurn K (fun _ => True) ⟨[], List.replicate n []⟩ s (rest n s) := by
  induction n generalizing s with
  | zero => exact pursuesTurn_done hs trivial
  | succ n ih => exact pursuesTurn_pause hs fun t ht => ih ht

/-- Processes that are waited for begin in the next turn, and what follows them two turns after they have ended. -/
def waiting (turns : List (List A)) : Course A :=
  if turns.isEmpty then {} else ⟨[], turns⟩ ++ (⟨[], [[], []]⟩ : Course A)

theorem entries_waiting (turns : List (List A)) : (waiting turns).entries = turns.flatten := by
  cases turns with
  | nil => rfl
  | cons turn rest =>
    show (⟨[], turn :: rest⟩ ++ (⟨[], [[], []]⟩ : Course A)).entries = _
    rw [Course.entries_append]
    exact List.append_nil _

theorem alike_waiting {strict : Prop} {turns others : List (List A)} (h : Alike strict turns others) :
    Alike strict (waiting turns).turns (waiting others).turns where
  perm := by
    have hentries := h.perm
    rwa [← entries_waiting turns, ← entries_waiting others] at hentries
  same hs := by rw [h.same hs]

theorem pursuesTurn_all {aim : List α → Prop} {turns : List (List A)} {ps : List (Process σ α)}
    (h : Pursues K aim turns (Round.all (ps.map Round.go))) (hs : K.Opens s) :
    PursuesTurn K aim (waiting turns) s (Process.all ps s) := by
  cases ps with
  | nil =>
    obtain ⟨hnil, hnone⟩ := pursues_done.1 h
    exact (pursuesTurn_done hs hnone).alike (alike_waiting hnil)
  | cons p rest =>
    obtain ⟨next, hgo⟩ : ∃ next, Round.all ((p :: rest).map Round.go) = .go next := ⟨_, rfl⟩
    rw [hgo] at h
    obtain ⟨k, hk, hnext⟩ := pursues_go.1 h
    have hstart : PursuesTurn K aim ⟨[], k.turns⟩ s (Round.all ((p :: rest).map Round.go), s) :=
      pursuesTurn_wait hs (hgo ▸ pursues_go.2 ⟨k, .refl _, hnext⟩)
    have hall : PursuesTurn K aim (waiting k.turns) s (Process.all (p :: rest) s) := by
      refine hstart.bind (fun values hv t ht => ?_) fun values t => K.drift.guar_refl t
      refine pursuesTurn_pause (k := ⟨[], [[]]⟩) ht fun t ht => pursuesTurn_pause (k := {}) ht fun t ht => ?_
      exact pursuesTurn_done ht hv
    exact hall.alike (alike_waiting hk)

end Process

end Conductor
