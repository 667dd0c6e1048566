import Conductor.Proofs.Validation.Accepted

/-! Where the steps of a definition stand: which steps come before which, and that what is visible to a
step while the checks go down the tree is just what stands before it. References that only lead back in
this way make no circle. -/

namespace Conductor

namespace Validation

/-! Positions -/

/-- The two lists of a condition among the steps of `pool`. With the top of a definition these are the
lists whose members follow one another; the branches of a parallel step do not. -/
inductive Choice (pool : List Step) : List Step → Prop
  | whenTrue {id test : String} {whenTrue whenFalse : List Step} :
    .condition id test whenTrue whenFalse ∈ pool → Choice pool whenTrue
  | whenFalse {id test : String} {whenTrue whenFalse : List Step} :
    .condition id test whenTrue whenFalse ∈ pool → Choice pool whenFalse

/-- Of two siblings in the row, the one that comes first is or holds `earlier` and the other is or holds
`later`. -/
def Precedes (row : List Step) (earlier later : Step) : Prop :=
  ∃ first second, [first, second].Sublist row ∧ earlier ∈ first.flat ∧ later ∈ second.flat

/-- The same in one of the lists of the conditions in `pool`. -/
def Inside (pool : List Step) (earlier later : Step) : Prop :=
  ∃ row, Choice pool row ∧ Precedes row earlier later

/-- Among steps that follow one another, with all that they hold. -/
def Before (steps : List Step) (earlier later : Step) : Prop :=
  Precedes steps earlier later ∨ Inside (Step.flatAll steps) earlier later

theorem Choice.mono {pool more row : List Step} (h : Choice pool row) (hsub : ∀ step ∈ pool, step ∈ more) :
    Choice more row := by
  cases h with
  | whenTrue h => exact .whenTrue (hsub _ h)
  | whenFalse h => exact .whenFalse (hsub _ h)

theorem choice_append {xs ys row : List Step} : Choice (xs ++ ys) row ↔ Choice xs row ∨ Choice ys row := by
  constructor
  · intro h
    cases h with
    | whenTrue h => exact (List.mem_append.1 h).imp .whenTrue .whenTrue
    | whenFalse h => exact (List.mem_append.1 h).imp .whenFalse .whenFalse
  · rintro (h | h)
    · exact h.mono fun _ => List.mem_append_left _
    · exact h.mono fun _ => List.mem_append_right _

theorem Inside.mono {pool more : List Step} {earlier later : Step} (h : Inside pool earlier later)
    (hsub : ∀ step ∈ pool, step ∈ more) : Inside more earlier later := by
  obtain ⟨row, hrow, h⟩ := h
  exact ⟨row, hrow.mono hsub, h⟩

theorem inside_append {xs ys : List Step} {earlier later : Step} :
    Inside (xs ++ ys) earlier later ↔ Inside xs earlier later ∨ Inside ys earlier later := by
  simp only [Inside, choice_append, or_and_right, exists_or]

theorem mem_flatAll {steps : List Step} {inner : Step} :
    inner ∈ Step.flatAll steps ↔ ∃ step ∈ steps, inner ∈ step.flat := by
  induction steps with
  | nil => simp [Step.flatAll]
  | cons step rest ih => simp [Step.flatAll, ih]

theorem mem_flat_self (step : Step) : step ∈ step.flat := by
  rw [Step.flat_eq]
  exact List.mem_cons_self

theorem precedes_cons {step : Step} {rest : List Step} {earlier later : Step} :
    Precedes (step :: rest) earlier later ↔
      (earlier ∈ step.flat ∧ later ∈ Step.flatAll rest) ∨ Precedes rest earlier later := by
  constructor
  · rintro ⟨first, second, hrow, he, hl⟩
    cases hrow with
    | cons _ hrow => exact .inr ⟨first, second, hrow, he, hl⟩
    | cons_cons _ hrow =>
      have hsecond : second ∈ rest := List.singleton_sublist.1 hrow
      exact .inl ⟨he, mem_flatAll.2 ⟨second, hsecond, hl⟩⟩
  · rintro (⟨he, hl⟩ | ⟨first, second, hrow, he, hl⟩)
    · obtain ⟨second, hsecond, hl⟩ := mem_flatAll.1 hl
      exact ⟨step, second, (List.singleton_sublist.2 hsecond).cons_cons step, he, hl⟩
    · exact ⟨first, second, hrow.cons step, he, hl⟩

theorem not_inside_nil {earlier later : Step} : ¬ Inside [] earlier later := by
  rintro ⟨row, hrow, -⟩
  cases hrow with
  | whenTrue h => cases h
  | whenFalse h => cases h

theorem not_before_nil {earlier later : Step} : ¬ Before [] earlier later := by
  rintro (⟨first, second, hrow, -⟩ | h)
  · cases hrow
  · exact not_inside_nil h

theorem before_cons {step : Step} {rest : List Step} {earlier later : Step} :
    Before (step :: rest) earlier later ↔
      (earlier ∈ step.flat ∧ later ∈ Step.flatAll rest) ∨ Inside step.flat earlier later ∨
        Before rest earlier later := by
  rw [Before, precedes_cons, Step.flatAll, inside_append, Before]
  tauto

theorem inside_condition {id test : String} {whenTrue whenFalse : List Step} {earlier later : Step} :
    Inside (Step.condition id test whenTrue whenFalse).flat earlier later ↔
      Before whenTrue earlier later ∨ Before whenFalse earlier later := by
  rw [Step.flat]
  constructor
  · rintro ⟨row, hrow, h⟩
    cases hrow with
    | whenTrue hc =>
      rcases List.mem_cons.1 hc with he | hc
      · cases he
        exact .inl (.inl h)
      · rcases List.mem_append.1 hc with hc | hc
        · exact .inl (.inr ⟨row, .whenTrue hc, h⟩)
        · exact .inr (.inr ⟨row, .whenTrue hc, h⟩)
    | whenFalse hc =>
      rcases List.mem_cons.1 hc with he | hc
      · cases he
        exact .inr (.inl h)
      · rcases List.mem_append.1 hc with hc | hc
        · exact .inl (.inr ⟨row, .whenFalse hc, h⟩)
        · exact .inr (.inr ⟨row, .whenFalse hc, h⟩)
  · rintro ((h | h) | (h | h))
    · exact ⟨whenTrue, .whenTrue List.mem_cons_self, h⟩
    · exact h.mono fun held hm => List.mem_cons_of_mem _ (List.mem_append_left _ hm)
    · exact ⟨whenFalse, .whenFalse List.mem_cons_self, h⟩
    · exact h.mono fun held hm => List.mem_cons_of_mem _ (List.mem_append_right _ hm)

theorem inside_parallel {id : String} {branches : List Step} {earlier later : Step} :
    Inside (Step.parallel id branches).flat earlier later ↔ Inside (Step.flatAll branches) earlier later := by
  rw [Step.flat]
  constructor
  · rintro ⟨row, hrow, h⟩
    cases hrow with
    | whenTrue hc => exact ⟨row, .whenTrue ((List.mem_cons.1 hc).resolve_left nofun), h⟩
    | whenFalse hc => exact ⟨row, .whenFalse ((List.mem_cons.1 hc).resolve_left nofun), h⟩
  · exact fun h => h.mono fun held => List.mem_cons_of_mem _

theorem not_inside_plain {step : Step} {earlier later : Step} (hp : step.flat = [step])
    (hc : ∀ id test whenTrue whenFalse, step ≠ .condition id test whenTrue whenFalse) :
    ¬ Inside step.flat earlier later := by
  rintro ⟨row, hrow, -⟩
  rw [hp] at hrow
  cases hrow with
  | whenTrue h => exact hc _ _ _ _ (List.mem_singleton.1 h).symm
  | whenFalse h => exact hc _ _ _ _ (List.mem_singleton.1 h).symm

mutual

theorem mem_of_inside {step earlier later : Step} (h : Inside step.flat earlier later) :
    later ∈ Step.flatAll step.children := by
  cases step with
  | condition id test whenTrue whenFalse =>
    rw [Step.children, Step.flatAll_append, List.mem_append]
    exact (inside_condition.1 h).imp mem_of_before mem_of_before
  | parallel id branches => exact mem_of_inside_branches (inside_parallel.1 h)
  | agent id agent operation input key => exact absurd h (not_inside_plain rfl nofun)
  | aggregate id sources how key => exact absurd h (not_inside_plain rfl nofun)
  | transform id fields key => exact absurd h (not_inside_plain rfl nofun)
  | validate id rules => exact absurd h (not_inside_plain rfl nofun)

theorem mem_of_before {steps : List Step} {earlier later : Step} (h : Before steps earlier later) :
    later ∈ Step.flatAll steps := by
  cases steps with
  | nil => exact absurd h not_before_nil
  | cons step rest =>
    rw [Step.flatAll, List.mem_append]
    rcases before_cons.1 h with ⟨_, h⟩ | h | h
    · exact .inr h
    · exact .inl (by rw [Step.flat_eq]; exact .tail _ (mem_of_inside h))
    · exact .inr (mem_of_before h)

theorem mem_of_inside_branches {steps : List Step} {earlier later : Step}
    (h : Inside (Step.flatAll steps) earlier later) : later ∈ Step.flatAll steps := by
  cases steps with
  | nil => exact absurd h not_inside_nil
  | cons step rest =>
    rw [Step.flatAll] at h ⊢
    rw [List.mem_append]
    rcases inside_append.1 h with h | h
    · exact .inl (by rw [Step.flat_eq]; exact .tail _ (mem_of_inside h))
    · exact .inr (mem_of_inside_branches h)

end

theorem mem_flat_of_inside {step earlier later : Step} (h : Inside step.flat earlier later) :
    later ∈ step.flat := by
  rw [Step.flat_eq]
  exact List.mem_cons_of_mem _ (mem_of_inside h)

/-! What is visible -/

/-- All that a step reads is visible, or `before` has a step of that id. -/
def Allowed (visible : List String) (before : Step → Step → Prop) (step : Step) : Prop :=
  ∃ names, references step = .ok names ∧
    ∀ name ∈ names, name ∈ visible ∨ ∃ earlier, before earlier step ∧ earlier.id = name

theorem Allowed.mono {visible more : List String} {before wider : Step → Step → Prop} {step : Step}
    (h : Allowed visible before step)
    (hv : ∀ name ∈ visible, name ∈ more ∨ ∃ earlier, wider earlier step ∧ earlier.id = name)
    (hb : ∀ earlier, before earlier step → earlier.id ∈ more ∨ wider earlier step) : Allowed more wider step := by
  obtain ⟨names, hr, h⟩ := h
  refine ⟨names, hr, fun name hn => ?_⟩
  rcases h name hn with hn | ⟨earlier, he, rfl⟩
  · exact hv name hn
  · exact (hb earlier he).imp_right fun he => ⟨earlier, he, rfl⟩

theorem Allowed.weaken {visible : List String} {before wider : Step → Step → Prop} {step : Step}
    (h : Allowed visible before step) (hb : ∀ earlier, before earlier step → wider earlier step) :
    Allowed visible wider step :=
  h.mono (fun _ hn => .inl hn) fun earlier he => .inr (hb earlier he)

theorem allowed_of_readsFrom {visible : List String} {before : Step → Step → Prop} {step : Step}
    (h : ReadsFrom visible step) : Allowed visible before step := by
  obtain ⟨names, hr, h⟩ := h
  exact ⟨names, hr, fun name hn => .inl (h name hn)⟩

theorem readsFrom_of_allowed {visible : List String} {before : Step → Step → Prop} {step : Step}
    (h : Allowed visible before step) (hnone : ∀ earlier, ¬ before earlier step) : ReadsFrom visible step := by
  obtain ⟨names, hr, h⟩ := h
  exact ⟨names, hr, fun name hn => (h name hn).resolve_right fun ⟨earlier, he, _⟩ => hnone earlier he⟩

mutual

theorem allowed_of_sees {visible : List String} {step : Step} (h : Sees visible step) :
    ∀ inner ∈ step.flat, Allowed visible (Inside step.flat) inner := by
  cases step with
  | condition id test whenTrue whenFalse =>
    rw [Sees] at h
    obtain ⟨hown, htrue, hfalse⟩ := h
    intro inner hi
    rw [Step.flat] at hi
    rcases List.mem_cons.1 hi with rfl | hi
    · exact allowed_of_readsFrom hown
    rcases List.mem_append.1 hi with hi | hi
    · exact (allowed_of_seesAll htrue inner hi).weaken fun earlier he => inside_condition.2 (.inl he)
    · exact (allowed_of_seesAll hfalse inner hi).weaken fun earlier he => inside_condition.2 (.inr he)
  | parallel id branches =>
    rw [Sees] at h
    obtain ⟨hown, heach⟩ := h
    intro inner hi
    rw [Step.flat] at hi
    rcases List.mem_cons.1 hi with rfl | hi
    · exact allowed_of_readsFrom hown
    · exact (allowed_of_seesEach heach inner hi).weaken fun earlier he => inside_parallel.2 he
  | agent id agent operation input key => exact fun inner hi => allowed_of_readsFrom (List.mem_singleton.1 hi ▸ h)
  | aggregate id sources how key => exact fun inner hi => allowed_of_readsFrom (List.mem_singleton.1 hi ▸ h)
  | transform id fields key => exact fun inner hi => allowed_of_readsFrom (List.mem_singleton.1 hi ▸ h)
  | validate id rules => exact fun inner hi => allowed_of_readsFrom (List.mem_singleton.1 hi ▸ h)

theorem allowed_of_seesAll {visible : List String} {steps : List Step} (h : SeesAll visible steps) :
    ∀ inner ∈ Step.flatAll steps, Allowed visible (Before steps) inner := by
  cases steps with
  | nil => exact fun inner hi => by cases hi
  | cons step rest =>
    rw [SeesAll] at h
    intro inner hi
    rw [Step.flatAll] at hi
    rcases List.mem_append.1 hi with hi | hi
    · exact (allowed_of_sees h.1 inner hi).weaken fun earlier he => before_cons.2 (.inr (.inl he))
    · refine (allowed_of_seesAll h.2 inner hi).mono (fun name hn => ?_) fun earlier he => .inr ?_
      · -- what the step added to the visible ids stands before all of the rest
        refine (List.mem_append.1 hn).imp_right fun hn => ?_
        obtain ⟨earlier, he, hid⟩ := List.mem_map.1 hn
        exact ⟨earlier, before_cons.2 (.inl ⟨he, hi⟩), hid⟩
      · exact before_cons.2 (.inr (.inr he))

theorem allowed_of_seesEach {visible : List String} {steps : List Step} (h : SeesEach visible steps) :
    ∀ inner ∈ Step.flatAll steps, Allowed visible (Inside (Step.flatAll steps)) inner := by
  cases steps with
  | nil => exact fun inner hi => by cases hi
  | cons step rest =>
    rw [SeesEach] at h
    intro inner hi
    rw [Step.flatAll] at hi ⊢
    rcases List.mem_append.1 hi with hi | hi
    · exact (allowed_of_sees h.1 inner hi).weaken fun earlier he => inside_append.2 (.inl he)
    · exact (allowed_of_seesEach h.2 inner hi).weaken fun earlier he => inside_append.2 (.inr he)

end

/-! The other way round a step must not occur twice, for then one place could stand in for another. -/

mutual

theorem sees_of_allowed {visible : List String} {step : Step} (hd : step.flat.Nodup)
    (h : ∀ inner ∈ step.flat, Allowed visible (Inside step.flat) inner) : Sees visible step := by
  have hown : ReadsFrom visible step := by
    refine readsFrom_of_allowed (h step (mem_flat_self step)) fun earlier he => ?_
    rw [Step.flat_eq, List.nodup_cons] at hd
    exact hd.1 (mem_of_inside he)
  cases step with
  | condition id test whenTrue whenFalse =>
    rw [Step.flat, List.nodup_cons, List.nodup_append] at hd
    obtain ⟨_, htrue, hfalse, hapart⟩ := hd
    rw [Sees]
    refine ⟨hown, seesAll_of_allowed htrue fun inner hi => ?_, seesAll_of_allowed hfalse fun inner hi => ?_⟩
    · refine (h inner (by simp [Step.flat, hi])).weaken fun earlier he => ?_
      exact (inside_condition.1 he).resolve_right fun he => hapart inner hi inner (mem_of_before he) rfl
    · refine (h inner (by simp [Step.flat, hi])).weaken fun earlier he => ?_
      exact (inside_condition.1 he).resolve_left fun he => hapart inner (mem_of_before he) inner hi rfl
  | parallel id branches =>
    rw [Step.flat, List.nodup_cons] at hd
    rw [Sees]
    refine ⟨hown, seesEach_of_allowed hd.2 fun inner hi => ?_⟩
    exact (h inner (by simp [Step.flat, hi])).weaken fun earlier he => inside_parallel.1 he
  | agent id agent operation input key => exact hown
  | aggregate id sources how key => exact hown
  | transform id fields key => exact hown
  | validate id rules => exact hown

theorem seesAll_of_allowed {visible : List String} {steps : List Step} (hd : (Step.flatAll steps).Nodup)
    (h : ∀ inner ∈ Step.flatAll steps, Allowed visible (Before steps) inner) : SeesAll visible steps := by
  cases steps with
  | nil => trivial
  | cons step rest =>
    rw [Step.flatAll, List.nodup_append] at hd
    obtain ⟨hfirst, hrest, hapart⟩ := hd
    rw [SeesAll]
    refine ⟨sees_of_allowed hfirst fun inner hi => ?_, seesAll_of_allowed hrest fun inner hi => ?_⟩
    · refine (h inner (by simp [Step.flatAll, hi])).weaken fun earlier he => ?_
      rcases before_cons.1 he with ⟨_, hl⟩ | he | he
      · exact absurd rfl (hapart inner hi inner hl)
      · exact he
      · exact absurd rfl (hapart inner hi inner (mem_of_before he))
    · refine (h inner (by simp [Step.flatAll, hi])).mono (fun name hn => .inl (List.mem_append_left _ hn)) ?_
      intro earlier he
      rcases before_cons.1 he with ⟨he, _⟩ | he | he
      · exact .inl (List.mem_append_right _ (List.mem_map_of_mem he))
      · exact absurd rfl (hapart inner (mem_flat_of_inside he) inner hi)
      · exact .inr he

theorem seesEach_of_allowed {visible : List String} {steps : List Step} (hd : (Step.flatAll steps).Nodup)
    (h : ∀ inner ∈ Step.flatAll steps, Allowed visible (Inside (Step.flatAll steps)) inner) :
    SeesEach visible steps := by
  cases steps with
  | nil => trivial
  | cons step rest =>
    rw [Step.flatAll] at h
    rw [Step.flatAll, List.nodup_append] at hd
    obtain ⟨hfirst, hrest, hapart⟩ := hd
    rw [SeesEach]
    refine ⟨sees_of_allowed hfirst fun inner hi => ?_, seesEach_of_allowed hrest fun inner hi => ?_⟩
    · refine (h inner (List.mem_append_left _ hi)).weaken fun earlier he => ?_
      exact (inside_append.1 he).resolve_right fun he => hapart inner hi inner (mem_of_inside_branches he) rfl
    · refine (h inner (List.mem_append_right _ hi)).weaken fun earlier he => ?_
      exact (inside_append.1 he).resolve_left fun he => hapart inner (mem_flat_of_inside he) inner hi rfl

end

theorem seesAll_iff {steps : List Step} (hd : (Step.flatAll steps).Nodup) :
    SeesAll [] steps ↔ ∀ inner ∈ Step.flatAll steps, Allowed [] (Before steps) inner :=
  ⟨allowed_of_seesAll, seesAll_of_allowed hd⟩

end Validation

end Conductor
