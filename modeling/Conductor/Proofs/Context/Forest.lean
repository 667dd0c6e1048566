import Conductor.Context.Forest
import Conductor.Proofs.Context.View

/-! A fork stands apart from what it was forked from until it is merged, and merging it is the same as
having written in place. Contexts have greater numbers than what they were forked from, so what is said of
a context is said by induction on its number. -/

namespace Conductor

namespace Forest

inductive Move where
  | record (i : Nat) (step : String) (output : Output) (key : Option String)
  | fork (i : Nat)
  | merge (i child : Nat)

/-- The context that a move writes to. -/
def Move.target? : Move → Option Nat
  | .record i _ _ _ => some i
  | .fork _ => none
  | .merge i _ => some i

def Move.subjects : Move → List Nat
  | .record i _ _ _ => [i]
  | .fork i => [i]
  | .merge i child => [i, child]

def play (f : Forest) : Move → Forest
  | .record i step output key => f.record i step output key
  | .fork i => f.fork i
  | .merge i child => f.merge i child

def playAll (f : Forest) (moves : List Move) : Forest := moves.foldl play f

/-- Every move is about contexts that are there when it is made. -/
def Possible (f : Forest) : List Move → Prop
  | [] => True
  | move :: rest => (∀ i ∈ move.subjects, i < f.nodes.length) ∧ (f.play move).Possible rest

def parent? (f : Forest) (i : Nat) : Option Nat := f.nodes[i]?.bind Node.parent

/-- A context reads through to itself and to all that it was forked from, directly or not. -/
inductive Reads (f : Forest) : Nat → Nat → Prop where
  | self (i : Nat) : Reads f i i
  | outer {i p j : Nat} (forked : f.parent? i = some p) (rest : Reads f p j) : Reads f i j

variable {f g : Forest} {i j k p t : Nat} {node : Node} {move : Move} {moves later : List Move}

theorem Reads.trans (h : f.Reads i j) (h' : f.Reads j k) : f.Reads i k := by
  induction h with
  | self => exact h'
  | outer forked _ ih => exact .outer forked (ih h')

theorem lt_of_parent (h : f.parent? i = some p) : i < f.nodes.length := by
  by_contra hn
  rw [parent?, List.getElem?_eq_none (Nat.le_of_not_lt hn)] at h
  cases h

/-! Moves -/

theorem getElem?_write (f : Forest) (i t : Nat) (change : Layer → Layer) :
    (f.write i change).nodes[t]? =
      (f.nodes[t]?).map fun node => if i = t then { node with own := change node.own } else node := by
  rw [write, List.getElem?_modify]
  by_cases h : i = t <;> simp [h]

theorem getElem?_fork (ht : t < f.nodes.length) (i : Nat) : (f.fork i).nodes[t]? = f.nodes[t]? :=
  List.getElem?_append_left ht

theorem getElem?_play (ht : t < f.nodes.length) (hn : move.target? ≠ some t) :
    (f.play move).nodes[t]? = f.nodes[t]? := by
  cases move with
  | fork i => exact getElem?_fork ht i
  | record i step output key =>
    have hne : i ≠ t := fun he => hn (congrArg some he)
    rw [play, record, getElem?_write]
    simp [hne]
  | merge i child =>
    have hne : i ≠ t := fun he => hn (congrArg some he)
    rw [play, merge, getElem?_write]
    simp [hne]

theorem length_play (f : Forest) (move : Move) : f.nodes.length ≤ (f.play move).nodes.length := by
  cases move with
  | record => simp [play, record, write]
  | fork => simp [play, fork]
  | merge => simp [play, merge, write]

theorem getElem?_playAll (ht : t < f.nodes.length) (hn : ∀ move ∈ later, move.target? ≠ some t) :
    (f.playAll later).nodes[t]? = f.nodes[t]? := by
  induction later generalizing f with
  | nil => rfl
  | cons move rest ih =>
    have hfirst := getElem?_play ht (hn move (by simp))
    have hrest := ih (Nat.lt_of_lt_of_le ht (length_play f move)) fun other ho => hn other (by simp [ho])
    exact hrest.trans hfirst

/-- Contexts stay where they are and never lose an entry. -/
structure Grows (f g : Forest) : Prop where
  input : g.input = f.input
  nodes : ∀ (t : Nat) (node : Node), f.nodes[t]? = some node →
    ∃ node' : Node, g.nodes[t]? = some node' ∧ node'.parent = node.parent ∧ node'.own.Covers node.own

theorem Grows.refl (f : Forest) : f.Grows f := ⟨rfl, fun _ node h => ⟨node, h, rfl, .refl _⟩⟩

theorem Grows.trans {g' : Forest} (h : f.Grows g) (h' : g.Grows g') : f.Grows g' := by
  refine ⟨h'.input.trans h.input, fun t node hn => ?_⟩
  obtain ⟨mid, hmid, hparent, hcovers⟩ := h.nodes t node hn
  obtain ⟨last, hlast, hparent', hcovers'⟩ := h'.nodes t mid hmid
  exact ⟨last, hlast, hparent'.trans hparent, hcovers.trans hcovers'⟩

theorem grows_write (f : Forest) (i : Nat) {change : Layer → Layer} (hc : ∀ own, (change own).Covers own) :
    f.Grows (f.write i change) := by
  refine ⟨rfl, fun t node hn => ?_⟩
  rw [getElem?_write, hn]
  refine ⟨_, rfl, ?_⟩
  by_cases h : i = t
  · simpa [h] using hc node.own
  · simpa [h] using Layer.Covers.refl node.own

theorem grows_play (f : Forest) (move : Move) : f.Grows (f.play move) := by
  cases move with
  | record i step output key => exact grows_write f i fun own => own.covers_record step output key
  | fork i =>
    refine ⟨rfl, fun t node hn => ⟨node, ?_, rfl, .refl _⟩⟩
    exact (getElem?_fork (List.getElem?_eq_some_iff.1 hn).1 i).trans hn
  | merge i child => exact grows_write f i fun own => own.covers_absorb _

theorem grows_playAll (f : Forest) (later : List Move) : f.Grows (f.playAll later) := by
  induction later generalizing f with
  | nil => exact .refl f
  | cons move rest ih => exact (grows_play f move).trans (ih (f.play move))

theorem Grows.parent?_eq (h : f.Grows g) (hi : i < f.nodes.length) : g.parent? i = f.parent? i := by
  obtain ⟨node, hn⟩ : ∃ node, f.nodes[i]? = some node := ⟨_, List.getElem?_eq_getElem hi⟩
  obtain ⟨node', hn', hparent, -⟩ := h.nodes i node hn
  rw [parent?, parent?, hn, hn']
  exact hparent

/-! What every forest keeps to -/

structure Sound (f : Forest) : Prop where
  parent_lt : ∀ i p, f.parent? i = some p → p < i
  tidy : ∀ node ∈ f.nodes, node.own.Tidy

theorem sound_ofInput (input : Json) : (ofInput input).Sound := by
  refine ⟨fun i p h => ?_, fun node hn => ?_⟩
  · have hi : i = 0 := by
      have hlt := lt_of_parent h
      simp only [ofInput, List.length_singleton] at hlt
      omega
    subst hi
    cases h
  · obtain rfl : node = ⟨none, {}⟩ := by simpa [ofInput] using hn
    exact Layer.tidy_empty

theorem Sound.write (h : f.Sound) (i : Nat) {change : Layer → Layer}
    (hc : ∀ own : Layer, own.Tidy → (change own).Tidy) : (f.write i change).Sound := by
  refine ⟨fun t p hp => h.parent_lt t p ?_, fun node hn => ?_⟩
  · rw [parent?, getElem?_write] at hp
    rw [parent?, ← hp]
    cases f.nodes[t]? with
    | none => rfl
    | some node => by_cases hi : i = t <;> simp [hi]
  · obtain ⟨t, ht⟩ := List.mem_iff_getElem?.1 hn
    rw [getElem?_write] at ht
    obtain ⟨before, hbefore, rfl⟩ := Option.map_eq_some_iff.1 ht
    have htidy := h.tidy before (List.mem_of_getElem? hbefore)
    by_cases hi : i = t
    · simpa [hi] using hc _ htidy
    · simpa [hi] using htidy

theorem Sound.fork (h : f.Sound) (hi : i < f.nodes.length) : (f.fork i).Sound := by
  refine ⟨fun t p hp => ?_, fun node hn => ?_⟩
  · by_cases ht : t < f.nodes.length
    · rw [parent?, getElem?_fork ht] at hp
      exact h.parent_lt t p hp
    · have hlt := lt_of_parent hp
      obtain rfl : t = f.nodes.length := by
        simp only [Forest.fork, List.length_append, List.length_singleton] at hlt
        omega
      have hlast : (f.fork i).parent? f.nodes.length = some i := by simp [parent?, Forest.fork]
      rw [hlast] at hp
      cases hp
      exact hi
  · rcases List.mem_append.1 hn with hn | hn
    · exact h.tidy node hn
    · obtain rfl : node = ⟨some i, {}⟩ := by simpa using hn
      exact Layer.tidy_empty

theorem Sound.play (h : f.Sound) (hm : ∀ i ∈ move.subjects, i < f.nodes.length) : (f.play move).Sound := by
  cases move with
  | record i step output key => exact h.write i fun own ho => ho.record step output key
  | fork i => exact h.fork (hm i (by simp [Move.subjects]))
  | merge i child => exact h.write i fun own ho => ho.absorb _

theorem Sound.playAll (h : f.Sound) (hp : f.Possible moves) : (f.playAll moves).Sound := by
  induction moves generalizing f with
  | nil => exact h
  | cons move rest ih => exact ih (h.play hp.1) hp.2

theorem Sound.le_of_reads (h : f.Sound) (hr : f.Reads i j) : j ≤ i := by
  induction hr with
  | self => exact Nat.le_refl _
  | outer forked _ ih => exact Nat.le_trans ih (Nat.le_of_lt (h.parent_lt _ _ forked))

/-- What a context reads through to is settled when it is forked. -/
theorem Grows.reads_iff (h : f.Grows g) (hs : f.Sound) (hi : i < f.nodes.length) :
    g.Reads i j ↔ f.Reads i j := by
  constructor
  · intro hr
    induction hr with
    | self => exact .self _
    | outer forked _ ih =>
      rw [h.parent?_eq hi] at forked
      exact .outer forked (ih (Nat.lt_trans (hs.parent_lt _ _ forked) hi))
  · intro hr
    induction hr with
    | self => exact .self _
    | outer forked _ ih =>
      exact .outer ((h.parent?_eq hi).trans forked) (ih (Nat.lt_trans (hs.parent_lt _ _ forked) hi))

/-! Contexts -/

theorem layersBelow_succ (hn : f.nodes[i]? = some node) (bound : Nat) :
    f.layersBelow (bound + 1) i = node.own :: (node.parent.elim [] (f.layersBelow bound)) := by
  rw [layersBelow, hn]
  cases hp : node.parent with
  | none => simp [hp]
  | some p => simp [hp]

/-- Any bound above the number of a context does. -/
theorem Sound.layersBelow_eq (h : f.Sound) {bound bound' : Nat} (hi : i < bound) (hi' : i < bound') :
    f.layersBelow bound i = f.layersBelow bound' i := by
  induction i using Nat.strongRecOn generalizing bound bound' with
  | _ i ih =>
    obtain ⟨n, rfl⟩ : ∃ n, bound = n + 1 := ⟨bound - 1, by omega⟩
    obtain ⟨n', rfl⟩ : ∃ n, bound' = n + 1 := ⟨bound' - 1, by omega⟩
    cases hn : f.nodes[i]? with
    | none => simp [layersBelow, hn]
    | some node =>
      rw [layersBelow_succ hn, layersBelow_succ hn]
      cases hp : node.parent with
      | none => rfl
      | some p =>
        have hlt : p < i := h.parent_lt i p (by rw [parent?, hn]; exact hp)
        exact congrArg (node.own :: ·) (ih p hlt (by omega) (by omega))

theorem context_of_layers {own : Layer} {outer : List Layer}
    (h : f.layersBelow f.nodes.length i = own :: outer) : f.context i = ⟨f.input, own, outer⟩ := by
  rw [context, h]

theorem Sound.context_eq (h : f.Sound) (hn : f.nodes[i]? = some node) :
    f.context i = ⟨f.input, node.own, node.parent.elim [] fun p => (f.context p).layers⟩ := by
  have hi : i < f.nodes.length := (List.getElem?_eq_some_iff.1 hn).1
  have hbound := h.layersBelow_eq hi (Nat.lt_succ_self i)
  rw [layersBelow_succ hn] at hbound
  rw [context_of_layers hbound]
  cases hp : node.parent with
  | none => rfl
  | some p =>
    have hlt : p < i := h.parent_lt i p (by rw [parent?, hn]; exact hp)
    obtain ⟨outer, houter⟩ : ∃ node', f.nodes[p]? = some node' :=
      ⟨_, List.getElem?_eq_getElem (Nat.lt_trans hlt hi)⟩
    have hlayers : f.layersBelow f.nodes.length p = f.layersBelow i p :=
      h.layersBelow_eq (Nat.lt_trans hlt hi) hlt
    obtain ⟨n, rfl⟩ : ∃ n, i = n + 1 := ⟨i - 1, by omega⟩
    rw [layersBelow_succ houter] at hlayers
    simp only [Option.elim_some, context_of_layers hlayers, Context.layers, layersBelow_succ houter]

theorem Sound.context_child (h : f.Sound) (hn : f.nodes[i]? = some node) (hp : f.parent? i = some p) :
    f.context i = ⟨f.input, node.own, (f.context p).layers⟩ := by
  have hparent : node.parent = some p := by
    rw [parent?, hn] at hp
    exact hp
  rw [h.context_eq hn, hparent]
  rfl

theorem Sound.context_tidy (h : f.Sound) (hi : i < f.nodes.length) : (f.context i).Tidy := by
  induction i using Nat.strongRecOn with
  | _ i ih =>
    obtain ⟨node, hn⟩ : ∃ node, f.nodes[i]? = some node := ⟨_, List.getElem?_eq_getElem hi⟩
    intro layer hl
    rw [h.context_eq hn] at hl
    rcases List.mem_cons.1 hl with rfl | hl
    · exact h.tidy node (List.mem_of_getElem? hn)
    · cases hp : node.parent with
      | none => simp [hp] at hl
      | some p =>
        have hlt : p < i := h.parent_lt i p (by rw [parent?, hn]; exact hp)
        rw [hp] at hl
        exact ih p hlt (Nat.lt_trans hlt hi) layer hl

/-- A context depends on nothing but the contexts that it reads through to. -/
theorem context_congr (h : f.Sound) (h' : g.Sound) (hinput : g.input = f.input) (hi : i < f.nodes.length)
    (hsame : ∀ t, f.Reads i t → g.nodes[t]? = f.nodes[t]?) : g.context i = f.context i := by
  induction i using Nat.strongRecOn with
  | _ i ih =>
    obtain ⟨node, hn⟩ : ∃ node, f.nodes[i]? = some node := ⟨_, List.getElem?_eq_getElem hi⟩
    rw [h.context_eq hn, h'.context_eq ((hsame i (.self i)).trans hn), hinput]
    cases hp : node.parent with
    | none => rfl
    | some p =>
      have hparent : f.parent? i = some p := by rw [parent?, hn]; exact hp
      have hlt := h.parent_lt i p hparent
      have hrest := ih p hlt (Nat.lt_trans hlt hi) fun t ht => hsame t (.outer hparent ht)
      simp only [Option.elim_some, hrest]

theorem Grows.context_covers (h : f.Grows g) (hs : f.Sound) (hs' : g.Sound) (hi : i < f.nodes.length) :
    (g.context i).flatten.Covers (f.context i).flatten := by
  induction i using Nat.strongRecOn with
  | _ i ih =>
    obtain ⟨node, hn⟩ : ∃ node, f.nodes[i]? = some node := ⟨_, List.getElem?_eq_getElem hi⟩
    obtain ⟨node', hn', hparent, hcovers⟩ := h.nodes i node hn
    rw [hs.context_eq hn, hs'.context_eq hn', hparent, Context.flatten_eq, Context.flatten_eq]
    refine Layer.Covers.absorb ?_ hcovers
    cases hp : node.parent with
    | none => exact .refl _
    | some p =>
      have hlt : p < i := hs.parent_lt i p (by rw [parent?, hn]; exact hp)
      exact ih p hlt (Nat.lt_trans hlt hi)

theorem Sound.context_merge (h : f.Sound) (hk : f.parent? k = some p) :
    (f.merge p k).context p =
      { f.context p with own := (f.context p).own.absorb (f.context k).own } := by
  have hlt : p < f.nodes.length := Nat.lt_trans (h.parent_lt k p hk) (lt_of_parent hk)
  obtain ⟨node, hn⟩ : ∃ node, f.nodes[p]? = some node := ⟨_, List.getElem?_eq_getElem hlt⟩
  have hs : (f.merge p k).Sound := h.write p fun own ho => ho.absorb _
  have hmerged : (f.merge p k).nodes[p]? =
      some { node with own := node.own.absorb (f.context k).own } := by
    rw [merge, getElem?_write, hn]
    simp
  rw [hs.context_eq hmerged, h.context_eq hn]
  cases hq : node.parent with
  | none => rfl
  | some q =>
    have hqp : q < p := h.parent_lt p q (by rw [parent?, hn]; exact hq)
    have houter : (f.merge p k).context q = f.context q := by
      refine context_congr h hs rfl (Nat.lt_trans hqp hlt) fun t ht => ?_
      have hle := h.le_of_reads ht
      rw [merge, getElem?_write]
      simp [show p ≠ t by omega]
    simp only [Option.elim_some, houter]
    rfl

/-- After a merge the context shows what the fork has shown, whatever was written to it since it was
forked. -/
theorem Sound.flatten_merge (h : f.Sound) (hk : f.parent? k = some p) :
    ((f.merge p k).context p).flatten = (f.context k).flatten := by
  have hlt : p < f.nodes.length := Nat.lt_trans (h.parent_lt k p hk) (lt_of_parent hk)
  obtain ⟨node, hn⟩ : ∃ node, f.nodes[k]? = some node := ⟨_, List.getElem?_eq_getElem (lt_of_parent hk)⟩
  rw [h.context_merge hk, Context.flatten_absorb (h.context_tidy hlt), h.context_child hn hk]
  rfl

/-- Neither what a fork was forked from nor another fork of it reads through to the fork. -/
theorem Sound.not_reads_fork (h : f.Sound) (hk : f.parent? k = some p) (hne : j ≠ k)
    (hj : f.Reads p j ∨ f.parent? j = some p) : ¬ f.Reads j k := by
  have hlt := h.parent_lt k p hk
  intro hr
  rcases hj with hj | hj
  · have hjp := h.le_of_reads hj
    have hkj := h.le_of_reads hr
    omega
  · cases hr with
    | self => exact hne rfl
    | outer forked rest =>
      rw [hj] at forked
      cases forked
      have hkp := h.le_of_reads rest
      omega

theorem Sound.lt_of_relative (h : f.Sound) (hk : f.parent? k = some p)
    (hj : f.Reads p j ∨ f.parent? j = some p) : j < f.nodes.length := by
  have hlt := lt_of_parent hk
  rcases hj with hj | hj
  · have hjp := h.le_of_reads hj
    have hpk := h.parent_lt k p hk
    omega
  · exact lt_of_parent hj

/-- Of all contexts that come of recording, forking and merging: what is written to a fork, or to what
was forked from it, is not seen in what it was forked from, directly or not, nor in its other forks; once
the fork is merged all is seen that the fork has shown, in the same order; and no entry is ever lost. -/
theorem merging_a_fork_is_writing_in_place {input : Json} {moves : List Move}
    (h : (ofInput input).Possible moves) :
    let f := (ofInput input).playAll moves
    (∀ k p j, f.parent? k = some p → j ≠ k → f.Reads p j ∨ f.parent? j = some p →
      ∀ later, f.Possible later →
        (∀ move ∈ later, ∀ t, move.target? = some t →
          (f.playAll later).Reads t k ∨ ¬ (f.playAll later).Reads j t) →
        (f.playAll later).context j = f.context j) ∧
    (∀ k p, f.parent? k = some p →
      ((f.merge p k).context p).flatten = (f.context k).flatten ∧
      (∀ id, ((f.merge p k).context p).keyFor id = (f.context k).keyFor id) ∧
      ∀ e : Expression,
        Template.checked ((f.merge p k).context p).view e = Template.checked (f.context k).view e ∧
        e.output ((f.merge p k).context p).view = e.output (f.context k).view) ∧
    ∀ j < f.nodes.length, ∀ later, f.Possible later →
      (∀ id ∈ (f.context j).flatten.steps.names, id ∈ ((f.playAll later).context j).flatten.steps.names) ∧
      ∀ key ∈ (f.context j).flatten.outputs.names,
        key ∈ ((f.playAll later).context j).flatten.outputs.names := by
  intro f
  have hs : f.Sound := (sound_ofInput input).playAll h
  refine ⟨fun k p j hk hne hj later hlater hwrites => ?_, fun k p hk => ?_, fun j hj later hlater => ?_⟩
  · have hjlt := hs.lt_of_relative hk hj
    have hgrows := grows_playAll f later
    refine context_congr hs (hs.playAll hlater) hgrows.input hjlt fun t ht => ?_
    have htlt : t < f.nodes.length := Nat.lt_of_le_of_lt (hs.le_of_reads ht) hjlt
    refine getElem?_playAll htlt fun move hm htarget => ?_
    rcases hwrites move hm t htarget with hread | hnot
    · exact hs.not_reads_fork hk hne hj (ht.trans ((hgrows.reads_iff hs htlt).1 hread))
    · exact hnot ((hgrows.reads_iff hs hjlt).2 ht)
  · have hplt : p < f.nodes.length := Nat.lt_trans (hs.parent_lt k p hk) (lt_of_parent hk)
    have hflatten := hs.flatten_merge hk
    have hmerged : (f.merge p k).Sound := hs.write p fun own ho => ho.absorb _
    have htidy : ((f.merge p k).context p).Tidy :=
      hmerged.context_tidy (Nat.lt_of_lt_of_le hplt (length_play f (.merge p k)))
    refine ⟨hflatten, fun id => ?_, fun e => Context.expression_eq ?_ hflatten e⟩
    · rw [Context.keyFor_eq htidy, Context.keyFor_eq (hs.context_tidy (lt_of_parent hk)), hflatten]
    · obtain ⟨node, hn⟩ : ∃ node, f.nodes[k]? = some node :=
        ⟨_, List.getElem?_eq_getElem (lt_of_parent hk)⟩
      obtain ⟨outer, houter⟩ : ∃ node, f.nodes[p]? = some node := ⟨_, List.getElem?_eq_getElem hplt⟩
      rw [hs.context_merge hk, hs.context_eq hn, hs.context_eq houter]
  · have hcovers := (grows_playAll f later).context_covers hs (hs.playAll hlater) hj
    exact ⟨hcovers.steps, hcovers.outputs⟩

/-- Two forks of one context; the first of them and the context itself are written to. -/
def forked : List Move :=
  [.record 0 "plan" (Json.int 1) (some "plan"), .fork 0, .fork 0, .record 1 "draft" (Json.int 2) (some "text"),
    .record 0 "review" (Json.int 3) none, .record 1 "plan" (Json.int 4) (some "revised")]

/-- More is written to the first fork and to a fork of it. -/
def forkedLater : List Move :=
  [.record 1 "check" (Json.int 5) none, .fork 1, .record 3 "draft" (Json.int 6) (some "text"), .merge 1 3]

theorem merging_a_fork_is_writing_in_place_of_forked :
    let f := (ofInput .null).playAll forked
    (ofInput .null).Possible forked ∧ f.Possible forkedLater ∧
      (f.playAll forkedLater).context 2 = f.context 2 ∧
      (f.playAll forkedLater).context 0 = f.context 0 ∧
      ((f.merge 0 1).context 0).flatten = (f.context 1).flatten ∧
      ((f.merge 0 1).context 0).keyFor "plan" = "revised" := by
  have hforked : (ofInput .null).Possible forked := by
    refine ⟨?_, ?_, ?_, ?_, ?_, ?_, trivial⟩ <;> decide
  have hlater : ((ofInput .null).playAll forked).Possible forkedLater := by
    refine ⟨?_, ?_, ?_, ?_, trivial⟩ <;> decide
  obtain ⟨happart, hmerge, -⟩ := merging_a_fork_is_writing_in_place hforked
  have hone : ((ofInput .null).playAll forked).parent? 1 = some 0 := rfl
  have hbelow : ∀ move ∈ forkedLater, ∀ t, move.target? = some t →
      (((ofInput .null).playAll forked).playAll forkedLater).Reads t 1 := by
    intro move hm t ht
    simp only [forkedLater, List.mem_cons, List.not_mem_nil, or_false] at hm
    rcases hm with rfl | rfl | rfl | rfl <;> cases ht
    · exact .self 1
    · exact .outer rfl (.self 1)
    · exact .self 1
  refine ⟨hforked, hlater, ?_, ?_, ?_, ?_⟩
  · exact happart 1 0 2 hone (by decide) (.inr rfl) forkedLater hlater fun move hm t ht => .inl (hbelow move hm t ht)
  · exact happart 1 0 0 hone (by decide) (.inl (.self 0)) forkedLater hlater
      fun move hm t ht => .inl (hbelow move hm t ht)
  · exact (hmerge 1 0 hone).1
  · rw [(hmerge 1 0 hone).2.1]
    decide

end Forest

end Conductor
