import Conductor.Validation
import Mathlib.Logic.Relation

/-! The search for circles finds one just when there is one, in whatever order it comes to the names. A name that
it is done with leads to no circle, and all that is on its path leads to the name where it stands. -/

namespace Conductor

namespace Validation

namespace Graph

variable {g : Graph} {path done names : List String} {name : String}

/-- One name reads the other, and the graph has it. -/
def Reads (g : Graph) (name other : String) : Prop := other ∈ g.targets name ∧ other ∈ g.names

def HasCircle (g : Graph) : Prop := ∃ name, Relation.TransGen g.Reads name name

/-- Whether the search turns a graph away. -/
def isCircular (g : Graph) : Bool := !g.checkCircles.isOk

/-- Every way down from the name comes to an end. -/
def Grounded (g : Graph) (name : String) : Prop := Acc (fun lower upper => g.Reads upper lower) name

theorem Grounded.not_transGen (h : g.Grounded name) : ¬ Relation.TransGen g.Reads name name := by
  induction h with
  | intro name _ ih =>
    intro hcircle
    -- one step down the circle there is a circle too
    obtain ⟨other, hreads, hback⟩ := Relation.TransGen.head'_iff.1 hcircle
    exact ih other hreads (Relation.TransGen.tail' hback hreads)

theorem not_hasCircle (h : ∀ name ∈ g.names, g.Grounded name) : ¬ g.HasCircle := by
  rintro ⟨name, hcircle⟩
  obtain ⟨_, _, hreads⟩ := Relation.TransGen.tail'_iff.1 hcircle
  exact (h name hreads.2).not_transGen hcircle

/-! The walk -/

theorem visit_eq (h : name ∈ g.names) : visit g path done name h =
    if name ∈ done then .ok done
    else if name ∈ path then .error .circular
    else (visitAll g (name :: path) done (g.targets name)).map (name :: ·) := by
  rw [visit, visitAll]
  split
  · rfl
  · split
    · rfl
    · rfl

theorem visitAll_cons (rest : List String) : visitAll g path done (name :: rest) =
    (if h : name ∈ g.names then visit g path done name h else .ok done) >>= fun done =>
      visitAll g path done rest := by
  rw [visitAll, List.foldlM_cons]
  rfl

/-- What a walk from some names may come to: a circle, or names that it is done with, these among them. -/
inductive Walked (g : Graph) (done names : List String) : Except Defect (List String) → Prop
  | circle : g.HasCircle → Walked g done names (.error .circular)
  | through {more : List String} : done ⊆ more → (∀ name ∈ names, name ∈ g.names → name ∈ more) →
    (∀ name ∈ more, g.Grounded name) → Walked g done names (.ok more)

theorem walked_all (hdone : ∀ name ∈ done, g.Grounded name)
    (hvisit : ∀ done, (∀ name ∈ done, g.Grounded name) → ∀ name ∈ names, ∀ h,
      Walked g done [name] (visit g path done name h)) :
    Walked g done names (visitAll g path done names) := by
  induction names generalizing done with
  | nil => exact .through (List.Subset.refl _) nofun hdone
  | cons name rest ih =>
    have hfirst : Walked g done [name] (if h : name ∈ g.names then visit g path done name h else .ok done) := by
      split
      · exact hvisit done hdone name List.mem_cons_self _
      · rename_i hnot
        refine .through (List.Subset.refl _) (fun other ho hother => ?_) hdone
        rw [List.mem_singleton.1 ho] at hother
        exact absurd hother hnot
    rw [visitAll_cons]
    generalize (if h : name ∈ g.names then visit g path done name h else .ok done) = out at hfirst
    cases hfirst with
    | circle hcircle => exact .circle hcircle
    | @through more hsub hname hmore =>
      have hrest := ih hmore fun done hd other ho => hvisit done hd other (List.mem_cons_of_mem _ ho)
      change Walked g done (name :: rest) (visitAll g path more rest)
      generalize visitAll g path more rest = out at hrest
      cases hrest with
      | circle hcircle => exact .circle hcircle
      | through hsub' hnames hall =>
        refine .through (List.Subset.trans hsub hsub') (List.forall_mem_cons.2 ⟨fun h => ?_, hnames⟩) hall
        exact hsub' (hname name List.mem_cons_self h)

theorem walked_visit (h : name ∈ g.names) (hpath : ∀ upper ∈ path, Relation.TransGen g.Reads upper name)
    (hdone : ∀ name ∈ done, g.Grounded name) : Walked g done [name] (visit g path done name h) := by
  induction path, done, name, h using visit.induct g with
  | case1 path done name h hd =>
    rw [visit_eq, if_pos hd]
    exact .through (List.Subset.refl _) (by simpa using fun _ => hd) hdone
  | case2 path done name h hd hp =>
    rw [visit_eq, if_neg hd, if_pos hp]
    exact .circle ⟨name, hpath name hp⟩
  | case3 path done name h hd hp ih =>
    rw [visit_eq, if_neg hd, if_neg hp]
    have hall : Walked g done (g.targets name) (visitAll g (name :: path) done (g.targets name)) := by
      refine walked_all hdone fun done hd target ht hmem => ih done target hmem (fun upper hu => ?_) hd
      rcases List.mem_cons.1 hu with rfl | hu
      · exact .single ⟨ht, hmem⟩
      · exact (hpath upper hu).tail ⟨ht, hmem⟩
    generalize visitAll g (name :: path) done (g.targets name) = out at hall
    cases hall with
    | circle hcircle => exact .circle hcircle
    | @through more hsub htargets hmore =>
      have hname : g.Grounded name := .intro name fun lower hl => hmore lower (htargets lower hl.1 hl.2)
      refine .through (List.Subset.trans hsub (List.subset_cons_self ..)) (fun other ho _ => ?_)
        (List.forall_mem_cons.2 ⟨hname, hmore⟩)
      rw [List.mem_singleton.1 ho]
      exact List.mem_cons_self

theorem walked_names (g : Graph) : Walked g [] g.names (visitAll g [] [] g.names) :=
  walked_all nofun fun _ hd _ _ h => walked_visit h nofun hd

theorem checkCircles_cases (g : Graph) :
    (g.checkCircles = .error .circular ∧ g.HasCircle) ∨ (g.checkCircles = .ok () ∧ ¬ g.HasCircle) := by
  have hwalked := walked_names g
  unfold checkCircles
  generalize visitAll g [] [] g.names = out at hwalked
  cases hwalked with
  | circle hcircle => exact .inl ⟨rfl, hcircle⟩
  | through _ hnames hall => exact .inr ⟨rfl, not_hasCircle fun name h => hall name (hnames name h h)⟩

theorem checkCircles_eq_ok : g.checkCircles = .ok () ↔ ¬ g.HasCircle := by
  rcases checkCircles_cases g with ⟨hcheck, hcircle⟩ | ⟨hcheck, hnone⟩
  · rw [hcheck]
    exact ⟨nofun, fun hnone => absurd hcircle hnone⟩
  · exact iff_of_true hcheck hnone

theorem isCircular_eq_false : g.isCircular = false ↔ g.checkCircles = .ok () := by
  rw [isCircular]
  rcases checkCircles_cases g with ⟨hcheck, -⟩ | ⟨hcheck, -⟩
  · rw [hcheck]
    exact ⟨nofun, nofun⟩
  · rw [hcheck]
    exact ⟨fun _ => rfl, fun _ => rfl⟩

/-- Graphs that have the same names and the same names read by each, in whatever order and how often. -/
structure Alike (g g' : Graph) : Prop where
  names : ∀ name, name ∈ g.names ↔ name ∈ g'.names
  targets : ∀ name other, other ∈ g.targets name ↔ other ∈ g'.targets name

theorem Alike.hasCircle {g' : Graph} (h : g.Alike g') : g.HasCircle ↔ g'.HasCircle := by
  have hreads : g.Reads = g'.Reads := by
    funext name other
    exact propext (and_congr (h.targets name other) (h.names other))
  rw [HasCircle, HasCircle, hreads]

/-- The search ends, and it turns a graph away exactly for a circle among the names that the graph has; the order in
which the names and what they read are listed does not matter. -/
theorem finds_exactly_the_circles (g : Graph) :
    (g.HasCircle → g.checkCircles = .error .circular) ∧ (¬ g.HasCircle → g.checkCircles = .ok ()) ∧
      Defect.circular.message = "Circular dependency detected" ∧
      ∀ g' : Graph, g.Alike g' → g'.checkCircles = g.checkCircles := by
  have hcases (g : Graph) : (g.HasCircle → g.checkCircles = .error .circular) ∧
      (¬ g.HasCircle → g.checkCircles = .ok ()) := by
    rcases checkCircles_cases g with ⟨hcheck, hcircle⟩ | ⟨hcheck, hnone⟩
    · exact ⟨fun _ => hcheck, fun hnone => absurd hcircle hnone⟩
    · exact ⟨fun hcircle => absurd hcircle hnone, fun _ => hcheck⟩
  refine ⟨(hcases g).1, (hcases g).2, rfl, fun g' halike => ?_⟩
  by_cases hcircle : g.HasCircle
  · rw [(hcases g).1 hcircle, (hcases g').1 (halike.hasCircle.1 hcircle)]
  · rw [(hcases g).2 hcircle, (hcases g').2 (mt halike.hasCircle.2 hcircle)]

theorem finds_exactly_the_circles_of_two :
    checkCircles [("a", ["z", "b"]), ("b", ["a"])] = .error .circular ∧
      checkCircles [("b", ["a"]), ("a", ["b", "z"])] = .error .circular := by
  have hcircle : HasCircle [("a", ["z", "b"]), ("b", ["a"])] :=
    ⟨"a", .tail (.single (show Reads _ "a" "b" from ⟨by decide, by decide⟩)) ⟨by decide, by decide⟩⟩
  have hfound := finds_exactly_the_circles [("a", ["z", "b"]), ("b", ["a"])]
  refine ⟨hfound.1 hcircle, (hfound.2.2.2 _ ⟨fun name => ?_, fun name other => ?_⟩).trans (hfound.1 hcircle)⟩
  · simp [Assoc.names, or_comm]
  · by_cases ha : "a" = name
    · subst ha
      simp [targets, Assoc.get?, or_comm]
    · simp [targets, Assoc.get?, ha]

end Graph

end Validation

end Conductor
