import Conductor.Context
import Conductor.Proofs.Template.References

/-! Where the paths of a template start. One without a path that starts at the table of steps is the same in
every view of one input. -/

namespace Conductor

def Operand.source? : Operand → Option Source
  | .literal _ => none
  | .path source _ => some source

def Expression.operands : Expression → List Operand
  | .operand o => [o]
  | .comparison left _ right => [left, right]

namespace Template

/-- Where the paths of a template start. -/
def sources (t : Template) : List Source := t.expressions.flatMap fun e => e.operands.filterMap Operand.source?

/-- A placeholder of a document has a path that starts from a source. -/
def Rooted (source : Source) (doc : Json) : Prop :=
  ∃ s t, Json.Holds s doc ∧ hasHole s = true ∧ compile s = .ok t ∧ source ∈ t.sources

variable {u v : View} {doc : Json}

theorem alike_of_rootless {e : Expression} (h : View.Agree [] u v) (he : ∀ o ∈ e.operands, o.source? ≠ some .steps) :
    e.Alike u v := by
  have hnamed (o : Operand) (ho : o ∈ e.operands) : o.isNamed [] = true ∧ o.reference? = none := by
    cases o with
    | literal value => exact ⟨rfl, rfl⟩
    | path source accessors =>
      cases source with
      | input => exact ⟨rfl, rfl⟩
      | subject => exact ⟨rfl, rfl⟩
      | steps => exact absurd rfl (he _ ho)
  cases e with
  | operand o =>
    obtain ⟨hname, href⟩ := hnamed o (List.mem_singleton_self o)
    refine Expression.alike h hname ?_
    simp [Expression.references, href]
  | comparison left op right =>
    obtain ⟨hleft, hlref⟩ := hnamed left (by simp [Expression.operands])
    obtain ⟨hright, hrref⟩ := hnamed right (by simp [Expression.operands])
    refine Expression.alike h ?_ ?_
    · rw [Expression.isNamed, hleft, hright, Bool.and_self]
    · simp [Expression.references, hlref, hrref]

mutual

theorem resolve_congr (doc : Json) (h : ∀ s, Json.Holds s doc → resolveText u s = resolveText v s) :
    resolve u doc = resolve v doc := by
  cases doc with
  | str s => exact h s .text
  | arr items =>
    rw [resolve, resolve, resolveItems_congr items fun doc hdoc s hs => h s (.item hdoc hs)]
  | obj members =>
    rw [resolve, resolve, resolveMembers_congr members fun name doc hdoc s hs => h s (.member hdoc hs)]
  | null => rfl
  | bool b => rfl
  | num n => rfl

theorem resolveItems_congr (items : List Json)
    (h : ∀ doc ∈ items, ∀ s, Json.Holds s doc → resolveText u s = resolveText v s) :
    resolveItems u items = resolveItems v items := by
  cases items with
  | nil => rfl
  | cons doc rest =>
    rw [resolveItems, resolveItems, resolve_congr doc (h doc List.mem_cons_self),
      resolveItems_congr rest fun other ho => h other (List.mem_cons_of_mem _ ho)]

theorem resolveMembers_congr (members : List (String × Json))
    (h : ∀ name doc, (name, doc) ∈ members → ∀ s, Json.Holds s doc → resolveText u s = resolveText v s) :
    resolveMembers u members = resolveMembers v members := by
  match members with
  | [] => rfl
  | (name, doc) :: rest =>
    rw [resolveMembers, resolveMembers, resolve_congr doc (h name doc List.mem_cons_self),
      resolveMembers_congr rest fun other doc hdoc => h other doc (List.mem_cons_of_mem _ hdoc)]

end

theorem resolve_eq_of_rootless (h : View.Agree [] u v) (hr : ¬ Rooted .steps doc) : resolve u doc = resolve v doc := by
  refine resolve_congr doc fun s hs => resolveText_congr fun hhole t ht e he => ?_
  exact alike_of_rootless h fun o ho hsteps =>
    hr ⟨s, t, hs, hhole, ht, List.mem_flatMap.2 ⟨e, he, List.mem_filterMap.2 ⟨o, ho, hsteps⟩⟩⟩

end Template

/-- To paths that do not start at the steps of a run it is as if there were none yet. -/
theorem Context.agree_input (c : Context) : View.Agree [] c.view { input := c.input, steps := .obj [] } where
  input := rfl
  subject := rfl
  steps := ⟨_, _, rfl, rfl, fun _ => nofun⟩
  tables _ := nofun
  levels _ := nofun

end Conductor
