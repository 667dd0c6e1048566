import Conductor.Proofs.Template.Dependence

/-! A text whose steps can be told follows the grammar, and so it is read without a complaint when
its turn comes. The one exception is a blank text that stands bare: it names no step, but no
expression is blank. -/

namespace Conductor

namespace Template

variable {view : View} {e : ParseError}

/-- Whether a text that stands bare holds no expression at all. -/
def isBlankText (s : String) : Bool := !hasHole s && trim s = ""

theorem isGrammar_checked {expression : Expression} (h : checked view expression = .error e) :
    e.isGrammar = false := by
  unfold checked at h
  split at h <;> cases h
  rfl

theorem isGrammar_evaluateChecked {t : Template} (h : evaluateChecked view t = .error e) :
    e.isGrammar = false := by
  unfold evaluateChecked at h
  split at h <;> cases h
  rfl

theorem isGrammar_resolveText {s : String} {ids : List String} (hr : textReferences s = .ok ids)
    (h : resolveText view s = .error e) : e.isGrammar = false := by
  unfold textReferences at hr
  unfold resolveText at h
  by_cases hs : hasHole s = true
  · rw [if_pos hs] at hr h
    cases ht : compile s with
    | error e' =>
      rw [ht] at hr
      cases hr
    | ok t =>
      rw [ht] at h
      exact isGrammar_evaluateChecked h
  · rw [if_neg hs] at h
    cases h

mutual

theorem isGrammar_resolve {doc : Json} {ids : List String} (hr : references doc = .ok ids)
    (h : resolve view doc = .error e) : e.isGrammar = false := by
  cases doc with
  | str s =>
    rw [references] at hr
    rw [resolve] at h
    exact isGrammar_resolveText hr h
  | arr items =>
    rw [references] at hr
    rw [resolve] at h
    exact isGrammar_resolveItems hr (map_eq_error h)
  | obj members =>
    rw [references] at hr
    rw [resolve] at h
    exact isGrammar_resolveMembers hr (map_eq_error h)
  | null => cases h
  | bool b => cases h
  | num n => cases h

theorem isGrammar_resolveItems {items : List Json} {ids : List String} (hr : itemReferences items = .ok ids)
    (h : resolveItems view items = .error e) : e.isGrammar = false := by
  cases items with
  | nil => cases h
  | cons doc rest =>
    rw [itemReferences] at hr
    obtain ⟨first, others, hf, ho, _⟩ := append_eq_ok hr
    rw [resolveItems] at h
    cases hv : resolve view doc with
    | error e' =>
      rw [hv] at h
      cases h
      exact isGrammar_resolve hf hv
    | ok value =>
      rw [hv] at h
      cases hvs : resolveItems view rest with
      | error e' =>
        rw [hvs] at h
        cases h
        exact isGrammar_resolveItems ho hvs
      | ok values =>
        rw [hvs] at h
        cases h

theorem isGrammar_resolveMembers {members : List (String × Json)} {ids : List String}
    (hr : memberReferences members = .ok ids) (h : resolveMembers view members = .error e) :
    e.isGrammar = false := by
  match members with
  | [] => cases h
  | (name, doc) :: rest =>
    rw [memberReferences] at hr
    obtain ⟨first, others, hf, ho, _⟩ := append_eq_ok hr
    rw [resolveMembers] at h
    cases hv : resolve view doc with
    | error e' =>
      rw [hv] at h
      cases h
      exact isGrammar_resolve hf hv
    | ok value =>
      rw [hv] at h
      cases hvs : resolveMembers view rest with
      | error e' =>
        rw [hvs] at h
        cases h
        exact isGrammar_resolveMembers ho hvs
      | ok values =>
        rw [hvs] at h
        cases h

end

theorem evaluateText_blank {s : String} (h : isBlankText s = true) (view : View) :
    evaluateText view s = .error (.malformed "" .operand none) := by
  rw [isBlankText, Bool.and_eq_true, Bool.not_eq_true', decide_eq_true_eq] at h
  rw [evaluateText, if_neg (by simp [h.1]), h.2, parse_empty]
  rfl

theorem bareReferences_blank {s : String} (h : isBlankText s = true) : bareReferences s = .ok [] := by
  rw [isBlankText, Bool.and_eq_true, Bool.not_eq_true', decide_eq_true_eq] at h
  rw [bareReferences, if_neg (by simp [h.1]), if_pos h.2]

theorem isGrammar_evaluateText {s : String} {ids : List String} (hr : bareReferences s = .ok ids)
    (hb : isBlankText s = false) (h : evaluateText view s = .error e) : e.isGrammar = false := by
  unfold bareReferences at hr
  unfold evaluateText at h
  by_cases hs : hasHole s = true
  · rw [if_pos hs] at hr h
    exact isGrammar_resolveText hr h
  · have ht : trim s ≠ "" := by simpa [isBlankText, hs] using hb
    rw [if_neg hs] at h
    rw [if_neg hs, if_neg ht] at hr
    cases hp : Expression.parse (trim s) with
    | error e' =>
      rw [hp] at hr
      cases hr
    | ok expression =>
      rw [hp] at h
      exact isGrammar_checked h

theorem isGrammar_satisfies {condition : String} {value : Json} (h : satisfies condition value = .error e) :
    e.isGrammar = false := by
  unfold satisfies at h
  dsimp only at h
  by_cases hs : trim condition = ""
  · rw [if_pos hs] at h
    cases h
  · rw [if_neg hs] at h
    cases hp : Expression.parsePredicate (trim condition) with
    | error e' =>
      rw [hp] at h
      dsimp only at h
      by_cases hg : e'.isGrammar = true
      · rw [if_pos hg] at h
        cases h
      · rw [if_neg hg] at h
        cases h
        exact Bool.eq_false_iff.2 hg
    | ok expression =>
      rw [hp] at h
      cases expression with
      | operand o => cases h
      | comparison left op right =>
        dsimp only at h
        split at h
        · cases h
        · exact isGrammar_checked (map_eq_error h)

end Template

end Conductor
