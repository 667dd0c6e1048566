import Conductor.Proofs.Expression.Predicate
import Conductor.Proofs.Template.Joined

/-! The condition of a rule means what the comparison means that it leaves the root out of. -/

namespace Conductor

namespace Token

theorem Spells.after {last last' : Option Token} {cs : List Char} {ts : List Token} (h : Spells last cs ts)
    (hfirst : ∀ t ∈ ts.head?, ∀ rest, Leads (last = some (.mark '.')) t rest → Leads (last' = some (.mark '.')) t rest) :
    Spells last' cs ts := by
  induction h with
  | nil => exact .nil
  | blank hc _ ih => exact .blank hc (ih hfirst)
  | token hleads hrest => exact .token (hfirst _ rfl _ hleads) hrest

theorem Leads.name_anywhere {pointed pointed' : Bool} {s : String} {rest : List Char}
    (h : Leads pointed (.name s) rest) : Leads pointed' (.name s) rest := by
  cases h with
  | name hc hcs hr => exact .name hc hcs hr

theorem Leads.operator_anywhere {pointed pointed' : Bool} {s : String} {rest : List Char}
    (h : Leads pointed (.operator s) rest) : Leads pointed' (.operator s) rest := by
  cases h with
  | operator hs hr => exact .operator hs hr

end Token

namespace Grammar

variable {ts tail : List Token} {path : List Accessor}

theorem DerivesPath.head (h : DerivesPath ts path) : ts.head? ≠ some (.mark '(') := by
  cases h with
  | nil => exact nofun
  | cons ha => cases ha <;> exact nofun

/-- The tokens of a subject where they follow the root. -/
def pointed : List Token → List Token
  | [] => []
  | t :: ts => .mark '.' :: t :: ts

theorem DerivesSubject.derives (h : DerivesSubject ts path) : DerivesPath (pointed ts) path := by
  cases h with
  | nil => exact .nil
  | member _ hp => exact .cons .member (fun _ => hp.head) hp

theorem Short.pointed (h : Short (ts ++ tail)) : Short (pointed ts ++ tail) := by
  cases ts with
  | nil => exact h
  | cons t ts => exact h.cons nofun

end Grammar

namespace Template

open Token Grammar

/-- A predicate as a condition on an input with the subject as its member `x`. A point stands between the two
where the predicate begins with a name. -/
def spelled (p : String) : String :=
  match tokens p with
  | .ok (.name _ :: _) => "input.x." ++ p
  | _ => "input.x " ++ p

theorem breakHole_skip {before cs : List Char} (h : ∀ c ∈ before, c ≠ '$') :
    (breakHole (before ++ cs)).2 = (breakHole cs).2 := by
  induction before with
  | nil => rfl
  | cons c before ih =>
    obtain ⟨hc, hbefore⟩ := List.forall_mem_cons.1 h
    rw [List.cons_append, breakHole_cons fun _ he => absurd he hc]
    exact ih hbefore

theorem hasHole_spelled (p : String) : hasHole (spelled p) = hasHole p := by
  have hskip {root : String} (h : root.toList.all (· ≠ '$') = true) : hasHole (root ++ p) = hasHole p := by
    have hplain : ∀ c ∈ root.toList, c ≠ '$' := fun c hc => by simpa using List.all_eq_true.1 h c hc
    rw [hasHole, String.toList_append, breakHole_skip hplain, hasHole]
  unfold spelled
  split
  · exact hskip rfl
  · exact hskip rfl

theorem spells_root {cs : List Char} {ts : List Token} (h : Spells (some (.name "x")) cs ts)
    (hcs : ∀ c ∈ cs.head?, continuesName c = false) :
    Spells none ("input.x".toList ++ cs) (.name "input" :: .mark '.' :: .name "x" :: ts) := by
  have hx : Spells (some (.mark '.')) ("x".toList ++ cs) (.name "x" :: ts) :=
    .token (.name (c := 'x') rfl (by simp) hcs) h
  have hpoint : Spells (some (.name "input")) (".x".toList ++ cs) (.mark '.' :: .name "x" :: ts) :=
    .token (.mark rfl) hx
  have hinput : Leads (decide ((none : Option Token) = some (.mark '.')))
      (.name (String.ofList ['i', 'n', 'p', 'u', 't'])) (".x".toList ++ cs) :=
    .name rfl (List.all_eq_true.1 rfl) (by rintro d ⟨⟩; rfl)
  exact .token hinput hpoint

theorem tokens_spelled {p : String} {ts : List Token} {path : List Accessor} {s : String} {t : Token}
    (hs : DerivesSubject ts path) (ht : tokens p = .ok (ts ++ [.operator s, t])) :
    tokens (spelled p) = .ok (.name "input" :: .mark '.' :: .name "x" :: (pointed ts ++ [.operator s, t])) := by
  have hp := tokens_eq_ok.1 ht
  rw [tokens_eq_ok, spelled, ht]
  cases hs with
  | nil =>
    have hafter : Spells (some (.name "x")) p.toList [.operator s, t] :=
      hp.after fun _ he _ hleads => by
        cases he
        exact hleads.operator_anywhere
    simp only [List.nil_append, String.toList_append]
    exact spells_root (.blank rfl hafter) (by rintro d ⟨⟩; rfl)
  | @member name ts path =>
    have hafter : Spells (some (.mark '.')) p.toList (.name name :: (ts ++ [.operator s, t])) :=
      hp.after fun _ he _ hleads => by
        cases he
        exact hleads.name_anywhere
    simp only [List.cons_append, String.toList_append]
    exact spells_root (.token (.mark rfl) hafter) (by rintro d ⟨⟩; rfl)

theorem parse_spelled {p : String} {path : List Accessor} {op : Comparison} {value : Json}
    (h : Expression.parsePredicate p = .ok (.comparison (.path .subject path) op (.literal value))) :
    Expression.parse (spelled p) =
      .ok (.comparison (.path .input (.member "x" :: path)) op (.literal value)) := by
  obtain ⟨ts, ht, -⟩ := bind_eq_ok h
  obtain ⟨hderives, hshort⟩ := (Expression.parsePredicate_eq_ok ht).1 h
  cases hderives with
  | @comparison ts _ _ t _ hs hv =>
    rw [Expression.parse_eq_ok (tokens_spelled hs ht)]
    have hmember : DerivesPath ([.mark '.', .name "x"] ++ pointed ts) (.member "x" :: path) :=
      .cons .member (fun _ => hs.derives.head) hs.derives
    have hroot : DerivesOperand (.name "input" :: ([.mark '.', .name "x"] ++ pointed ts)) _ := .path rfl hmember
    have hnames : Short [.name "input", .mark '.', .name "x"] := short_of_no_number (by simp)
    exact ⟨.comparison hroot (.literal hv), hnames.append hshort.pointed⟩

theorem checked_rooted (path : List Accessor) (op : Comparison) (value v : Json) :
    checked { input := .obj [("x", v)] } (.comparison (.path .input (.member "x" :: path)) op (.literal value)) =
      checked { subject := v } (.comparison (.path .subject path) op (.literal value)) := by
  rfl

theorem asksNonEmpty_iff {path : List Accessor} {op : Comparison} {value : Json} :
    asksNonEmpty (.comparison (.path .subject path) op (.literal value)) = true ↔
      path = [.member "length"] ∧ op = .above ∧ Json.same value (.int 0) = true := by
  constructor
  · intro h
    unfold asksNonEmpty at h
    split at h
    · rename_i he
      cases he
      rw [Bool.and_eq_true, decide_eq_true_eq] at h
      exact ⟨by rw [h.1], rfl, h.2⟩
    · cases h
  · rintro ⟨rfl, rfl, h⟩
    simpa [asksNonEmpty] using h

theorem parsePredicate_trim {p : String} {e : Expression} (h : Expression.parsePredicate p = .ok e) :
    Expression.parsePredicate (trim p) = .ok e := by
  obtain ⟨ts, ht, -⟩ := bind_eq_ok h
  rwa [Expression.parsePredicate_eq_ok (tokens_trim ht), ← Expression.parsePredicate_eq_ok ht]

theorem parsePredicate_empty : Expression.parsePredicate "" = .ok (.operand (.path .subject [])) := by
  have ht : tokens "" = .ok [] := split_nil
  exact (Expression.parsePredicate_eq_ok ht).2 ⟨.operand .nil, short_of_no_number (by simp)⟩

theorem satisfies_comparison {p : String} {left right : Operand} {op : Comparison}
    (h : Expression.parsePredicate p = .ok (.comparison left op right)) (v : Json) :
    satisfies p v =
      if asksNonEmpty (.comparison left op right) && v.size?.isNone then .ok v.truthy
      else (checked { subject := v } (.comparison left op right)).map Json.truthy := by
  have htrim := parsePredicate_trim h
  have hne : trim p ≠ "" := by
    intro he
    rw [he, parsePredicate_empty] at htrim
    cases htrim
  rw [satisfies, if_neg hne, htrim]

/-- A condition of a rule means the same as the comparison spelled out, on an input that has the value as a member.
The exception is a length above nothing of a value that has no length: there the value itself is asked. -/
theorem satisfies_eq_condition {p : String} {left right : Operand} {op : Comparison} (hhole : hasHole p = false)
    (h : Expression.parsePredicate p = .ok (.comparison left op right)) :
    ∃ path value, left = .path .subject path ∧ right = .literal value ∧ ∀ v : Json,
      (path = [.member "length"] ∧ op = .above ∧ Json.same value (.int 0) = true ∧ v.size? = none →
        satisfies p v = .ok v.truthy) ∧
      (¬ (path = [.member "length"] ∧ op = .above ∧ Json.same value (.int 0) = true ∧ v.size? = none) →
        satisfies p v = condition { input := .obj [("x", v)] } (spelled p)) := by
  obtain ⟨ts, ht, -⟩ := bind_eq_ok h
  cases ((Expression.parsePredicate_eq_ok ht).1 h).1 with
  | @comparison ts path op t value =>
    refine ⟨path, value, rfl, rfl, fun v => ?_⟩
    have hasks : (asksNonEmpty (.comparison (.path .subject path) op (.literal value)) && v.size?.isNone) = true ↔
        path = [.member "length"] ∧ op = .above ∧ Json.same value (.int 0) = true ∧ v.size? = none := by
      rw [Bool.and_eq_true, asksNonEmpty_iff, Option.isNone_iff_eq_none, and_assoc, and_assoc]
    constructor
    · intro hlength
      rw [satisfies_comparison h, if_pos (hasks.2 hlength)]
    · intro hlength
      rw [satisfies_comparison h, if_neg fun he => hlength (hasks.1 he), condition, evaluateText, hasHole_spelled,
        hhole, if_neg Bool.false_ne_true, parse_trim (parse_spelled h), ← checked_rooted]
      rfl

theorem satisfies_eq_condition_of_length :
    Expression.parsePredicate "length > 0" =
        .ok (.comparison (.path .subject [.member "length"]) .above (.literal (.int 0))) ∧
      satisfies "length > 0" (.int 3) = .ok true ∧
      satisfies "length > 0" (.str "") = condition { input := .obj [("x", .str "")] } "input.x.length > 0" := by
  have ht : tokens "length > 0" = .ok [.name "length", .operator ">", .number "0"] := by decide +kernel
  have hsubject : DerivesSubject [.name "length"] [.member "length"] := .member rfl .nil
  have hderives : DerivesPredicate ([.name "length"] ++ [.operator Comparison.above.sign, .number "0"])
      (.comparison (.path .subject [.member "length"]) .above (.literal (.int 0))) :=
    .comparison hsubject (.whole rfl)
  have hparse : Expression.parsePredicate "length > 0" =
      .ok (.comparison (.path .subject [.member "length"]) .above (.literal (.int 0))) :=
    (Expression.parsePredicate_eq_ok ht).2 ⟨hderives, .of_all (by simp +decide)⟩
  have hspelled : spelled "length > 0" = "input.x.length > 0" := by rw [spelled, ht]; rfl
  obtain ⟨path, value, hl, hr, hsame⟩ := satisfies_eq_condition (p := "length > 0") (by decide +kernel) hparse
  cases hl
  cases hr
  have hlength := (hsame (.int 3)).1 ⟨rfl, rfl, by decide +kernel, rfl⟩
  have hempty := (hsame (.str "")).2 nofun
  rw [hspelled] at hempty
  exact ⟨hparse, hlength, hempty⟩

end Template

end Conductor
