import Conductor.Expression.Parse

/-! The grammar of expressions as a relation between tokens and what they mean, without a reader. No list of
tokens means two things. -/

namespace Conductor

namespace Grammar

/-- The number of digits of a number without a point. -/
def wholeDigits (s : String) : Nat := (splitSign s.toList).2.length

/-- The number that digits spell, however many they are. -/
def wholeValue (s : String) : Int :=
  if (splitSign s.toList).1 then -(digitsValue (splitSign s.toList).2 : Int)
  else digitsValue (splitSign s.toList).2

inductive DerivesLiteral : Token → Json → Prop
  | whole {s : String} : isWhole s = true → DerivesLiteral (.number s) (.int (wholeValue s))
  | real {s : String} : isWhole s = false → DerivesLiteral (.number s) (.real (realNumber s))
  | quoted {s value : String} : unquote s = .ok value → DerivesLiteral (.quoted s) (.str value)
  | keyword {s : String} {value : Json} : keyword? s = some value → DerivesLiteral (.name s) value

/-- The members that a filter asks each item for; a number counts as a name there. -/
inductive DerivesField : List Token → List String → Prop
  | nil : DerivesField [] []
  | name {s : String} {ts : List Token} {names : List String} : DerivesField ts names →
    DerivesField (.mark '.' :: .name s :: ts) (s :: names)
  | number {s : String} {ts : List Token} {names : List String} : DerivesField ts names →
    DerivesField (.mark '.' :: .number s :: ts) (s :: names)

/-- What stands in a filter before the field of its items. -/
def filterHead (parameter : String) : List Token :=
  [.mark '.', .name "filter", .mark '(', .name parameter, .operator "=>", .name parameter]

inductive DerivesAccessor : List Token → Accessor → Prop
  | member {s : String} : DerivesAccessor [.mark '.', .name s] (.member s)
  | item {s : String} : isWhole s = true → DerivesAccessor [.mark '.', .number s] (.index (wholeValue s))
  | index {s : String} : isWhole s = true →
    DerivesAccessor [.mark '[', .number s, .mark ']'] (.index (wholeValue s))
  | key {s name : String} : unquote s = .ok name →
    DerivesAccessor [.mark '[', .quoted s, .mark ']'] (.key name)
  | filter {parameter : String} {field : List Token} {names : List String} {op : Comparison} {t : Token}
    {value : Json} : DerivesField field names → DerivesLiteral t value →
    DerivesAccessor (filterHead parameter ++ field ++ [.operator op.sign, t, .mark ')']) (.filter names op value)

/-- `filter` with a parenthesis after it is no member. -/
inductive DerivesPath : List Token → List Accessor → Prop
  | nil : DerivesPath [] []
  | cons {first rest : List Token} {a : Accessor} {path : List Accessor} : DerivesAccessor first a →
    (a = .member "filter" → rest.head? ≠ some (.mark '(')) → DerivesPath rest path →
    DerivesPath (first ++ rest) (a :: path)

inductive DerivesOperand : List Token → Operand → Prop
  | literal {t : Token} {value : Json} : DerivesLiteral t value → DerivesOperand [t] (.literal value)
  | path {s : String} {source : Source} {ts : List Token} {path : List Accessor} : source? s = some source →
    DerivesPath ts path → DerivesOperand (.name s :: ts) (.path source path)

inductive Derives : List Token → Expression → Prop
  | operand {ts : List Token} {o : Operand} : DerivesOperand ts o → Derives ts (.operand o)
  | comparison {ts us : List Token} {left right : Operand} {op : Comparison} : DerivesOperand ts left →
    DerivesOperand us right → Derives (ts ++ .operator op.sign :: us) (.comparison left op right)

/-! No list of tokens means two things -/

theorem sign_injective {c d : Comparison} (h : c.sign = d.sign) : c = d := by
  have := Comparison.ofSign?_sign c
  rw [h, Comparison.ofSign?_sign] at this
  exact (Option.some.inj this).symm

theorem keyword?_of_source? {s : String} {source : Source} (h : source? s = some source) : keyword? s = none := by
  unfold source? at h
  split at h
  · rfl
  · rfl
  · cases h

theorem DerivesLiteral.unique {t : Token} {v w : Json} (hv : DerivesLiteral t v) (hw : DerivesLiteral t w) :
    v = w := by
  cases hv with
  | whole h => cases hw with
    | whole => rfl
    | real h' => rw [h] at h'; cases h'
  | real h => cases hw with
    | whole h' => rw [h] at h'; cases h'
    | real => rfl
  | quoted h => cases hw with
    | quoted h' => cases h.symm.trans h'; rfl
  | keyword h => cases hw with
    | keyword h' => exact Option.some.inj (h.symm.trans h')

theorem DerivesField.unique {ts us : List Token} {names others : List String} {s s' : String}
    {rest more : List Token} (h : DerivesField ts names) (h' : DerivesField us others)
    (he : ts ++ .operator s :: rest = us ++ .operator s' :: more) :
    names = others ∧ s = s' ∧ rest = more := by
  induction h generalizing us others with
  | nil =>
    cases h' with
    | nil =>
      cases he
      exact ⟨rfl, rfl, rfl⟩
    | name => cases he
    | number => cases he
  | name _ ih =>
    cases h' with
    | nil => cases he
    | name h' =>
      simp only [List.cons_append, List.cons.injEq, Token.name.injEq, true_and] at he
      obtain ⟨hnames, hsign, hrest⟩ := ih h' he.2
      exact ⟨by rw [he.1, hnames], hsign, hrest⟩
    | number => cases he
  | number _ ih =>
    cases h' with
    | nil => cases he
    | name => cases he
    | number h' =>
      simp only [List.cons_append, List.cons.injEq, Token.number.injEq, true_and] at he
      obtain ⟨hnames, hsign, hrest⟩ := ih h' he.2
      exact ⟨by rw [he.1, hnames], hsign, hrest⟩

theorem DerivesAccessor.unique {first second rest more : List Token} {a b : Accessor}
    (ha : DerivesAccessor first a) (hb : DerivesAccessor second b) (he : first ++ rest = second ++ more)
    (hrest : a = .member "filter" → rest.head? ≠ some (.mark '('))
    (hmore : b = .member "filter" → more.head? ≠ some (.mark '(')) : a = b ∧ rest = more := by
  cases ha with
  | member =>
    cases hb with
    | member =>
      cases he
      exact ⟨rfl, rfl⟩
    | filter =>
      cases he
      exact absurd rfl (hrest rfl)
    | item => cases he
    | index => cases he
    | key => cases he
  | item =>
    cases hb with
    | item =>
      cases he
      exact ⟨rfl, rfl⟩
    | member => cases he
    | index => cases he
    | key => cases he
    | filter => cases he
  | index =>
    cases hb with
    | index =>
      cases he
      exact ⟨rfl, rfl⟩
    | member => cases he
    | item => cases he
    | key => cases he
    | filter => cases he
  | key h =>
    cases hb with
    | key h' =>
      cases he
      cases h.symm.trans h'
      exact ⟨rfl, rfl⟩
    | member => cases he
    | item => cases he
    | index => cases he
    | filter => cases he
  | filter hfield hvalue =>
    cases hb with
    | member =>
      cases he
      exact absurd rfl (hmore rfl)
    | item => cases he
    | index => cases he
    | key => cases he
    | filter hfield' hvalue' =>
      simp only [filterHead, List.append_assoc, List.cons_append, List.nil_append, List.cons.injEq,
        true_and] at he
      obtain ⟨hnames, hsign, hends⟩ := hfield.unique hfield' he.2.2
      cases hends
      exact ⟨by rw [hnames, sign_injective hsign, hvalue.unique hvalue'], rfl⟩

theorem DerivesAccessor.head {first : List Token} {a : Accessor} (h : DerivesAccessor first a) :
    ∃ c tail, first = .mark c :: tail := by
  cases h with
  | member => exact ⟨_, _, rfl⟩
  | item => exact ⟨_, _, rfl⟩
  | index => exact ⟨_, _, rfl⟩
  | key => exact ⟨_, _, rfl⟩
  | filter => exact ⟨_, _, rfl⟩

theorem head?_append_ne {ts rest : List Token} {t : Token} (h : ts.head? ≠ some t) (hr : rest.head? ≠ some t) :
    (ts ++ rest).head? ≠ some t := by
  cases ts with
  | nil => exact hr
  | cons first tail => exact h

/-- What follows a path or a whole operand: no mark, or it would belong to the path. -/
def Ends (rest : List Token) : Prop := ∀ c, rest.head? ≠ some (.mark c)

theorem ends_nil : Ends [] := fun _ => nofun

theorem ends_operator {s : String} {rest : List Token} : Ends (.operator s :: rest) := fun _ => nofun

theorem DerivesPath.unique {ts us rest more : List Token} {path other : List Accessor} (h : DerivesPath ts path)
    (h' : DerivesPath us other) (he : ts ++ rest = us ++ more) (hrest : Ends rest) (hmore : Ends more) :
    path = other ∧ rest = more := by
  induction h generalizing us other with
  | nil =>
    cases h' with
    | nil => exact ⟨rfl, he⟩
    | cons hb =>
      -- one path would go on at a mark where the other ends
      obtain ⟨c, tail, rfl⟩ := hb.head
      rw [List.nil_append] at he
      exact absurd (by rw [he]; rfl) (hrest c)
  | cons ha hlook _ ih =>
    cases h' with
    | nil =>
      obtain ⟨c, tail, rfl⟩ := ha.head
      rw [List.nil_append] at he
      exact absurd (by rw [← he]; rfl) (hmore c)
    | cons hb hlook' h' =>
      rw [List.append_assoc, List.append_assoc] at he
      obtain ⟨hab, he⟩ := ha.unique hb he (fun hf => head?_append_ne (hlook hf) (hrest _))
        fun hf => head?_append_ne (hlook' hf) (hmore _)
      obtain ⟨hpath, hends⟩ := ih h' he
      exact ⟨by rw [hab, hpath], hends⟩

theorem DerivesOperand.unique {ts us rest more : List Token} {o o' : Operand} (h : DerivesOperand ts o)
    (h' : DerivesOperand us o') (he : ts ++ rest = us ++ more) (hrest : Ends rest) (hmore : Ends more) :
    o = o' ∧ rest = more := by
  cases h with
  | literal hv =>
    cases h' with
    | literal hw =>
      cases he
      exact ⟨by rw [hv.unique hw], rfl⟩
    | path hs =>
      cases he
      cases hv with
      | keyword hk =>
        rw [keyword?_of_source? hs] at hk
        cases hk
  | path hs hp =>
    cases h' with
    | literal hw =>
      cases he
      cases hw with
      | keyword hk =>
        rw [keyword?_of_source? hs] at hk
        cases hk
    | path hs' hp' =>
      simp only [List.cons_append, List.cons.injEq, Token.name.injEq] at he
      obtain ⟨rfl, he⟩ := he
      cases hs.symm.trans hs'
      obtain ⟨rfl, hends⟩ := hp.unique hp' he hrest hmore
      exact ⟨rfl, hends⟩

theorem Derives.unique {ts : List Token} {e e' : Expression} (h : Derives ts e) (h' : Derives ts e') : e = e' := by
  cases h with
  | operand h =>
    generalize hus : ts = us at h'
    cases h' with
    | operand h' =>
      obtain ⟨rfl, -⟩ := h.unique (hus ▸ h') rfl ends_nil ends_nil
      rfl
    | comparison hl _ =>
      have hends := (h.unique hl ((List.append_nil ts).trans hus) ends_nil ends_operator).2
      cases hends
  | @comparison ls rs left right op hl hr =>
    generalize hus : ls ++ .operator op.sign :: rs = us at h'
    cases h' with
    | operand h' =>
      have hends := (hl.unique h' (hus.trans (List.append_nil us).symm) ends_operator ends_nil).2
      cases hends
    | comparison hl' hr' =>
      obtain ⟨rfl, hends⟩ := hl.unique hl' hus ends_operator ends_operator
      simp only [List.cons.injEq, Token.operator.injEq] at hends
      obtain ⟨rfl, -⟩ := hr.unique (hends.2 ▸ hr') rfl ends_nil ends_nil
      rw [sign_injective hends.1]

end Grammar

end Conductor
