import Conductor.Proofs.Except
import Conductor.Proofs.Expression.Derivation
import Conductor.Proofs.Expression.Spelling

/-! The reader of expressions accepts what the grammar derives, as the grammar means it, and refuses everything
else. The one exception are whole numbers of too many digits: they are in the grammar, but the reader breaks off
at the first that it has to evaluate, whether or not the text goes on as it should. -/

namespace Conductor

namespace Grammar

variable {text : String} {ts rest : List Token} {e : ParseError}

/-! Places among tokens -/

/-- The last operator among tokens. -/
def lastSign (ts : List Token) : Option String :=
  (ts.filterMap fun
    | .operator s => some s
    | _ => none).getLast?

/-- What the last of the tokens leads to is the field of a filter. -/
def BeforeField (before : List Token) : Prop := lastSign before = some "=>"

/-- A number right after a point is whole, except in the field of a filter. -/
def WholeItems (ts : List Token) : Prop :=
  ∀ before s after, ts = before ++ .mark '.' :: .number s :: after → BeforeField before ∨ isWhole s = true

/-- No whole number has too many digits, except in the field of a filter. -/
def Short (ts : List Token) : Prop :=
  ∀ before s after, ts = before ++ .number s :: after → isWhole s = true →
    BeforeField before ∨ wholeDigits s ≤ maxDigits

theorem lastSign_append (ts us : List Token) : lastSign (ts ++ us) = (lastSign us).or (lastSign ts) := by
  rw [lastSign, List.filterMap_append, List.getLast?_append]
  rfl

theorem BeforeField.after {before : List Token} (front : List Token) (h : BeforeField before) :
    BeforeField (front ++ before) := by
  rw [BeforeField, lastSign_append, h]
  rfl

theorem BeforeField.append_cases {us : List Token} (h : BeforeField (ts ++ us)) : BeforeField us ∨ BeforeField ts := by
  rw [BeforeField, lastSign_append] at h
  cases hu : lastSign us with
  | none => exact .inr (by rwa [hu] at h)
  | some s => exact .inl (by rw [hu] at h; exact hu.trans h)

theorem not_beforeField_append {us : List Token} (ht : ¬ BeforeField ts) (hu : ¬ BeforeField us) :
    ¬ BeforeField (ts ++ us) :=
  fun h => h.append_cases.elim hu ht

theorem Short.of_all (h : ∀ s, .number s ∈ ts → isWhole s = true → wholeDigits s ≤ maxDigits) : Short ts := by
  rintro before s after rfl hs
  exact .inr (h s (by simp) hs)

theorem Short.append {us : List Token} (ht : Short ts) (hu : Short us) : Short (ts ++ us) := by
  intro before s after he hs
  rcases List.append_eq_append_iff.1 he with ⟨more, rfl, hus⟩ | ⟨more, rfl, hus⟩
  · exact (hu more s after hus hs).imp_left (BeforeField.after ts)
  · cases more with
    | nil => exact (hu [] s after (by simpa using hus.symm) hs).imp_left fun hf => by simpa using hf.after before
    | cons t tail =>
      cases hus
      exact ht before s tail rfl hs

theorem Short.left {us : List Token} (h : Short (ts ++ us)) : Short ts := by
  rintro before s after rfl hs
  exact h before s (after ++ us) (by simp) hs

theorem Short.right {us : List Token} (h : Short (ts ++ us)) (ht : ¬ BeforeField ts) : Short us := by
  rintro before s after rfl hs
  rcases h (ts ++ before) s after (by simp) hs with hb | hfew
  · exact .inl (hb.append_cases.resolve_right ht)
  · exact .inr hfew

theorem sign_ne_arrow (op : Comparison) : op.sign ≠ "=>" := by
  cases op <;> decide

theorem not_beforeField_sign (ts : List Token) (op : Comparison) : ¬ BeforeField (ts ++ [.operator op.sign]) := by
  rw [BeforeField, lastSign_append]
  exact fun hb => sign_ne_arrow op (Option.some.inj hb)

theorem lastSign_field {field : List Token} {names : List String} (h : DerivesField field names) :
    lastSign field = none := by
  induction h with
  | nil => rfl
  | name _ ih => exact ih
  | number _ ih => exact ih

theorem not_beforeField_accessor {first : List Token} {a : Accessor} (h : DerivesAccessor first a) :
    ¬ BeforeField first := by
  cases h with
  | member => exact nofun
  | item => exact nofun
  | index => exact nofun
  | key => exact nofun
  | @filter parameter field names op t value _ hvalue =>
    have hlast : lastSign [.operator op.sign, t, .mark ')'] = some op.sign := by
      cases hvalue <;> rfl
    rw [BeforeField, lastSign_append, hlast]
    exact fun he => sign_ne_arrow op (Option.some.inj he)

theorem not_beforeField_path {path : List Accessor} (h : DerivesPath ts path) : ¬ BeforeField ts := by
  induction h with
  | nil => exact nofun
  | cons ha _ _ ih => exact not_beforeField_append (not_beforeField_accessor ha) ih

theorem not_beforeField_operand {o : Operand} (h : DerivesOperand ts o) : ¬ BeforeField ts := by
  cases h with
  | literal hv => cases hv <;> exact nofun
  | @path s _ ts _ _ hp =>
    show ¬ BeforeField ([.name s] ++ ts)
    exact not_beforeField_append nofun (not_beforeField_path hp)

/-! What the grammar derives is read -/

/-- The outcome of reading `a`, unless a number on the way is too long. It is not where the numbers are short. -/
def UnlessLong {α : Type} (short : Prop) (x : Except ParseError α) (a : α) : Prop :=
  x = .ok a ∨ ¬ short ∧ ∃ digits, maxDigits < digits ∧ x = .error (.longNumber digits)

section

variable {α β : Type} {short short' : Prop} {x : Except ParseError α} {a : α}

theorem UnlessLong.ok (h : UnlessLong short x a) (hs : short) : x = .ok a :=
  h.resolve_right fun hlong => hlong.1 hs

theorem UnlessLong.mono (h : UnlessLong short x a) (hs : short' → short) : UnlessLong short' x a :=
  h.imp_right (And.imp_left (mt hs))

theorem UnlessLong.map (h : UnlessLong short x a) (f : α → β) : UnlessLong short (x.map f) (f a) := by
  rcases h with rfl | ⟨hlong, digits, hdigits, rfl⟩
  · exact .inl rfl
  · exact .inr ⟨hlong, digits, hdigits, rfl⟩

theorem UnlessLong.bind {f : α → Except ParseError β} {b : β} (h : UnlessLong short x a)
    (hf : UnlessLong short (f a) b) : UnlessLong short (x >>= f) b := by
  rcases h with rfl | ⟨hlong, digits, hdigits, rfl⟩
  · exact hf
  · exact .inr ⟨hlong, digits, hdigits, rfl⟩

end

theorem wholeNumber_eq (s : String) : wholeNumber s =
    if maxDigits < wholeDigits s then .error (.longNumber (wholeDigits s)) else .ok (wholeValue s) := rfl

theorem wholeNumber_derived (before : List Token) {s : String} (hb : ¬ BeforeField before) (hs : isWhole s = true) :
    UnlessLong (Short (before ++ .number s :: rest)) (wholeNumber s) (wholeValue s) := by
  rw [wholeNumber_eq]
  split
  · rename_i hlong
    refine .inr ⟨fun hshort => ?_, _, hlong, rfl⟩
    exact absurd hlong (Nat.not_lt.2 ((hshort before s rest rfl hs).resolve_left hb))
  · exact .inl rfl

theorem literal_derived {t : Token} {value : Json} (h : DerivesLiteral t value) :
    UnlessLong (Short [t]) (literal text (t :: rest)) (value, rest) := by
  cases h with
  | whole hs =>
    rw [literal, numberValue, if_pos hs]
    exact ((wholeNumber_derived [] nofun hs).map _).map _
  | real hs =>
    rw [literal, numberValue, if_neg (Bool.eq_false_iff.1 hs)]
    exact .inl rfl
  | quoted hs =>
    rw [literal, hs]
    exact .inl rfl
  | keyword hs =>
    rw [literal, hs]
    exact .inl rfl

theorem expect_self {t : Token} : expect text t (t :: rest) = .ok rest := if_pos rfl

theorem comparison?_sign {op : Comparison} : comparison? (.operator op.sign :: rest) = some (op, rest) := by
  rw [comparison?, Comparison.ofSign?_sign]
  rfl

theorem field_derived {field : List Token} {names : List String} {s : String} (h : DerivesField field names) :
    Grammar.field text (field ++ .operator s :: rest) = .ok (names, .operator s :: rest) := by
  induction h with
  | nil => rw [List.nil_append, Grammar.field]; all_goals exact nofun
  | name _ ih =>
    rw [List.cons_append, List.cons_append, Grammar.field, ih]
    rfl
  | number _ ih =>
    rw [List.cons_append, List.cons_append, Grammar.field, ih]
    rfl

theorem filterTail_eq {parameter : String} {field : List Token} {names : List String} {op : Comparison}
    (hf : DerivesField field names) :
    filterTail text (.name parameter :: .operator "=>" :: .name parameter :: (field ++ .operator op.sign :: rest)) =
      (literal text rest >>= fun out => expect text (.mark ')') out.2 >>= fun left =>
        pure (.filter names op out.1, left)) := by
  rw [filterTail, expect_self]
  show (if _ then _ else _) = _
  rw [if_neg (by simp [Token.text]), List.tail_cons, field_derived hf]
  simp only [bind, Except.bind, comparison?_sign]

theorem filterTail_derived {parameter : String} {field : List Token} {names : List String} {op : Comparison}
    {t : Token} {value : Json} (hf : DerivesField field names) (hv : DerivesLiteral t value) :
    UnlessLong (Short [t]) (filterTail text (.name parameter :: .operator "=>" :: .name parameter ::
      (field ++ .operator op.sign :: t :: .mark ')' :: rest))) (.filter names op value, rest) := by
  rw [filterTail_eq hf]
  exact (literal_derived hv).bind (.inl (by simp only [expect_self]; rfl))

theorem accessor?_derived {first : List Token} {a : Accessor} (h : DerivesAccessor first a)
    (hlook : a = .member "filter" → rest.head? ≠ some (.mark '(')) :
    UnlessLong (Short first) (accessor? text (first ++ rest)) (some (a, rest)) := by
  cases h with
  | @member s =>
    have hfilter : ¬ (s = "filter" ∧ rest.head? = some (.mark '(')) := by
      rintro ⟨rfl, hhead⟩
      exact hlook rfl hhead
    refine .inl ?_
    show (afterPoint text (.name s :: rest)).map some = _
    rw [afterPoint, if_neg hfilter]
    rfl
  | @item s hs =>
    show UnlessLong _ ((afterPoint text (.number s :: rest)).map some) _
    rw [afterPoint, if_pos hs]
    exact ((wholeNumber_derived [.mark '.'] nofun hs).map fun n => (Accessor.index n, rest)).map some
  | @index s hs =>
    show UnlessLong _ ((bracket text (.number s :: .mark ']' :: rest)).map some) _
    refine UnlessLong.map (a := (Accessor.index (wholeValue s), rest)) ?_ some
    rw [bracket, if_pos hs]
    have hread : UnlessLong (Short [.mark '[', .number s, .mark ']']) (wholeNumber s) (wholeValue s) :=
      wholeNumber_derived [.mark '['] nofun hs
    rcases hread with hn | ⟨hlong, digits, hdigits, hn⟩
    · rw [hn]
      exact .inl (by simp only [expect_self]; rfl)
    · rw [hn]
      exact .inr ⟨hlong, digits, hdigits, rfl⟩
  | @key s name hs =>
    show UnlessLong _ ((bracket text (.quoted s :: .mark ']' :: rest)).map some) _
    rw [bracket, hs]
    exact .inl (by simp only [expect_self]; rfl)
  | @filter parameter field names op t value hf hv =>
    have hvalue (hshort : Short (filterHead parameter ++ field ++ [.operator op.sign, t, .mark ')'])) : Short [t] := by
      have hend : Short ([t] ++ [.mark ')']) := by
        apply Short.right _ (not_beforeField_sign (filterHead parameter ++ field) op)
        simpa using hshort
      exact hend.left
    refine UnlessLong.mono ?_ hvalue
    rw [List.append_assoc, List.append_assoc]
    show UnlessLong _ ((afterPoint text (.name "filter" :: .mark '(' :: .name parameter :: .operator "=>" ::
      .name parameter :: (field ++ .operator op.sign :: t :: .mark ')' :: rest))).map some) _
    rw [afterPoint, if_pos ⟨rfl, rfl⟩]
    exact (filterTail_derived hf hv).map some

theorem accessors_some {a : Accessor} (h : accessor? text ts = .ok (some (a, rest))) :
    accessors text ts = (accessors text rest).map fun out => (a :: out.1, out.2) := by
  rw [accessors.eq_def]
  split
  · rename_i hf
    cases hf.symm.trans h
  · rename_i hf
    cases hf.symm.trans h
  · rename_i hf
    cases hf.symm.trans h
    rfl

theorem accessors_none (h : accessor? text ts = .ok none) : accessors text ts = .ok ([], ts) := by
  rw [accessors.eq_def]
  split
  · rename_i hf
    cases hf.symm.trans h
  · rfl
  · rename_i hf
    cases hf.symm.trans h

theorem accessors_error (h : accessor? text ts = .error e) : accessors text ts = .error e := by
  rw [accessors.eq_def]
  split
  · rename_i hf
    cases hf.symm.trans h
    rfl
  · rename_i hf
    cases hf.symm.trans h
  · rename_i hf
    cases hf.symm.trans h

theorem accessor?_ends (h : Ends rest) : accessor? text rest = .ok none := by
  unfold accessor?
  split
  · exact absurd rfl (h _)
  · rfl

theorem accessors_derived {path : List Accessor} (h : DerivesPath ts path) (hrest : Ends rest) :
    UnlessLong (Short ts) (accessors text (ts ++ rest)) (path, rest) := by
  induction h with
  | nil => exact .inl (accessors_none (accessor?_ends hrest))
  | @cons first more a path ha hlook _ ih =>
    rw [List.append_assoc]
    have hread : UnlessLong (Short first) (accessor? text (first ++ (more ++ rest))) (some (a, more ++ rest)) :=
      accessor?_derived ha fun hf => head?_append_ne (hlook hf) (hrest _)
    rcases hread with hfirst | ⟨hlong, digits, hdigits, hfirst⟩
    · rw [accessors_some hfirst]
      exact (ih.map fun out => (a :: out.1, out.2)).mono fun hshort => hshort.right (not_beforeField_accessor ha)
    · exact .inr ⟨fun hshort => hlong hshort.left, digits, hdigits, accessors_error hfirst⟩

theorem operand_derived {o : Operand} (h : DerivesOperand ts o) (hrest : Ends rest) :
    UnlessLong (Short ts) (operand text (ts ++ rest)) (o, rest) := by
  cases h with
  | @literal t value hv =>
    have hliteral : UnlessLong (Short [t]) (literal text (t :: rest)) (value, rest) := literal_derived hv
    have hread := hliteral.map fun out => (Operand.literal out.1, out.2)
    cases hv with
    | whole => exact hread
    | real => exact hread
    | quoted => exact hread
    | keyword hk =>
      show UnlessLong _ (operand text (.name _ :: rest)) _
      rw [operand, if_pos (by rw [hk]; rfl)]
      exact hread
  | @path s source ts path hs hp =>
    show UnlessLong (Short ([.name s] ++ ts)) (operand text (.name s :: (ts ++ rest))) _
    rw [operand, keyword?_of_source? hs, if_neg nofun, hs]
    refine UnlessLong.mono ?_ fun hshort => hshort.right nofun
    exact (accessors_derived hp hrest).map fun out => (Operand.path source out.1, out.2)

theorem expression_derived {expression : Expression} (h : Derives ts expression) :
    UnlessLong (Short ts) (Grammar.expression text ts) (expression, []) := by
  cases h with
  | operand h =>
    have hread : UnlessLong _ (operand text (ts ++ [])) _ := operand_derived h ends_nil
    rw [List.append_nil] at hread
    exact hread.bind (.inl rfl)
  | @comparison ts us _ _ op hl hr =>
    have hright : UnlessLong _ (operand text (us ++ [])) _ := operand_derived hr ends_nil
    rw [List.append_nil] at hright
    have hshort (h : Short (ts ++ .operator op.sign :: us)) : Short us := by
      apply Short.right _ (not_beforeField_sign ts op)
      simpa using h
    refine ((operand_derived hl ends_operator).mono Short.left).bind ?_
    simp only [comparison?_sign]
    exact (hright.mono hshort).bind (.inl rfl)

/-! What is read the grammar derives -/

/-- A token that has the text of a name is this name, and no name is empty. -/
def NamesKnown (ts : List Token) : Prop :=
  ∀ s, .name s ∈ ts → s ≠ "" ∧ ∀ t ∈ ts, t.text = s → t = .name s

theorem NamesKnown.subset {us : List Token} (h : NamesKnown ts) (hs : us ⊆ ts) : NamesKnown us :=
  fun s hm => ⟨(h s (hs hm)).1, fun t ht => (h s (hs hm)).2 t (hs ht)⟩

theorem wholeNumber_ok {s : String} {n : Int} (h : wholeNumber s = .ok n) :
    n = wholeValue s ∧ wholeDigits s ≤ maxDigits := by
  rw [wholeNumber_eq] at h
  split at h
  · cases h
  · rename_i hshort
    cases h
    exact ⟨rfl, Nat.le_of_not_lt hshort⟩

theorem short_number (before : List Token) {after : List Token} {s : String} (hb : ∀ s, .number s ∉ before)
    (ha : ∀ s, .number s ∉ after) (h : isWhole s = true → wholeDigits s ≤ maxDigits) :
    Short (before ++ .number s :: after) := by
  refine .of_all fun s' hm hs => ?_
  rcases List.mem_append.1 hm with hm | hm
  · exact absurd hm (hb s')
  · rcases List.mem_cons.1 hm with hm | hm
    · cases hm
      exact h hs
    · exact absurd hm (ha s')

theorem short_of_no_number (h : ∀ s, .number s ∉ ts) : Short ts :=
  .of_all fun s hm => absurd hm (h s)

theorem Short.cons {t : Token} (ht : ∀ s, t ≠ .number s) (h : Short ts) : Short (t :: ts) :=
  Short.append (short_of_no_number fun s hs => ht s (List.mem_singleton.1 hs).symm) h

theorem literal_ok {value : Json} (h : literal text ts = .ok (value, rest)) :
    ∃ t, ts = t :: rest ∧ DerivesLiteral t value ∧ Short [t] := by
  unfold literal at h
  split at h
  · rename_i s tail
    obtain ⟨v, hv, he⟩ := map_eq_ok h
    cases he
    refine ⟨_, rfl, ?_, short_number [] nofun nofun fun hs => ?_⟩
    · unfold numberValue at hv
      split at hv
      · rename_i hs
        obtain ⟨n, hn, rfl⟩ := map_eq_ok hv
        rw [(wholeNumber_ok hn).1]
        exact .whole hs
      · rename_i hs
        cases hv
        exact .real (Bool.eq_false_iff.2 hs)
    · rw [numberValue, if_pos hs] at hv
      obtain ⟨n, hn, -⟩ := map_eq_ok hv
      exact (wholeNumber_ok hn).2
  · split at h
    · rename_i hs
      cases h
      exact ⟨_, rfl, .quoted hs, short_of_no_number (by simp)⟩
    · cases h
  · split at h
    · rename_i hs
      cases h
      exact ⟨_, rfl, .keyword hs, short_of_no_number (by simp)⟩
    · cases h
  · cases h

theorem expect_ok {t : Token} (h : expect text t ts = .ok rest) : ts = t :: rest := by
  unfold expect at h
  split at h
  · split at h
    · rename_i ht
      cases h
      rw [ht]
    · cases h
  · cases h

theorem comparison?_some {op : Comparison} (h : comparison? ts = some (op, rest)) :
    ts = .operator op.sign :: rest := by
  unfold comparison? at h
  split at h
  · rename_i s tail
    obtain ⟨c, hc, he⟩ := Option.map_eq_some_iff.1 h
    cases he
    have hsign : op.sign = s := by simpa using List.find?_some hc
    rw [hsign]
  · cases h

theorem field_ok {names : List String} (h : Grammar.field text ts = .ok (names, rest)) :
    ∃ field, ts = field ++ rest ∧ DerivesField field names := by
  fun_induction Grammar.field text ts generalizing names with
  | case1 s tail ih =>
    obtain ⟨⟨others, left⟩, hf, he⟩ := bind_eq_ok h
    cases he
    obtain ⟨field, rfl, hfield⟩ := ih hf
    exact ⟨_, rfl, .name hfield⟩
  | case2 s tail ih =>
    obtain ⟨⟨others, left⟩, hf, he⟩ := bind_eq_ok h
    cases he
    obtain ⟨field, rfl, hfield⟩ := ih hf
    exact ⟨_, rfl, .number hfield⟩
  | case3 => cases h
  | case4 =>
    cases h
    exact ⟨[], rfl, .nil⟩

theorem short_filter {parameter : String} {field : List Token} {names : List String} {op : Comparison}
    {t : Token} (hf : DerivesField field names) (ht : Short [t]) :
    Short (filterHead parameter ++ field ++ [.operator op.sign, t, .mark ')']) := by
  have hfield : Short (filterHead parameter ++ field) := by
    intro before s after he hs
    rcases List.append_eq_append_iff.1 he with ⟨more, rfl, hmore⟩ | ⟨more, hhead, hmore⟩
    · -- the numbers of the field are names, and no operator stands among them
      have hmoreSign : lastSign more = none := by
        have hsigns := lastSign_field hf
        rw [hmore, lastSign_append, Option.or_eq_none_iff] at hsigns
        exact hsigns.2
      rw [BeforeField, lastSign_append, hmoreSign]
      exact .inl rfl
    · cases more with
      | nil =>
        rw [List.append_nil] at hhead
        rw [← hhead]
        exact .inl rfl
      | cons t tail =>
        cases hmore
        have hm : .number s ∈ filterHead parameter := by simp [hhead]
        simp [filterHead] at hm
  have hend : Short ([.operator op.sign] ++ [t] ++ [.mark ')']) :=
    ((short_of_no_number (by simp)).append ht).append (short_of_no_number (by simp))
  exact hfield.append hend

theorem filterTail_ok {a : Accessor} (hn : NamesKnown ts) (h : filterTail text ts = .ok (a, rest)) :
    ∃ first, .mark '.' :: .name "filter" :: .mark '(' :: ts = first ++ rest ∧ DerivesAccessor first a ∧
      Short first ∧ ∀ s, a ≠ .member s := by
  unfold filterTail at h
  split at h
  · rename_i parameter _
    obtain ⟨subjects, hexpect, hsubject⟩ := bind_eq_ok h
    obtain rfl := expect_ok hexpect
    split at hsubject
    · cases hsubject
    · rename_i hsame
      obtain ⟨⟨names, compares⟩, hfield, hcompare⟩ := bind_eq_ok hsubject
      obtain ⟨field, hfront, hderives⟩ := field_ok hfield
      dsimp only at hcompare
      split at hcompare
      · cases hcompare
      · rename_i op values hop
        obtain rfl := comparison?_some hop
        obtain ⟨⟨value, closes⟩, hvalue, hclose⟩ := bind_eq_ok hcompare
        obtain ⟨t, rfl, hliteral, hshort⟩ := literal_ok hvalue
        obtain ⟨left, hexpect', hdone⟩ := bind_eq_ok hclose
        obtain rfl := expect_ok hexpect'
        cases hdone
        obtain ⟨hnonempty, hknown⟩ := hn parameter (by simp)
        have hsubjects : subjects = .name parameter :: subjects.tail := by
          cases subjects with
          | nil => exact absurd (not_not.1 hsame).symm hnonempty
          | cons first tail => rw [hknown first (by simp) (not_not.1 hsame), List.tail_cons]
        refine ⟨filterHead parameter ++ field ++ [.operator op.sign, t, .mark ')'], ?_, .filter hderives hliteral,
          short_filter hderives hshort, nofun⟩
        rw [hsubjects, hfront]
        simp [filterHead]
  · cases h

theorem bracket_ok {a : Accessor} (h : bracket text ts = .ok (a, rest)) :
    ∃ first, .mark '[' :: ts = first ++ rest ∧ DerivesAccessor first a ∧ Short first := by
  unfold bracket at h
  split at h
  · split at h
    · rename_i s tail hs
      split at h
      · rename_i n hn
        obtain ⟨left, hclose, he⟩ := map_eq_ok h
        cases he
        obtain rfl := expect_ok hclose
        obtain ⟨rfl, hshort⟩ := wholeNumber_ok hn
        exact ⟨_, rfl, .index hs, short_number [.mark '['] (by simp) (by simp) fun _ => hshort⟩
      · cases h
    · cases h
  · split at h
    · rename_i name hs
      obtain ⟨left, hclose, he⟩ := map_eq_ok h
      cases he
      obtain rfl := expect_ok hclose
      exact ⟨_, rfl, .key hs, short_of_no_number (by simp)⟩
    · cases h
  · cases h

theorem afterPoint_ok {a : Accessor} (hn : NamesKnown ts) (h : afterPoint text ts = .ok (a, rest)) :
    ∃ first, .mark '.' :: ts = first ++ rest ∧ DerivesAccessor first a ∧ Short first ∧
      (a = .member "filter" → rest.head? ≠ some (.mark '(')) := by
  unfold afterPoint at h
  split at h
  · rename_i s tail
    split at h
    · rename_i hfilter
      obtain ⟨rfl, hhead⟩ := hfilter
      obtain ⟨more, rfl⟩ : ∃ more, tail = .mark '(' :: more := by
        cases tail with
        | nil => cases hhead
        | cons t more => exact ⟨more, by simpa using hhead⟩
      obtain ⟨first, he, ha, hshort, hmember⟩ := filterTail_ok (hn.subset (by simp)) h
      exact ⟨first, he, ha, hshort, fun hm => absurd hm (hmember _)⟩
    · rename_i hfilter
      cases h
      refine ⟨_, rfl, .member, short_of_no_number (by simp), fun hs hhead => hfilter ⟨?_, hhead⟩⟩
      cases hs
      rfl
  · split at h
    · rename_i s tail hs
      obtain ⟨n, hwhole, he⟩ := map_eq_ok h
      cases he
      obtain ⟨rfl, hshort⟩ := wholeNumber_ok hwhole
      exact ⟨_, rfl, .item hs, short_number [.mark '.'] (by simp) (by simp) fun _ => hshort, nofun⟩
    · cases h
  · cases h

theorem accessor?_ok {a : Accessor} (hn : NamesKnown ts) (h : accessor? text ts = .ok (some (a, rest))) :
    ∃ first, ts = first ++ rest ∧ DerivesAccessor first a ∧ Short first ∧
      (a = .member "filter" → rest.head? ≠ some (.mark '(')) := by
  unfold accessor? at h
  split at h
  · split at h
    · rename_i c tail hc
      obtain ⟨out, hout, he⟩ := map_eq_ok h
      cases he
      obtain ⟨first, he, hfirst⟩ := afterPoint_ok (hn.subset (by simp)) hout
      exact ⟨first, hc ▸ he, hfirst⟩
    · split at h
      · rename_i c tail _ hc
        obtain ⟨out, hout, he⟩ := map_eq_ok h
        cases he
        obtain ⟨first, he, ha, hshort⟩ := bracket_ok hout
        refine ⟨first, hc ▸ he, ha, hshort, ?_⟩
        rintro rfl
        cases ha with
        | member => cases he
      · cases h
  · cases h

theorem accessors_ok {path : List Accessor} (hn : NamesKnown ts) (h : accessors text ts = .ok (path, rest)) :
    ∃ used, ts = used ++ rest ∧ DerivesPath used path ∧ Short used := by
  fun_induction accessors text ts generalizing path rest with
  | case1 ts e he => cases h
  | case2 ts he =>
    cases h
    exact ⟨[], rfl, .nil, short_of_no_number (by simp)⟩
  | case3 ts a left he ih =>
    obtain ⟨⟨others, left'⟩, hothers, hpath⟩ := map_eq_ok h
    cases hpath
    obtain ⟨first, rfl, ha, hshort, hlook⟩ := accessor?_ok hn he
    obtain ⟨used, rfl, hp, hshort'⟩ := ih (hn.subset (by simp)) hothers
    have hlook' : a = .member "filter" → used.head? ≠ some (.mark '(') := fun ha hhead =>
      hlook ha (by rw [List.head?_append, hhead]; rfl)
    exact ⟨first ++ used, by simp, .cons ha hlook' hp, hshort.append hshort'⟩

theorem operand_ok {o : Operand} (hn : NamesKnown ts) (h : operand text ts = .ok (o, rest)) :
    ∃ used, ts = used ++ rest ∧ DerivesOperand used o ∧ Short used := by
  have of_literal {ts : List Token}
      (h : (literal text ts).map (fun out => (Operand.literal out.1, out.2)) = .ok (o, rest)) :
      ∃ used, ts = used ++ rest ∧ DerivesOperand used o ∧ Short used := by
    obtain ⟨out, hout, he⟩ := map_eq_ok h
    cases he
    obtain ⟨t, rfl, hvalue, hshort⟩ := literal_ok hout
    exact ⟨[t], rfl, .literal hvalue, hshort⟩
  unfold operand at h
  split at h
  · split at h
    · exact of_literal h
    · split at h
      · rename_i source hs
        obtain ⟨out, hout, he⟩ := map_eq_ok h
        cases he
        obtain ⟨used, rfl, hp, hshort⟩ := accessors_ok (hn.subset (by simp)) hout
        exact ⟨_, rfl, .path hs hp, hshort.cons nofun⟩
      · cases h
  · exact of_literal h
  · exact of_literal h
  · cases h

theorem expression_ok {expression : Expression} (hn : NamesKnown ts)
    (h : Grammar.expression text ts = .ok (expression, rest)) :
    ∃ used, ts = used ++ rest ∧ Derives used expression ∧ Short used := by
  obtain ⟨⟨left, compares⟩, hleft, hmore⟩ := bind_eq_ok h
  obtain ⟨used, rfl, hl, hshort⟩ := operand_ok hn hleft
  dsimp only at hmore
  split at hmore
  · rename_i op more hop
    obtain rfl := comparison?_some hop
    obtain ⟨⟨right, ends⟩, hright, he⟩ := bind_eq_ok hmore
    cases he
    obtain ⟨used', rfl, hr, hshort'⟩ := operand_ok (hn.subset (by simp)) hright
    exact ⟨_, by simp, .comparison hl hr, hshort.append (hshort'.cons nofun)⟩
  · cases hmore
    exact ⟨used, rfl, .operand hl, hshort⟩

theorem finish_ok {out : Expression × List Token} {expression : Expression}
    (h : finish text out = .ok expression) : out = (expression, []) := by
  unfold finish at h
  split at h
  · rename_i hempty
    cases h
    rw [← List.isEmpty_iff.1 hempty]
  · cases h

end Grammar

namespace Token

theorem Spells.leads {last : Option Token} {cs : List Char} {ts : List Token} (h : Spells last cs ts) :
    ∀ t ∈ ts, ∃ pointed rest, Leads pointed t rest := by
  induction h with
  | nil => exact nofun
  | blank _ _ ih => exact ih
  | token hleads _ ih =>
    intro t ht
    rcases List.mem_cons.1 ht with rfl | ht
    · exact ⟨_, _, hleads⟩
    · exact ih t ht

theorem Spells.namesKnown {last : Option Token} {cs : List Char} {ts : List Token} (h : Spells last cs ts) :
    Grammar.NamesKnown ts := by
  intro s hs
  obtain ⟨_, _, hname⟩ := h.leads _ hs
  refine ⟨?_, fun t ht he => ?_⟩
  · rintro rfl
    obtain ⟨c, cs, hchars, -⟩ := hname.begins
    cases hchars
  · obtain ⟨_, _, hleads⟩ := h.leads t ht
    exact eq_name_of_text hleads hname he

end Token

namespace Expression

open Grammar

variable {text : String} {ts : List Token} {expression : Expression}

theorem parse_eq (ht : tokens text = .ok ts) :
    parse text = (Grammar.expression text ts >>= finish text) := by
  rw [parse, ht]
  rfl

/-- What is read the grammar derives, and it has no number that is too long. -/
theorem derives_of_parse (ht : tokens text = .ok ts) (h : parse text = .ok expression) :
    Derives ts expression ∧ Short ts := by
  rw [parse_eq ht] at h
  obtain ⟨out, hout, hfinish⟩ := bind_eq_ok h
  obtain rfl := finish_ok hfinish
  obtain ⟨used, rfl, hderives⟩ := expression_ok (Token.tokens_eq_ok.1 ht).namesKnown hout
  rwa [List.append_nil]

theorem parse_of_derives (ht : tokens text = .ok ts) (h : Derives ts expression) :
    parse text = .ok expression ∨ ∃ digits, maxDigits < digits ∧ parse text = .error (.longNumber digits) := by
  have hread : UnlessLong (Short ts) (Grammar.expression text ts >>= finish text) expression :=
    (expression_derived h).bind (.inl rfl)
  rw [parse_eq ht]
  exact hread.imp_right And.right

end Expression

end Conductor
