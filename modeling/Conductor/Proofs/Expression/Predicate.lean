import Conductor.Proofs.Expression.Halt

/-! The grammar of predicates. A predicate has no root: its path begins with a member, without the point that
stands before every other one, or is left out altogether, and it is compared with a literal. -/

namespace Conductor

namespace Grammar

variable {text : String} {ts rest used : List Token} {path : List Accessor} {e : ParseError}

inductive DerivesSubject : List Token → List Accessor → Prop
  | nil : DerivesSubject [] []
  | member {s : String} {ts : List Token} {path : List Accessor} : keyword? s = none → DerivesPath ts path →
    DerivesSubject (.name s :: ts) (.member s :: path)

inductive DerivesPredicate : List Token → Expression → Prop
  | operand {ts : List Token} {path : List Accessor} : DerivesSubject ts path →
    DerivesPredicate ts (.operand (.path .subject path))
  | comparison {ts : List Token} {path : List Accessor} {op : Comparison} {t : Token} {value : Json} :
    DerivesSubject ts path → DerivesLiteral t value →
    DerivesPredicate (ts ++ [.operator op.sign, t]) (.comparison (.path .subject path) op (.literal value))

/-! What is derived is read -/

theorem subject_derived (h : DerivesSubject ts path) (hends : Ends rest)
    (hname : ∀ s, rest.head? ≠ some (.name s)) :
    UnlessLong (Short ts) (subject text (ts ++ rest)) (.path .subject path, rest) := by
  cases h with
  | nil =>
    refine .inl ?_
    rw [List.nil_append, subject.eq_def]
    split
    · exact absurd rfl (hname _)
    · rfl
  | @member s ts path hk hp =>
    show UnlessLong (Short ([.name s] ++ ts)) (subject text (.name s :: (ts ++ rest))) _
    rw [subject, if_neg (by simp [hk])]
    refine UnlessLong.mono ?_ fun hshort => hshort.right nofun
    exact (accessors_derived hp hends).map fun out => (Operand.path .subject (.member s :: out.1), out.2)

theorem predicate_derived {expression : Expression} (h : DerivesPredicate ts expression) :
    UnlessLong (Short ts) (predicate text ts) (expression, []) := by
  cases h with
  | operand hs =>
    have hread : UnlessLong _ (subject text (ts ++ [])) _ := subject_derived hs ends_nil nofun
    rw [List.append_nil] at hread
    exact hread.bind (.inl rfl)
  | @comparison ts path op t value hs hv =>
    have hshort (h : Short (ts ++ [.operator op.sign, t])) : Short [t] := by
      apply Short.right _ (not_beforeField_sign ts op)
      simpa using h
    refine ((subject_derived hs ends_operator nofun).mono Short.left).bind ?_
    simp only [comparison?_sign]
    exact ((literal_derived hv).mono hshort).bind (.inl rfl)

/-! What is read is derived -/

theorem subject_ok {o : Operand} (hn : NamesKnown ts) (h : subject text ts = .ok (o, rest)) :
    ∃ used path, o = .path .subject path ∧ ts = used ++ rest ∧ DerivesSubject used path ∧ Short used := by
  unfold subject at h
  split at h
  · rename_i s tail
    split at h
    · cases h
      exact ⟨[], [], rfl, rfl, .nil, short_of_no_number (by simp)⟩
    · rename_i hk
      obtain ⟨out, hout, he⟩ := map_eq_ok h
      cases he
      obtain ⟨used, rfl, hp, hshort⟩ := accessors_ok (hn.subset (by simp)) hout
      exact ⟨_, _, rfl, rfl, .member (by simpa using hk) hp, hshort.cons nofun⟩
  · cases h
    exact ⟨[], [], rfl, rfl, .nil, short_of_no_number (by simp)⟩

theorem predicate_ok {expression : Expression} (hn : NamesKnown ts)
    (h : predicate text ts = .ok (expression, rest)) :
    ∃ used, ts = used ++ rest ∧ DerivesPredicate used expression ∧ Short used := by
  obtain ⟨⟨left, compares⟩, hleft, hmore⟩ := bind_eq_ok h
  obtain ⟨used, path, rfl, rfl, hs, hshort⟩ := subject_ok hn hleft
  dsimp only at hmore
  split at hmore
  · rename_i op more hop
    obtain rfl := comparison?_some hop
    obtain ⟨⟨value, ends⟩, hvalue, he⟩ := bind_eq_ok hmore
    cases he
    obtain ⟨t, rfl, hv, hshort'⟩ := literal_ok hvalue
    exact ⟨used ++ [.operator op.sign, t], by simp, .comparison hs hv, hshort.append (hshort'.cons nofun)⟩
  · split at hmore
    · cases hmore
      exact ⟨used, rfl, .operand hs, hshort⟩
    · cases hmore

/-! Where the reader breaks off -/

inductive HaltsPredicate : List Token → ParseError → Prop
  | subject {s : String} {ts : List Token} {e : ParseError} : keyword? s = none → HaltsPath ts e →
    HaltsPredicate (.name s :: ts) e
  | literal {us : List Token} {path : List Accessor} {op : Comparison} {t : Token} {e : ParseError} :
    DerivesSubject us path → Short us → HaltsLiteral t e → HaltsPredicate (us ++ [.operator op.sign, t]) e

theorem HaltsPredicate.not_grammar (h : HaltsPredicate ts e) : e.isGrammar = false := by
  cases h with
  | subject _ h => exact h.not_grammar
  | literal _ _ h => exact h.not_grammar

theorem predicate_halts (h : HaltsPredicate used e) : predicate text (used ++ rest) = .error e := by
  cases h with
  | @subject s ts _ hk hp =>
    have hread : subject text (.name s :: (ts ++ rest)) = .error e := by
      rw [Grammar.subject, if_neg (by simp [hk]), accessors_halts hp]
      rfl
    rw [List.cons_append, predicate, hread]
    rfl
  | @literal us path op t _ hu hshort hv =>
    have hleft : subject text (us ++ .operator op.sign :: t :: rest) =
        .ok (.path .subject path, .operator op.sign :: t :: rest) :=
      (subject_derived hu ends_operator (by simp)).ok hshort
    rw [List.append_assoc, List.cons_append, List.cons_append, List.nil_append, predicate, hleft]
    simp only [bind, Except.bind, comparison?_sign, literal_halts hv]

theorem predicate_breaks (hn : NamesKnown ts) (h : predicate text ts = .error e) : Breaks HaltsPredicate ts e := by
  rcases bind_eq_error h with hleft | ⟨⟨left, compares⟩, hleft, hmore⟩
  · unfold subject at hleft
    split at hleft
    · split at hleft
      · cases hleft
      · rename_i hk
        refine (accessors_breaks (hn.subset (by simp)) (map_eq_error hleft)).imp_right ?_
        rintro ⟨used, rest, rfl, hused⟩
        exact ⟨_, rest, rfl, .subject (by simpa using hk) hused⟩
    · cases hleft
  obtain ⟨us, path, rfl, rfl, hu, hshort⟩ := subject_ok hn hleft
  dsimp only at hmore
  split at hmore
  · rename_i op more hop
    obtain rfl := comparison?_some hop
    rcases bind_eq_error hmore with hvalue | ⟨_, _, hdone⟩
    · refine (literal_breaks hvalue).imp_right ?_
      rintro ⟨t, rest, rfl, ht⟩
      exact ⟨us ++ [.operator op.sign, t], rest, by simp, .literal hu hshort ht⟩
    · cases hdone
  · split at hmore
    · cases hmore
    · cases hmore
      exact .inl rfl

end Grammar

namespace Expression

open Grammar

variable {text : String} {ts : List Token} {expression : Expression} {e : ParseError}

theorem parsePredicate_eq (ht : tokens text = .ok ts) :
    parsePredicate text = (predicate text ts >>= finish text) := by
  rw [parsePredicate, ht]
  rfl

/-- Where no number is too long, the reader of predicates gives what their grammar derives. -/
theorem parsePredicate_eq_ok (ht : tokens text = .ok ts) :
    parsePredicate text = .ok expression ↔ DerivesPredicate ts expression ∧ Short ts := by
  have hn := (Token.tokens_eq_ok.1 ht).namesKnown
  rw [parsePredicate_eq ht]
  constructor
  · intro h
    obtain ⟨out, hout, hfinish⟩ := bind_eq_ok h
    obtain rfl := finish_ok hfinish
    obtain ⟨used, rfl, hderives⟩ := predicate_ok hn hout
    rwa [List.append_nil]
  · rintro ⟨h, hshort⟩
    rw [(predicate_derived h).ok hshort]
    rfl

theorem parsePredicate_error_iff : parsePredicate text = .error e ∧ e.isGrammar = false ↔ Spoilt HaltsPredicate text e :=
  error_iff_spoilt (fun _ _ _ h => ⟨predicate_halts h, h.not_grammar⟩) fun _ _ => predicate_breaks

end Expression

end Conductor
