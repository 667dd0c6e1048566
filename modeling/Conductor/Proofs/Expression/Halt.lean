import Conductor.Proofs.Expression.Parse

/-! Where the reader of expressions breaks off with an error that is none of its grammar. The tokens so far are the
beginning of something that the grammar derives, and the last of them is one whose value cannot be taken. -/

namespace Conductor

namespace Grammar

variable {text : String} {ts us rest used : List Token} {e : ParseError}

/-! Where values cannot be taken -/

/-- A token that stands for a value and has none. -/
inductive HaltsLiteral : Token → ParseError → Prop
  | quoted {s : String} {cause : LiteralError} : unquote s = .error cause →
    HaltsLiteral (.quoted s) (.badLiteral s cause)
  | long {s : String} : isWhole s = true → maxDigits < wholeDigits s →
    HaltsLiteral (.number s) (.longNumber (wholeDigits s))

inductive HaltsAccessor : List Token → ParseError → Prop
  | fraction {s : String} : isWhole s = false → HaltsAccessor [.mark '.', .number s] (.badIndex s)
  | item {s : String} {e : ParseError} : HaltsLiteral (.number s) e → HaltsAccessor [.mark '.', .number s] e
  | bracket {t : Token} {e : ParseError} : HaltsLiteral t e → HaltsAccessor [.mark '[', t] e
  | filter {parameter : String} {field : List Token} {names : List String} {op : Comparison} {t : Token}
    {e : ParseError} : DerivesField field names → HaltsLiteral t e →
    HaltsAccessor (filterHead parameter ++ field ++ [.operator op.sign, t]) e

inductive HaltsPath : List Token → ParseError → Prop
  | here {ts : List Token} {e : ParseError} : HaltsAccessor ts e → HaltsPath ts e
  | later {first ts : List Token} {a : Accessor} {e : ParseError} : DerivesAccessor first a → Short first →
    (a = .member "filter" → ts.head? ≠ some (.mark '(')) → HaltsPath ts e → HaltsPath (first ++ ts) e

inductive HaltsOperand : List Token → ParseError → Prop
  | literal {t : Token} {e : ParseError} : HaltsLiteral t e → HaltsOperand [t] e
  | path {s : String} {source : Source} {ts : List Token} {e : ParseError} : source? s = some source →
    HaltsPath ts e → HaltsOperand (.name s :: ts) e

inductive Halts : List Token → ParseError → Prop
  | left {ts : List Token} {e : ParseError} : HaltsOperand ts e → Halts ts e
  | right {us ts : List Token} {o : Operand} {op : Comparison} {e : ParseError} : DerivesOperand us o → Short us →
    HaltsOperand ts e → Halts (us ++ .operator op.sign :: ts) e

theorem HaltsLiteral.not_grammar {t : Token} (h : HaltsLiteral t e) : e.isGrammar = false := by
  cases h <;> rfl

theorem HaltsAccessor.not_grammar (h : HaltsAccessor ts e) : e.isGrammar = false := by
  cases h with
  | fraction => rfl
  | item h => exact h.not_grammar
  | bracket h => exact h.not_grammar
  | filter _ h => exact h.not_grammar

theorem HaltsPath.not_grammar (h : HaltsPath ts e) : e.isGrammar = false := by
  induction h with
  | here h => exact h.not_grammar
  | later _ _ _ _ ih => exact ih

theorem HaltsOperand.not_grammar (h : HaltsOperand ts e) : e.isGrammar = false := by
  cases h with
  | literal h => exact h.not_grammar
  | path _ h => exact h.not_grammar

theorem Halts.not_grammar (h : Halts ts e) : e.isGrammar = false := by
  cases h with
  | left h => exact h.not_grammar
  | right _ _ h => exact h.not_grammar

theorem HaltsAccessor.ne_nil (h : HaltsAccessor ts e) : ts ≠ [] := by
  cases h <;> simp

theorem HaltsPath.ne_nil (h : HaltsPath ts e) : ts ≠ [] := by
  induction h with
  | here h => exact h.ne_nil
  | later _ _ _ _ ih => exact fun hnil => ih (List.append_eq_nil_iff.1 hnil).2

/-! There the reader breaks off -/

theorem literal_halts {t : Token} (h : HaltsLiteral t e) : literal text (t :: rest) = .error e := by
  cases h with
  | quoted hs => rw [literal, hs]
  | long hs hlong =>
    rw [literal, numberValue, if_pos hs, wholeNumber_eq, if_pos hlong]
    rfl

theorem accessor?_halts (h : HaltsAccessor used e) : accessor? text (used ++ rest) = .error e := by
  cases h with
  | @fraction s hs =>
    show (afterPoint text (.number s :: rest)).map some = _
    rw [afterPoint, if_neg (Bool.eq_false_iff.1 hs)]
    rfl
  | @item s _ hv =>
    cases hv with
    | long hs hlong =>
      show (afterPoint text (.number s :: rest)).map some = _
      rw [afterPoint, if_pos hs, wholeNumber_eq, if_pos hlong]
      rfl
  | @bracket t _ hv =>
    show (Grammar.bracket text (t :: rest)).map some = _
    cases hv with
    | quoted hs =>
      rw [Grammar.bracket, hs]
      rfl
    | long hs hlong =>
      rw [Grammar.bracket, if_pos hs, wholeNumber_eq, if_pos hlong]
      rfl
  | @filter parameter field names op t _ hf hv =>
    rw [List.append_assoc, List.append_assoc]
    show (afterPoint text (.name "filter" :: .mark '(' :: .name parameter :: .operator "=>" :: .name parameter ::
      (field ++ .operator op.sign :: t :: rest))).map some = _
    rw [afterPoint, if_pos ⟨rfl, rfl⟩, List.tail_cons, filterTail_eq hf, literal_halts hv]
    rfl

theorem accessors_halts (h : HaltsPath used e) : accessors text (used ++ rest) = .error e := by
  induction h with
  | here h => exact accessors_error (accessor?_halts h)
  | @later first ts a e ha hshort hlook hts ih =>
    have hfirst : accessor? text (first ++ (ts ++ rest)) = .ok (some (a, ts ++ rest)) := by
      refine (accessor?_derived ha fun hf => ?_).ok hshort
      rw [List.head?_append_of_ne_nil _ hts.ne_nil]
      exact hlook hf
    rw [List.append_assoc, accessors_some hfirst, ih]
    rfl

theorem operand_halts (h : HaltsOperand used e) : operand text (used ++ rest) = .error e := by
  cases h with
  | @literal t _ hv =>
    have hread : literal text (t :: rest) = .error e := literal_halts hv
    cases hv with
    | quoted | long => exact congrArg (Except.map fun out => (Operand.literal out.1, out.2)) hread
  | @path s source ts _ hs hp =>
    show operand text (.name s :: (ts ++ rest)) = _
    rw [operand, keyword?_of_source? hs, if_neg (by simp), hs]
    show (accessors text (ts ++ rest)).map _ = _
    rw [accessors_halts hp]
    rfl

theorem expression_halts (h : Halts used e) : Grammar.expression text (used ++ rest) = .error e := by
  cases h with
  | left h =>
    rw [Grammar.expression, operand_halts h]
    rfl
  | @right us ts o op _ hu hshort h =>
    have hleft : operand text (us ++ .operator op.sign :: (ts ++ rest)) = .ok (o, .operator op.sign :: (ts ++ rest)) :=
      (operand_derived hu ends_operator).ok hshort
    rw [List.append_assoc, List.cons_append, Grammar.expression, hleft]
    simp only [bind, Except.bind, comparison?_sign, operand_halts h]

/-! The reader breaks off nowhere else -/

/-- The grammar is broken, or the first of the tokens are such that the reader breaks off. -/
def Breaks (halts : List Token → ParseError → Prop) (ts : List Token) (e : ParseError) : Prop :=
  e.isGrammar = true ∨ ∃ used rest, ts = used ++ rest ∧ halts used e

theorem wholeNumber_error {s : String} (h : wholeNumber s = .error e) :
    maxDigits < wholeDigits s ∧ e = .longNumber (wholeDigits s) := by
  rw [wholeNumber_eq] at h
  split at h
  · rename_i hlong
    cases h
    exact ⟨hlong, rfl⟩
  · cases h

theorem expect_not_halts {t : Token} (h : expect text t ts = .error e) : e.isGrammar = true := by
  unfold expect at h
  split at h
  · split at h
    · cases h
    · cases h
      rfl
  · cases h
    rfl

theorem field_not_halts (h : Grammar.field text ts = .error e) : e.isGrammar = true := by
  fun_induction Grammar.field text ts with
  | case1 s tail ih =>
    rcases bind_eq_error h with h | ⟨_, _, h⟩
    · exact ih h
    · cases h
  | case2 s tail ih =>
    rcases bind_eq_error h with h | ⟨_, _, h⟩
    · exact ih h
    · cases h
  | case3 =>
    cases h
    rfl
  | case4 => cases h

theorem literal_breaks (h : literal text ts = .error e) :
    e.isGrammar = true ∨ ∃ t rest, ts = t :: rest ∧ HaltsLiteral t e := by
  unfold literal at h
  split at h
  · have hn := map_eq_error h
    unfold numberValue at hn
    split at hn
    · rename_i hs
      obtain ⟨hlong, rfl⟩ := wholeNumber_error (map_eq_error hn)
      exact .inr ⟨_, _, rfl, .long hs hlong⟩
    · cases hn
  · split at h
    · cases h
    · rename_i hs
      cases h
      exact .inr ⟨_, _, rfl, .quoted hs⟩
  · split at h
    · cases h
    · cases h
      exact .inl rfl
  · cases h
    exact .inl rfl

theorem filterTail_breaks (hn : NamesKnown ts) (h : filterTail text ts = .error e) :
    Breaks HaltsAccessor (.mark '.' :: .name "filter" :: .mark '(' :: ts) e := by
  unfold filterTail at h
  split at h
  · rename_i parameter _
    rcases bind_eq_error h with harrow | ⟨subjects, harrow, hsubject⟩
    · exact .inl (expect_not_halts harrow)
    obtain rfl := expect_ok harrow
    split at hsubject
    · cases hsubject
      exact .inl rfl
    rename_i hsame
    rcases bind_eq_error hsubject with hfield | ⟨⟨names, compares⟩, hfield, hcompare⟩
    · exact .inl (field_not_halts hfield)
    obtain ⟨field, hfront, hderives⟩ := field_ok hfield
    dsimp only at hcompare
    split at hcompare
    · cases hcompare
      exact .inl rfl
    rename_i op values hop
    obtain rfl := comparison?_some hop
    rcases bind_eq_error hcompare with hvalue | ⟨⟨value, closes⟩, -, hclose⟩
    · refine (literal_breaks hvalue).imp_right ?_
      rintro ⟨t, left, rfl, ht⟩
      obtain ⟨hnonempty, hknown⟩ := hn parameter (by simp)
      have hsubjects : subjects = .name parameter :: subjects.tail := by
        cases subjects with
        | nil => exact absurd (not_not.1 hsame).symm hnonempty
        | cons first tail => rw [hknown first (by simp) (not_not.1 hsame), List.tail_cons]
      refine ⟨filterHead parameter ++ field ++ [.operator op.sign, t], left, ?_, .filter hderives ht⟩
      rw [hsubjects, hfront]
      simp [filterHead]
    · rcases bind_eq_error hclose with hclose | ⟨_, _, hdone⟩
      · exact .inl (expect_not_halts hclose)
      · cases hdone
  · cases h
    exact .inl rfl

theorem bracket_breaks (h : bracket text ts = .error e) : Breaks HaltsAccessor (.mark '[' :: ts) e := by
  unfold bracket at h
  split at h
  · split at h
    · rename_i hs
      split at h
      · exact .inl (expect_not_halts (map_eq_error h))
      · rename_i hn
        cases h
        obtain ⟨hlong, rfl⟩ := wholeNumber_error hn
        exact .inr ⟨_, _, rfl, .bracket (.long hs hlong)⟩
    · cases h
      exact .inl rfl
  · split at h
    · exact .inl (expect_not_halts (map_eq_error h))
    · rename_i hs
      cases h
      exact .inr ⟨_, _, rfl, .bracket (.quoted hs)⟩
  · cases h
    exact .inl rfl

theorem afterPoint_breaks (hn : NamesKnown ts) (h : afterPoint text ts = .error e) :
    Breaks HaltsAccessor (.mark '.' :: ts) e := by
  unfold afterPoint at h
  split at h
  · rename_i s tail
    split at h
    · rename_i hfilter
      obtain ⟨rfl, hhead⟩ := hfilter
      obtain ⟨more, rfl⟩ : ∃ more, tail = .mark '(' :: more := by
        cases tail with
        | nil => cases hhead
        | cons t more => exact ⟨more, by simpa using hhead⟩
      exact filterTail_breaks (hn.subset (by simp)) h
    · cases h
  · split at h
    · rename_i hs
      obtain ⟨hlong, rfl⟩ := wholeNumber_error (map_eq_error h)
      exact .inr ⟨_, _, rfl, .item (.long hs hlong)⟩
    · rename_i hs
      cases h
      exact .inr ⟨_, _, rfl, .fraction (Bool.eq_false_iff.2 hs)⟩
  · cases h
    exact .inl rfl

theorem accessor?_breaks (hn : NamesKnown ts) (h : accessor? text ts = .error e) : Breaks HaltsAccessor ts e := by
  unfold accessor? at h
  split at h
  · rename_i c tail
    split at h
    · rename_i hc
      rw [hc]
      exact afterPoint_breaks (hn.subset (by simp)) (map_eq_error h)
    · split at h
      · rename_i hc
        rw [hc]
        exact bracket_breaks (map_eq_error h)
      · cases h
  · cases h

theorem accessors_breaks (hn : NamesKnown ts) (h : accessors text ts = .error e) : Breaks HaltsPath ts e := by
  fun_induction accessors text ts with
  | case1 ts e' he =>
    cases h
    refine (accessor?_breaks hn he).imp_right ?_
    rintro ⟨used, rest, rfl, hused⟩
    exact ⟨used, rest, rfl, .here hused⟩
  | case2 => cases h
  | case3 ts a left he ih =>
    -- the error is that of the accessors behind the first
    obtain ⟨first, rfl, ha, hshort, hlook⟩ := accessor?_ok hn he
    refine (ih (hn.subset (by simp)) (map_eq_error h)).imp_right ?_
    rintro ⟨used, rest, rfl, hused⟩
    refine ⟨first ++ used, rest, by simp, .later ha hshort (fun hf hhead => hlook hf ?_) hused⟩
    rw [List.head?_append, hhead]
    rfl

theorem operand_breaks (hn : NamesKnown ts) (h : operand text ts = .error e) : Breaks HaltsOperand ts e := by
  have of_literal {ts : List Token} (h : literal text ts = .error e) : Breaks HaltsOperand ts e := by
    refine (literal_breaks h).imp_right ?_
    rintro ⟨t, rest, rfl, ht⟩
    exact ⟨[t], rest, rfl, .literal ht⟩
  unfold operand at h
  split at h
  · split at h
    · exact of_literal (map_eq_error h)
    · split at h
      · rename_i source hs
        refine (accessors_breaks (hn.subset (by simp)) (map_eq_error h)).imp_right ?_
        rintro ⟨used, rest, rfl, hused⟩
        exact ⟨_, rest, rfl, .path hs hused⟩
      · cases h
        exact .inl rfl
  · exact of_literal (map_eq_error h)
  · exact of_literal (map_eq_error h)
  · cases h
    exact .inl rfl

theorem expression_breaks (hn : NamesKnown ts) (h : Grammar.expression text ts = .error e) : Breaks Halts ts e := by
  rcases bind_eq_error h with hleft | ⟨⟨left, compares⟩, hleft, hmore⟩
  · refine (operand_breaks hn hleft).imp_right ?_
    rintro ⟨used, rest, rfl, hused⟩
    exact ⟨used, rest, rfl, .left hused⟩
  obtain ⟨us, rfl, hu, hshort⟩ := operand_ok hn hleft
  dsimp only at hmore
  split at hmore
  · rename_i op more hop
    obtain rfl := comparison?_some hop
    rcases bind_eq_error hmore with hright | ⟨_, _, hdone⟩
    · refine (operand_breaks (hn.subset (by simp)) hright).imp_right ?_
      rintro ⟨used, rest, rfl, hused⟩
      exact ⟨us ++ .operator op.sign :: used, rest, by simp, .right hu hshort hused⟩
    · cases hdone
  · cases hmore

end Grammar

namespace Token

/-- Among the characters, which come after the token `last`, stands a digit sign that is an index and no decimal, and
before it nothing but tokens. -/
inductive Stops : Option Token → List Char → Char → Prop
  | digit {c : Char} {cs : List Char} : isDigitSign c = true → isDecimal c = false → Stops (some (.mark '.')) (c :: cs) c
  | blank {last : Option Token} {c d : Char} {cs : List Char} : isBlank c = true → Stops last cs d →
    Stops last (c :: cs) d
  | token {last : Option Token} {t : Token} {rest : List Char} {d : Char} : Leads (last = some (.mark '.')) t rest →
    Stops (some t) rest d → Stops last (t.text.toList ++ rest) d

variable {source : String} {last : Option Token} {cs : List Char} {d : Char} {e : ParseError}

theorem split_of_stops (h : Stops last cs d) : split source last cs = .error (.badDigit d) := by
  induction h with
  | @digit c cs hsign hd =>
    have hblank : ¬ isBlank c = true := fun hb => by simp [not_digitSign_of_isBlank hb] at hsign
    rw [split.eq_def]
    dsimp only
    rw [if_neg hblank, if_pos (by simp [hsign]), if_neg (Bool.eq_false_iff.1 hd)]
  | blank hc _ ih => rw [split_blank hc, ih]
  | token hleads _ ih =>
    rw [split_token hleads, ih]
    rfl

theorem stops_of_split (h : split source last cs = .error e) :
    e.isGrammar = true ∨ ∃ d, e = .badDigit d ∧ Stops last cs d := by
  fun_induction split source last cs with
  | case1 => cases h
  | case2 last c rest hc ih =>
    refine (ih h).imp_right ?_
    rintro ⟨d, rfl, hstops⟩
    exact ⟨d, rfl, .blank hc hstops⟩
  | case3 last c rest hc hsign hd token =>
    rename_i ih
    refine (ih (map_eq_error h)).imp_right ?_
    rintro ⟨d, rfl, hstops⟩
    obtain ⟨hchars, hleads⟩ := leads_index rest hsign hd
    refine ⟨d, rfl, ?_⟩
    rw [hchars]
    exact .token hleads hstops
  | case4 last c rest hc hsign hd =>
    rw [Bool.and_eq_true, decide_eq_true_eq] at hsign
    obtain ⟨rfl, hc'⟩ := hsign
    cases h
    exact .inr ⟨c, rfl, .digit hc' (Bool.eq_false_iff.2 hd)⟩
  | case5 last c rest hc hsign t left hscan ih =>
    refine (ih (map_eq_error h)).imp_right ?_
    rintro ⟨d, rfl, hstops⟩
    obtain ⟨hchars, hleads⟩ := leads_scanned hsign hscan
    refine ⟨d, rfl, ?_⟩
    rw [hchars]
    exact .token hleads hstops
  | case6 =>
    cases h
    exact .inl rfl

end Token

namespace Expression

open Grammar

variable {text : String} {halts : List Token → ParseError → Prop} {e : ParseError}

/-- The text has a digit sign that is no decimal where an index begins, or it begins with tokens at which a reader
breaks off. -/
def Spoilt (halts : List Token → ParseError → Prop) (text : String) (e : ParseError) : Prop :=
  (∃ d, Token.Stops none text.toList d ∧ e = .badDigit d) ∨
    ∃ used rest, Token.Spells none text.toList (used ++ rest) ∧ halts used e

/-- A reader that breaks off at some tokens breaks off at the texts that they spoil. -/
theorem error_iff_spoilt {read : List Token → Except ParseError (Expression × List Token)}
    (hhalts : ∀ used rest e, halts used e → read (used ++ rest) = .error e ∧ e.isGrammar = false)
    (hbreaks : ∀ ts e, NamesKnown ts → read ts = .error e → Breaks halts ts e) :
    (tokens text >>= fun ts => read ts >>= finish text) = .error e ∧ e.isGrammar = false ↔ Spoilt halts text e := by
  constructor
  · rintro ⟨h, hgrammar⟩
    rcases bind_eq_error h with htokens | ⟨ts, htokens, h⟩
    · obtain ⟨d, rfl, hstops⟩ := (Token.stops_of_split htokens).resolve_left (by simp [hgrammar])
      exact .inl ⟨d, hstops, rfl⟩
    have hspells := Token.tokens_eq_ok.1 htokens
    rcases bind_eq_error h with h | ⟨out, -, h⟩
    · obtain ⟨used, rest, rfl, hused⟩ := (hbreaks ts e hspells.namesKnown h).resolve_left (by simp [hgrammar])
      exact .inr ⟨used, rest, hspells, hused⟩
    · unfold finish at h
      split at h
      · cases h
      · cases h
        cases hgrammar
  · rintro (⟨d, hstops, rfl⟩ | ⟨used, rest, hspells, hused⟩)
    · have htokens : tokens text = .error (.badDigit d) := Token.split_of_stops hstops
      rw [htokens]
      exact ⟨rfl, rfl⟩
    · obtain ⟨hread, hgrammar⟩ := hhalts used rest e hused
      rw [Token.tokens_eq_ok.2 hspells]
      refine ⟨?_, hgrammar⟩
      show (read (used ++ rest) >>= finish text) = _
      rw [hread]
      rfl

theorem parse_error_iff : parse text = .error e ∧ e.isGrammar = false ↔ Spoilt Halts text e :=
  error_iff_spoilt (fun _ _ _ h => ⟨expression_halts h, h.not_grammar⟩) fun _ _ => expression_breaks

end Expression

end Conductor
