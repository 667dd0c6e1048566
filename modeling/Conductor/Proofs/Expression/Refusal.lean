import Conductor.Proofs.Expression.Halt

/-! Why the reader of expressions refuses: the grammar is broken, or the inside of a token is. A token is at
fault only where the reader takes its value, so never in the field of a filter, where a number is a name. -/

namespace Conductor

namespace Grammar

variable {text : String} {ts rest : List Token} {e : ParseError}

/-- The error has its cause inside one of the tokens. -/
inductive Fault (ts : List Token) : ParseError → Prop
  | literal {s : String} {cause : LiteralError} : .quoted s ∈ ts → unquote s = .error cause →
    Fault ts (.badLiteral s cause)
  | item {before after : List Token} {s : String} : ts = before ++ .mark '.' :: .number s :: after →
    ¬ BeforeField before → isWhole s = false → Fault ts (.badIndex s)
  | long {before after : List Token} {s : String} : ts = before ++ .number s :: after → ¬ BeforeField before →
    isWhole s = true → maxDigits < wholeDigits s → Fault ts (.longNumber (wholeDigits s))

theorem Fault.within (h : Fault ts e) : Fault (ts ++ rest) e := by
  cases h with
  | literal hs hc => exact .literal (List.mem_append_left _ hs) hc
  | item ht hb hs => exact .item (by rw [ht, List.append_assoc]; rfl) hb hs
  | long ht hb hs hlong => exact .long (by rw [ht, List.append_assoc]; rfl) hb hs hlong

theorem Fault.after {front : List Token} (h : Fault ts e) (hf : ¬ BeforeField front) : Fault (front ++ ts) e := by
  cases h with
  | literal hs hc => exact .literal (List.mem_append_right _ hs) hc
  | item ht hb hs => exact .item (by rw [ht, List.append_assoc]) (not_beforeField_append hf hb) hs
  | long ht hb hs hlong => exact .long (by rw [ht, List.append_assoc]) (not_beforeField_append hf hb) hs hlong

theorem HaltsLiteral.fault {t : Token} (h : HaltsLiteral t e) : Fault [t] e := by
  cases h with
  | quoted hs => exact .literal List.mem_cons_self hs
  | long hs hlong => exact .long (List.nil_append _).symm nofun hs hlong

theorem HaltsAccessor.fault (h : HaltsAccessor ts e) : Fault ts e := by
  cases h with
  | fraction hs => exact .item (List.nil_append _).symm nofun hs
  | @item s _ hv =>
    show Fault ([.mark '.'] ++ [.number s]) _
    exact hv.fault.after nofun
  | @bracket t _ hv =>
    show Fault ([.mark '['] ++ [t]) _
    exact hv.fault.after nofun
  | @filter parameter field names op t _ _ hv =>
    have hvalue : Fault (filterHead parameter ++ field ++ [.operator op.sign] ++ [t]) e :=
      hv.fault.after (not_beforeField_sign _ op)
    simpa using hvalue

theorem HaltsPath.fault (h : HaltsPath ts e) : Fault ts e := by
  induction h with
  | here h => exact h.fault
  | later ha _ _ _ ih => exact ih.after (not_beforeField_accessor ha)

theorem HaltsOperand.fault (h : HaltsOperand ts e) : Fault ts e := by
  cases h with
  | literal hv => exact hv.fault
  | @path s _ ts _ _ hp =>
    show Fault ([.name s] ++ ts) _
    exact hp.fault.after nofun

theorem Halts.fault (h : Halts ts e) : Fault ts e := by
  cases h with
  | left h => exact h.fault
  | @right us ts _ op _ _ _ h =>
    have hright : Fault (us ++ [.operator op.sign] ++ ts) e := h.fault.after (not_beforeField_sign us op)
    simpa using hright

end Grammar

namespace Expression

open Grammar

variable {text : String} {ts : List Token} {expression : Expression} {e : ParseError}

theorem refused_parse (ht : tokens text = .ok ts) (h : parse text = .error e) :
    e.isGrammar = true ∨ Fault ts e := by
  rw [parse_eq ht] at h
  rcases bind_eq_error h with h | ⟨out, -, h⟩
  · refine (expression_breaks (Token.tokens_eq_ok.1 ht).namesKnown h).imp_right ?_
    rintro ⟨used, rest, rfl, hused⟩
    exact hused.fault.within
  · unfold finish at h
    split at h
    · cases h
    · cases h
      exact .inl rfl

/-- Where no number is too long, the reader gives what the grammar derives. -/
theorem parse_eq_ok (ht : tokens text = .ok ts) :
    parse text = .ok expression ↔ Derives ts expression ∧ Short ts := by
  refine ⟨derives_of_parse ht, fun ⟨h, hshort⟩ => ?_⟩
  rw [parse_eq ht, (expression_derived h).ok hshort]
  rfl

/-- The reader accepts what its grammar derives, up to whole numbers of too many digits: a text that has one is
never read, and its error may be the length of the number in place of an error of the grammar. -/
theorem parse_iff_derives (ht : tokens text = .ok ts) (hq : ∀ s, .quoted s ∈ ts → ∃ value, unquote s = .ok value)
    (hi : WholeItems ts) :
    (∀ expression, parse text = .ok expression ↔ Derives ts expression ∧ Short ts) ∧
      (∀ one other, Derives ts one → Derives ts other → one = other) ∧
      (∀ expression, Derives ts expression → ¬ Short ts →
        ∃ digits, maxDigits < digits ∧ parse text = .error (.longNumber digits)) ∧
      ((¬ ∃ expression, Derives ts expression) → ∃ e, parse text = .error e ∧
        (e.isGrammar = true ∨ ¬ Short ts ∧ ∃ digits, maxDigits < digits ∧ e = .longNumber digits)) := by
  refine ⟨fun _ => parse_eq_ok ht, fun _ _ => Derives.unique, fun expression h hlong => ?_, fun hnone => ?_⟩
  · rcases parse_of_derives ht h with hok | herror
    · exact absurd (derives_of_parse ht hok).2 hlong
    · exact herror
  · cases hp : parse text with
    | ok expression => exact absurd ⟨expression, (derives_of_parse ht hp).1⟩ hnone
    | error e =>
      refine ⟨e, rfl, (refused_parse ht hp).imp_right fun hfault => ?_⟩
      cases hfault with
      | literal hs hc =>
        obtain ⟨value, hv⟩ := hq _ hs
        cases hc.symm.trans hv
      | item hts hb hs =>
        -- right after a point every number is whole, but for those of a field
        rcases hi _ _ _ hts with hb' | hwhole
        · exact absurd hb' hb
        · rw [hs] at hwhole
          cases hwhole
      | long hts hb hs hlong =>
        refine ⟨fun hshort => ?_, _, hlong, rfl⟩
        rcases hshort _ _ _ hts hs with hb' | hfew
        · exact absurd hb' hb
        · exact absurd hlong (Nat.not_lt.2 hfew)

theorem parse_iff_derives_of_filter : parse "input[0].filter(i => i.2 > 'a')" =
    .ok (.operand (.path .input [.index 0, .filter ["2"] .above (.str "a")])) := by
  have ht : tokens "input[0].filter(i => i.2 > 'a')" = .ok [.name "input", .mark '[', .number "0", .mark ']',
      .mark '.', .name "filter", .mark '(', .name "i", .operator "=>", .name "i", .mark '.', .number "2",
      .operator ">", .quoted "'a'", .mark ')'] := by
    decide +kernel
  have ha : unquote "'a'" = .ok "a" := by decide +kernel
  have hread := parse_iff_derives ht ?_ ?_
  · refine (hread.1 _).2 ⟨.operand (.path rfl (.cons (.index rfl) nofun ?_)), .of_all ?_⟩
    · have hfilter : DerivesAccessor (filterHead "i" ++ [.mark '.', .number "2"] ++
          [.operator Comparison.above.sign, .quoted "'a'", .mark ')']) (.filter ["2"] .above (.str "a")) :=
        .filter (.number .nil) (.quoted ha)
      exact .cons hfilter nofun .nil
    · simp +decide
  · simp [ha]
  · intro before s after he
    have hs : .number s ∈ before ++ .mark '.' :: .number s :: after := by simp
    rw [← he] at hs
    simp only [List.mem_cons, reduceCtorEq, Token.number.injEq, List.not_mem_nil, false_or, or_false] at hs
    rcases hs with rfl | rfl <;> exact .inr rfl

end Expression

end Conductor
