import Conductor.Proofs.Expression.Token

/-! What the texts of tokens hold: only a quoted token has blanks, quotes or the end of a placeholder inside. So
blanks around a text spell nothing, and the text of a name tells that it is one. -/

namespace Conductor

namespace Token

/-- Neither a blank, nor a quote, nor the end of a placeholder. -/
def isPlain (c : Char) : Bool := !isBlank c && c ≠ '"' && c ≠ '\'' && c ≠ '}'

theorem cases_of_not_plain {c : Char} (h : isPlain c = false) :
    isBlank c = true ∨ c = '"' ∨ c = '\'' ∨ c = '}' := by
  simpa [isPlain, Classical.or_iff_not_imp_left] using h

theorem isPlain_of_class {p : Char → Bool} (hblank : ∀ c, isBlank c = true → p c = false) (hdouble : p '"' = false)
    (hsingle : p '\'' = false) (hclose : p '}' = false) {c : Char} (h : p c = true) : isPlain c = true := by
  by_contra hc
  rcases cases_of_not_plain (Bool.eq_false_iff.2 hc) with hb | rfl | rfl | rfl
  · exact Bool.false_ne_true ((hblank c hb).symm.trans h)
  · exact Bool.false_ne_true (hdouble.symm.trans h)
  · exact Bool.false_ne_true (hsingle.symm.trans h)
  · exact Bool.false_ne_true (hclose.symm.trans h)

theorem isPlain_of_continuesName {c : Char} (h : continuesName c = true) : isPlain c = true :=
  isPlain_of_class (fun _ hb => (plain_of_isBlank hb).2.1) rfl rfl rfl h

theorem isPlain_of_isDecimal {c : Char} (h : isDecimal c = true) : isPlain c = true :=
  isPlain_of_class (fun _ hb => (plain_of_isBlank hb).1) rfl rfl rfl h

theorem isPlain_of_startsName {c : Char} (h : startsName c = true) : isPlain c = true :=
  isPlain_of_class (fun _ hb => (plain_of_isBlank hb).2.2.1) rfl rfl rfl h

theorem isPlain_digits {d : Char} {ds : List Char} (hd : isDecimal d = true) (hds : ∀ c ∈ ds, isDecimal c = true) :
    ∀ c ∈ d :: ds, isPlain c = true :=
  List.forall_mem_cons.2 ⟨isPlain_of_isDecimal hd, fun c hc => isPlain_of_isDecimal (hds c hc)⟩

theorem isPlain_places {places : List Char} (hp : Places places) : ∀ c ∈ places, isPlain c = true := by
  cases hp with
  | none => exact fun _ => (absurd · List.not_mem_nil)
  | point hd hds => exact List.forall_mem_cons.2 ⟨rfl, isPlain_digits hd hds⟩

theorem isPlain_sign {sign : List Char} {pointed : Bool} (h : sign = ['-'] ∨ sign = [] ∧ pointed = false) :
    ∀ c ∈ sign, isPlain c = true := by
  rcases h with rfl | ⟨rfl, -⟩
  · exact List.forall_mem_singleton.2 rfl
  · exact fun _ => (absurd · List.not_mem_nil)

theorem Leads.chars {pointed : Bool} {t : Token} {rest : List Char} (h : Leads pointed t rest) :
    (∃ q body, t.text.toList = q :: body ∧ (q = '"' ∨ q = '\'') ∧ Quoted q body) ∨
      t.text.toList ≠ [] ∧ ∀ c ∈ t.text.toList, isPlain c = true := by
  cases h with
  | operator hs =>
    right
    simp only [operators, List.mem_cons, List.not_mem_nil, or_false] at hs
    rcases hs with rfl | rfl | rfl | rfl | rfl | rfl | rfl
    all_goals exact ⟨by decide, List.all_eq_true.1 rfl⟩
  | number hsign hd hds hp =>
    right
    rw [text, String.toList_ofList]
    refine ⟨by simp, fun c hc => ?_⟩
    rcases List.mem_append.1 hc with hc | hc
    · exact isPlain_sign hsign c hc
    · rcases List.mem_append.1 hc with hc | hc
      · exact isPlain_digits hd hds c hc
      · exact isPlain_places hp c hc
  | index _ hd hds =>
    right
    rw [text, String.toList_ofList]
    exact ⟨List.cons_ne_nil _ _, isPlain_digits hd hds⟩
  | quoted hq hb => exact .inl ⟨_, _, by rw [text, String.toList_ofList], hq, hb⟩
  | name hc hcs =>
    right
    rw [text, String.toList_ofList]
    exact ⟨List.cons_ne_nil _ _,
      List.forall_mem_cons.2 ⟨isPlain_of_startsName hc, fun d hd => isPlain_of_continuesName (hcs d hd)⟩⟩
  | mark hc =>
    right
    rcases isMark_cases hc with rfl | rfl | rfl | rfl | rfl
    all_goals exact ⟨by decide, List.all_eq_true.1 rfl⟩

theorem not_blank_of_quote {q : Char} (h : q = '"' ∨ q = '\'') : isBlank q = false := by
  rcases h with rfl | rfl <;> rfl

theorem not_blank_of_isPlain {c : Char} (h : isPlain c = true) : isBlank c = false := by
  simp only [isPlain, Bool.and_eq_true, Bool.not_eq_true'] at h
  exact h.1.1.1

theorem Leads.begins {pointed : Bool} {t : Token} {rest : List Char} (h : Leads pointed t rest) :
    ∃ c cs, t.text.toList = c :: cs ∧ isBlank c = false := by
  rcases h.chars with ⟨q, body, hchars, hq, -⟩ | ⟨hne, hplain⟩
  · exact ⟨q, body, hchars, not_blank_of_quote hq⟩
  · obtain ⟨c, cs, hchars⟩ := List.exists_cons_of_ne_nil hne
    exact ⟨c, cs, hchars, not_blank_of_isPlain (hplain c (by simp [hchars]))⟩

theorem Leads.ends {pointed : Bool} {t : Token} {rest : List Char} (h : Leads pointed t rest) :
    ∃ cs c, t.text.toList = cs ++ [c] ∧ isBlank c = false := by
  rcases h.chars with ⟨q, body, hchars, hq, hbody⟩ | ⟨hne, hplain⟩
  · obtain ⟨init, hinit⟩ := List.getLast?_eq_some_iff.1 hbody.getLast?
    exact ⟨q :: init, q, by rw [hchars, hinit, List.cons_append], not_blank_of_quote hq⟩
  · refine ⟨_, _, (List.dropLast_concat_getLast hne).symm, not_blank_of_isPlain (hplain _ ?_)⟩
    exact List.getLast_mem hne

theorem Leads.shorten {pointed : Bool} {t : Token} {rest more : List Char} (h : Leads pointed t (rest ++ more)) :
    Leads pointed t rest := by
  have hhead {p : Char → Bool} (hp : ∀ c ∈ (rest ++ more).head?, p c = false) : ∀ c ∈ rest.head?, p c = false := by
    intro c hc
    refine hp c ?_
    rw [List.head?_append, Option.mem_def.1 hc]
    rfl
  cases h with
  | operator hs hr =>
    refine .operator hs fun hone he => hr hone ?_
    rw [List.head?_append, he]
    rfl
  | number hsign hd hds hp hr hn =>
    refine .number hsign hd hds hp (hhead hr) fun hnone c tail he => hn hnone c (tail ++ more) ?_
    rw [he]
    rfl
  | index hpointed hd hds hr => exact .index hpointed hd hds (hhead hr)
  | quoted hq hb => exact .quoted hq hb
  | name hc hcs hr => exact .name hc hcs (hhead hr)
  | mark hc => exact .mark hc

theorem Spells.trim_left {last : Option Token} {cs : List Char} {ts : List Token} (h : Spells last cs ts) :
    Spells last (cs.dropWhile isBlank) ts := by
  induction h with
  | nil => exact .nil
  | blank hc _ ih =>
    rw [List.dropWhile_cons_of_pos hc]
    exact ih
  | token hleads hrest =>
    obtain ⟨c, cs, hchars, hc⟩ := hleads.begins
    have hsame : ∀ rest, (c :: cs ++ rest).dropWhile isBlank = c :: cs ++ rest := fun rest => by
      rw [List.cons_append, List.dropWhile_cons_of_neg (Bool.eq_false_iff.1 hc)]
    rw [hchars, hsame, ← hchars]
    exact .token hleads hrest

theorem Spells.trim_right {last : Option Token} {cs after : List Char} {ts : List Token}
    (hb : ∀ c ∈ after, isBlank c = true) (h : Spells last (cs ++ after) ts) : Spells last cs ts := by
  generalize he : cs ++ after = whole at h
  induction h generalizing cs after with
  | nil =>
    rw [(List.append_eq_nil_iff.1 he).1]
    exact .nil
  | @blank last c tail ts hc _ ih =>
    cases cs with
    | nil =>
      subst he
      exact ih (fun d hd => hb d (List.mem_cons_of_mem _ hd)) (List.nil_append tail)
    | cons d rest =>
      cases he
      exact .blank hc (ih hb rfl)
  | @token last t rest ts hleads hrest ih =>
    obtain ⟨more, rfl, rfl⟩ : ∃ more, cs = t.text.toList ++ more ∧ rest = more ++ after := by
      rcases List.append_eq_append_iff.1 he with ⟨more, htext, hafter⟩ | h
      · -- the token would end among the blanks
        obtain ⟨init, c, hends, hc⟩ := hleads.ends
        rcases List.eq_nil_or_concat more with rfl | ⟨front, d, rfl⟩
        · exact ⟨[], by simp [htext], hafter.symm⟩
        · rw [hends, List.concat_eq_append, ← List.append_assoc] at htext
          have hcd : c = d := by simpa using (List.append_inj' htext rfl).2
          rw [hb c (by simp [hafter, hcd])] at hc
          cases hc
      · exact h
    exact .token hleads.shorten (ih hb rfl)

theorem Spells.trim {last : Option Token} {cs : List Char} {ts : List Token} (h : Spells last cs ts) :
    Spells last (trimList cs) ts := by
  have hleft := h.trim_left
  rw [← List.reverse_reverse (cs.dropWhile isBlank),
    ← List.takeWhile_append_dropWhile (p := isBlank) (l := (cs.dropWhile isBlank).reverse),
    List.reverse_append] at hleft
  exact hleft.trim_right fun c hc => mem_takeWhile c (List.mem_reverse.1 hc)

theorem tokens_trim {source : String} {ts : List Token} (h : tokens source = .ok ts) :
    tokens (Conductor.trim source) = .ok ts := by
  rw [tokens_eq_ok, Conductor.trim, String.toList_ofList]
  exact (tokens_eq_ok.1 h).trim

theorem eq_name_of_text {pointed pointed' : Bool} {t : Token} {s : String} {rest rest' : List Char}
    (ht : Leads pointed t rest) (hs : Leads pointed' (.name s) rest') (he : t.text = s) : t = .name s := by
  cases hs with
  | @name c cs _ hc hcs =>
    obtain ⟨hoperator, hminus, hsign, hdouble, hsingle⟩ := plain_of_startsName hc
    have hdecimal := not_decimal_of_not_digitSign hsign
    have hchars : t.text.toList = c :: cs := by rw [he, String.toList_ofList]
    cases ht with
    | operator hs =>
      simp only [operators, List.mem_cons, List.not_mem_nil, or_false] at hs
      rcases hs with rfl | rfl | rfl | rfl | rfl | rfl | rfl
      all_goals
        cases hchars
        exact absurd hoperator (by decide)
    | number hsign hd =>
      rw [text, String.toList_ofList] at hchars
      rcases hsign with rfl | ⟨rfl, -⟩
      · cases hchars
        exact absurd rfl hminus
      · cases hchars
        rw [hdecimal] at hd
        cases hd
    | index _ hd =>
      rw [text, String.toList_ofList] at hchars
      cases hchars
      rw [hdecimal] at hd
      cases hd
    | quoted hq =>
      rw [text, String.toList_ofList] at hchars
      cases hchars
      rcases hq with rfl | rfl
      · exact absurd rfl hdouble
      · exact absurd rfl hsingle
    | name => exact congrArg Token.name he
    | mark hm =>
      simp only [text, String.toList_singleton, List.cons.injEq] at hchars
      obtain ⟨-, -, -, -, -, hname, -, -⟩ := mark_cases (hchars.1 ▸ hm)
      rw [hname] at hc
      cases hc

end Token

end Conductor
