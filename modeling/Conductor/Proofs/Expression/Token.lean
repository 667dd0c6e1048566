import Conductor.Expression.Token
import Conductor.Proofs.Except

/-! The tokens of a text, said without the scanner. A text spells a list of tokens when they stand in it one
after the other with nothing but blanks between them, and none of them could be longer. -/

namespace Conductor

namespace Token

/-- What follows the whole part of a number. -/
inductive Places : List Char → Prop
  | none : Places []
  | point {d : Char} {ds : List Char} : isDecimal d = true → (∀ c ∈ ds, isDecimal c = true) →
    Places ('.' :: d :: ds)

/-- The rest of a quoted token after its first quote. -/
inductive Quoted (q : Char) : List Char → Prop
  | close : q ≠ '\\' → Quoted q [q]
  | escape {c : Char} {cs : List Char} : c ≠ '\n' → Quoted q cs → Quoted q ('\\' :: c :: cs)
  | char {c : Char} {cs : List Char} : c ≠ '\\' → c ≠ q → Quoted q cs → Quoted q (c :: cs)

/-- The token is the first one of its own text with `rest` after it. Right after a point digits are an index
and end before the next point. -/
inductive Leads (pointed : Bool) : Token → List Char → Prop
  | operator {s : String} {rest : List Char} : s ∈ operators → (s.length = 1 → rest.head? ≠ some '=') →
    Leads pointed (.operator s) rest
  | number {sign ds places rest : List Char} {d : Char} : sign = ['-'] ∨ sign = [] ∧ pointed = false →
    isDecimal d = true → (∀ c ∈ ds, isDecimal c = true) → Places places →
    (∀ c ∈ rest.head?, isDecimal c = false) →
    (places = [] → ∀ c tail, rest = '.' :: c :: tail → isDecimal c = false) →
    Leads pointed (.number (String.ofList (sign ++ (d :: ds ++ places)))) rest
  | index {ds rest : List Char} {d : Char} : pointed = true → isDecimal d = true →
    (∀ c ∈ ds, isDecimal c = true) → (∀ c ∈ rest.head?, isDecimal c = false) →
    Leads pointed (.number (String.ofList (d :: ds))) rest
  | quoted {q : Char} {body rest : List Char} : q = '"' ∨ q = '\'' → Quoted q body →
    Leads pointed (.quoted (String.ofList (q :: body))) rest
  | name {c : Char} {cs rest : List Char} : startsName c = true → (∀ d ∈ cs, continuesName d = true) →
    (∀ d ∈ rest.head?, continuesName d = false) → Leads pointed (.name (String.ofList (c :: cs))) rest
  | mark {c : Char} {rest : List Char} : isMark c = true → Leads pointed (.mark c) rest

/-- The characters, which come after the token `last`, spell the tokens. -/
inductive Spells : Option Token → List Char → List Token → Prop
  | nil {last : Option Token} : Spells last [] []
  | blank {last : Option Token} {c : Char} {cs : List Char} {ts : List Token} :
    isBlank c = true → Spells last cs ts → Spells last (c :: cs) ts
  | token {last : Option Token} {t : Token} {rest : List Char} {ts : List Token} :
    Leads (last = some (.mark '.')) t rest → Spells (some t) rest ts →
    Spells last (t.text.toList ++ rest) (t :: ts)

/-! Runs of characters of one class -/

theorem span_append {p : Char → Bool} {cs rest : List Char} (h : ∀ c ∈ cs, p c = true)
    (hr : ∀ c ∈ rest.head?, p c = false) :
    (cs ++ rest).takeWhile p = cs ∧ (cs ++ rest).dropWhile p = rest := by
  rw [List.takeWhile_append_of_pos h, List.dropWhile_append_of_pos h]
  cases rest with
  | nil => simp
  | cons c tail => simp [hr c rfl]

theorem head?_dropWhile {p : Char → Bool} {cs : List Char} : ∀ c ∈ (cs.dropWhile p).head?, p c = false := by
  intro c hc
  have h := List.head?_dropWhile_not p cs
  rw [Option.mem_def.1 hc] at h
  exact h

theorem mem_takeWhile {p : Char → Bool} {cs : List Char} : ∀ c ∈ cs.takeWhile p, p c = true :=
  List.all_eq_true.1 List.all_takeWhile

/-! Numbers -/

theorem fraction_append {places rest : List Char} (hp : Places places)
    (hr : ∀ c ∈ rest.head?, isDecimal c = false)
    (hn : places = [] → ∀ c tail, rest = '.' :: c :: tail → isDecimal c = false) :
    fraction (places ++ rest) = (places, rest) := by
  cases hp with
  | none =>
    rw [List.nil_append]
    unfold fraction
    split
    · rw [if_neg (Bool.eq_false_iff.1 (hn rfl _ _ rfl))]
    · rfl
  | point hd hds =>
    have hspan := span_append hds hr
    simp [fraction, hd, hspan.1, hspan.2]

theorem fraction_cases {cs places rest : List Char} (h : fraction cs = (places, rest))
    (hcs : ∀ c ∈ cs.head?, isDecimal c = false) :
    cs = places ++ rest ∧ Places places ∧ (∀ c ∈ rest.head?, isDecimal c = false) ∧
      (places = [] → ∀ c tail, rest = '.' :: c :: tail → isDecimal c = false) := by
  unfold fraction at h
  split at h
  · rename_i d tail
    split at h
    · rename_i hd
      cases h
      exact ⟨by simp, .point hd mem_takeWhile, head?_dropWhile, nofun⟩
    · rename_i hd
      cases h
      refine ⟨rfl, .none, hcs, fun _ c more he => ?_⟩
      cases he
      exact Bool.eq_false_iff.2 hd
  · rename_i hpoint
    cases h
    exact ⟨rfl, .none, hcs, fun _ c more he => absurd he (hpoint c more)⟩

theorem head?_places {places rest : List Char} (hp : Places places)
    (hr : ∀ c ∈ rest.head?, isDecimal c = false) : ∀ c ∈ (places ++ rest).head?, isDecimal c = false := by
  cases hp with
  | none => exact hr
  | point =>
    intro c hc
    cases hc
    decide

theorem unsigned?_append {d : Char} {ds places rest : List Char} (hd : isDecimal d = true)
    (hds : ∀ c ∈ ds, isDecimal c = true) (hp : Places places) (hr : ∀ c ∈ rest.head?, isDecimal c = false)
    (hn : places = [] → ∀ c tail, rest = '.' :: c :: tail → isDecimal c = false) :
    unsigned? (d :: ds ++ places ++ rest) = some (d :: ds ++ places, rest) := by
  have hspan := span_append hds (head?_places hp hr)
  simp [unsigned?, hd, hspan.1, hspan.2, fraction_append hp hr hn]

theorem unsigned?_cases {cs out rest : List Char} (h : unsigned? cs = some (out, rest)) :
    ∃ d ds places, out = d :: ds ++ places ∧ cs = out ++ rest ∧ isDecimal d = true ∧
      (∀ c ∈ ds, isDecimal c = true) ∧ Places places ∧ (∀ c ∈ rest.head?, isDecimal c = false) ∧
      (places = [] → ∀ c tail, rest = '.' :: c :: tail → isDecimal c = false) := by
  unfold unsigned? at h
  split at h
  · rename_i d tail
    split at h
    · rename_i hd
      obtain ⟨places, left, hf⟩ : ∃ places left, fraction (tail.dropWhile isDecimal) = (places, left) :=
        ⟨_, _, rfl⟩
      rw [hf] at h
      simp only [Option.some.injEq, Prod.mk.injEq] at h
      obtain ⟨rfl, rfl⟩ := h
      obtain ⟨hcs, hp, hr, hn⟩ := fraction_cases hf head?_dropWhile
      refine ⟨d, tail.takeWhile isDecimal, places, rfl, ?_, hd, mem_takeWhile, hp, hr, hn⟩
      rw [List.cons_append, List.cons_append, List.append_assoc, ← hcs, List.takeWhile_append_dropWhile]
    · cases h
  · cases h

theorem number?_cases {pointed : Bool} {cs rest : List Char} {t : Token} (h : number? cs = some (t, rest))
    (hfirst : pointed = true → ∀ c ∈ cs.head?, isDecimal c = false) :
    cs = t.text.toList ++ rest ∧ Leads pointed t rest := by
  unfold number? at h
  split at h
  · obtain ⟨⟨out, left⟩, hu, he⟩ := Option.map_eq_some_iff.1 h
    cases he
    obtain ⟨d, ds, places, rfl, rfl, hd, hds, hp, hr, hn⟩ := unsigned?_cases hu
    exact ⟨by simp [text], .number (.inl rfl) hd hds hp hr hn⟩
  · obtain ⟨⟨out, left⟩, hu, he⟩ := Option.map_eq_some_iff.1 h
    cases he
    obtain ⟨d, ds, places, rfl, rfl, hd, hds, hp, hr, hn⟩ := unsigned?_cases hu
    have hplain : pointed = false := by
      refine Bool.eq_false_iff.2 fun hpointed => ?_
      rw [hfirst hpointed d rfl] at hd
      cases hd
    exact ⟨by simp [text], .number (.inr ⟨rfl, hplain⟩) hd hds hp hr hn⟩

/-! Quoted tokens -/

theorem quotedTail_inside {q c : Char} {rest : List Char} (hc : c ≠ '\\') : quotedTail q (c :: rest) =
    if c = q then some ([c], rest) else (quotedTail q rest).map fun out => (c :: out.1, out.2) := by
  rw [quotedTail]
  · exact if_neg hc
  · exact fun _ _ he => absurd he hc

theorem Quoted.scan {q : Char} {body : List Char} (h : Quoted q body) (rest : List Char) :
    quotedTail q (body ++ rest) = some (body, rest) := by
  induction h with
  | close hq => rw [List.singleton_append, quotedTail_inside hq, if_pos rfl]
  | escape hc _ ih => rw [List.cons_append, List.cons_append, quotedTail, if_neg hc, ih, Option.map_some]
  | char hc hq _ ih => rw [List.cons_append, quotedTail_inside hc, if_neg hq, ih, Option.map_some]

theorem quoted_of_scan {q : Char} {cs body rest : List Char} (h : quotedTail q cs = some (body, rest)) :
    cs = body ++ rest ∧ Quoted q body := by
  fun_induction quotedTail q cs generalizing body rest with
  | case1 => cases h
  | case2 => cases h
  | case3 c tail hc ih =>
    obtain ⟨⟨out, left⟩, ho, he⟩ := Option.map_eq_some_iff.1 h
    cases he
    obtain ⟨rfl, hb⟩ := ih ho
    exact ⟨rfl, .escape hc hb⟩
  | case4 => cases h
  | case5 tail hslash hq =>
    cases h
    exact ⟨rfl, .close hq⟩
  | case6 c tail hslash hc hq ih =>
    obtain ⟨⟨out, left⟩, ho, he⟩ := Option.map_eq_some_iff.1 h
    cases he
    obtain ⟨rfl, hb⟩ := ih ho
    exact ⟨rfl, .char hc hq hb⟩

theorem Quoted.getLast? {q : Char} {body : List Char} (h : Quoted q body) : body.getLast? = some q := by
  induction h with
  | close => rfl
  | escape _ _ ih => rw [List.getLast?_cons, List.getLast?_cons, ih]; rfl
  | char _ _ _ ih => rw [List.getLast?_cons, ih]; rfl

/-! Operators -/

theorem find?_operators {s : String} {rest : List Char} (hs : s ∈ operators)
    (hr : s.length = 1 → rest.head? ≠ some '=') :
    operators.find? (fun o => o.toList.isPrefixOf (s.toList ++ rest)) = some s := by
  have hhead (h : s.length = 1) : ['='].isPrefixOf rest = false := by
    cases rest with
    | nil => rfl
    | cons c tail =>
      have hc : '=' ≠ c := fun he => hr h (by rw [he]; rfl)
      simp [List.isPrefixOf, hc]
  simp only [operators, List.mem_cons, List.not_mem_nil, or_false] at hs
  -- an operator of one character hides behind a longer one only where that stands there
  rcases hs with rfl | rfl | rfl | rfl | rfl | rfl | rfl
  · rfl
  · rfl
  · rfl
  · rfl
  · rfl
  · simp [operators, List.find?, List.isPrefixOf, hhead rfl]
  · simp [operators, List.find?, List.isPrefixOf, hhead rfl]

theorem operator?_append {s : String} {rest : List Char} (hs : s ∈ operators)
    (hr : s.length = 1 → rest.head? ≠ some '=') : operator? (s.toList ++ rest) = some (.operator s, rest) := by
  rw [operator?, find?_operators hs hr, Option.map_some, ← String.length_toList, List.drop_left]

theorem operator?_cases {cs rest : List Char} {t : Token} (h : operator? cs = some (t, rest)) :
    cs = t.text.toList ++ rest ∧ ∀ pointed, Leads pointed t rest := by
  obtain ⟨s, hs, he⟩ := Option.map_eq_some_iff.1 h
  cases he
  have hprefix : s.toList.isPrefixOf cs = true := by simpa using List.find?_some hs
  obtain ⟨rest, rfl⟩ := List.isPrefixOf_iff_prefix.1 hprefix
  have hmem := List.mem_of_find?_eq_some hs
  rw [← String.length_toList, List.drop_left]
  refine ⟨rfl, fun pointed => .operator hmem fun hone hhead => ?_⟩
  obtain ⟨tail, rfl⟩ : ∃ tail, rest = '=' :: tail := by
    cases rest with
    | nil => cases hhead
    | cons c tail => exact ⟨tail, by simpa using hhead⟩
  simp only [operators, List.mem_cons, List.not_mem_nil, or_false] at hmem
  rcases hmem with rfl | rfl | rfl | rfl | rfl | rfl | rfl
  · cases hone
  · cases hone
  · cases hone
  · cases hone
  · cases hone
  · simp [operators, List.find?, List.isPrefixOf] at hs
  · simp [operators, List.find?, List.isPrefixOf] at hs

/-! Which characters tokens begin with -/

theorem operator?_eq_none {c : Char} {cs : List Char} (h : c ∉ ['=', '!', '<', '>']) :
    operator? (c :: cs) = none := by
  simp only [List.mem_cons, List.not_mem_nil, or_false, not_or] at h
  obtain ⟨h₁, h₂, h₃, h₄⟩ := h
  simp [operator?, operators, List.find?, List.isPrefixOf, beq_false_of_ne (Ne.symm h₁),
    beq_false_of_ne (Ne.symm h₂), beq_false_of_ne (Ne.symm h₃), beq_false_of_ne (Ne.symm h₄)]

theorem number?_eq_none {c : Char} {cs : List Char} (h : c ≠ '-') (hd : isDecimal c = false) :
    number? (c :: cs) = none := by
  simp [number?, h, unsigned?, hd]

theorem quoted?_eq_none {c : Char} {cs : List Char} (h : c ≠ '"') (h' : c ≠ '\'') : quoted? (c :: cs) = none := by
  simp [quoted?, h, h']

/-- A property of the characters of some codes, checked code by code. -/
theorem forall_codes {P : Char → Prop} {codes : List Nat} (h : ∀ n ∈ codes, P (Char.ofNat n)) {c : Char}
    (hc : c.toNat ∈ codes) : P c := by
  have hcode := h c.toNat hc
  rwa [Char.ofNat_toNat] at hcode

theorem ascii_of_startsName {c : Char} (h : startsName c = true) : c.toNat < 128 := by
  unfold startsName Char.isAlpha Char.isUpper Char.isLower at h
  simp only [Bool.or_eq_true, Bool.and_eq_true, decide_eq_true_eq] at h
  rcases h with ((⟨-, h⟩ | ⟨-, h⟩) | rfl) | rfl
  · exact Nat.lt_of_le_of_lt h (by decide)
  · exact Nat.lt_of_le_of_lt h (by decide)
  · decide
  · decide

theorem plain_of_startsName {c : Char} (h : startsName c = true) :
    c ∉ ['=', '!', '<', '>'] ∧ c ≠ '-' ∧ isDigitSign c = false ∧ c ≠ '"' ∧ c ≠ '\'' := by
  have hcode : c.toNat ∈ List.range 128 := List.mem_range.2 (ascii_of_startsName h)
  revert h
  apply forall_codes _ hcode
  decide +kernel

theorem not_decimal_of_not_digitSign {c : Char} (h : isDigitSign c = false) : isDecimal c = false :=
  Bool.eq_false_iff.2 fun hd => by simp [isDigitSign_of_isDecimal hd] at h

/-- The codes of blank characters. -/
def blanks : List Nat :=
  List.range' 9 5 ++ List.range' 28 5 ++ [0x85, 0xa0, 0x1680] ++ List.range' 0x2000 11 ++
    [0x2028, 0x2029, 0x202f, 0x205f, 0x3000]

theorem mem_blanks {c : Char} (h : isBlank c = true) : c.toNat ∈ blanks := by
  simp only [isBlank, Bool.or_eq_true, Bool.and_eq_true, decide_eq_true_eq] at h
  simp only [blanks, List.mem_append, List.mem_range'_1, List.mem_cons, List.not_mem_nil, or_false]
  omega

theorem plain_of_isBlank {c : Char} (h : isBlank c = true) :
    isDecimal c = false ∧ continuesName c = false ∧ startsName c = false ∧ isMark c = false ∧
      c ∉ ['=', '!', '<', '>'] ∧ c ≠ '-' ∧ c ≠ '"' ∧ c ≠ '\'' ∧ c ≠ '}' := by
  apply forall_codes _ (mem_blanks h)
  decide +kernel

theorem not_digitSign_of_isBlank {c : Char} (h : isBlank c = true) : isDigitSign c = false := by
  apply forall_codes _ (mem_blanks h)
  decide +kernel

theorem plain_of_isDecimal {c : Char} (h : isDecimal c = true) :
    c ∉ ['=', '!', '<', '>'] ∧ c ≠ '-' ∧ isBlank c = false := by
  refine ⟨fun hc => ?_, ?_, Bool.eq_false_iff.2 fun hb => ?_⟩
  · simp only [List.mem_cons, List.not_mem_nil, or_false] at hc
    rcases hc with rfl | rfl | rfl | rfl <;> revert h <;> decide
  · rintro rfl
    revert h
    decide
  · rw [(plain_of_isBlank hb).1] at h
    cases h

theorem isMark_cases {c : Char} (h : isMark c = true) : c = '.' ∨ c = '[' ∨ c = ']' ∨ c = '(' ∨ c = ')' := by
  simpa [isMark, or_assoc] using h

theorem mark_cases {c : Char} (h : isMark c = true) :
    c ∉ ['=', '!', '<', '>'] ∧ c ≠ '-' ∧ isDecimal c = false ∧ c ≠ '"' ∧ c ≠ '\'' ∧ startsName c = false ∧
      isBlank c = false ∧ isDigitSign c = false := by
  rcases isMark_cases h with rfl | rfl | rfl | rfl | rfl
  all_goals exact ⟨by decide, by decide, rfl, by decide, by decide, rfl, rfl, rfl⟩

/-! One token -/

theorem scan?_number {c : Char} {cs rest : List Char} {t : Token} (h : c ∉ ['=', '!', '<', '>'])
    (hn : number? (c :: cs) = some (t, rest)) : scan? (c :: cs) = some (t, rest) := by
  rw [scan?, operator?_eq_none h, hn]
  rfl

theorem number?_unsigned {c : Char} {cs : List Char} (h : c ≠ '-') : number? (c :: cs) =
    (unsigned? (c :: cs)).map fun out => (.number (String.ofList out.1), out.2) := by
  simp [number?, h]

/-- The scanner finds the token in front of the rest, and not as an index. -/
def Found (pointed : Bool) (t : Token) (rest : List Char) : Prop :=
  ∃ c cs, t.text.toList = c :: cs ∧ isBlank c = false ∧ (pointed = true → isDigitSign c = false) ∧
    scan? (c :: cs ++ rest) = some (t, rest)

section

variable {pointed : Bool} {rest : List Char}

theorem found_operator {s : String} (hs : s ∈ operators) (hr : s.length = 1 → rest.head? ≠ some '=') :
    Found pointed (.operator s) rest := by
  have hscan : scan? (s.toList ++ rest) = some (.operator s, rest) := by
    rw [scan?, operator?_append hs hr]
    rfl
  simp only [operators, List.mem_cons, List.not_mem_nil, or_false] at hs
  rcases hs with rfl | rfl | rfl | rfl | rfl | rfl | rfl
  all_goals exact ⟨_, _, rfl, rfl, fun _ => rfl, hscan⟩

theorem found_number {sign ds places : List Char} {d : Char} (hsign : sign = ['-'] ∨ sign = [] ∧ pointed = false)
    (hd : isDecimal d = true) (hds : ∀ c ∈ ds, isDecimal c = true) (hp : Places places)
    (hr : ∀ c ∈ rest.head?, isDecimal c = false)
    (hn : places = [] → ∀ c tail, rest = '.' :: c :: tail → isDecimal c = false) :
    Found pointed (.number (String.ofList (sign ++ (d :: ds ++ places)))) rest := by
  have happend := unsigned?_append hd hds hp hr hn
  rcases hsign with rfl | ⟨rfl, rfl⟩
  · refine ⟨'-', d :: ds ++ places, by simp [text], rfl, fun _ => rfl, ?_⟩
    rw [List.cons_append]
    refine scan?_number (by decide) ?_
    rw [number?, happend]
    rfl
  · obtain ⟨hoperator, hminus, hblank⟩ := plain_of_isDecimal hd
    refine ⟨d, ds ++ places, by simp [text], hblank, fun hp => absurd hp Bool.false_ne_true,
      scan?_number hoperator ?_⟩
    show number? (d :: (ds ++ places ++ rest)) = _
    rw [List.cons_append, List.cons_append] at happend
    rw [number?_unsigned hminus, happend]
    rfl

theorem found_quoted {q : Char} {body : List Char} (hq : q = '"' ∨ q = '\'') (hb : Quoted q body) :
    Found pointed (.quoted (String.ofList (q :: body))) rest := by
  have hquoted : quoted? (q :: (body ++ rest)) = some (.quoted (String.ofList (q :: body)), rest) := by
    rw [quoted?, hb.scan]
    rcases hq with rfl | rfl <;> rfl
  have hplain : q ∉ ['=', '!', '<', '>'] ∧ q ≠ '-' ∧ isDecimal q = false ∧ isBlank q = false ∧
      isDigitSign q = false := by
    rcases hq with rfl | rfl <;> exact ⟨by decide, by decide, rfl, rfl, rfl⟩
  obtain ⟨hoperator, hminus, hdecimal, hblank, hsign⟩ := hplain
  refine ⟨q, body, by simp [text], hblank, fun _ => hsign, ?_⟩
  rw [scan?, List.cons_append, operator?_eq_none hoperator, number?_eq_none hminus hdecimal, hquoted]
  rfl

theorem found_name {c : Char} {cs : List Char} (hc : startsName c = true) (hcs : ∀ d ∈ cs, continuesName d = true)
    (hr : ∀ d ∈ rest.head?, continuesName d = false) : Found pointed (.name (String.ofList (c :: cs))) rest := by
  obtain ⟨hoperator, hminus, hsign, hdouble, hsingle⟩ := plain_of_startsName hc
  have hdecimal := not_decimal_of_not_digitSign hsign
  have hspan := span_append hcs hr
  have hname : name? (c :: (cs ++ rest)) = some (.name (String.ofList (c :: cs)), rest) := by
    rw [name?, if_pos hc, hspan.1, hspan.2]
  have hblank : isBlank c = false := by
    refine Bool.eq_false_iff.2 fun hb => ?_
    rw [(plain_of_isBlank hb).2.2.1] at hc
    cases hc
  refine ⟨c, cs, by simp [text], hblank, fun _ => hsign, ?_⟩
  rw [scan?, List.cons_append, operator?_eq_none hoperator, number?_eq_none hminus hdecimal,
    quoted?_eq_none hdouble hsingle, hname]
  rfl

theorem found_mark {c : Char} (hc : isMark c = true) : Found pointed (.mark c) rest := by
  obtain ⟨hoperator, hminus, hdecimal, hdouble, hsingle, hname, hblank, hsign⟩ := mark_cases hc
  refine ⟨c, [], by simp [text], hblank, fun _ => hsign, ?_⟩
  rw [scan?, List.cons_append, operator?_eq_none hoperator, number?_eq_none hminus hdecimal,
    quoted?_eq_none hdouble hsingle, name?, if_neg (Bool.eq_false_iff.1 hname), mark?, if_pos hc]
  rfl

/-- Where a token that is no index begins, the scanner finds it. -/
theorem Leads.scan {t : Token} (h : Leads pointed t rest) : Found pointed t rest ∨
    pointed = true ∧ ∃ d ds, t = .number (String.ofList (d :: ds)) ∧ isDecimal d = true ∧
      (∀ c ∈ ds, isDecimal c = true) ∧ ∀ c ∈ rest.head?, isDecimal c = false := by
  cases h with
  | operator hs hr => exact .inl (found_operator hs hr)
  | number hsign hd hds hp hr hn => exact .inl (found_number hsign hd hds hp hr hn)
  | index hpointed hd hds hr => exact .inr ⟨hpointed, _, _, rfl, hd, hds, hr⟩
  | quoted hq hb => exact .inl (found_quoted hq hb)
  | name hc hcs hr => exact .inl (found_name hc hcs hr)
  | mark hc => exact .inl (found_mark hc)

end

section

variable {pointed : Bool} {cs rest : List Char} {t : Token}

theorem quoted?_cases (h : quoted? cs = some (t, rest)) : cs = t.text.toList ++ rest ∧ Leads pointed t rest := by
  unfold quoted? at h
  split at h
  · rename_i q tail
    split at h
    · rename_i hq
      obtain ⟨⟨body, left⟩, hb, he⟩ := Option.map_eq_some_iff.1 h
      cases he
      obtain ⟨rfl, hbody⟩ := quoted_of_scan hb
      exact ⟨by simp [text], .quoted (by simpa using hq) hbody⟩
    · cases h
  · cases h

theorem name?_cases (h : name? cs = some (t, rest)) : cs = t.text.toList ++ rest ∧ Leads pointed t rest := by
  unfold name? at h
  split at h
  · rename_i c tail
    split at h
    · rename_i hc
      cases h
      refine ⟨?_, .name hc mem_takeWhile head?_dropWhile⟩
      rw [text, String.toList_ofList, List.cons_append, List.takeWhile_append_dropWhile]
    · cases h
  · cases h

theorem mark?_cases (h : mark? cs = some (t, rest)) : cs = t.text.toList ++ rest ∧ Leads pointed t rest := by
  unfold mark? at h
  split at h
  · split at h
    · rename_i hc
      cases h
      exact ⟨by simp [text], .mark hc⟩
    · cases h
  · cases h

/-- What the scanner finds begins the text, if digits are no index there. -/
theorem leads_of_scan (h : scan? cs = some (t, rest))
    (hfirst : pointed = true → ∀ c ∈ cs.head?, isDecimal c = false) :
    cs = t.text.toList ++ rest ∧ Leads pointed t rest := by
  simp only [scan?, Option.or_eq_some_iff] at h
  rcases h with h | ⟨-, h | ⟨-, h | ⟨-, h | ⟨-, h⟩⟩⟩⟩
  · exact (operator?_cases h).imp_right fun hleads => hleads pointed
  · exact number?_cases h hfirst
  · exact quoted?_cases h
  · exact name?_cases h
  · exact mark?_cases h

end

/-! All tokens -/

section

variable {source : String} {last : Option Token} {c : Char} {cs rest : List Char} {t : Token}

theorem split_nil : split source last [] = .ok [] := by
  rw [split.eq_def]

theorem split_blank (hc : isBlank c = true) : split source last (c :: cs) = split source last cs := by
  rw [split.eq_def]
  exact if_pos hc

theorem split_index (hc : isDecimal c = true) (hlast : last = some (.mark '.')) :
    split source last (c :: cs) =
      (split source (some (.number (String.ofList (c :: cs.takeWhile isDecimal)))) (cs.dropWhile isDecimal)).map
        (.number (String.ofList (c :: cs.takeWhile isDecimal)) :: ·) := by
  have hsign : (last = some (.mark '.') && isDigitSign c) = true := by
    simp [hlast, isDigitSign_of_isDecimal hc]
  rw [split.eq_def]
  dsimp only
  rw [if_neg (Bool.eq_false_iff.1 (plain_of_isDecimal hc).2.2), if_pos hsign, if_pos hc]

theorem split_scan (hc : isBlank c = false) (hsign : last = some (.mark '.') → isDigitSign c = false)
    (h : scan? (c :: cs) = some (t, rest)) :
    split source last (c :: cs) = (split source (some t) rest).map (t :: ·) := by
  have hindex : ¬ (last = some (.mark '.') && isDigitSign c) = true := by simpa using hsign
  rw [split.eq_def]
  dsimp only
  rw [if_neg (Bool.eq_false_iff.1 hc), if_neg hindex]
  split
  · rename_i hfound
    cases hfound.symm.trans h
    rfl
  · rename_i hfound
    cases hfound.symm.trans h

theorem split_token (h : Leads (last = some (.mark '.')) t rest) :
    split source last (t.text.toList ++ rest) = (split source (some t) rest).map (t :: ·) := by
  rcases h.scan with ⟨c, cs, hchars, hblank, hsign, hscan⟩ | ⟨hpointed, d, ds, rfl, hd, hds, hr⟩
  · rw [hchars]
    exact split_scan hblank (fun hlast => hsign (by simp [hlast])) hscan
  · have hspan := span_append hds hr
    rw [text, String.toList_ofList, List.cons_append, split_index hd (of_decide_eq_true hpointed), hspan.1,
      hspan.2]

end

theorem split_of_spells {source : String} {last : Option Token} {cs : List Char} {ts : List Token}
    (h : Spells last cs ts) : split source last cs = .ok ts := by
  induction h with
  | nil => exact split_nil
  | blank hc _ ih => rw [split_blank hc, ih]
  | token hleads _ ih =>
    rw [split_token hleads, ih]
    rfl

/-- Digits that the splitter takes as an index begin the text. -/
theorem leads_index {last : Option Token} {c : Char} (rest : List Char)
    (hsign : (last = some (.mark '.') && isDigitSign c) = true) (hd : isDecimal c = true) :
    c :: rest = (Token.number (String.ofList (c :: rest.takeWhile isDecimal))).text.toList ++ rest.dropWhile isDecimal ∧
      Leads (last = some (.mark '.')) (.number (String.ofList (c :: rest.takeWhile isDecimal)))
        (rest.dropWhile isDecimal) := by
  rw [Bool.and_eq_true, decide_eq_true_eq] at hsign
  refine ⟨?_, .index (by simp [hsign.1]) hd mem_takeWhile head?_dropWhile⟩
  rw [text, String.toList_ofList, List.cons_append, List.takeWhile_append_dropWhile]

/-- So does what it scans elsewhere. -/
theorem leads_scanned {last : Option Token} {c : Char} {rest left : List Char} {t : Token}
    (hsign : ¬ (last = some (.mark '.') && isDigitSign c) = true) (hscan : scan? (c :: rest) = some (t, left)) :
    c :: rest = t.text.toList ++ left ∧ Leads (last = some (.mark '.')) t left := by
  apply leads_of_scan hscan
  intro hlast d hd
  cases hd
  exact not_decimal_of_not_digitSign (by simpa [of_decide_eq_true hlast] using hsign)

theorem spells_of_split {source : String} {last : Option Token} {cs : List Char} {ts : List Token}
    (h : split source last cs = .ok ts) : Spells last cs ts := by
  fun_induction split source last cs generalizing ts with
  | case1 =>
    cases h
    exact .nil
  | case2 last c rest hc ih => exact .blank hc (ih h)
  | case3 last c rest hc hsign hd token =>
    rename_i ih
    obtain ⟨others, ho, rfl⟩ := map_eq_ok h
    obtain ⟨hchars, hleads⟩ := leads_index rest hsign hd
    rw [hchars]
    exact .token hleads (ih ho)
  | case4 => cases h
  | case5 last c rest hc hsign t left hscan ih =>
    obtain ⟨others, ho, rfl⟩ := map_eq_ok h
    obtain ⟨hchars, hleads⟩ := leads_scanned hsign hscan
    rw [hchars]
    exact .token hleads (ih ho)
  | case6 => cases h

/-- The scanner finds the tokens that a text spells, and no others. -/
theorem tokens_eq_ok {source : String} {ts : List Token} : tokens source = .ok ts ↔ Spells none source.toList ts :=
  ⟨spells_of_split, split_of_spells⟩

end Token

end Conductor
