import Conductor.Proofs.Expression.Derivation
import Conductor.Proofs.Expression.Token
import Mathlib.Data.List.Induction

/-! Texts and whole numbers written as literals, and what is read from them. -/

namespace Conductor

/-! Quoted texts -/

/-- A character inside double quotes. -/
def escaped (c : Char) : List Char :=
  if c = '\\' then ['\\', '\\']
  else if c = '"' then ['\\', '"']
  else if c = '\n' then ['\\', 'n']
  else if c = '\r' then ['\\', 'r']
  else if c = '\x00' then ['\\', 'x', '0', '0']
  else [c]

def doubleQuoted (s : String) : String :=
  String.ofList ('"' :: (s.toList.flatMap escaped ++ ['"']))

theorem ne_of_mem_escaped {c d : Char} (h : d ∈ escaped c) : d ≠ '\r' ∧ d ≠ '\x00' := by
  have hall : (escaped c).all (fun d => d ≠ '\r' && d ≠ '\x00') = true := by
    unfold escaped
    split_ifs with h₁ h₂ h₃ h₄ h₅
    case neg => simp [h₄, h₅]
    all_goals rfl
  simpa using List.all_eq_true.1 hall d h

theorem plainBreaks_eq_self {cs : List Char} (h : ∀ c ∈ cs, c ≠ '\r') : plainBreaks cs = cs := by
  fun_induction plainBreaks cs with
  | case1 => rfl
  | case2 => exact absurd rfl (h _ List.mem_cons_self)
  | case3 c rest _ ih =>
    rw [ih fun d hd => h d (List.mem_cons_of_mem c hd), if_neg (h c List.mem_cons_self)]

theorem unescape_escape {c d : Char} (ds : List Char) {rest : List Char}
    (h : ∃ hle, readEscape d (ds ++ rest) = some ([c], ⟨rest, hle⟩)) :
    unescape ('\\' :: d :: (ds ++ rest)) = (unescape rest).map (c :: ·) := by
  obtain ⟨hle, h⟩ := h
  rw [unescape, h]
  rfl

theorem unescape_escaped (c : Char) (rest : List Char) :
    unescape (escaped c ++ rest) = (unescape rest).map (c :: ·) := by
  unfold escaped
  split_ifs with h₁ h₂ h₃ h₄ h₅
  · subst h₁
    exact unescape_escape [] ⟨Nat.le_refl _, rfl⟩
  · subst h₂
    exact unescape_escape [] ⟨Nat.le_refl _, rfl⟩
  · subst h₃
    exact unescape_escape [] ⟨Nat.le_refl _, rfl⟩
  · subst h₄
    exact unescape_escape [] ⟨Nat.le_refl _, rfl⟩
  · subst h₅
    refine unescape_escape ['0', '0'] ⟨by simp only [List.length_append]; omega, ?_⟩
    have hlong : ¬ (['0', '0'] ++ rest).length < 2 := by simp
    rw [readEscape, if_neg (by decide), if_pos rfl, readHex, if_neg hlong]
    rfl
  · rw [List.singleton_append, unescape, if_neg h₃]
    · exact fun h => absurd h h₁
    · exact fun _ _ h => absurd h h₁

theorem Token.Quoted.escaped {cs : List Char} (h : Quoted '"' cs) (c : Char) : Quoted '"' (escaped c ++ cs) := by
  unfold Conductor.escaped
  split_ifs with h₁ h₂ h₃ h₄ h₅
  · exact .escape (by decide) h
  · exact .escape (by decide) h
  · exact .escape (by decide) h
  · exact .escape (by decide) h
  · exact .escape (by decide) (.char (by decide) (by decide) (.char (by decide) (by decide) h))
  · exact .char h₁ h₂ h

theorem unescape_flatMap (cs : List Char) : unescape (cs.flatMap escaped) = some cs := by
  induction cs with
  | nil => rw [List.flatMap_nil, unescape]
  | cons c cs ih => rw [List.flatMap_cons, unescape_escaped, ih]; rfl

theorem unquote_doubleQuoted (s : String) : unquote (doubleQuoted s) = .ok s := by
  have hbody : ((doubleQuoted s).toList.drop 1).dropLast = s.toList.flatMap escaped := by
    rw [doubleQuoted, String.toList_ofList, List.drop_one, List.tail_cons, List.dropLast_concat]
  have hmem {c : Char} (hc : c ∈ s.toList.flatMap escaped) : c ≠ '\r' ∧ c ≠ '\x00' := by
    obtain ⟨d, -, hd⟩ := List.mem_flatMap.1 hc
    exact ne_of_mem_escaped hd
  have hzero : (s.toList.flatMap escaped).contains '\x00' = false :=
    Bool.eq_false_iff.2 fun hc => (hmem (List.contains_iff_mem.1 hc)).2 rfl
  rw [unquote, hbody, hzero, if_neg nofun, plainBreaks_eq_self fun c hc => (hmem hc).1, unescape_flatMap]
  exact congrArg Except.ok String.ofList_toList

theorem leads_doubleQuoted {pointed : Bool} {rest : List Char} (s : String) :
    Token.Leads pointed (.quoted (doubleQuoted s)) rest := by
  refine .quoted (.inl rfl) ?_
  induction s.toList with
  | nil => exact .close (by decide)
  | cons c cs ih =>
    rw [List.flatMap_cons, List.append_assoc]
    exact ih.escaped c

/-! Whole numbers -/

open Token Grammar

theorem digitValue?_of_isDigit {c : Char} (h : c.isDigit = true) : digitValue? c = some (c.toNat - '0'.toNat) := by
  have hrange : 48 ≤ c.toNat ∧ c.toNat < 58 := by
    simp only [Char.isDigit, ge_iff_le, Bool.and_eq_true, decide_eq_true_eq, UInt32.le_iff_toNat_le] at h
    exact ⟨h.1, Nat.lt_succ_of_le h.2⟩
  rw [digitValue?, digitZeros, List.find?_cons_of_pos (by simpa using hrange)]
  rfl

theorem isDecimal_of_isDigit {c : Char} (h : c.isDigit = true) : isDecimal c = true := by
  rw [isDecimal, digitValue?_of_isDigit h]
  rfl

theorem isDigit_of_mem {n : Nat} {c : Char} (h : c ∈ Nat.toDigits 10 n) : c.isDigit = true :=
  Nat.isDigit_of_mem_toDigits (by decide) (by decide) h

theorem digitsValue_concat (cs : List Char) (c : Char) :
    digitsValue (cs ++ [c]) = (digitValue? c).elim (digitsValue cs) (10 * digitsValue cs + ·) := by
  rw [digitsValue, List.foldl_concat]
  cases digitValue? c <;> rfl

theorem digitsValue_eq_ofDigitChars {cs : List Char} (h : ∀ c ∈ cs, c.isDigit = true) :
    digitsValue cs = Nat.ofDigitChars 10 cs 0 := by
  induction cs using List.reverseRecOn with
  | nil => rfl
  | append_singleton cs c ih =>
    rw [digitsValue_concat, digitValue?_of_isDigit (h c (List.mem_append_right cs List.mem_cons_self)),
      ih fun d hd => h d (List.mem_append_left [c] hd), Nat.ofDigitChars_append]
    rfl

theorem digitsValue_toDigits (n : Nat) : digitsValue (Nat.toDigits 10 n) = n :=
  (digitsValue_eq_ofDigitChars fun _ => isDigit_of_mem).trans Nat.ofDigitChars_ten_toDigits

/-- Below zero a number has a minus before its digits. -/
theorem toString_cases (n : Int) : ∃ sign, (toString n).toList = sign ++ Nat.toDigits 10 n.natAbs ∧
    (sign = ['-'] ∧ n < 0 ∨ sign = [] ∧ 0 ≤ n) := by
  cases n with
  | ofNat m => exact ⟨[], Nat.toList_repr, .inr ⟨rfl, Int.natCast_nonneg m⟩⟩
  | negSucc m =>
    refine ⟨['-'], ?_, .inl ⟨rfl, Int.negSucc_lt_zero m⟩⟩
    show ("-" ++ m.succ.repr).toList = _
    rw [String.toList_append, Nat.toList_repr]
    rfl

theorem not_isDigit_mem {c : Char} {n : Nat} (h : c.isDigit = false) : c ∉ Nat.toDigits 10 n := fun hc => by
  rw [isDigit_of_mem hc] at h
  cases h

theorem splitSign_toString (n : Int) : splitSign (toString n).toList = (decide (n < 0), Nat.toDigits 10 n.natAbs) := by
  obtain ⟨sign, hchars, ⟨rfl, hn⟩ | ⟨rfl, hn⟩⟩ := toString_cases n
  · rw [hchars, decide_eq_true hn]
    rfl
  · rw [hchars, decide_eq_false (Int.not_lt.2 hn), List.nil_append]
    unfold splitSign
    split
    · rename_i hminus
      exact absurd (hminus ▸ List.mem_cons_self) (not_isDigit_mem (c := '-') rfl)
    · rename_i hplus
      exact absurd (hplus ▸ List.mem_cons_self) (not_isDigit_mem (c := '+') rfl)
    · rfl

theorem isWhole_toString (n : Int) : isWhole (toString n) = true := by
  have hpoint : '.' ∉ (toString n).toList := by
    obtain ⟨sign, hchars, hsign⟩ := toString_cases n
    rw [hchars, List.mem_append, not_or]
    refine ⟨?_, not_isDigit_mem rfl⟩
    rcases hsign with ⟨rfl, -⟩ | ⟨rfl, -⟩ <;> decide
  rw [isWhole, Bool.not_eq_true']
  exact Bool.eq_false_iff.2 fun h => hpoint (List.contains_iff_mem.1 h)

theorem wholeDigits_toString (n : Int) : wholeDigits (toString n) = (Nat.toDigits 10 n.natAbs).length := by
  rw [wholeDigits, splitSign_toString]

theorem wholeValue_toString (n : Int) : wholeValue (toString n) = n := by
  rw [wholeValue, splitSign_toString, digitsValue_toDigits]
  split
  · rename_i h
    have := of_decide_eq_true h
    omega
  · rename_i h
    have : ¬ n < 0 := fun hn => h (decide_eq_true hn)
    omega

/-- A whole number is a token, after a point if it is not below zero. -/
theorem leads_toString {pointed : Bool} {rest : List Char} {n : Int} (hr : ∀ c ∈ rest.head?, isDecimal c = false)
    (h : pointed = true ∧ 0 ≤ n ∨ pointed = false ∧ rest.head? ≠ some '.') :
    Leads pointed (.number (toString n)) rest := by
  obtain ⟨sign, hchars, hsign⟩ := toString_cases n
  have hdigits : ∀ c ∈ Nat.toDigits 10 n.natAbs, isDecimal c = true := fun c hc =>
    isDecimal_of_isDigit (isDigit_of_mem hc)
  obtain ⟨d, ds, hds⟩ := List.exists_cons_of_ne_nil (Nat.toDigits_ne_nil (n := n.natAbs) (b := 10))
  rw [hds] at hdigits hchars
  have hd := hdigits d List.mem_cons_self
  have hds := fun c hc => hdigits c (List.mem_cons_of_mem d hc)
  rw [← String.ofList_toList (s := toString n), hchars]
  rcases h with ⟨rfl, hn⟩ | ⟨rfl, hpoint⟩
  · obtain rfl : sign = [] := by
      rcases hsign with ⟨-, hneg⟩ | ⟨hnil, -⟩
      · exact absurd hneg (Int.not_lt.2 hn)
      · exact hnil
    exact .index rfl hd hds hr
  · have hplaces (c : Char) (tail : List Char) (he : rest = '.' :: c :: tail) : isDecimal c = false := by
      rw [he] at hpoint
      exact absurd rfl hpoint
    have hminus : sign = ['-'] ∨ sign = [] ∧ false = false := hsign.imp (·.1) fun h => ⟨h.1, rfl⟩
    have hleads := Leads.number hminus hd hds .none hr fun _ => hplaces
    rwa [List.append_nil] at hleads

end Conductor
