import Conductor.Proofs.Expression.Refusal
import Conductor.Proofs.Template.Dependence
import Mathlib.Data.List.Chain

/-! Taking a template apart and putting it together again undo each other. A placeholder ends where the expression
in it does: the scan for its end goes over every token of the expression, quotes, escapes and all. -/

namespace Conductor

def Piece.IsText : Piece → Prop
  | .text _ => True
  | .hole _ => False

namespace Template

open Token

variable {cs rest body after : List Char}

/-- The text of pieces that stand one after the other. -/
def join (pieces : List Piece) : List Char := pieces.flatMap Piece.source

/-- Texts are not empty, hold no beginning of a placeholder, and never stand side by side. -/
structure Tidy (pieces : List Piece) : Prop where
  texts : ∀ cs, .text cs ∈ pieces → cs ≠ [] ∧ ¬ ['$', '{'] <:+: cs
  apart : pieces.IsChain fun a b => ¬ (a.IsText ∧ b.IsText)

/-- What a piece is read as: a text as itself, a placeholder as the expression in it. -/
inductive Reads : Piece → Part → Prop
  | text {cs : List Char} : Reads (.text cs) (.text (String.ofList cs))
  | hole {cs : List Char} {e : Expression} : Expression.parse (String.ofList cs) = .ok e → Reads (.hole cs) (.hole e)

/-- A text as a placeholder. -/
def wrapped (s : String) : String := String.ofList (Piece.hole s.toList).source

/-! Where a placeholder begins -/

theorem breakHole_cons {c : Char} (h : ∀ tail, c = '$' → cs ≠ '{' :: tail) :
    breakHole (c :: cs) = (c :: (breakHole cs).1, (breakHole cs).2) := by
  rw [breakHole]
  exact h

theorem breakHole_append (h : ¬ ['$', '{'] <:+: cs) : breakHole (cs ++ '$' :: '{' :: rest) = (cs, some rest) := by
  induction cs with
  | nil => rfl
  | cons c cs ih =>
    have hstep (tail : List Char) (hc : c = '$') : cs ++ '$' :: '{' :: rest ≠ '{' :: tail := by
      intro he
      cases cs with
      | nil => simp at he
      | cons d more =>
        cases he
        exact h ⟨[], more, by rw [hc]; rfl⟩
    rw [List.cons_append, breakHole_cons hstep, ih fun hi => h (List.infix_cons hi)]

theorem breakHole_eq_self (h : ¬ ['$', '{'] <:+: cs) : breakHole cs = (cs, none) := by
  induction cs with
  | nil => rfl
  | cons c cs ih =>
    have hstep (tail : List Char) (hc : c = '$') : cs ≠ '{' :: tail := by
      rintro rfl
      exact h ⟨[], tail, by rw [hc]; rfl⟩
    rw [breakHole_cons hstep, ih fun hi => h (List.infix_cons hi)]

theorem source_of_breakHole (h : (breakHole cs).2 = some rest) : (breakHole cs).1 ++ '$' :: '{' :: rest = cs := by
  fun_induction breakHole cs with
  | case1 => cases h
  | case2 tail =>
    cases h
    rfl
  | case3 c tail _ ih => exact congrArg (c :: ·) (ih h)

theorem source_of_no_hole (h : (breakHole cs).2 = none) : (breakHole cs).1 = cs := by
  fun_induction breakHole cs with
  | case1 => rfl
  | case2 => cases h
  | case3 c tail _ ih => exact congrArg (c :: ·) (ih h)

/-! Where it ends -/

theorem source_of_breakClose {quoted : Option Char} (h : breakClose quoted cs = some (body, after)) :
    body ++ '}' :: after = cs := by
  fun_induction breakClose quoted cs generalizing body after with
  | case1 => cases h
  | case2 => cases h
  | case3 q d more ih =>
    obtain ⟨⟨inner, left⟩, hi, he⟩ := Option.map_eq_some_iff.1 h
    cases he
    exact congrArg (fun tail => '\\' :: d :: tail) (ih hi)
  | case4 c tail q _ ih =>
    obtain ⟨⟨inner, left⟩, hi, he⟩ := Option.map_eq_some_iff.1 h
    cases he
    exact congrArg (c :: ·) (ih hi)
  | case5 tail =>
    cases h
    rfl
  | case6 c tail _ ih =>
    obtain ⟨⟨inner, left⟩, hi, he⟩ := Option.map_eq_some_iff.1 h
    cases he
    exact congrArg (c :: ·) (ih hi)

theorem breakClose_inside {q c : Char} (hc : c ≠ '\\') : breakClose (some q) (c :: rest) =
    (breakClose (if c = q then none else some q) rest).map fun out => (c :: out.1, out.2) := by
  rw [breakClose.eq_def]
  exact if_neg hc

/-- Inside quotes the scan goes as the scanner of tokens does. -/
theorem breakClose_quoted {q : Char} (h : Quoted q body) :
    breakClose (some q) (body ++ rest) = (breakClose none rest).map fun out => (body ++ out.1, out.2) := by
  induction h with
  | close hq =>
    rw [List.singleton_append, breakClose_inside hq, if_pos rfl]
    rfl
  | escape _ _ ih =>
    rw [List.cons_append, List.cons_append, breakClose, if_pos rfl]
    simp only [ih, Option.map_map]
    rfl
  | char hc hq _ ih =>
    rw [List.cons_append, breakClose_inside hc, if_neg hq, ih, Option.map_map]
    rfl

/-- Outside quotes it goes over every character of its kind but the end. -/
theorem breakClose_plain (h : ∀ c ∈ cs, c ≠ '"' ∧ c ≠ '\'' ∧ c ≠ '}') :
    breakClose none (cs ++ rest) = (breakClose none rest).map fun out => (cs ++ out.1, out.2) := by
  induction cs with
  | nil => simp
  | cons c cs ih =>
    obtain ⟨hdouble, hsingle, hclose⟩ := h c List.mem_cons_self
    have hrest := ih fun d hd => h d (List.mem_cons_of_mem c hd)
    simp [breakClose, hdouble, hsingle, hclose, hrest, Function.comp_def]

theorem breakClose_token {pointed : Bool} {t : Token} {left : List Char} (h : Leads pointed t left) :
    breakClose none (t.text.toList ++ rest) =
      (breakClose none rest).map fun out => (t.text.toList ++ out.1, out.2) := by
  rcases h.chars with ⟨q, body, hchars, hq, hbody⟩ | ⟨-, hplain⟩
  · have hopen : breakClose none (q :: (body ++ rest)) =
        (breakClose (some q) (body ++ rest)).map fun out => (q :: out.1, out.2) := by
      rcases hq with rfl | rfl <;> rfl
    rw [hchars, List.cons_append, hopen, breakClose_quoted hbody, Option.map_map]
    rfl
  · refine breakClose_plain fun c hc => ?_
    have hp := hplain c hc
    simp only [isPlain, Bool.and_eq_true, decide_eq_true_eq] at hp
    exact ⟨hp.1.1.2, hp.1.2, hp.2⟩

/-- The placeholder of what spells tokens ends after them. -/
theorem breakClose_spells {last : Option Token} {ts : List Token} (h : Spells last cs ts) :
    breakClose none (cs ++ '}' :: rest) = some (cs, rest) := by
  induction h with
  | nil => rfl
  | @blank last c cs ts hc _ ih =>
    obtain ⟨-, -, -, -, -, -, hdouble, hsingle, hclose⟩ := plain_of_isBlank hc
    have hstep : breakClose none ([c] ++ (cs ++ '}' :: rest)) = _ :=
      breakClose_plain (List.forall_mem_singleton.2 ⟨hdouble, hsingle, hclose⟩)
    rw [ih] at hstep
    exact hstep
  | token hleads _ ih =>
    rw [List.append_assoc, breakClose_token hleads, ih]
    rfl

/-! Pieces -/

theorem split_hole (hcs : ¬ ['$', '{'] <:+: cs) (hbody : breakClose none rest = some (body, after)) :
    split (cs ++ '$' :: '{' :: rest) = (split after).map fun pieces => textPiece cs ++ .hole body :: pieces := by
  have hbreak : breakHole (cs ++ '$' :: '{' :: rest) = (cs, some rest) := breakHole_append hcs
  rw [split.eq_def]
  split
  · rename_i hnone
    rw [hbreak] at hnone
    cases hnone
  · rename_i left hsome
    rw [hbreak] at hsome
    cases hsome
    split
    · rename_i hnone
      cases hnone.symm.trans hbody
    · rename_i hfound
      cases hfound.symm.trans hbody
      rw [hbreak]

theorem split_text (hcs : ¬ ['$', '{'] <:+: cs) : split cs = some (textPiece cs) := by
  have hbreak := breakHole_eq_self hcs
  rw [split.eq_def]
  split
  · rw [hbreak]
  · rename_i hsome
    rw [hbreak] at hsome
    cases hsome

theorem Tidy.tail {piece : Piece} {pieces : List Piece} (h : Tidy (piece :: pieces)) : Tidy pieces :=
  ⟨fun cs hc => h.texts cs (List.mem_cons_of_mem piece hc), h.apart.tail⟩

theorem split_join {pieces : List Piece} (htidy : Tidy pieces)
    (hclose : ∀ body, .hole body ∈ pieces → ∀ rest, breakClose none (body ++ '}' :: rest) = some (body, rest)) :
    split (join pieces) = some pieces := by
  -- the text before the pieces is what was passed of the piece under way
  suffices hbefore : ∀ cs, ¬ ['$', '{'] <:+: cs → (cs ≠ [] → ∀ piece ∈ pieces.head?, ¬ piece.IsText) →
      split (cs ++ join pieces) = some (textPiece cs ++ pieces) by
    exact hbefore [] (by simp) (absurd rfl)
  induction pieces with
  | nil =>
    intro cs hcs _
    rw [join, List.flatMap_nil, List.append_nil, List.append_nil, split_text hcs]
  | cons piece pieces ih =>
    have hpieces := ih htidy.tail fun body hb => hclose body (List.mem_cons_of_mem piece hb)
    intro cs hcs hfirst
    cases piece with
    | text ds =>
      obtain rfl : cs = [] := by
        by_contra hne
        exact hfirst hne _ rfl trivial
      obtain ⟨hne, hds⟩ := htidy.texts ds List.mem_cons_self
      have hnext : ∀ next ∈ pieces.head?, ¬ next.IsText := fun next hn ht =>
        htidy.apart.rel_head? hn ⟨trivial, ht⟩
      have hsplit := hpieces ds hds fun _ => hnext
      obtain ⟨d, more, rfl⟩ := List.exists_cons_of_ne_nil hne
      exact hsplit
    | hole body =>
      have hjoin : cs ++ join (.hole body :: pieces) = cs ++ '$' :: '{' :: (body ++ '}' :: join pieces) := by
        simp [join, Piece.source]
      rw [hjoin, split_hole hcs (hclose body List.mem_cons_self _)]
      have hafter := hpieces [] (by simp) (absurd rfl)
      rw [List.nil_append] at hafter
      rw [hafter]
      rfl

theorem join_textPiece (cs : List Char) (pieces : List Piece) : join (textPiece cs ++ pieces) = cs ++ join pieces := by
  cases cs with
  | nil => rfl
  | cons c cs => rfl

theorem join_split {pieces : List Piece} (h : split cs = some pieces) : join pieces = cs := by
  fun_induction split cs generalizing pieces with
  | case1 cs hnone =>
    cases h
    have hjoin := join_textPiece (breakHole cs).1 []
    rw [List.append_nil] at hjoin
    rw [hjoin, source_of_no_hole hnone]
    exact List.append_nil cs
  | case2 => cases h
  | case3 cs rest hsome body after hclose ih =>
    obtain ⟨others, hothers, rfl⟩ := Option.map_eq_some_iff.1 h
    have hrest : join (.hole body :: others) = '$' :: '{' :: rest := by
      rw [← source_of_breakClose hclose, ← ih hothers]
      simp [join, Piece.source]
    rw [join_textPiece, hrest, source_of_breakHole hsome]

/-! Expressions in placeholders -/

theorem spells_of_parse {s : String} {e : Expression} (h : Expression.parse s = .ok e) :
    ∃ ts, Spells none s.toList ts := by
  obtain ⟨ts, ht, -⟩ := bind_eq_ok h
  exact ⟨ts, tokens_eq_ok.1 ht⟩

/-- Blanks around an expression say nothing. -/
theorem parse_trim {s : String} {e : Expression} (h : Expression.parse s = .ok e) :
    Expression.parse (trim s) = .ok e := by
  obtain ⟨ts, ht, -⟩ := bind_eq_ok h
  rwa [Expression.parse_eq_ok (tokens_trim ht), ← Expression.parse_eq_ok ht]

theorem Reads.closes {t : Part} (h : Reads (.hole body) t) :
    breakClose none (body ++ '}' :: rest) = some (body, rest) := by
  cases h with
  | hole he =>
    obtain ⟨ts, hts⟩ := spells_of_parse he
    rw [String.toList_ofList] at hts
    exact breakClose_spells hts

theorem Reads.compiles {piece : Piece} {t : Part} (h : Reads piece t) : compilePiece piece = .ok t := by
  cases h with
  | text => rfl
  | hole he =>
    rw [compilePiece, parse_trim he]
    rfl

theorem compile_join {pieces : List Piece} {t : Template} (htidy : Tidy pieces) (h : List.Forall₂ Reads pieces t) :
    compile (String.ofList (join pieces)) = .ok t := by
  have hreads : ∀ piece ∈ pieces, ∃ part, Reads piece part := by
    clear htidy
    induction h with
    | nil => exact nofun
    | cons hfirst _ ih => exact List.forall_mem_cons.2 ⟨⟨_, hfirst⟩, ih⟩
  have hsplit : split (join pieces) = some pieces := by
    refine split_join htidy fun body hb rest => ?_
    obtain ⟨part, hpart⟩ := hreads _ hb
    exact hpart.closes
  rw [compile, String.toList_ofList, hsplit]
  exact mapM_of_forall₂ (h.imp fun _ _ => Reads.compiles)

theorem compile_wrapped {s : String} {e : Expression} (h : Expression.parse s = .ok e) :
    compile (wrapped s) = .ok [.hole e] := by
  have hpiece : Reads (.hole s.toList) (.hole e) := .hole (by rwa [String.ofList_toList])
  have htidy : Tidy [.hole s.toList] := ⟨by simp, .singleton _⟩
  have hjoin := compile_join htidy (.cons hpiece .nil)
  rwa [join, List.flatMap_singleton] at hjoin

theorem hasHole_wrapped (s : String) : hasHole (wrapped s) = true := by
  rw [hasHole, wrapped, String.toList_ofList]
  rfl

theorem hasHole_eq_false {s : String} (h : ¬ ['$', '{'] <:+: s.toList) : hasHole s = false := by
  rw [hasHole, breakHole_eq_self h]
  rfl

theorem evaluateText_eq_resolve {s : String} {e : Expression} (hs : ¬ ['$', '{'] <:+: s.toList)
    (h : Expression.parse s = .ok e) (view : View) : evaluateText view s = resolve view (.str (wrapped s)) := by
  have hbare : evaluateText view s = checked view e := by
    rw [evaluateText, hasHole_eq_false hs, if_neg nofun, parse_trim h]
    rfl
  have hhole : resolve view (.str (wrapped s)) = evaluateChecked view [.hole e] := by
    rw [resolve, resolveText, hasHole_wrapped, if_pos rfl, compile_wrapped h]
    rfl
  rw [hbare, hhole, evaluateChecked, checked]
  simp only [expressions, List.filterMap_cons, List.filterMap_nil, List.findSome?_cons, List.findSome?_nil]
  cases e.longMember? view <;> rfl

theorem bareReferences_eq_references {s : String} {e : Expression} (hs : ¬ ['$', '{'] <:+: s.toList)
    (h : Expression.parse s = .ok e) : bareReferences s = references (.str (wrapped s)) := by
  have htrim := parse_trim h
  have hne : trim s ≠ "" := by
    intro he
    rw [he, parse_empty] at htrim
    cases htrim
  have hbare : bareReferences s = .ok e.references := by
    rw [bareReferences, hasHole_eq_false hs, if_neg nofun, if_neg hne, htrim]
    rfl
  have hhole : references (.str (wrapped s)) = .ok ([e].flatMap Expression.references) := by
    rw [references, textReferences, hasHole_wrapped, if_pos rfl, compile_wrapped h]
    rfl
  rw [hbare, hhole, List.flatMap_singleton]

/-- Compiling a text that was put together gives its parts back, the pieces of a text put together give the text,
and an expression in a placeholder of its own says what it says bare. -/
theorem pieces_and_text :
    (∀ pieces t, Tidy pieces → List.Forall₂ Reads pieces t → compile (String.ofList (join pieces)) = .ok t) ∧
      (∀ cs pieces, split cs = some pieces → join pieces = cs) ∧
      ∀ s e, ¬ ['$', '{'] <:+: s.toList → Expression.parse s = .ok e →
        (∀ view, evaluateText view s = resolve view (.str (wrapped s))) ∧
          bareReferences s = references (.str (wrapped s)) :=
  ⟨fun _ _ => compile_join, fun _ _ => join_split,
    fun _ _ hs h => ⟨evaluateText_eq_resolve hs h, bareReferences_eq_references hs h⟩⟩

theorem pieces_and_text_of_brace : compile "at $\x7binput['\x7d']\x7d" =
    .ok [.text "at ", .hole (.operand (.path .input [.key "\x7d"]))] := by
  have ht : tokens "input['\x7d']" = .ok [.name "input", .mark '[', .quoted "'\x7d'", .mark ']'] := by decide +kernel
  have hkey : unquote "'\x7d'" = .ok "\x7d" := by decide +kernel
  have hparse : Expression.parse "input['\x7d']" = .ok (.operand (.path .input [.key "\x7d"])) :=
    (Expression.parse_eq_ok ht).2 ⟨.operand (.path rfl (.cons (.key hkey) nofun .nil)),
      Grammar.short_of_no_number (by simp)⟩
  have htidy : Tidy [.text ['a', 't', ' '], .hole ['i', 'n', 'p', 'u', 't', '[', '\'', '}', '\'', ']']] := by
    refine ⟨fun cs hcs => ?_, .cons_cons (fun h => h.2) (.singleton _)⟩
    obtain rfl : cs = ['a', 't', ' '] := by simpa using hcs
    decide
  have hreads : List.Forall₂ Reads
      [.text ['a', 't', ' '], .hole ['i', 'n', 'p', 'u', 't', '[', '\'', '}', '\'', ']']]
      [.text (String.ofList ['a', 't', ' ']), .hole (.operand (.path .input [.key "\x7d"]))] :=
    .cons .text (.cons (.hole hparse) .nil)
  have hcompile := pieces_and_text.1 _ _ htidy hreads
  exact hcompile

end Template

end Conductor
