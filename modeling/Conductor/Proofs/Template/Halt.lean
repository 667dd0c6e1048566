import Conductor.Proofs.Expression.Predicate
import Conductor.Template

/-! Which texts make the readers of expressions, predicates and templates fail with an error of their own making, and
not with one that says what is wrong with the text. -/

namespace Conductor

namespace Template

open Grammar Expression

variable {text : String} {e : ParseError}

theorem compilePiece_error_iff {piece : Piece} : compilePiece piece = .error e ∧ e.isGrammar = false ↔
    ∃ body, piece = .hole body ∧ Spoilt Halts (trim (String.ofList body)) e := by
  cases piece with
  | text cs => simp [compilePiece]
  | hole body =>
    rw [compilePiece]
    constructor
    · rintro ⟨h, hgrammar⟩
      exact ⟨body, rfl, parse_error_iff.1 ⟨map_eq_error h, hgrammar⟩⟩
    · rintro ⟨_, he, hspoilt⟩
      cases he
      obtain ⟨hparse, hgrammar⟩ := parse_error_iff.2 hspoilt
      rw [hparse]
      exact ⟨rfl, hgrammar⟩

theorem compile_error_iff : compile text = .error e ∧ e.isGrammar = false ↔ ∃ before body after,
    split text.toList = some (before ++ .hole body :: after) ∧
      (∀ piece ∈ before, ∃ part, compilePiece piece = .ok part) ∧ Spoilt Halts (trim (String.ofList body)) e := by
  unfold compile
  cases hsplit : split text.toList with
  | none =>
    constructor
    · rintro ⟨h, hgrammar⟩
      cases h
      cases hgrammar
    · rintro ⟨_, _, _, hnone, -⟩
      cases hnone
  | some pieces =>
    simp only [mapM_eq_error, Option.some_inj]
    constructor
    · rintro ⟨⟨before, piece, after, rfl, hbefore, hpiece⟩, hgrammar⟩
      obtain ⟨body, rfl, hspoilt⟩ := compilePiece_error_iff.1 ⟨hpiece, hgrammar⟩
      exact ⟨before, body, after, rfl, hbefore, hspoilt⟩
    · rintro ⟨before, body, after, rfl, hbefore, hspoilt⟩
      obtain ⟨hpiece, hgrammar⟩ := compilePiece_error_iff.2 ⟨body, rfl, hspoilt⟩
      exact ⟨⟨before, _, after, rfl, hbefore, hpiece⟩, hgrammar⟩

/-- Every reader gives a result or says what is wrong with the text, but for the texts that are spoilt for it. -/
theorem readers_break_only_at_spoilt_texts (text : String) (e : ParseError) :
    (Expression.parse text = .error e ∧ e.isGrammar = false ↔ Spoilt Halts text e) ∧
      (Expression.parsePredicate text = .error e ∧ e.isGrammar = false ↔ Spoilt HaltsPredicate text e) ∧
      (compile text = .error e ∧ e.isGrammar = false ↔ ∃ before body after,
        split text.toList = some (before ++ .hole body :: after) ∧
          (∀ piece ∈ before, ∃ part, compilePiece piece = .ok part) ∧
          Spoilt Halts (trim (String.ofList body)) e) :=
  ⟨parse_error_iff, parsePredicate_error_iff, compile_error_iff⟩

example : ((Expression.parse "input.a.-1.5").map fun _ => ()) = .error (.badIndex "-1.5") := by decide +kernel

end Template

end Conductor
