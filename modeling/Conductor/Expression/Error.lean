import Conductor.Text.Literal

/-! What can be wrong with the text of an expression or a template. -/

namespace Conductor

/-- What a reader of expressions asked for where it found something else. -/
inductive Complaint where
  | token (text : String)
  | trailing
  | comparison
  | operand
  | literal
  | member
  | index
  | parameter
  | subject (name : String)
  deriving DecidableEq, Repr

def Complaint.text : Complaint → String
  | .token text => s!"expected '{text}'"
  | .trailing => "unexpected trailing input"
  | .comparison => "expected a comparison operator"
  | .operand => "expected a path or literal"
  | .literal => "expected a literal"
  | .member => "expected a member name"
  | .index => "expected an index or quoted key"
  | .parameter => "expected a parameter name"
  | .subject name => s!"predicate must start with '{name}'"

/-- The last four causes lie inside a token: a literal that cannot be decoded, an index that is not whole,
a digit sign that belongs to no number, a whole number of too many digits. -/
inductive ParseError where
  | stray (text : String) (c : Char)
  | malformed (text : String) (complaint : Complaint) (found : Option String)
  | foreignRoot (text : String) (root : String)
  | unterminated (text : String)
  | badLiteral (literal : String) (cause : LiteralError)
  | badIndex (index : String)
  | badDigit (c : Char)
  | longNumber (digits : Nat)
  deriving DecidableEq, Repr

namespace ParseError

def message : ParseError → String
  | .stray text c => s!"Unexpected character {quote (String.singleton c)} in expression '{text}'"
  | .malformed text complaint found =>
    let word := found.getD "end of expression"
    s!"Invalid expression '{text}': {complaint.text}, found '{word}'"
  | .foreignRoot text root =>
    s!"Invalid expression '{text}': paths must start with 'input' or 'steps', found '{root}'"
  | .unterminated text => s!"Unterminated placeholder in template '{text}'"
  | .badLiteral literal .malformed => s!"malformed literal {literal}"
  | .badLiteral _ .zeroCharacter => "a literal may not hold the character zero"
  | .badIndex index => s!"invalid literal for int() with base 10: {quote index}"
  | .badDigit c => s!"{quote (String.singleton c)} is not a decimal digit"
  | .longNumber digits => s!"a whole number may have 4300 digits and not {digits}"

/-- Whether the grammar was broken, and not the inside of a token. -/
def isGrammar : ParseError → Bool
  | .badLiteral _ _ | .badIndex _ | .badDigit _ | .longNumber _ => false
  | _ => true

end ParseError

end Conductor
