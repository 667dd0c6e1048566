import Conductor.Expression.Error
import Conductor.Json.Order
import Conductor.Text.Blank
import Conductor.Text.Digit
import Conductor.Text.Word

/-! Splitting the text of an expression into tokens. Blanks separate tokens and are dropped; a quoted token
keeps its quotes and escapes. Right after a point digits form an index, so that `items.0.name` holds no
fraction. -/

namespace Conductor

inductive Token where
  | operator (text : String)
  | number (text : String)
  | quoted (text : String)
  | name (text : String)
  | mark (c : Char)
  deriving DecidableEq, Repr

namespace Token

def text : Token → String
  | .operator s | .number s | .quoted s | .name s => s
  | .mark c => String.singleton c

/-- Longer operators come first, so that none hides behind its own beginning. -/
def operators : List String := ["===", "!==", ">=", "<=", "=>", ">", "<"]

def operator? (cs : List Char) : Option (Token × List Char) :=
  (operators.find? fun s => s.toList.isPrefixOf cs).map fun s => (.operator s, cs.drop s.length)

/-- A point and digits, if at least one digit follows the point. -/
def fraction (cs : List Char) : List Char × List Char :=
  match cs with
  | '.' :: d :: rest =>
    if isDecimal d then ('.' :: d :: rest.takeWhile isDecimal, rest.dropWhile isDecimal) else ([], cs)
  | _ => ([], cs)

def unsigned? (cs : List Char) : Option (List Char × List Char) :=
  match cs with
  | d :: rest =>
    if isDecimal d then
      let (places, left) := fraction (rest.dropWhile isDecimal)
      some (d :: rest.takeWhile isDecimal ++ places, left)
    else none
  | [] => none

def number? (cs : List Char) : Option (Token × List Char) :=
  match cs with
  | '-' :: rest => (unsigned? rest).map fun out => (.number (String.ofList ('-' :: out.1)), out.2)
  | _ => (unsigned? cs).map fun out => (.number (String.ofList out.1), out.2)

/-- The rest of a quoted token up to and with its closing quote; a backslash takes the next character
along, but never a line feed. -/
def quotedTail (q : Char) : List Char → Option (List Char × List Char)
  | [] => none
  | '\\' :: c :: rest =>
    if c = '\n' then none else (quotedTail q rest).map fun out => ('\\' :: c :: out.1, out.2)
  | c :: rest =>
    if c = '\\' then none
    else if c = q then some ([c], rest)
    else (quotedTail q rest).map fun out => (c :: out.1, out.2)

def quoted? (cs : List Char) : Option (Token × List Char) :=
  match cs with
  | c :: rest =>
    if c = '"' || c = '\'' then
      (quotedTail c rest).map fun out => (.quoted (String.ofList (c :: out.1)), out.2)
    else none
  | [] => none

def startsName (c : Char) : Bool := c.isAlpha || c = '_' || c = '$'

def continuesName (c : Char) : Bool := isWord c || c = '$' || c = '-'

def name? (cs : List Char) : Option (Token × List Char) :=
  match cs with
  | c :: rest =>
    if startsName c then
      some (.name (String.ofList (c :: rest.takeWhile continuesName)), rest.dropWhile continuesName)
    else none
  | [] => none

def isMark (c : Char) : Bool := c = '.' || c = '[' || c = ']' || c = '(' || c = ')'

def mark? (cs : List Char) : Option (Token × List Char) :=
  match cs with
  | c :: rest => if isMark c then some (.mark c, rest) else none
  | [] => none

def scan? (cs : List Char) : Option (Token × List Char) :=
  (operator? cs).or <| (number? cs).or <| (quoted? cs).or <| (name? cs).or (mark? cs)

theorem dropWhile_length_le (p : Char → Bool) (cs : List Char) :
    (cs.dropWhile p).length ≤ cs.length :=
  (List.dropWhile_sublist p).length_le

theorem fraction_length (cs : List Char) : (fraction cs).2.length ≤ cs.length := by
  unfold fraction
  split
  · rename_i d rest
    split
    · have := dropWhile_length_le isDecimal rest
      simp only [List.length_cons]
      omega
    · exact Nat.le_refl _
  · exact Nat.le_refl _

theorem unsigned?_length {cs out rest : List Char} (h : unsigned? cs = some (out, rest)) :
    rest.length < cs.length := by
  unfold unsigned? at h
  split at h
  · rename_i d tail
    split at h
    · simp only [Option.some.injEq, Prod.mk.injEq] at h
      have h₁ := fraction_length (tail.dropWhile isDecimal)
      have h₂ := dropWhile_length_le isDecimal tail
      rw [h.2] at h₁
      simp only [List.length_cons]
      omega
    · simp at h
  · simp at h

theorem quotedTail_length {q : Char} {cs out rest : List Char}
    (h : quotedTail q cs = some (out, rest)) : rest.length < cs.length := by
  fun_induction quotedTail q cs generalizing out rest with
  | case1 => simp at h
  | case2 => simp at h
  | case3 c tail _ ih =>
    obtain ⟨⟨o, r⟩, ho, he⟩ := Option.map_eq_some_iff.1 h
    simp only [Prod.mk.injEq] at he
    have := ih ho
    simp only [List.length_cons, ← he.2]
    omega
  | case4 => simp at h
  | case5 tail =>
    simp only [Option.some.injEq, Prod.mk.injEq] at h
    simp [h.2]
  | case6 c tail _ _ _ ih =>
    obtain ⟨⟨o, r⟩, ho, he⟩ := Option.map_eq_some_iff.1 h
    simp only [Prod.mk.injEq] at he
    have := ih ho
    simp only [List.length_cons, ← he.2]
    omega

theorem operator?_length {cs rest : List Char} {t : Token} (h : operator? cs = some (t, rest)) :
    rest.length < cs.length := by
  obtain ⟨s, hs, he⟩ := Option.map_eq_some_iff.1 h
  simp only [Prod.mk.injEq] at he
  have hp := List.find?_some hs
  have hm := List.mem_of_find?_eq_some hs
  have hl := (List.isPrefixOf_iff_prefix.1 hp).length_le
  have hpos : 0 < s.length := by
    simp only [operators, List.mem_cons, List.not_mem_nil, or_false] at hm
    rcases hm with rfl | rfl | rfl | rfl | rfl | rfl | rfl <;> decide
  rw [String.length_toList] at hl
  rw [← he.2, List.length_drop]
  omega

theorem number?_length {cs rest : List Char} {t : Token} (h : number? cs = some (t, rest)) :
    rest.length < cs.length := by
  unfold number? at h
  split at h
  · obtain ⟨⟨o, r⟩, ho, he⟩ := Option.map_eq_some_iff.1 h
    simp only [Prod.mk.injEq] at he
    have := unsigned?_length ho
    simp only [List.length_cons, ← he.2]
    omega
  · obtain ⟨⟨o, r⟩, ho, he⟩ := Option.map_eq_some_iff.1 h
    simp only [Prod.mk.injEq] at he
    rw [← he.2]
    exact unsigned?_length ho

theorem quoted?_length {cs rest : List Char} {t : Token} (h : quoted? cs = some (t, rest)) :
    rest.length < cs.length := by
  unfold quoted? at h
  split at h
  · split at h
    · obtain ⟨⟨o, r⟩, ho, he⟩ := Option.map_eq_some_iff.1 h
      simp only [Prod.mk.injEq] at he
      have := quotedTail_length ho
      simp only [List.length_cons, ← he.2]
      omega
    · simp at h
  · simp at h

theorem name?_length {cs rest : List Char} {t : Token} (h : name? cs = some (t, rest)) :
    rest.length < cs.length := by
  unfold name? at h
  split at h
  · rename_i c tail
    split at h
    · simp only [Option.some.injEq, Prod.mk.injEq] at h
      have := dropWhile_length_le continuesName tail
      simp only [List.length_cons, ← h.2]
      omega
    · simp at h
  · simp at h

theorem mark?_length {cs rest : List Char} {t : Token} (h : mark? cs = some (t, rest)) :
    rest.length < cs.length := by
  unfold mark? at h
  split at h
  · split at h
    · simp only [Option.some.injEq, Prod.mk.injEq] at h
      simp [h.2]
    · simp at h
  · simp at h

theorem scan?_length {cs rest : List Char} {t : Token} (h : scan? cs = some (t, rest)) :
    rest.length < cs.length := by
  simp only [scan?, Option.or_eq_some_iff] at h
  rcases h with h | ⟨-, h | ⟨-, h | ⟨-, h | ⟨-, h⟩⟩⟩⟩
  · exact operator?_length h
  · exact number?_length h
  · exact quoted?_length h
  · exact name?_length h
  · exact mark?_length h

/-- The tokens of `cs`, which is the rest of `text` after the token `last`. -/
def split (text : String) (last : Option Token) (cs : List Char) : Except ParseError (List Token) :=
  match cs with
  | [] => .ok []
  | c :: rest =>
    if isBlank c then split text last rest
    else if last = some (.mark '.') && isDigitSign c then
      if isDecimal c then
        let token := Token.number (String.ofList (c :: rest.takeWhile isDecimal))
        (split text (some token) (rest.dropWhile isDecimal)).map (token :: ·)
      else .error (.badDigit c)
    else
      match _h : scan? (c :: rest) with
      | some (token, left) => (split text (some token) left).map (token :: ·)
      | none => .error (.stray text c)
termination_by cs.length
decreasing_by
  · simp
  · have := dropWhile_length_le isDecimal rest
    simp only [List.length_cons]
    omega
  · exact scan?_length _h

end Token

def tokens (text : String) : Except ParseError (List Token) :=
  Token.split text none text.toList

end Conductor
