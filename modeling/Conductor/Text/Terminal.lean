/-! Text as it is printed where no terminal shows it: the sequences that would set colours or move the cursor
are left out. -/

namespace Conductor

def isParameter (c : Char) : Bool := c.isDigit || c = ';' || c = '?'

/-- What follows the control sequence that begins here: an escape, a bracket, parameters and a letter. -/
def afterSequence? : List Char → Option (List Char)
  | '\x1b' :: '[' :: rest =>
    match rest.dropWhile isParameter with
    | c :: left => if c.isAlpha then some left else none
    | [] => none
  | _ => none

theorem afterSequence?_length {cs rest : List Char} (h : afterSequence? cs = some rest) :
    rest.length < cs.length := by
  unfold afterSequence? at h
  split at h
  · next body =>
    split at h
    · next c left heq =>
      have hle : (c :: left).length ≤ body.length := heq ▸ (List.dropWhile_sublist isParameter).length_le
      split at h
      · cases h
        simp only [List.length_cons] at hle ⊢
        omega
      · cases h
    · cases h
  · cases h

def dropSequences (cs : List Char) : List Char :=
  match _h : afterSequence? cs with
  | some rest => dropSequences rest
  | none =>
    match cs with
    | [] => []
    | c :: rest => c :: dropSequences rest
termination_by cs.length
decreasing_by
  · exact afterSequence?_length ‹_›
  · simp

def withoutSequences (s : String) : String := String.ofList (dropSequences s.toList)

end Conductor
