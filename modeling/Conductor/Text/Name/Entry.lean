import Conductor.Text.Quoted

/-! Tables of names. A name is written by what it has in common with one of the names before it: how much it
keeps of that name at the start and at the end, and what stands between. -/

namespace Conductor

namespace CharName

/-- An entry of a table: the code, when it does not follow on the one before; how far back the name lies that it
keeps something of; how much it keeps at the start and at the end; what stands between. -/
structure Entry where
  code : Option Nat
  back : Nat
  front : Nat
  rear : Nat
  middle : List Char
  deriving DecidableEq, Repr

/-- The name of an entry after those in `recent`, the nearest first. -/
def Entry.name (e : Entry) (recent : List (List Char)) : List Char :=
  let model := recent.getD e.back []
  model.take e.front ++ e.middle ++ model.drop (model.length - e.rear)

def isNameChar (c : Char) : Bool := c.isUpper || c.isDigit || c = ' ' || c = '-'

/-- Small letters stand for amounts, those without an accent first. -/
def amount? (c : Char) : Option Nat :=
  if c.isLower then some (c.toNat - 'a'.toNat)
  else if 'ß' ≤ c && c ≤ 'ÿ' then some (26 + (c.toNat - 'ß'.toNat))
  else none

/-- The signs for a name that is not the nearest one. -/
def backSigns : List Char := "!$%&()*+,.:;<=>".toList

/-- How many names may be looked back on. -/
def reach : Nat := 16

/-- A code stands after a tilde. -/
def takeCode : List Char → Option Nat × List Char
  | '~' :: rest =>
    let digits := rest.takeWhile fun c => (hexValue? c).isSome && !c.isLower
    (hexValue digits, rest.drop digits.length)
  | cs => (none, cs)

def takeBack : List Char → Nat × List Char
  | [] => (0, [])
  | c :: rest =>
    match backSigns.idxOf? c with
    | some n => (n + 1, rest)
    | none => (0, c :: rest)

def entry? (cs : List Char) : Option (Entry × List Char) :=
  let (code, cs) := takeCode cs
  let (back, cs) := takeBack cs
  match cs with
  | k :: m :: rest =>
    match amount? k, amount? m with
    | some front, some rear =>
      some (⟨code, back, front, rear, rest.takeWhile isNameChar⟩, rest.dropWhile isNameChar)
    | _, _ => none
  | _ => none

theorem takeCode_length (cs : List Char) : (takeCode cs).2.length ≤ cs.length := by
  unfold takeCode
  split
  · simp only [List.length_drop, List.length_cons]
    omega
  · exact Nat.le_refl _

theorem takeBack_length (cs : List Char) : (takeBack cs).2.length ≤ cs.length := by
  unfold takeBack
  split
  · exact Nat.le_refl _
  · split <;> simp

theorem entry?_length {cs rest : List Char} {e : Entry} (h : entry? cs = some (e, rest)) :
    rest.length < cs.length := by
  unfold entry? at h
  have hcode := takeCode_length cs
  have hback := takeBack_length (takeCode cs).2
  dsimp only at h
  split at h
  · next k m body heq =>
    rw [heq] at hback
    split at h
    · cases h
      have hle := (List.dropWhile_sublist isNameChar (l := body)).length_le
      simp only [List.length_cons] at hback
      omega
    · cases h
  · cases h

/-- The code of a name in a table, of which `cs` is left, after the names in `recent`. -/
def search (target : List Char) (recent : List (List Char)) (next : Nat) (cs : List Char) : Option Nat :=
  match _h : entry? cs with
  | none => none
  | some (e, rest) =>
    let name := e.name recent
    let code := e.code.getD next
    if name = target then some code else search target ((name :: recent).take reach) (code + 1) rest
termination_by cs.length
decreasing_by exact entry?_length ‹_›

end CharName

end Conductor
