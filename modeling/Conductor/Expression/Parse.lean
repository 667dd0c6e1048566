import Conductor.Expression
import Conductor.Expression.Token
import Conductor.Text.Literal
import Conductor.Text.Numeral

/-! The grammar of expressions, over tokens:

    expression := operand (comparison operand)?
    operand    := path | literal
    path       := ("input" | "steps") accessor*
    accessor   := "." name | "." number | "[" (number | quoted) "]"
                | ".filter(" name "=>" name ("." name)* comparison literal ")"

A predicate leaves out the root of its path: it speaks of its subject. Every reader returns the tokens that
are left, and an accessor always takes some, which bounds the recursion. -/

namespace Conductor

namespace Grammar

variable (text : String)

/-- Refuses the text at the first of the tokens that are left. -/
def refuse {α : Type} (complaint : Complaint) (ts : List Token) : Except ParseError α :=
  .error (.malformed text complaint (ts.head?.map Token.text))

def keyword? : String → Option Json
  | "true" => some (.bool true)
  | "false" => some (.bool false)
  | "null" => some .null
  | "undefined" => some .null
  | _ => none

def wholeNumber (s : String) : Except ParseError Int :=
  let (negative, digits) := splitSign s.toList
  if maxDigits < digits.length then .error (.longNumber digits.length)
  else .ok (if negative then -(digitsValue digits : Int) else digitsValue digits)

def isWhole (s : String) : Bool := !s.toList.contains '.'

def realNumber (s : String) : Float :=
  let (negative, body) := splitSign s.toList
  let (before, after) := splitAtFirst (· = '.') body
  let places := after.getD []
  let d : Decimal := ⟨digitsValue (before ++ places), -(places.length : Int)⟩
  signed negative d.toReal

/-- A number with a point is a double, one without a whole number. -/
def numberValue (s : String) : Except ParseError Json :=
  if isWhole s then (wholeNumber s).map .int else .ok (.real (realNumber s))

def literal (ts : List Token) : Except ParseError (Json × List Token) :=
  match ts with
  | .number s :: rest => (numberValue s).map (·, rest)
  | .quoted s :: rest =>
    match unquote s with
    | .ok value => .ok (.str value, rest)
    | .error e => .error (.badLiteral s e)
  | .name s :: rest =>
    match keyword? s with
    | some value => .ok (value, rest)
    | none => refuse text .literal ts
  | _ => refuse text .literal ts

def expect (token : Token) (ts : List Token) : Except ParseError (List Token) :=
  match ts with
  | t :: rest => if t = token then .ok rest else refuse text (.token token.text) ts
  | [] => refuse text (.token token.text) ts

def comparison? (ts : List Token) : Option (Comparison × List Token) :=
  match ts with
  | .operator s :: rest => (Comparison.ofSign? s).map (·, rest)
  | _ => none

def field (ts : List Token) : Except ParseError (List String × List Token) :=
  match ts with
  | .mark '.' :: .name s :: rest => do
    let (names, left) ← field rest
    return (s :: names, left)
  | .mark '.' :: .number s :: rest => do
    let (names, left) ← field rest
    return (s :: names, left)
  | .mark '.' :: rest => refuse text .member rest
  | _ => .ok ([], ts)

/-- What follows `filter` and its opening parenthesis. -/
def filterTail (ts : List Token) : Except ParseError (Accessor × List Token) :=
  match ts with
  | .name parameter :: rest => do
    let rest ← expect text (.operator "=>") rest
    if (rest.head?.map Token.text).getD "" ≠ parameter then
      refuse text (.subject parameter) rest
    else
      let (names, rest) ← field text (rest.tail)
      match comparison? rest with
      | none => refuse text .comparison rest
      | some (op, rest) =>
        let (value, rest) ← literal text rest
        let rest ← expect text (.mark ')') rest
        return (.filter names op value, rest)
  | _ => refuse text .parameter ts

def bracket (ts : List Token) : Except ParseError (Accessor × List Token) :=
  match ts with
  | .number s :: rest =>
    if isWhole s then
      match wholeNumber s with
      | .ok n => (expect text (.mark ']') rest).map (.index n, ·)
      | .error e => .error e
    else refuse text .index ts
  | .quoted s :: rest =>
    match unquote s with
    | .ok name => (expect text (.mark ']') rest).map (.key name, ·)
    | .error e => .error (.badLiteral s e)
  | _ => refuse text .index ts

def afterPoint (ts : List Token) : Except ParseError (Accessor × List Token) :=
  match ts with
  | .name s :: rest =>
    if s = "filter" ∧ rest.head? = some (.mark '(') then filterTail text (rest.tail)
    else .ok (.member s, rest)
  | .number s :: rest =>
    if isWhole s then (wholeNumber s).map (.index ·, rest) else .error (.badIndex s)
  | _ => refuse text .member ts

/-- One accessor, or none where the tokens begin with no point or bracket. -/
def accessor? (ts : List Token) : Except ParseError (Option (Accessor × List Token)) :=
  match ts with
  | .mark c :: rest =>
    if c = '.' then (afterPoint text rest).map some
    else if c = '[' then (bracket text rest).map some
    else .ok none
  | _ => .ok none

theorem expect_length {token : Token} {ts rest : List Token}
    (h : expect text token ts = .ok rest) : rest.length < ts.length := by
  unfold expect at h
  split at h
  · split at h
    · simp only [Except.ok.injEq] at h
      simp [h]
    · simp [refuse] at h
  · simp [refuse] at h

theorem literal_length {ts rest : List Token} {value : Json}
    (h : literal text ts = .ok (value, rest)) : rest.length < ts.length := by
  unfold literal at h
  split at h
  · rename_i s tail
    cases hn : numberValue s with
    | error e => simp [hn, Except.map] at h
    | ok value =>
      simp only [hn, Except.map, Except.ok.injEq, Prod.mk.injEq] at h
      simp [h.2]
  · split at h
    · simp only [Except.ok.injEq, Prod.mk.injEq] at h
      simp [h.2]
    · simp at h
  · split at h
    · simp only [Except.ok.injEq, Prod.mk.injEq] at h
      simp [h.2]
    · simp [refuse] at h
  · simp [refuse] at h

theorem comparison?_length {ts rest : List Token} {op : Comparison}
    (h : comparison? ts = some (op, rest)) : rest.length < ts.length := by
  unfold comparison? at h
  split at h
  · obtain ⟨c, -, he⟩ := Option.map_eq_some_iff.1 h
    simp only [Prod.mk.injEq] at he
    simp [he.2]
  · simp at h

theorem field_length {ts rest : List Token} {names : List String}
    (h : field text ts = .ok (names, rest)) : rest.length ≤ ts.length := by
  fun_induction field text ts generalizing names rest with
  | case1 s tail ih =>
    cases hf : field text tail with
    | error e => simp [hf, bind, Except.bind] at h
    | ok out =>
      simp only [hf, bind, Except.bind, pure, Except.pure, Except.ok.injEq, Prod.mk.injEq] at h
      have := ih hf
      simp only [List.length_cons, ← h.2]
      omega
  | case2 s tail ih =>
    cases hf : field text tail with
    | error e => simp [hf, bind, Except.bind] at h
    | ok out =>
      simp only [hf, bind, Except.bind, pure, Except.pure, Except.ok.injEq, Prod.mk.injEq] at h
      have := ih hf
      simp only [List.length_cons, ← h.2]
      omega
  | case3 => simp [refuse] at h
  | case4 =>
    simp only [Except.ok.injEq, Prod.mk.injEq] at h
    simp [h.2]

theorem filterTail_length {ts rest : List Token} {a : Accessor}
    (h : filterTail text ts = .ok (a, rest)) : rest.length ≤ ts.length := by
  unfold filterTail at h
  split at h
  · rename_i parameter tail
    cases h₁ : expect text (.operator "=>") tail with
    | error e => simp [h₁, bind, Except.bind] at h
    | ok r₁ =>
      simp only [h₁, bind, Except.bind] at h
      split at h
      · simp [refuse] at h
      · cases h₂ : field text (r₁.tail) with
        | error e => simp [h₂] at h
        | ok out =>
          obtain ⟨names, r₂⟩ := out
          simp only [h₂] at h
          cases h₃ : comparison? r₂ with
          | none => simp [h₃, refuse] at h
          | some found =>
            obtain ⟨op, r₃⟩ := found
            simp only [h₃] at h
            cases h₄ : literal text r₃ with
            | error e => simp [h₄] at h
            | ok out =>
              obtain ⟨value, r₄⟩ := out
              simp only [h₄] at h
              cases h₅ : expect text (.mark ')') r₄ with
              | error e => simp [h₅] at h
              | ok r₅ =>
                simp only [h₅, pure, Except.pure, Except.ok.injEq, Prod.mk.injEq] at h
                have l₁ := expect_length text h₁
                have l₂ := field_length text h₂
                have l₃ := comparison?_length h₃
                have l₄ := literal_length text h₄
                have l₅ := expect_length text h₅
                simp only [List.length_tail] at l₂
                simp only [List.length_cons, ← h.2]
                omega
  · simp [refuse] at h

theorem bracket_length {ts rest : List Token} {a : Accessor}
    (h : bracket text ts = .ok (a, rest)) : rest.length ≤ ts.length := by
  have close {tail : List Token} {b : Accessor}
      (h : (expect text (.mark ']') tail).map (b, ·) = .ok (a, rest)) :
      rest.length ≤ tail.length := by
    cases he : expect text (.mark ']') tail with
    | error e => simp [he, Except.map] at h
    | ok r =>
      simp only [he, Except.map, Except.ok.injEq, Prod.mk.injEq] at h
      have := expect_length text he
      rw [← h.2]
      omega
  unfold bracket at h
  split at h
  · split at h
    · split at h
      · have := close h
        simp only [List.length_cons]
        omega
      · simp at h
    · simp [refuse] at h
  · split at h
    · have := close h
      simp only [List.length_cons]
      omega
    · simp at h
  · simp [refuse] at h

theorem afterPoint_length {ts rest : List Token} {a : Accessor}
    (h : afterPoint text ts = .ok (a, rest)) : rest.length ≤ ts.length := by
  unfold afterPoint at h
  split at h
  · split at h
    · have := filterTail_length text h
      simp only [List.length_tail] at this
      simp only [List.length_cons]
      omega
    · simp only [Except.ok.injEq, Prod.mk.injEq] at h
      simp [h.2]
  · rename_i s tail
    split at h
    · cases hn : wholeNumber s with
      | error e => simp [hn, Except.map] at h
      | ok n =>
        simp only [hn, Except.map, Except.ok.injEq, Prod.mk.injEq] at h
        simp [h.2]
    · simp at h
  · simp [refuse] at h

theorem accessor?_length {ts rest : List Token} {a : Accessor}
    (h : accessor? text ts = .ok (some (a, rest))) : rest.length < ts.length := by
  unfold accessor? at h
  split at h
  · rename_i c tail
    split at h
    · cases hp : afterPoint text tail with
      | error e => simp [hp, Except.map] at h
      | ok out =>
        simp only [hp, Except.map, Except.ok.injEq, Option.some.injEq] at h
        subst h
        have := afterPoint_length text hp
        simp only [List.length_cons]
        omega
    · split at h
      · cases hp : bracket text tail with
        | error e => simp [hp, Except.map] at h
        | ok out =>
          simp only [hp, Except.map, Except.ok.injEq, Option.some.injEq] at h
          subst h
          have := bracket_length text hp
          simp only [List.length_cons]
          omega
      · simp at h
  · simp at h

def accessors (ts : List Token) : Except ParseError (List Accessor × List Token) :=
  match _h : accessor? text ts with
  | .error e => .error e
  | .ok none => .ok ([], ts)
  | .ok (some (a, rest)) => (accessors rest).map fun out => (a :: out.1, out.2)
termination_by ts.length
decreasing_by exact accessor?_length text _h

def source? : String → Option Source
  | "input" => some .input
  | "steps" => some .steps
  | _ => none

def operand (ts : List Token) : Except ParseError (Operand × List Token) :=
  match ts with
  | .name s :: rest =>
    if (keyword? s).isSome then (literal text ts).map fun out => (.literal out.1, out.2)
    else match source? s with
      | some source => (accessors text rest).map fun out => (.path source out.1, out.2)
      | none => .error (.foreignRoot text s)
  | .number _ :: _ | .quoted _ :: _ => (literal text ts).map fun out => (.literal out.1, out.2)
  | _ => refuse text .operand ts

def expression (ts : List Token) : Except ParseError (Expression × List Token) := do
  let (left, rest) ← operand text ts
  match comparison? rest with
  | some (op, rest) =>
    let (right, rest) ← operand text rest
    return (.comparison left op right, rest)
  | none => return (.operand left, rest)

/-- The path of a predicate: its first member stands without a point. -/
def subject (ts : List Token) : Except ParseError (Operand × List Token) :=
  match ts with
  | .name s :: rest =>
    if (keyword? s).isSome then .ok (.path .subject [], ts)
    else (accessors text rest).map fun out => (.path .subject (.member s :: out.1), out.2)
  | _ => .ok (.path .subject [], ts)

def predicate (ts : List Token) : Except ParseError (Expression × List Token) := do
  let (left, rest) ← subject text ts
  match comparison? rest with
  | some (op, rest) =>
    let (value, rest) ← literal text rest
    return (.comparison left op (.literal value), rest)
  | none => if rest.isEmpty then return (.operand left, rest) else refuse text .comparison rest

def finish (out : Expression × List Token) : Except ParseError Expression :=
  if out.2.isEmpty then .ok out.1 else refuse text .trailing out.2

end Grammar

def Expression.parse (text : String) : Except ParseError Expression := do
  let ts ← tokens text
  let out ← Grammar.expression text ts
  Grammar.finish text out

def Expression.parsePredicate (text : String) : Except ParseError Expression := do
  let ts ← tokens text
  let out ← Grammar.predicate text ts
  Grammar.finish text out

end Conductor
