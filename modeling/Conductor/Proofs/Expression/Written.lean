import Conductor.Proofs.Expression.Literal
import Conductor.Proofs.Expression.Refusal

/-! Expressions written out as text are read again as they were, with any blanks between their tokens. The one
limit are the digits of an index. -/

namespace Conductor

namespace Grammar

open Token

/-! What can be written -/

/-- A whole number that has no more digits than are read. -/
def Fits (n : Int) : Prop := n.natAbs < Nat.pow 10 maxDigits

def IsName (s : String) : Prop :=
  ∃ c cs, s = String.ofList (c :: cs) ∧ startsName c = true ∧ ∀ d ∈ cs, continuesName d = true

theorem isName_cons {c : Char} {cs : List Char} (hc : startsName c = true) (hcs : cs.all continuesName = true) :
    IsName (String.ofList (c :: cs)) :=
  ⟨c, cs, rfl, hc, List.all_eq_true.1 hcs⟩

def WritableLiteral : Json → Prop
  | .int n => Fits n
  | .str _ | .bool _ | .null => True
  | _ => False

def WritableAccessor : Accessor → Prop
  | .member s => IsName s
  | .index _ | .key _ => True
  | .filter names _ value => (∀ s ∈ names, IsName s) ∧ WritableLiteral value

def WritableOperand : Operand → Prop
  | .literal value => WritableLiteral value
  | .path source path => source ≠ .subject ∧ ∀ a ∈ path, WritableAccessor a

def Writable : Expression → Prop
  | .operand o => WritableOperand o
  | .comparison left _ right => WritableOperand left ∧ WritableOperand right

/-! How it is written -/

def literalToken : Json → Token
  | .int n => .number (toString n)
  | .str s => .quoted (doubleQuoted s)
  | .bool true => .name "true"
  | .bool false => .name "false"
  | _ => .name "null"

def fieldTokens (names : List String) : List Token := names.flatMap fun s => [.mark '.', .name s]

/-- An index that is not below zero may stand after a point, and a filter may call its items anything. -/
inductive WritesAccessor : Accessor → List Token → Prop
  | member {s : String} : WritesAccessor (.member s) [.mark '.', .name s]
  | index {n : Int} : WritesAccessor (.index n) [.mark '[', .number (toString n), .mark ']']
  | item {n : Int} : 0 ≤ n → WritesAccessor (.index n) [.mark '.', .number (toString n)]
  | key {s : String} : WritesAccessor (.key s) [.mark '[', .quoted (doubleQuoted s), .mark ']']
  | filter {parameter : String} {names : List String} {op : Comparison} {value : Json} : IsName parameter →
    WritesAccessor (.filter names op value)
      (filterHead parameter ++ fieldTokens names ++ [.operator op.sign, literalToken value, .mark ')'])

inductive WritesPath : List Accessor → List Token → Prop
  | nil : WritesPath [] []
  | cons {a : Accessor} {path : List Accessor} {first rest : List Token} : WritesAccessor a first →
    WritesPath path rest → WritesPath (a :: path) (first ++ rest)

inductive WritesOperand : Operand → List Token → Prop
  | literal {value : Json} : WritesOperand (.literal value) [literalToken value]
  | input {path : List Accessor} {ts : List Token} : WritesPath path ts →
    WritesOperand (.path .input path) (.name "input" :: ts)
  | steps {path : List Accessor} {ts : List Token} : WritesPath path ts →
    WritesOperand (.path .steps path) (.name "steps" :: ts)

inductive Writes : Expression → List Token → Prop
  | operand {o : Operand} {ts : List Token} : WritesOperand o ts → Writes (.operand o) ts
  | comparison {left right : Operand} {op : Comparison} {ts us : List Token} : WritesOperand left ts →
    WritesOperand right us → Writes (.comparison left op right) (ts ++ .operator op.sign :: us)

/-- The text of tokens, with a space on each side of an operator. -/
def layout (ts : List Token) : List Char :=
  ts.flatMap fun
    | .operator s => ' ' :: (s.toList ++ [' '])
    | t => t.text.toList

/-- The characters are the texts of the tokens, with any blanks before, between and after them. -/
inductive Spaced : List Token → List Char → Prop
  | nil : Spaced [] []
  | blank {ts : List Token} {c : Char} {cs : List Char} : isBlank c = true → Spaced ts cs → Spaced ts (c :: cs)
  | token {ts : List Token} {t : Token} {cs : List Char} : Spaced ts cs → Spaced (t :: ts) (t.text.toList ++ cs)

theorem spaced_layout (ts : List Token) : Spaced ts (layout ts) := by
  have hspace : isBlank ' ' = true := by decide
  induction ts with
  | nil => exact .nil
  | cons t ts ih =>
    rw [layout, List.flatMap_cons]
    cases t with
    | operator s =>
      rw [List.cons_append, List.append_assoc]
      exact .blank hspace (.token (.blank hspace ih))
    | number => exact .token ih
    | quoted => exact .token ih
    | name => exact .token ih
    | mark => exact .token ih

theorem exists_writesPath (path : List Accessor) : ∃ ts, WritesPath path ts := by
  have haccessor (a : Accessor) : ∃ ts, WritesAccessor a ts := by
    cases a with
    | member => exact ⟨_, .member⟩
    | index => exact ⟨_, .index⟩
    | key => exact ⟨_, .key⟩
    | filter =>
      have hp : IsName "p" := ⟨'p', [], rfl, rfl, nofun⟩
      exact ⟨_, .filter hp⟩
  induction path with
  | nil => exact ⟨_, .nil⟩
  | cons a path ih =>
    obtain ⟨first, hfirst⟩ := haccessor a
    obtain ⟨rest, hrest⟩ := ih
    exact ⟨_, .cons hfirst hrest⟩

theorem exists_writesOperand {o : Operand} (h : WritableOperand o) : ∃ ts, WritesOperand o ts := by
  cases o with
  | literal => exact ⟨_, .literal⟩
  | path source path =>
    obtain ⟨ts, hts⟩ := exists_writesPath path
    cases source with
    | input => exact ⟨_, .input hts⟩
    | steps => exact ⟨_, .steps hts⟩
    | subject => exact absurd rfl h.1

theorem exists_writes {e : Expression} (h : Writable e) : ∃ ts, Writes e ts := by
  cases e with
  | operand =>
    obtain ⟨ts, hts⟩ := exists_writesOperand h
    exact ⟨_, .operand hts⟩
  | comparison =>
    obtain ⟨ts, hts⟩ := exists_writesOperand h.1
    obtain ⟨us, hus⟩ := exists_writesOperand h.2
    exact ⟨_, .comparison hts hus⟩

/-! What is written the grammar derives -/

theorem derives_literalToken {value : Json} (h : WritableLiteral value) :
    DerivesLiteral (literalToken value) value := by
  cases value with
  | num n =>
    cases n with
    | whole n =>
      have hwhole := DerivesLiteral.whole (isWhole_toString n)
      rwa [wholeValue_toString] at hwhole
    | real => cases h
  | str s => exact .quoted (unquote_doubleQuoted s)
  | bool b => cases b <;> exact .keyword rfl
  | null => exact .keyword rfl
  | arr => cases h
  | obj => cases h

theorem derives_fieldTokens (names : List String) : DerivesField (fieldTokens names) names := by
  induction names with
  | nil => exact .nil
  | cons s names ih => exact .name ih

theorem WritesAccessor.derives {a : Accessor} {ts : List Token} (h : WritesAccessor a ts) (hw : WritableAccessor a) :
    DerivesAccessor ts a := by
  cases h with
  | member => exact .member
  | @index n =>
    have hindex := DerivesAccessor.index (isWhole_toString n)
    rwa [wholeValue_toString] at hindex
  | @item n =>
    have hitem := DerivesAccessor.item (isWhole_toString n)
    rwa [wholeValue_toString] at hitem
  | key => exact .key (unquote_doubleQuoted _)
  | filter => exact .filter (derives_fieldTokens _) (derives_literalToken hw.2)

theorem WritesPath.head {path : List Accessor} {ts : List Token} (h : WritesPath path ts) :
    ts.head? ≠ some (.mark '(') := by
  cases h with
  | nil => exact nofun
  | cons ha => cases ha <;> exact nofun

theorem WritesPath.derives {path : List Accessor} {ts : List Token} (h : WritesPath path ts)
    (hw : ∀ a ∈ path, WritableAccessor a) : DerivesPath ts path := by
  induction h with
  | nil => exact .nil
  | cons ha hp ih =>
    exact .cons (ha.derives (hw _ List.mem_cons_self)) (fun _ => hp.head)
      (ih fun b hb => hw b (List.mem_cons_of_mem _ hb))

theorem WritesOperand.derives {o : Operand} {ts : List Token} (h : WritesOperand o ts) (hw : WritableOperand o) :
    DerivesOperand ts o := by
  cases h with
  | literal => exact .literal (derives_literalToken hw)
  | input hp => exact .path rfl (hp.derives hw.2)
  | steps hp => exact .path rfl (hp.derives hw.2)

theorem Writes.derives {e : Expression} {ts : List Token} (h : Writes e ts) (hw : Writable e) : Derives ts e := by
  cases h with
  | operand ho => exact .operand (ho.derives hw)
  | comparison hl hr => exact .comparison (hl.derives hw.1) (hr.derives hw.2)

/-! No token runs into the next one -/

/-- The first of the tokens begins with a character of a kind, if there is one. -/
def Begins (p : Char → Prop) (ts : List Token) : Prop :=
  ∀ t ∈ ts.head?, ∃ c tail, t.text.toList = c :: tail ∧ p c

/-- With any blanks between them, each of the tokens is one of the text. -/
inductive Apart : Bool → List Token → Prop
  | nil {pointed : Bool} : Apart pointed []
  | cons {pointed : Bool} {t : Token} {ts : List Token} : (∀ cs, Spaced ts cs → Leads pointed t cs) →
    Apart (t = .mark '.') ts → Apart pointed (t :: ts)

theorem Spaced.begins {p : Char → Prop} {ts : List Token} {cs : List Char} (h : Spaced ts cs)
    (hb : ∀ c, isBlank c = true → p c) (ht : Begins p ts) : ∀ c ∈ cs.head?, p c := by
  cases h with
  | nil => exact nofun
  | blank hc =>
    intro c hcs
    cases hcs
    exact hb _ hc
  | token =>
    obtain ⟨c, tail, hchars, hp⟩ := ht _ rfl
    intro d hd
    rw [hchars] at hd
    cases hd
    exact hp

theorem Spaced.spells {last : Option Token} {ts : List Token} {cs : List Char} (h : Spaced ts cs)
    (ha : Apart (last = some (.mark '.')) ts) : Spells last cs ts := by
  induction h generalizing last with
  | nil => exact .nil
  | blank hc _ ih => exact .blank hc (ih ha)
  | token hs ih =>
    cases ha with
    | cons hleads hrest => exact .token (hleads _ hs) (ih (by simpa using hrest))

theorem begins_mark {p : Char → Prop} {c : Char} {ts : List Token} (h : p c) : Begins p (.mark c :: ts) := by
  intro t ht
  cases ht
  exact ⟨c, [], String.toList_singleton c, h⟩

theorem begins_name {p : Char → Prop} {s : String} {ts : List Token} (hs : IsName s)
    (h : ∀ c, startsName c = true → p c) : Begins p (.name s :: ts) := by
  obtain ⟨c, cs, rfl, hc, -⟩ := hs
  intro t ht
  cases ht
  exact ⟨c, cs, String.toList_ofList, h c hc⟩

theorem begins_operator {p : Char → Prop} {s : String} {ts : List Token} (hs : s ∈ operators)
    (h : ∀ c ∈ ['=', '!', '<', '>'], p c) : Begins p (.operator s :: ts) := by
  intro t ht
  cases ht
  simp only [operators, List.mem_cons, List.not_mem_nil, or_false] at hs
  rcases hs with rfl | rfl | rfl | rfl | rfl | rfl | rfl
  all_goals exact ⟨_, _, rfl, h _ (by decide)⟩

/-- What may come after a name, a number or an accessor. -/
def Closing (c : Char) : Prop := continuesName c = false ∧ isDecimal c = false

instance : DecidablePred Closing := fun c => inferInstanceAs (Decidable (continuesName c = false ∧ isDecimal c = false))

theorem closing_of_isBlank {c : Char} (h : isBlank c = true) : Closing c :=
  ⟨(plain_of_isBlank h).2.1, (plain_of_isBlank h).1⟩

theorem Begins.mono {p q : Char → Prop} {ts : List Token} (h : Begins p ts) (hpq : ∀ c, p c → q c) : Begins q ts := by
  intro t ht
  obtain ⟨c, tail, hchars, hc⟩ := h t ht
  exact ⟨c, tail, hchars, hpq c hc⟩

theorem begins_nil {p : Char → Prop} : Begins p [] := nofun

theorem Apart.mark {pointed : Bool} {c : Char} {ts : List Token} (hc : isMark c = true)
    (h : Apart (c = '.') ts) : Apart pointed (.mark c :: ts) :=
  .cons (fun _ _ => .mark hc) (by simpa using h)

theorem Apart.name {pointed : Bool} {s : String} {ts : List Token} (hs : IsName s) (hb : Begins Closing ts)
    (h : Apart false ts) : Apart pointed (.name s :: ts) := by
  obtain ⟨c, cs, rfl, hc, hcs⟩ := hs
  refine .cons (fun rest hrest => .name hc hcs fun d hd => ?_) h
  exact (hrest.begins (fun _ => closing_of_isBlank) hb d hd).1

theorem Apart.quoted {pointed : Bool} {s : String} {ts : List Token} (h : Apart false ts) :
    Apart pointed (.quoted (doubleQuoted s) :: ts) :=
  .cons (fun _ _ => leads_doubleQuoted s) h

theorem Apart.operator {pointed : Bool} {s : String} {ts : List Token} (hs : s ∈ operators) (hb : Begins (· ≠ '=') ts)
    (h : Apart false ts) : Apart pointed (.operator s :: ts) := by
  refine .cons (fun rest hrest => .operator hs fun _ hhead => ?_) h
  have hblank (c : Char) (hc : isBlank c = true) : c ≠ '=' := by
    rintro rfl
    revert hc
    decide
  exact hrest.begins hblank hb '=' hhead rfl

theorem Apart.item {n : Int} {ts : List Token} (hn : 0 ≤ n) (hb : Begins Closing ts) (h : Apart false ts) :
    Apart true (.number (toString n) :: ts) := by
  refine .cons (fun rest hrest => leads_toString (fun c hc => ?_) (.inl ⟨rfl, hn⟩)) h
  exact (hrest.begins (fun _ => closing_of_isBlank) hb c hc).2

theorem Apart.number {n : Int} {ts : List Token} (hb : Begins (fun c => Closing c ∧ c ≠ '.') ts) (h : Apart false ts) :
    Apart false (.number (toString n) :: ts) := by
  have hblank (c : Char) (hc : isBlank c = true) : Closing c ∧ c ≠ '.' := by
    refine ⟨closing_of_isBlank hc, ?_⟩
    rintro rfl
    revert hc
    decide
  refine .cons (fun rest hrest => leads_toString (fun c hc => ?_) (.inr ⟨rfl, fun hpoint => ?_⟩)) h
  · exact (hrest.begins hblank hb c hc).1.2
  · exact (hrest.begins hblank hb '.' hpoint).2 rfl

theorem closing_of_isMark {c : Char} (h : isMark c = true) : Closing c := by
  rcases isMark_cases h with rfl | rfl | rfl | rfl | rfl <;> exact ⟨rfl, rfl⟩

theorem closing_operators : ∀ c ∈ ['=', '!', '<', '>'], Closing c := by
  intro c hc
  simp only [List.mem_cons, List.not_mem_nil, or_false] at hc
  rcases hc with rfl | rfl | rfl | rfl <;> exact ⟨rfl, rfl⟩

theorem Apart.literal {value : Json} {ts : List Token} (hw : WritableLiteral value)
    (hb : Begins (fun c => Closing c ∧ c ≠ '.') ts) (h : Apart false ts) : Apart false (literalToken value :: ts) := by
  have hclosing : Begins Closing ts := hb.mono fun _ => And.left
  cases value with
  | num n =>
    cases n with
    | whole n => exact h.number hb
    | real => cases hw
  | str s => exact h.quoted
  | bool b =>
    cases b
    · exact h.name (isName_cons rfl rfl) hclosing
    · exact h.name (isName_cons rfl rfl) hclosing
  | null => exact h.name (isName_cons rfl rfl) hclosing
  | arr => cases hw
  | obj => cases hw

theorem begins_literal {value : Json} {ts : List Token} (h : WritableLiteral value) :
    Begins (· ≠ '=') (literalToken value :: ts) := by
  intro t ht
  cases ht
  cases value with
  | num n =>
    cases n with
    | whole n =>
      obtain ⟨sign, hchars, ⟨rfl, -⟩ | ⟨rfl, -⟩⟩ := toString_cases n
      · exact ⟨'-', _, hchars, by decide⟩
      · obtain ⟨d, ds, hds⟩ := List.exists_cons_of_ne_nil (Nat.toDigits_ne_nil (n := n.natAbs) (b := 10))
        refine ⟨d, ds, hchars.trans hds, ?_⟩
        rintro rfl
        exact not_isDigit_mem (c := '=') rfl (hds ▸ List.mem_cons_self)
    | real => cases h
  | str s => exact ⟨'"', _, String.toList_ofList, by decide⟩
  | bool b => cases b <;> exact ⟨_, _, rfl, by decide⟩
  | null => exact ⟨_, _, rfl, by decide⟩
  | arr => cases h
  | obj => cases h

theorem Apart.fields {names : List String} {ts : List Token} (hn : ∀ s ∈ names, IsName s) (hb : Begins Closing ts)
    (h : Apart false ts) : Begins Closing (fieldTokens names ++ ts) ∧ Apart false (fieldTokens names ++ ts) := by
  induction names with
  | nil => exact ⟨hb, h⟩
  | cons s names ih =>
    obtain ⟨hbegins, hapart⟩ := ih fun t ht => hn t (List.mem_cons_of_mem s ht)
    exact ⟨begins_mark (closing_of_isMark rfl), .mark rfl (hapart.name (hn s List.mem_cons_self) hbegins)⟩

theorem sign_mem_operators (op : Comparison) : op.sign ∈ operators := by
  cases op <;> decide

theorem ne_of_startsName {c : Char} (h : startsName c = true) : c ≠ '=' := by
  rintro rfl
  exact (plain_of_startsName h).1 (by decide)

theorem Apart.filter {parameter : String} {names : List String} {op : Comparison} {value : Json} {rest : List Token}
    (hp : IsName parameter) (hn : ∀ s ∈ names, IsName s) (hv : WritableLiteral value) (hr : Apart false rest) :
    Apart false (filterHead parameter ++ (fieldTokens names ++ .operator op.sign :: literalToken value ::
      .mark ')' :: rest)) := by
  have hvalue : Apart false (literalToken value :: .mark ')' :: rest) :=
    .literal hv (begins_mark ⟨closing_of_isMark rfl, by decide⟩) (.mark rfl hr)
  have hcompare : Apart false (.operator op.sign :: literalToken value :: .mark ')' :: rest) :=
    .operator (sign_mem_operators op) (begins_literal hv) hvalue
  obtain ⟨hbegins, hfield⟩ := hcompare.fields hn (begins_operator (sign_mem_operators op) closing_operators)
  have harrow : Apart false (.operator "=>" :: .name parameter :: (fieldTokens names ++ .operator op.sign ::
      literalToken value :: .mark ')' :: rest)) :=
    .operator (by decide) (begins_name hp fun _ => ne_of_startsName) (hfield.name hp hbegins)
  have hopen : Apart false (.mark '(' :: .name parameter :: .operator "=>" :: .name parameter :: (fieldTokens names ++
      .operator op.sign :: literalToken value :: .mark ')' :: rest)) :=
    .mark rfl (harrow.name hp (begins_operator (by decide) closing_operators))
  exact .mark rfl (hopen.name (isName_cons rfl rfl) (begins_mark (closing_of_isMark rfl)))

theorem Apart.accessor {a : Accessor} {first rest : List Token} (h : WritesAccessor a first) (hw : WritableAccessor a)
    (hb : Begins Closing rest) (hr : Apart false rest) : Begins Closing (first ++ rest) ∧ Apart false (first ++ rest) := by
  have hclose {ts : List Token} : Begins (fun c => Closing c ∧ c ≠ '.') (.mark ']' :: ts) :=
    begins_mark ⟨closing_of_isMark rfl, by decide⟩
  cases h with
  | member => exact ⟨begins_mark (closing_of_isMark rfl), .mark rfl (hr.name hw hb)⟩
  | index => exact ⟨begins_mark (closing_of_isMark rfl), .mark rfl (.number hclose (.mark rfl hr))⟩
  | item hn => exact ⟨begins_mark (closing_of_isMark rfl), .mark rfl (hr.item hn hb)⟩
  | key => exact ⟨begins_mark (closing_of_isMark rfl), .mark rfl (.quoted (.mark rfl hr))⟩
  | filter hp =>
    rw [List.append_assoc, List.append_assoc]
    exact ⟨begins_mark (closing_of_isMark rfl), .filter hp hw.1 hw.2 hr⟩

theorem Apart.path {path : List Accessor} {ts rest : List Token} (h : WritesPath path ts)
    (hw : ∀ a ∈ path, WritableAccessor a) (hb : Begins Closing rest) (hr : Apart false rest) :
    Begins Closing (ts ++ rest) ∧ Apart false (ts ++ rest) := by
  induction h with
  | nil => exact ⟨hb, hr⟩
  | cons ha _ ih =>
    obtain ⟨hbegins, hapart⟩ := ih fun b hm => hw b (List.mem_cons_of_mem _ hm)
    rw [List.append_assoc]
    exact Apart.accessor ha (hw _ List.mem_cons_self) hbegins hapart

theorem Apart.operand {o : Operand} {ts rest : List Token} (h : WritesOperand o ts) (hw : WritableOperand o)
    (hb : Begins (fun c => Closing c ∧ c ≠ '.') rest) (hr : Apart false rest) :
    Begins (· ≠ '=') (ts ++ rest) ∧ Apart false (ts ++ rest) := by
  have hclosing : Begins Closing rest := hb.mono fun _ => And.left
  have hroot {s : String} {path : List Accessor} {ts : List Token} (hs : IsName s) (hp : WritesPath path ts)
      (hw : ∀ a ∈ path, WritableAccessor a) :
      Begins (· ≠ '=') (.name s :: (ts ++ rest)) ∧ Apart false (.name s :: (ts ++ rest)) := by
    obtain ⟨hbegins, hapart⟩ := Apart.path hp hw hclosing hr
    exact ⟨begins_name hs fun _ => ne_of_startsName, hapart.name hs hbegins⟩
  cases h with
  | literal => exact ⟨begins_literal hw, hr.literal hw hb⟩
  | input hp => exact hroot (isName_cons rfl rfl) hp hw.2
  | steps hp => exact hroot (isName_cons rfl rfl) hp hw.2

theorem Writes.apart {e : Expression} {ts : List Token} (h : Writes e ts) (hw : Writable e) : Apart false ts := by
  cases h with
  | operand ho =>
    have hapart := (Apart.operand ho hw begins_nil .nil).2
    rwa [List.append_nil] at hapart
  | @comparison _ _ op _ us hl hr =>
    have hright := Apart.operand hr hw.2 begins_nil .nil
    rw [List.append_nil] at hright
    have hsigns : ∀ c ∈ ['=', '!', '<', '>'], Closing c ∧ c ≠ '.' := fun c hc =>
      ⟨closing_operators c hc, by rintro rfl; revert hc; decide⟩
    exact (Apart.operand hl hw.1 (begins_operator (sign_mem_operators op) hsigns)
      (hright.2.operator (sign_mem_operators op) hright.1)).2

/-- With any blanks between them, the tokens that are written are the tokens of the text. -/
theorem Writes.tokens_eq {e : Expression} {ts : List Token} {cs : List Char} (h : Writes e ts) (hw : Writable e)
    (hs : Spaced ts cs) : tokens (String.ofList cs) = .ok ts := by
  rw [tokens_eq_ok, String.toList_ofList]
  exact hs.spells (h.apart hw)

/-! The digits of indexes -/

def pathOf : Operand → List Accessor
  | .literal _ => []
  | .path _ path => path

def pathsOf : Expression → List Accessor
  | .operand o => pathOf o
  | .comparison left _ right => pathOf left ++ pathOf right

def IndexesFit (path : List Accessor) : Prop := ∀ n, .index n ∈ path → Fits n

theorem fits_iff {n : Int} : Fits n ↔ wholeDigits (toString n) ≤ maxDigits := by
  have hlength {k : Nat} (h : 0 < k) : n.natAbs < Nat.pow 10 k ↔ (Nat.toDigits 10 n.natAbs).length ≤ k :=
    (Nat.length_toDigits_le_iff (by decide) h).symm
  rw [wholeDigits_toString]
  exact hlength (by decide)

theorem digitValue?_le {c : Char} {d : Nat} (h : digitValue? c = some d) : d ≤ 9 := by
  obtain ⟨start, hstart, rfl⟩ := Option.map_eq_some_iff.1 h
  have hrange := List.find?_some hstart
  simp only [Bool.and_eq_true, decide_eq_true_eq] at hrange
  omega

theorem digitsValue_lt_pow (cs : List Char) : digitsValue cs < Nat.pow 10 cs.length := by
  induction cs using List.reverseRecOn with
  | nil => decide
  | append_singleton cs c ih =>
    have hpow : Nat.pow 10 (cs ++ [c]).length = Nat.pow 10 cs.length * 10 := by
      rw [List.length_append]
      rfl
    rw [hpow, digitsValue_concat]
    cases hd : digitValue? c with
    | none =>
      show digitsValue cs < _
      omega
    | some d =>
      have := digitValue?_le hd
      show 10 * digitsValue cs + d < _
      omega

theorem digitsValue_lt {cs : List Char} {k : Nat} (h : cs.length ≤ k) : digitsValue cs < Nat.pow 10 k :=
  Nat.lt_of_lt_of_le (digitsValue_lt_pow cs) (Nat.pow_le_pow_right (by decide) h)

theorem fits_wholeValue {s : String} (h : wholeDigits s ≤ maxDigits) : Fits (wholeValue s) := by
  have hsize : (wholeValue s).natAbs = digitsValue (splitSign s.toList).2 := by
    rw [wholeValue]
    split
    · rw [Int.natAbs_neg, Int.natAbs_natCast]
    · rw [Int.natAbs_natCast]
  rw [Fits, hsize]
  exact digitsValue_lt h

theorem DerivesPath.fits {ts : List Token} {path : List Accessor} (h : DerivesPath ts path) (hs : Short ts) :
    IndexesFit path := by
  induction h with
  | nil => exact nofun
  | cons ha _ _ ih =>
    intro n hn
    rcases List.mem_cons.1 hn with rfl | hn
    · cases ha with
      | @item s hwhole => exact fits_wholeValue ((hs.left [.mark '.'] s [] rfl hwhole).resolve_left nofun)
      | @index s hwhole => exact fits_wholeValue ((hs.left [.mark '['] s [.mark ']'] rfl hwhole).resolve_left nofun)
    · exact ih (hs.right (not_beforeField_accessor ha)) n hn

theorem DerivesOperand.fits {ts : List Token} {o : Operand} (h : DerivesOperand ts o) (hs : Short ts) :
    IndexesFit (pathOf o) := by
  cases h with
  | literal => exact nofun
  | @path s _ ts _ _ hp =>
    have hs : Short ([.name s] ++ ts) := hs
    exact hp.fits (hs.right nofun)

theorem Derives.fits {ts : List Token} {e : Expression} (h : Derives ts e) (hs : Short ts) :
    IndexesFit (pathsOf e) := by
  cases h with
  | operand ho => exact ho.fits hs
  | @comparison ts us _ _ op hl hr =>
    have hright : Short ([.operator op.sign] ++ us) := hs.right (not_beforeField_operand hl)
    intro n hn
    rcases List.mem_append.1 hn with hn | hn
    · exact hl.fits hs.left n hn
    · exact hr.fits (hright.right fun hb => sign_ne_arrow op (Option.some.inj hb)) n hn

/-- All numbers among the tokens fit. -/
def NumbersFit (ts : List Token) : Prop := ∀ s, .number s ∈ ts → wholeDigits s ≤ maxDigits

theorem NumbersFit.append {ts us : List Token} (ht : NumbersFit ts) (hu : NumbersFit us) : NumbersFit (ts ++ us) :=
  fun s hs => (List.mem_append.1 hs).elim (ht s) (hu s)

theorem numbersFit_literal {value : Json} (h : WritableLiteral value) : NumbersFit [literalToken value] := by
  intro s hs
  cases value with
  | num n =>
    cases n with
    | whole n =>
      cases List.mem_singleton.1 hs
      exact fits_iff.1 h
    | real => cases h
  | bool b => cases b <;> simp [literalToken] at hs
  | str => simp [literalToken] at hs
  | null => simp [literalToken] at hs
  | arr => cases h
  | obj => cases h

theorem WritesAccessor.numbersFit {a : Accessor} {ts : List Token} (h : WritesAccessor a ts) (hw : WritableAccessor a)
    (hi : ∀ n, a = .index n → Fits n) : NumbersFit ts := by
  intro s hs
  cases h with
  | member => simp at hs
  | @index n =>
    obtain rfl : s = toString n := by simpa using hs
    exact fits_iff.1 (hi n rfl)
  | @item n =>
    obtain rfl : s = toString n := by simpa using hs
    exact fits_iff.1 (hi n rfl)
  | key => simp at hs
  | @filter parameter names op value =>
    refine numbersFit_literal hw.2 s ?_
    simpa [filterHead, fieldTokens] using hs

theorem WritesPath.numbersFit {path : List Accessor} {ts : List Token} (h : WritesPath path ts)
    (hw : ∀ a ∈ path, WritableAccessor a) (hi : IndexesFit path) : NumbersFit ts := by
  induction h with
  | nil => exact nofun
  | cons ha _ ih =>
    refine NumbersFit.append (ha.numbersFit (hw _ List.mem_cons_self) ?_) (ih (fun b hb => hw b ?_) fun n hn => hi n ?_)
    · rintro n rfl
      exact hi n List.mem_cons_self
    · exact List.mem_cons_of_mem _ hb
    · exact List.mem_cons_of_mem _ hn

theorem WritesOperand.numbersFit {o : Operand} {ts : List Token} (h : WritesOperand o ts) (hw : WritableOperand o)
    (hi : IndexesFit (pathOf o)) : NumbersFit ts := by
  cases h with
  | literal => exact numbersFit_literal hw
  | input hp => exact fun s hs => hp.numbersFit hw.2 hi s (by simpa using hs)
  | steps hp => exact fun s hs => hp.numbersFit hw.2 hi s (by simpa using hs)

theorem Writes.numbersFit {e : Expression} {ts : List Token} (h : Writes e ts) (hw : Writable e)
    (hi : IndexesFit (pathsOf e)) : NumbersFit ts := by
  cases h with
  | operand ho => exact ho.numbersFit hw hi
  | comparison hl hr =>
    have hright := hr.numbersFit hw.2 fun n hn => hi n (List.mem_append_right _ hn)
    exact (hl.numbersFit hw.1 fun n hn => hi n (List.mem_append_left _ hn)).append fun s hs =>
      hright s (by simpa using hs)

/-- What is written is read again, with any blanks between its tokens, as long as its indexes fit; an index that
does not is refused wherever it stands. -/
theorem parse_undoes_writing {e : Expression} (hw : Writable e) :
    (∃ ts, Writes e ts) ∧ ∀ ts, Writes e ts → Spaced ts (layout ts) ∧ ∀ cs, Spaced ts cs →
      (IndexesFit (pathsOf e) → Expression.parse (String.ofList cs) = .ok e) ∧
      (¬ IndexesFit (pathsOf e) → ∃ digits, maxDigits < digits ∧
        Expression.parse (String.ofList cs) = .error (.longNumber digits)) := by
  refine ⟨exists_writes hw, fun ts h => ⟨spaced_layout ts, fun cs hs => ?_⟩⟩
  have ht := h.tokens_eq hw hs
  have hderives := h.derives hw
  refine ⟨fun hi => ?_, fun hi => ?_⟩
  · have hshort : Short ts := .of_all fun s hm _ => h.numbersFit hw hi s hm
    exact (Expression.parse_eq_ok ht).2 ⟨hderives, hshort⟩
  · rcases Expression.parse_of_derives ht hderives with hok | herror
    · exact absurd (hderives.fits (Expression.derives_of_parse ht hok).2) hi
    · exact herror

theorem parse_undoes_writing_of_filter :
    Expression.parse "input.items[-1].filter(p => p.a.b > 3) === \"\\n\"" = .ok (.comparison
      (.path .input [.member "items", .index (-1), .filter ["a", "b"] .above (.int 3)]) .same (.literal (.str "\n"))) := by
  have hitems : IsName "items" := isName_cons rfl rfl
  have hp : IsName "p" := isName_cons rfl rfl
  have hfew : Fits 3 ∧ Fits (-1) := ⟨fits_iff.2 (by decide), fits_iff.2 (by decide)⟩
  have hfield : ∀ s ∈ ["a", "b"], IsName s := by
    rw [List.forall_mem_cons, List.forall_mem_singleton]
    exact ⟨isName_cons rfl rfl, isName_cons rfl rfl⟩
  have hpath : ∀ a ∈ [.member "items", .index (-1), .filter ["a", "b"] .above (.int 3)], WritableAccessor a := by
    rw [List.forall_mem_cons, List.forall_mem_cons, List.forall_mem_singleton]
    exact ⟨hitems, trivial, hfield, hfew.1⟩
  have hw : Writable (.comparison (.path .input [.member "items", .index (-1), .filter ["a", "b"] .above (.int 3)])
      .same (.literal (.str "\n"))) :=
    ⟨⟨nofun, hpath⟩, trivial⟩
  obtain ⟨hlayout, hread⟩ := (parse_undoes_writing hw).2 _
    (.comparison (.input (.cons .member (.cons .index (.cons (.filter hp) .nil)))) .literal)
  refine (hread _ hlayout).1 fun n hn => ?_
  obtain rfl : n = -1 := by simpa [pathsOf, pathOf] using hn
  exact hfew.2

end Grammar

end Conductor
