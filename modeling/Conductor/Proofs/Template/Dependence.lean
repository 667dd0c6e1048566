import Conductor.Proofs.Expression.Token
import Conductor.Template

/-! A template depends on no more of the table of steps than the entries that it names. A path names
an entry by a member or by a key; one that starts with a number reads the entry that the number
spells, but names none. -/

namespace Conductor

/-- Two views with the same input whose tables of steps agree on some entries. Where such an entry
holds the table itself, the whole tables agree. -/
structure View.Agree (ids : List String) (u v : View) : Prop where
  input : u.input = v.input
  subject : u.subject = v.subject
  steps : ∃ first second : Members, u.steps = .obj first ∧ v.steps = .obj second ∧
    ∀ id ∈ ids, Assoc.get? first id = Assoc.get? second id
  tables : ∀ id ∈ ids, Place.below id u.tables = Place.below id v.tables
  levels : ∀ id ∈ ids, Place.below id u.tables ≠ [] → u.levels = v.levels

theorem View.Agree.mono {ids more : List String} {u v : View} (h : Agree more u v)
    (hm : ∀ id ∈ ids, id ∈ more) : Agree ids u v := by
  obtain ⟨first, second, hu, hv, hget⟩ := h.steps
  exact ⟨h.input, h.subject, ⟨first, second, hu, hv, fun id hid => hget id (hm id hid)⟩,
    fun id hid => h.tables id (hm id hid), fun id hid => h.levels id (hm id hid)⟩

/-- Whether a path into the table of steps reads one of these entries by a number, or starts with a
key or with a member that is not the length of the table. -/
def Operand.isNamed (ids : List String) : Operand → Bool
  | .path .steps (.member name :: _) => name ≠ "length"
  | .path .steps (.key _ :: _) => true
  | .path .steps (.index n :: _) => toString n ∈ ids
  | .path .steps _ => false
  | _ => true

def Expression.isNamed (ids : List String) : Expression → Bool
  | .operand o => o.isNamed ids
  | .comparison left _ right => left.isNamed ids && right.isNamed ids

theorem Place.along_nil (path : List Accessor) : Place.along [] path = [] := by
  induction path with
  | nil => rfl
  | cons a rest ih =>
    rw [along]
    cases a.name? with
    | none => rfl
    | some name => exact ih

/-- All that an expression gives is the same in both views. -/
structure Expression.Alike (e : Expression) (u v : View) : Prop where
  value : e.evaluate u = e.evaluate v
  long : e.longMember? u = e.longMember? v
  tables : e.tables u = e.tables v
  levels : e.tables u ≠ [] → u.levels = v.levels

theorem Operand.alike_of_entry {u v : View} {id : String} (h : View.Agree [id] u v) {a : Accessor}
    (ha : ∀ members, a.apply (.obj members) = (Assoc.get? members id).getD .null)
    (hn : a.name? = some id) (rest : List Accessor) :
    (Expression.operand (.path .steps (a :: rest))).Alike u v := by
  obtain ⟨first, second, hu, hv, hget⟩ := h.steps
  have hsame : a.apply u.steps = a.apply v.steps := by
    rw [hu, hv, ha, ha, hget id (by simp)]
  have hlong (members : Members) : a.longMember? (.obj members) = none := by
    cases a <;> rfl
  refine ⟨?_, ?_, ?_, ?_⟩
  · simp only [Expression.evaluate, evaluate, View.read, walk, hsame]
    simp [hu, hv, Json.isNull]
  · simp only [Expression.longMember?, Operand.longMember?, View.read, Conductor.longMember?, hsame]
    rw [hu, hv, hlong, hlong]
  · simp only [Expression.tables, tables, Place.along, hn, h.tables id (by simp)]
  · intro ht
    refine h.levels id (by simp) fun hnil => ht ?_
    simp only [Expression.tables, tables, Place.along, hn, hnil, Place.along_nil]

theorem Operand.alike {u v : View} {o : Operand} {ids : List String} (h : View.Agree ids u v)
    (ho : o.isNamed ids = true)
    (hr : ∀ id, o.reference? = some id → id ∈ ids) : (Expression.operand o).Alike u v := by
  cases o with
  | literal value => exact ⟨rfl, rfl, rfl, fun ht => absurd rfl ht⟩
  | path source path =>
    cases source with
    | input =>
      have hread : u.read .input = v.read .input := h.input
      exact ⟨congrArg (walk · path) hread, congrArg (Conductor.longMember? · path) hread, rfl,
        fun ht => absurd rfl ht⟩
    | subject =>
      have hread : u.read .subject = v.read .subject := h.subject
      exact ⟨congrArg (walk · path) hread, congrArg (Conductor.longMember? · path) hread, rfl,
        fun ht => absurd rfl ht⟩
    | steps =>
      match path, ho with
      | .member name :: rest, ho =>
        have hname : ∀ id ∈ [name], id ∈ ids := by simpa using hr name rfl
        refine alike_of_entry (h.mono hname) (fun members => ?_) rfl rest
        rw [Accessor.apply, Json.member]
        cases Assoc.get? members name with
        | some value => rfl
        | none => exact if_neg (by simpa [isNamed] using ho)
      | .key name :: rest, _ =>
        have hname : ∀ id ∈ [name], id ∈ ids := by simpa using hr name rfl
        exact alike_of_entry (h.mono hname) (fun members => rfl) rfl rest
      | .index n :: rest, ho =>
        have hname : ∀ id ∈ [toString n], id ∈ ids := by simpa [isNamed] using ho
        exact alike_of_entry (h.mono hname) (fun members => rfl) rfl rest

theorem Expression.alike {u v : View} {e : Expression} {ids : List String} (h : View.Agree ids u v)
    (he : e.isNamed ids = true) (hr : ∀ id ∈ e.references, id ∈ ids) : e.Alike u v := by
  cases e with
  | operand o => exact Operand.alike h he fun id hid => hr id (by simp [references, hid])
  | comparison left op right =>
    rw [isNamed, Bool.and_eq_true] at he
    have hl := Operand.alike h he.1 fun id hid => hr id (by simp [references, hid])
    have hright := Operand.alike h he.2 fun id hid => hr id (by simp [references, hid])
    have hvalues : left.evaluate u = left.evaluate v ∧ right.evaluate u = right.evaluate v :=
      ⟨hl.value, hright.value⟩
    have hlongs : left.longMember? u = left.longMember? v ∧ right.longMember? u = right.longMember? v :=
      ⟨hl.long, hright.long⟩
    refine ⟨?_, ?_, rfl, fun ht => absurd rfl ht⟩
    · simp only [evaluate, hvalues]
    · simp only [longMember?, hlongs]

namespace Template

variable {u v : View} {ids : List String}

theorem render_eq {e : Expression} (h : e.Alike u v) : Part.render u (.hole e) = Part.render v (.hole e) := by
  simp only [Part.render, Output.closed, Output.isOpen, Expression.output, h.value, h.tables]
  by_cases ht : e.tables v = []
  · simp only [ht]
    rfl
  · rw [h.levels (h.tables ▸ ht)]
    rfl

theorem eq_of_single? {t : Template} {e : Expression} (h : t.single? = some e) : t = [.hole e] := by
  unfold single? at h
  split at h <;> simp_all

theorem evaluate_eq {t : Template} (h : ∀ e ∈ t.expressions, e.Alike u v) : evaluate u t = evaluate v t := by
  unfold evaluate
  cases hs : t.single? with
  | some e => exact (h e (by simp [eq_of_single? hs, expressions])).value
  | none =>
    have hrender : t.map (Part.render u) = t.map (Part.render v) := by
      refine List.map_congr_left fun part hp => ?_
      cases part with
      | text s => rfl
      | hole e => exact render_eq (h e (List.mem_filterMap.2 ⟨_, hp, rfl⟩))
    dsimp only
    rw [hrender]

theorem findSome?_congr {α β : Type} {items : List α} {f g : α → Option β} (h : ∀ x ∈ items, f x = g x) :
    items.findSome? f = items.findSome? g := by
  induction items with
  | nil => rfl
  | cons first rest ih =>
    rw [List.findSome?_cons, List.findSome?_cons, h first (by simp), ih fun x hx => h x (by simp [hx])]

theorem evaluateChecked_eq {t : Template} (h : ∀ e ∈ t.expressions, e.Alike u v) :
    evaluateChecked u t = evaluateChecked v t := by
  have hlong : t.expressions.findSome? (·.longMember? u) = t.expressions.findSome? (·.longMember? v) :=
    findSome?_congr fun e he => (h e he).long
  rw [evaluateChecked, evaluateChecked, hlong, evaluate_eq h]

/-- Whether the placeholders of a text name the steps that they read. -/
def textNamed (ids : List String) (s : String) : Bool :=
  match compile s with
  | .ok t => t.expressions.all (Expression.isNamed ids)
  | .error _ => true

mutual

/-- Whether every placeholder in a document names the steps that it reads. -/
def named (ids : List String) : Json → Bool
  | .str s => !hasHole s || textNamed ids s
  | .arr items => itemsNamed ids items
  | .obj members => membersNamed ids members
  | _ => true

def itemsNamed (ids : List String) : List Json → Bool
  | [] => true
  | doc :: rest => named ids doc && itemsNamed ids rest

def membersNamed (ids : List String) : List (String × Json) → Bool
  | [] => true
  | (_, doc) :: rest => named ids doc && membersNamed ids rest

end

/-- A condition or the field of a rule may also be an expression that stands bare. -/
def bareNamed (ids : List String) (s : String) : Bool :=
  if hasHole s then textNamed ids s
  else match Expression.parse (trim s) with
    | .ok e => e.isNamed ids
    | .error _ => true

theorem text_alike {s : String} {t : Template} {own : List String} (h : View.Agree ids u v)
    (hs : hasHole s = true)
    (hn : textNamed ids s = true) (ht : compile s = .ok t) (hr : textReferences s = .ok own)
    (hsub : ∀ id ∈ own, id ∈ ids) : ∀ e ∈ t.expressions, e.Alike u v := by
  intro e he
  rw [textNamed, ht] at hn
  rw [textReferences, if_pos hs, ht] at hr
  have hown : t.expressions.flatMap Expression.references = own := Except.ok.inj hr
  refine Expression.alike h (List.all_eq_true.1 hn e he) fun id hid => hsub id ?_
  rw [← hown]
  exact List.mem_flatMap.2 ⟨e, he, hid⟩

theorem resolveText_congr {s : String}
    (h : hasHole s = true → ∀ t, compile s = .ok t → ∀ e ∈ t.expressions, e.Alike u v) :
    resolveText u s = resolveText v s := by
  unfold resolveText
  by_cases hs : hasHole s = true
  · rw [if_pos hs, if_pos hs]
    cases ht : compile s with
    | error e => rfl
    | ok t => exact evaluateChecked_eq (h hs t ht)
  · rw [if_neg hs, if_neg hs]

theorem resolveText_eq {s : String} {own : List String} (h : View.Agree ids u v)
    (hn : hasHole s = true → textNamed ids s = true) (hr : textReferences s = .ok own)
    (hsub : ∀ id ∈ own, id ∈ ids) : resolveText u s = resolveText v s :=
  resolveText_congr fun hs _ ht => text_alike h hs (hn hs) ht hr hsub

theorem tables_text_eq {s : String} {own : List String} (h : View.Agree ids u v)
    (hn : hasHole s = true → textNamed ids s = true) (hr : textReferences s = .ok own)
    (hsub : ∀ id ∈ own, id ∈ ids) : tables u (.str s) = tables v (.str s) := by
  unfold tables
  by_cases hs : hasHole s = true
  · rw [if_pos hs, if_pos hs, textTables, textTables]
    cases ht : compile s with
    | error e => rfl
    | ok t =>
      have halike := text_alike h hs (hn hs) ht hr hsub
      cases hsingle : t.single? with
      | none => simp [hsingle]
      | some e =>
        have htables := (halike e (by simp [eq_of_single? hsingle, expressions])).tables
        simp [hsingle, htables]
  · rw [if_neg hs, if_neg hs]

theorem append_eq_ok {first others : Except ParseError (List String)} {ids : List String}
    (h : (do
      let a ← first
      let b ← others
      return a ++ b) = .ok ids) :
    ∃ a b, first = .ok a ∧ others = .ok b ∧ (∀ id ∈ a, id ∈ ids) ∧ ∀ id ∈ b, id ∈ ids := by
  obtain ⟨a, ha, h⟩ := bind_eq_ok h
  obtain ⟨b, hb, h⟩ := bind_eq_ok h
  cases h
  exact ⟨a, b, ha, hb, fun _ => List.mem_append_left _, fun _ => List.mem_append_right _⟩

mutual

theorem resolve_eq {doc : Json} {own : List String} (h : View.Agree ids u v) (hn : named ids doc = true)
    (hr : references doc = .ok own) (hsub : ∀ id ∈ own, id ∈ ids) :
    resolve u doc = resolve v doc ∧ tables u doc = tables v doc := by
  cases doc with
  | str s =>
    have htext : hasHole s = true → textNamed ids s = true := by
      intro hs
      simpa [named, hs] using hn
    rw [references] at hr
    rw [resolve, resolve]
    exact ⟨resolveText_eq h htext hr hsub, tables_text_eq h htext hr hsub⟩
  | arr items =>
    rw [named] at hn
    rw [references] at hr
    have hitems := resolveItems_eq h hn hr hsub
    rw [resolve, resolve, tables, tables, hitems.1, hitems.2 0]
    exact ⟨rfl, rfl⟩
  | obj members =>
    rw [named] at hn
    rw [references] at hr
    have hmembers := resolveMembers_eq h hn hr hsub
    rw [resolve, resolve, tables, tables, hmembers.1, hmembers.2]
    exact ⟨rfl, rfl⟩
  | null => exact ⟨rfl, rfl⟩
  | bool b => exact ⟨rfl, rfl⟩
  | num n => exact ⟨rfl, rfl⟩

theorem resolveItems_eq {items : List Json} {own : List String} (h : View.Agree ids u v)
    (hn : itemsNamed ids items = true) (hr : itemReferences items = .ok own) (hsub : ∀ id ∈ own, id ∈ ids) :
    resolveItems u items = resolveItems v items ∧ ∀ n, itemTables u n items = itemTables v n items := by
  cases items with
  | nil => exact ⟨rfl, fun n => rfl⟩
  | cons doc rest =>
    rw [itemsNamed, Bool.and_eq_true] at hn
    rw [itemReferences] at hr
    obtain ⟨first, others, hf, ho, hin, hin'⟩ := append_eq_ok hr
    have hfirst := resolve_eq h hn.1 hf fun id hid => hsub id (hin id hid)
    have hrest := resolveItems_eq h hn.2 ho fun id hid => hsub id (hin' id hid)
    refine ⟨?_, fun n => ?_⟩
    · rw [resolveItems, resolveItems, hfirst.1, hrest.1]
    · rw [itemTables, itemTables, hfirst.2, hrest.2]

theorem resolveMembers_eq {members : List (String × Json)} {own : List String} (h : View.Agree ids u v)
    (hn : membersNamed ids members = true) (hr : memberReferences members = .ok own)
    (hsub : ∀ id ∈ own, id ∈ ids) :
    resolveMembers u members = resolveMembers v members ∧
      memberTables u members = memberTables v members := by
  match members with
  | [] => exact ⟨rfl, rfl⟩
  | (name, doc) :: rest =>
    rw [membersNamed, Bool.and_eq_true] at hn
    rw [memberReferences] at hr
    obtain ⟨first, others, hf, ho, hin, hin'⟩ := append_eq_ok hr
    have hfirst := resolve_eq h hn.1 hf fun id hid => hsub id (hin id hid)
    have hrest := resolveMembers_eq h hn.2 ho fun id hid => hsub id (hin' id hid)
    refine ⟨?_, ?_⟩
    · rw [resolveMembers, resolveMembers, hfirst.1, hrest.1]
    · rw [memberTables, memberTables, hfirst.2, hrest.2]

end

theorem parse_empty : Expression.parse "" = .error (.malformed "" .operand none) := by
  have ht : tokens "" = .ok [] := Token.split_nil
  rw [Expression.parse, ht]
  rfl

theorem checked_eq {e : Expression} (h : e.Alike u v) : checked u e = checked v e := by
  rw [checked, checked, h.long, h.value]

theorem evaluateText_eq {s : String} {own : List String} (h : View.Agree ids u v)
    (hn : bareNamed ids s = true)
    (hr : bareReferences s = .ok own) (hsub : ∀ id ∈ own, id ∈ ids) :
    evaluateText u s = evaluateText v s := by
  unfold bareNamed at hn
  unfold bareReferences at hr
  unfold evaluateText
  by_cases hs : hasHole s = true
  · rw [if_pos hs] at hn hr
    rw [if_pos hs, if_pos hs]
    exact resolveText_eq h (fun _ => hn) hr hsub
  · rw [if_neg hs] at hn hr
    rw [if_neg hs, if_neg hs]
    by_cases hb : trim s = ""
    -- nothing is asked of a blank text, but it is no expression in either view
    · rw [hb, parse_empty]
      rfl
    · rw [if_neg hb] at hr
      cases he : Expression.parse (trim s) with
      | error e => rfl
      | ok e =>
        rw [he] at hn hr
        cases hr
        exact checked_eq (Expression.alike h hn hsub)

/-! Paths that start with a number -/

/-- A document with a value at the end of a path without filters. -/
def nest : List Accessor → Json
  | [] => .bool true
  | a :: rest => .obj [((a.name?).getD "", nest rest)]

theorem walk_nest {path : List Accessor} (h : ∀ a ∈ path, a.name?.isSome) :
    walk (nest path) path = .bool true := by
  induction path with
  | nil => rfl
  | cons a rest ih =>
    have hrest := ih fun x hx => h x (by simp [hx])
    have ha := h a (by simp)
    have happly : a.apply (nest (a :: rest)) = nest rest := by
      cases a with
      | filter field op value => simp [Accessor.name?] at ha
      | member name => simp [nest, Accessor.name?, Accessor.apply, Json.member, Assoc.get?]
      | index n => simp [nest, Accessor.name?, Accessor.apply, Json.index, Assoc.get?]
      | key name => simp [nest, Accessor.name?, Accessor.apply, Json.key, Assoc.get?]
    rw [walk, happly, hrest]
    rfl

theorem read_number (n : Int) {rest : List Accessor} (h : ∀ a ∈ rest, a.name?.isSome) :
    ∃ u v : View, (∀ ids : List String, toString n ∉ ids → View.Agree ids u v) ∧
      (Expression.operand (.path .steps (.index n :: rest))).evaluate u ≠
        (Expression.operand (.path .steps (.index n :: rest))).evaluate v := by
  refine ⟨{ steps := .obj [(toString n, nest rest)] }, { steps := .obj [] }, fun ids hn => ?_, ?_⟩
  · refine ⟨rfl, rfl, ⟨_, _, rfl, rfl, fun id hid => ?_⟩, fun id _ => rfl, fun id _ ht => absurd rfl ht⟩
    have hne : toString n ≠ id := fun he => hn (he ▸ hid)
    exact if_neg hne
  · have hleft : (Operand.path .steps (.index n :: rest)).evaluate
        { steps := .obj [(toString n, nest rest)] } =
        .bool true := by
      have happly : (Accessor.index n).apply (.obj [(toString n, nest rest)]) = nest rest := by
        simp [Accessor.apply, Json.index, Assoc.get?]
      rw [Operand.evaluate, View.read, walk, happly, walk_nest h]
      rfl
    have hright : (Operand.path .steps (.index n :: rest)).evaluate { steps := .obj [] } = .null := by
      rw [Operand.evaluate, View.read, walk, show (Accessor.index n).apply (.obj []) = .null from rfl,
        walk_null]
      rfl
    rw [Expression.evaluate, Expression.evaluate, hleft, hright]
    exact Json.noConfusion

/-- A document, and a text that may stand bare, give the same in two views that agree on the steps
that they name, when each number that a path starts with spells one of these. A path that starts
with a number names no step, but reads the entry that the number spells. -/
theorem reads_named_steps {ids : List String} :
    (∀ (doc : Json) (u v : View), references doc = .ok ids → named ids doc = true → View.Agree ids u v →
      resolve u doc = resolve v doc ∧ tables u doc = tables v doc) ∧
    (∀ (s : String) (u v : View), bareReferences s = .ok ids → bareNamed ids s = true → View.Agree ids u v →
      evaluateText u s = evaluateText v s) ∧
    (∀ (n : Int) (rest : List Accessor), (∀ a ∈ rest, a.name?.isSome) →
      (Expression.operand (.path .steps (.index n :: rest))).references = [] ∧
        ∃ u v : View, (∀ others : List String, toString n ∉ others → View.Agree others u v) ∧
          (Expression.operand (.path .steps (.index n :: rest))).evaluate u ≠
            (Expression.operand (.path .steps (.index n :: rest))).evaluate v) := by
  refine ⟨fun doc u v hr hn h => ?_, fun s u v hr hn h => ?_, fun n rest h => ⟨rfl, read_number n h⟩⟩
  · exact resolve_eq h hn hr fun id hid => hid
  · exact evaluateText_eq h hn hr fun id hid => hid

theorem reads_named_steps_of_draft :
    resolve { steps := .obj [("draft", .bool true), ("other", .null)] } (.str "${steps.draft}") =
        resolve { steps := .obj [("draft", .bool true)] } (.str "${steps.draft}") ∧
      evaluateText { steps := .obj [("draft", .bool true), ("other", .null)] } "steps.draft" =
        evaluateText { steps := .obj [("draft", .bool true)] } "steps.draft" ∧
      (Expression.operand (.path .steps [.index 1, .member "output"])).references = [] := by
  have hagree : View.Agree ["draft"] { steps := .obj [("draft", .bool true), ("other", .null)] }
      { steps := .obj [("draft", .bool true)] } := by
    refine ⟨rfl, rfl, ⟨_, _, rfl, rfl, fun id hid => ?_⟩, fun id _ => rfl, fun id _ ht => absurd rfl ht⟩
    rw [List.mem_singleton.1 hid]
    rfl
  have hholes : (references (.str "${steps.draft}")).toOption = some ["draft"] := by decide +kernel
  have hbare : (bareReferences "steps.draft").toOption = some ["draft"] := by decide +kernel
  refine ⟨(reads_named_steps.1 _ _ _ (ok_of_toOption hholes) (by decide +kernel) hagree).1, ?_, ?_⟩
  · exact reads_named_steps.2.1 _ _ _ (ok_of_toOption hbare) (by decide +kernel) hagree
  · exact ((@reads_named_steps []).2.2 1 [.member "output"] (by decide)).1

end Template

end Conductor
