import Conductor.Proofs.Validation.Specification
import Conductor.Proofs.Workflow.Written

/-! A definition is judged alike as a document and once it is read. The checks of a document look at every list of
steps that a step might hold, those of its kind or not; where no step holds a list of another kind, they turn away
nothing that would have been read and accepted. -/

namespace Conductor

open Reading

namespace Reading

variable {β γ : Type}

theorem str_of_required {members : Members} {name s : String} (h : required members name text = done s) :
    Assoc.get? members name = some (.str s) := by
  rw [required, field] at h
  split at h
  · rename_i found value hfind
    obtain ⟨other, hother, hvalue⟩ := List.exists_of_findSome?_eq_some hfind
    obtain rfl := List.mem_singleton.1 hother
    obtain ⟨doc, hget, he⟩ := Option.map_eq_some_iff.1 hvalue
    cases he
    have htext := below_eq_done.1 h
    cases value <;> cases htext
    exact hget
  · cases h

/-- Another default is given only where the field is absent. -/
theorem optional_other {table : Assoc β} {name : String} {read : β → Reading γ} {default a : γ}
    (h : Reading.optional table [name] read default = done a) (other : γ) :
    ∃ b, Reading.optional table [name] read other = done b ∧ (Assoc.has table name = true → b = a) := by
  rw [Reading.optional, field] at h ⊢
  cases hget : Assoc.get? table name with
  | none =>
    have hfind : find table [name] = none := by simp [find, hget]
    rw [hfind]
    exact ⟨other, rfl, fun hhas => by simp [Assoc.has, hget] at hhas⟩
  | some value =>
    have hfind : find table [name] = some (name, value) := by simp [find, hget]
    rw [hfind] at h ⊢
    exact ⟨a, h, fun _ => rfl⟩

end Reading

theorem StepKind.eq_of_type {kind other : StepKind} {doc : Option Json} (h : doc = some (.str kind.name))
    (h' : doc = some (.str other.name)) : kind = other := by
  have hname : kind.name = other.name := Json.str.inj (Option.some.inj (h.symm.trans h'))
  have hkind := ofName?_name kind
  rw [hname, ofName?_name] at hkind
  exact (Option.some.inj hkind).symm

namespace Step

theorem of_ofVariant {members : Members} {nested : Assoc (Reading (List Step))} {step : Step}
    (h : ofVariant members nested = done step) : ∃ kind,
      Assoc.get? members "type" = some (.str (StepKind.name kind)) ∧ ofMembers members nested kind = done step := by
  unfold ofVariant at h
  split at h
  · cases h
  · rename_i s hs
    split at h
    · rename_i kind hkind
      have hname : kind.name = s := by simpa using List.find?_some hkind
      exact ⟨kind, by rw [hs, hname], below_eq_done.1 h⟩
    · cases h
  · cases h

theorem readAll_of_optional {members : Members} {names : List String} {name : String} {doc : Json} {steps : List Step}
    (h : Reading.optional (readNested members) names (fun steps => steps) [] = done steps)
    (hfind : find members names = some (name, doc)) : readAll doc = done steps := by
  rw [Reading.optional, field, find_readNested hfind] at h
  exact below_eq_done.1 h

end Step

namespace Validation

variable {α : Type}

/-- The documents in a list, with those in the lists that each of them holds as a step. -/
inductive Holds (items : List Json) : Json → Prop
  | here {doc : Json} : doc ∈ items → Holds items doc
  | nested {members : Members} {name : String} {inner : List Json} {doc : Json} : Holds items (.obj members) →
    name ∈ nestedFields → Assoc.get? members name = some (.arr inner) → doc ∈ inner → Holds items doc

/-- A step holds further steps under the names of its kind only, and under one of two names for the same. -/
structure InPlace (members : Members) : Prop where
  condition : ∀ name ∈ ["then", "else", "else_"], Assoc.has members name = true →
    Assoc.get? members "type" = some (.str "condition")
  parallel : Assoc.has members "branches" = true → Assoc.get? members "type" = some (.str "parallel")
  once : ¬ (Assoc.has members "else" = true ∧ Assoc.has members "else_" = true)

def AllInPlace (items : List Json) : Prop := ∀ members, Holds items (.obj members) → InPlace members

/-- All steps of a document hold their steps in place. -/
def Placed (doc : Json) : Prop :=
  ∀ top items, doc = .obj top → Assoc.get? top "steps" = some (.arr items) → AllInPlace items

theorem Holds.mono {items more : List Json} {doc : Json} (hsub : items ⊆ more) (h : Holds items doc) :
    Holds more doc := by
  induction h with
  | here hd => exact .here (hsub hd)
  | nested _ hname hget hd ih => exact .nested ih hname hget hd

theorem Holds.trans {items inner : List Json} {doc : Json} (hi : ∀ d ∈ inner, Holds items d) (h : Holds inner doc) :
    Holds items doc := by
  induction h with
  | here hd => exact hi _ hd
  | nested _ hname hget hd ih => exact .nested ih hname hget hd

theorem AllInPlace.mono {items more : List Json} (h : AllInPlace more) (hsub : items ⊆ more) : AllInPlace items :=
  fun members hm => h members (hm.mono hsub)

theorem AllInPlace.nested {items inner : List Json} {members : Members} {name : String} (h : AllInPlace items)
    (hm : .obj members ∈ items) (hname : name ∈ nestedFields) (hget : Assoc.get? members name = some (.arr inner)) :
    AllInPlace inner :=
  fun others ho => h others (ho.trans fun _ hd => .nested (.here hm) hname hget hd)

/-! What is read was checked -/

/-- Every list of steps that a step in place holds is read with it. -/
theorem readAll_of_read {members : Members} {step : Step} {name : String} {doc : Json} (hp : InPlace members)
    (hread : Step.read (.obj members) = done step) (hname : name ∈ nestedFields)
    (hget : Assoc.get? members name = some doc) : ∃ steps, Step.readAll doc = done steps := by
  obtain ⟨kind, hkind, hsteps⟩ := Step.of_ofVariant hread
  have hhas : Assoc.has members name = true := by
    rw [Assoc.has, hget]
    rfl
  have hfind {names : List String} : find members (name :: names) = some (name, doc) := by
    rw [find, List.findSome?_cons, hget]
    rfl
  by_cases hbranches : name = "branches"
  · subst hbranches
    obtain rfl : kind = .parallel := StepKind.eq_of_type hkind (hp.parallel hhas)
    simp only [Step.ofMembers, seq_eq_done, map_eq_done] at hsteps
    obtain ⟨_, branches, ⟨_, _, rfl⟩, hbranches, rfl⟩ := hsteps
    exact ⟨branches, Step.readAll_of_optional hbranches hfind⟩
  · have hcondition : name ∈ ["then", "else", "else_"] := by
      simpa [nestedFields, hbranches] using hname
    obtain rfl : kind = .condition := StepKind.eq_of_type hkind (hp.condition name hcondition hhas)
    simp only [Step.ofMembers, seq_eq_done, map_eq_done] at hsteps
    obtain ⟨_, whenFalse, ⟨_, whenTrue, ⟨_, _, ⟨_, _, rfl⟩, _, rfl⟩, htrue, rfl⟩, hfalse, rfl⟩ := hsteps
    simp only [List.mem_cons, List.not_mem_nil, or_false] at hcondition
    rcases hcondition with rfl | rfl | rfl
    · exact ⟨whenTrue, Step.readAll_of_optional htrue hfind⟩
    · exact ⟨whenFalse, Step.readAll_of_optional hfalse hfind⟩
    · -- the shorter name would go first, but it is not there as well
      have helse : Assoc.get? members "else" = none := by
        have hnot : ¬ Assoc.has members "else" = true := fun h => hp.once ⟨h, hhas⟩
        simpa [Assoc.has] using hnot
      have hsecond : find members ["else", "else_"] = some ("else_", doc) := by
        rw [find, List.findSome?_cons, helse]
        exact hfind
      exact ⟨whenFalse, Step.readAll_of_optional hfalse hsecond⟩

theorem get?_nestedKinds (members : Members) (name : String) :
    Assoc.get? (nestedKinds members) name = (Assoc.get? members name).map checkListKinds := by
  induction members with
  | nil => rfl
  | cons entry rest ih =>
    obtain ⟨k, doc⟩ := entry
    by_cases h : k = name <;> simp [nestedKinds, Assoc.get?, h, ih]

mutual

theorem checkStepKinds_of_read {doc : Json} {step : Step} (hp : AllInPlace [doc]) (hread : Step.read doc = done step) :
    checkStepKinds doc = .ok () := by
  cases doc with
  | obj members =>
    have hkind : checkKind members = .ok () := by
      obtain ⟨kind, hkind, -⟩ := Step.of_ofVariant hread
      rw [checkKind, hkind]
      dsimp only
      rw [StepKind.ofName?_name]
      rfl
    have hplace : InPlace members := hp members (.here List.mem_cons_self)
    rw [checkStepKinds, hkind]
    refine ok_of_forM fun name hname => ?_
    rw [get?_nestedKinds]
    cases hget : Assoc.get? members name with
    | none => rfl
    | some inner =>
      obtain ⟨steps, hsteps⟩ := readAll_of_read hplace hread hname hget
      refine checkMembers_of_read (fun items he => ?_) hget hsteps
      rw [he] at hget
      exact hp.nested List.mem_cons_self hname hget
  | null | bool | num | str | arr => cases hread

theorem checkAllKinds_of_readItems {items : List Json} {n : Nat} {steps : List Step} (hp : AllInPlace items)
    (hread : Step.readItems n items = done steps) : checkAllKinds items = .ok () := by
  cases items with
  | nil => rfl
  | cons doc rest =>
    simp only [Step.readItems, seq_eq_done, map_eq_done, below_eq_done] at hread
    obtain ⟨_, others, ⟨step, hstep, rfl⟩, hothers, rfl⟩ := hread
    rw [checkAllKinds, checkStepKinds_of_read (hp.mono (by simp)) hstep]
    exact checkAllKinds_of_readItems (hp.mono (by simp)) hothers

theorem checkListKinds_of_readAll {doc : Json} {steps : List Step} (hp : ∀ items, doc = .arr items → AllInPlace items)
    (hread : Step.readAll doc = done steps) : checkListKinds doc = .ok () := by
  cases doc with
  | arr items => exact checkAllKinds_of_readItems (hp items rfl) hread
  | null | bool | num | str | obj => cases hread

theorem checkMembers_of_read {members : List (String × Json)} {name : String} {doc : Json} {steps : List Step}
    (hp : ∀ items, doc = .arr items → AllInPlace items) (hget : Assoc.get? members name = some doc)
    (hread : Step.readAll doc = done steps) : checkListKinds doc = .ok () := by
  cases members with
  | nil => cases hget
  | cons entry rest =>
    obtain ⟨k, first⟩ := entry
    rw [Assoc.get?] at hget
    by_cases hk : k = name
    · rw [if_pos hk] at hget
      obtain rfl := Option.some.inj hget
      exact checkListKinds_of_readAll hp hread
    · rw [if_neg hk] at hget
      exact checkMembers_of_read hp hget hread

end

theorem parse_eq_ok {fresh : String} {doc : Json} {d : Definition} :
    parse fresh doc = .ok d ↔ Definition.read fresh doc = done d := by
  rw [parse]
  cases Definition.read fresh doc <;> simp

theorem read_other {fresh : String} {doc : Json} {d : Definition} (h : Definition.read fresh doc = done d)
    (other : String) : ∃ id, Definition.read other doc = done { d with id := id } ∧
      (Definition.needsId doc = false → id = d.id) := by
  cases doc with
  | obj members =>
    simp only [Definition.read, record, seq_eq_done, map_eq_done] at h
    obtain ⟨_, steps, ⟨_, description, ⟨_, name, ⟨id, hid, rfl⟩, hname, rfl⟩, hdescription, rfl⟩, hsteps, rfl⟩ := h
    obtain ⟨id', hid', hsame⟩ := optional_other hid other
    refine ⟨id', ?_, fun hneeds => hsame (by simpa [Definition.needsId] using hneeds)⟩
    simp only [Definition.read, record, hid', hname, hdescription, hsteps, map_done, seq_done]
  | null | bool | num | str | arr => cases h

/-- Steps that are read, and are not none, are listed in the document. -/
theorem checkSteps_of_read {members : Members} {steps : List Step}
    (hp : ∀ items, Assoc.get? members "steps" = some (.arr items) → AllInPlace items)
    (hread : Reading.optional members ["steps"] Step.readAll [] = done steps) (hsteps : steps ≠ []) :
    checkSteps ((Assoc.get? members "steps").getD .null) = .ok () := by
  rw [Reading.optional, field] at hread
  cases hget : Assoc.get? members "steps" with
  | none =>
    have hfind : find members ["steps"] = none := by simp [find, hget]
    rw [hfind] at hread
    cases hread
    exact absurd rfl hsteps
  | some listed =>
    have hfind : find members ["steps"] = some ("steps", listed) := by simp [find, hget]
    rw [hfind] at hread
    have hitems := below_eq_done.1 hread
    cases listed with
    | arr items =>
      cases items with
      | nil =>
        cases hitems
        exact absurd rfl hsteps
      | cons first rest => exact checkAllKinds_of_readItems (hp _ hget) hitems
    | null | bool | num | str | obj => cases hitems

theorem checkDocument_of_check {r : Registry α} {fresh : String} {doc : Json} {d : Definition} (hp : Placed doc)
    (hread : Definition.read fresh doc = done d) (hcheck : check r d = .ok ()) : checkDocument doc = .ok () := by
  obtain ⟨hblank, hsteps⟩ := name_of_check hcheck
  cases doc with
  | obj members =>
    simp only [Definition.read, record, seq_eq_done, map_eq_done] at hread
    obtain ⟨_, steps, ⟨_, _, ⟨_, name, ⟨_, _, rfl⟩, hname, rfl⟩, _, rfl⟩, hread, rfl⟩ := hread
    have hcheckName : checkName (Assoc.get? members "name") = .ok () := by
      rw [str_of_required hname, checkName, if_neg (Bool.eq_false_iff.1 hblank)]
    rw [checkDocument, hcheckName]
    exact checkSteps_of_read (fun items => hp members items rfl) hread hsteps
  | null | bool | num | str | arr => cases hread

theorem checkRead_eq_ok {r : Registry α} {fresh : String} {doc : Json} {d : Definition} (hp : Placed doc) :
    checkRead r fresh doc = .ok d ↔ Definition.read fresh doc = done d ∧ check r d = .ok () := by
  constructor
  · intro h
    obtain ⟨_, _, hread⟩ := bind_eq_ok h
    obtain ⟨d', hparse, hcheck⟩ := bind_eq_ok hread
    obtain ⟨_, hok, hd⟩ := bind_eq_ok hcheck
    cases hd
    exact ⟨parse_eq_ok.1 hparse, hok⟩
  · rintro ⟨hread, hok⟩
    rw [checkRead, checkDocument_of_check hp hread hok, parse_eq_ok.2 hread]
    show (check r d >>= fun _ => pure d) = _
    rw [hok]
    rfl

/-- A document whose steps are in place is accepted exactly when what is read of it is, and as the same definition
up to a fresh id: its own checks only choose the message. -/
theorem judges_documents_alike {r : Registry α} {doc : Json} (hp : Placed doc) (fresh other : String) :
    ((∃ d, checkRead r fresh doc = .ok d) ↔ ∃ d, parse other doc = .ok d ∧ check r d = .ok ()) ∧
      ∀ d d', checkRead r fresh doc = .ok d → parse other doc = .ok d' →
        d = { d' with id := d.id } ∧ (Definition.needsId doc = false → d = d') := by
  refine ⟨⟨?_, ?_⟩, fun d d' h h' => ?_⟩
  · rintro ⟨d, h⟩
    obtain ⟨hread, hok⟩ := (checkRead_eq_ok hp).1 h
    obtain ⟨id, hother, -⟩ := read_other hread other
    exact ⟨_, parse_eq_ok.2 hother, hok⟩
  · rintro ⟨d, hparse, hok⟩
    obtain ⟨id, hfresh, -⟩ := read_other (parse_eq_ok.1 hparse) fresh
    exact ⟨_, (checkRead_eq_ok hp).2 ⟨hfresh, hok⟩⟩
  · obtain ⟨id, hfresh, hid⟩ := read_other (parse_eq_ok.1 h') fresh
    cases ((checkRead_eq_ok hp).1 h).1.symm.trans hfresh
    exact ⟨rfl, fun hneeds => by rw [hid hneeds]⟩

theorem judges_documents_alike_of_condition :
    let inner : Json := .obj [("type", .str "transform"), ("id", .str "b")]
    let step : Json := .obj [("type", .str "condition"), ("id", .str "a"), ("condition", .str "input.x"),
      ("else", .arr [inner])]
    ∃ d, checkRead (⟨[]⟩ : Registry Unit) "fresh" (.obj [("name", .str "w"), ("steps", .arr [step])]) = .ok d := by
  intro inner step
  have hall : ∀ doc, Holds [step] doc → doc = step ∨ doc = inner := by
    intro doc h
    induction h with
    | here hd => exact .inl (List.mem_singleton.1 hd)
    | nested _ hname hget hd ih =>
      simp only [nestedFields, List.mem_cons, List.not_mem_nil, or_false] at hname
      rcases ih with he | he
      · obtain rfl := Json.obj.inj he
        rcases hname with rfl | rfl | rfl | rfl <;> cases hget
        exact .inr (List.mem_singleton.1 hd)
      · obtain rfl := Json.obj.inj he
        rcases hname with rfl | rfl | rfl | rfl <;> cases hget
  have hplaced : Placed (.obj [("name", .str "w"), ("steps", .arr [step])]) := by
    intro top items hdoc hget members hm
    cases hdoc
    cases hget
    rcases hall _ hm with he | he
    · obtain rfl := Json.obj.inj he
      exact ⟨fun _ _ _ => rfl, nofun, fun h => nomatch h.2⟩
    · obtain rfl := Json.obj.inj he
      have habsent : ∀ name ∈ ["then", "else", "else_"], Assoc.has [("type", Json.str "transform"), ("id", .str "b")]
          name = false := by
        decide
      exact ⟨fun name hname hhas => by simp [habsent name hname] at hhas, nofun, fun h => nomatch h.1⟩
  let d : Definition :=
    { id := "other", name := "w", description := none,
      steps := [.condition "a" "input.x" [] [.transform "b" [] none]] }
  have hcheck : check (⟨[]⟩ : Registry Unit) d = .ok () := ok_of_toOption (by decide +kernel)
  exact (judges_documents_alike hplaced "fresh" "other").1.2 ⟨d, rfl, hcheck⟩

end Validation

end Conductor
