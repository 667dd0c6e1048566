import Conductor.Proofs.Engine.Apart
import Conductor.Proofs.Engine.Uses
import Conductor.Proofs.Store.Workflows

/-! A definition that is accepted is the one that runs from then on, whatever else is asked: it is kept under its id,
and nothing else ever is. -/

namespace Conductor

open Store

namespace World

variable {α β : Type} {env : Setting} {base a b w : World} {m : Remit} {kept : List StoredWorkflow}

/-! What is kept stays, and more comes after it -/

theorem New.keeps (h : w.New) : w.store.Keeps [] := by
  rcases h with h | h <;> rw [h]
  · exact ⟨.inl rfl, List.nodup_nil⟩
  · exact ⟨.inr rfl, List.nodup_nil⟩

theorem Stride.keeps (h : Stride env base m a b) (ha : a.store.Keeps kept) :
    ∃ more, b.store.Keeps (kept ++ more) := by
  cases h.onShelf with
  | same h => exact ⟨[], by simpa using ha.same h⟩
  | @shelved d ok store =>
    have hadding := ha.adding d a.time
    rw [store]
    generalize Store.createWorkflow d a.time a.store = out at hadding
    cases hadding with
    | refused taken => exact ⟨[], by simpa using ha⟩
    | added keeps => exact ⟨_, keeps⟩

theorem Path.keeps (h : Path env base m a b) (ha : a.store.Keeps kept) : ∃ more, b.store.Keeps (kept ++ more) := by
  induction h with
  | refl => exact ⟨[], by simpa using ha⟩
  | tail _ hs ih =>
    obtain ⟨first, hfirst⟩ := ih
    obtain ⟨second, hsecond⟩ := hs.keeps hfirst
    exact ⟨first ++ second, by rwa [← List.append_assoc]⟩

/-! Others alone -/

/-- Others go on, and no agent is called. -/
def Aloof (env : Setting) (base a b : World) : Prop := Tends env base {} a b ∧ SameCalls a b

instance : IsPreorder World (Aloof env base) where
  refl a := ⟨Std.Refl.refl a, Std.Refl.refl a⟩
  trans _ _ _ h h' := ⟨IsTrans.trans _ _ _ h.1 h'.1, IsTrans.trans _ _ _ h.2 h'.2⟩

instance (action : Act World α) [h : Act.Follows (Tends env base {}) action] [hi : Act.Idles action] :
    Act.Follows (Aloof env base) action := ⟨fun w => ⟨h.within w, (hi.within w).calls⟩⟩

theorem Aloof.shelf (h : Aloof env base a b) (hr : Ready base a) : b.store.shelf = a.store.shelf :=
  (h.1 hr).1.shelf fun hm : False => hm

theorem Aloof.ready (h : Aloof env base a b) (hr : Ready base a) : Ready base b := (h.1 hr).1.ready hr

/-- Others who never arrive, and of whom no agent asks anything, leave the store as it is. -/
theorem Stride.still (h : Stride env base {} a b) (hcalls : b.calls = base.calls) (henv : ∀ n, env.arrivals n = []) :
    b.store = a.store := by
  cases h.moved with
  | idle store past issued => exact store
  | asked request past =>
    cases request with
    | looked store issued => exact store
    | @turned id e e' turn found replaced shelf issued =>
      cases turn with
      | cancelled why was is =>
        cases why with
        | asked hm => exact hm.elim
        | passed hp =>
          obtain ⟨earlier, call, script, hbase, hrest, -⟩ := hp
          have hlong := hbase.length_le
          have hshort := (hrest.trans h.calls).length_le
          rw [hcalls, List.length_append, List.length_singleton] at hshort
          omega
        | arrived ha =>
          obtain ⟨n, -, -, hid⟩ := ha
          rw [henv n] at hid
          cases hid
      | started ok | completed ok | failed ok | aborted ok | results ok | dropped ok => exact ok.elim
    | opened ok | recorded ok | rewrote ok | shelved ok => exact ok.elim

theorem Path.still (h : Path env base {} a b) (hr : base.calls <+: a.calls) (hcalls : b.calls = base.calls)
    (henv : ∀ n, env.arrivals n = []) : b.store = a.store := by
  induction h with
  | refl => rfl
  | @tail mid b hpath hs ih =>
    have hmid : base.calls <+: mid.calls := hr.trans (Path.calls hpath)
    have hsame : base.calls = mid.calls :=
      hmid.eq_of_length (Nat.le_antisymm hmid.length_le (hcalls ▸ hs.calls.length_le))
    exact (hs.still hcalls henv).trans (ih hsame.symm)

/-- A request that fails and leaves everything as it is, but for the runs that others cancel meanwhile. -/
structure Refused (env : Setting) (w : World) (out : Except Failure α × World) : Prop where
  failed : ∃ f, out.1 = .error f
  workflows : out.2.store.shelf = w.store.shelf
  records : out.2.store.records = w.store.records
  executions : ∀ id, Spared env w w out.2 id
  alone : (∀ n, env.arrivals n = []) → out.2.store = w.store

/-- A request that fails, and of which the world shows no more than that others go on. -/
structure Barred (env : Setting) (base w : World) (out : Except Failure α × World) : Prop where
  failed : ∃ f, out.1 = .error f
  aloof : Aloof env base w out.2

theorem Barred.refused {out : Except Failure α × World} (h : Barred env w w out) (hw : w.Fresh) :
    Refused env w out := by
  obtain ⟨hpath, hrecords⟩ := h.aloof.1 hw.ready
  exact ⟨h.failed, h.aloof.shelf hw.ready, hrecords, fun id => hpath.spared (fun hm : False => hm) fun hm : False => hm,
    hpath.still List.prefix_rfl h.aloof.2⟩

theorem barred_error (f : Failure) (w : World) : Barred env base w ((.error f, w) : Except Failure α × World) :=
  ⟨⟨f, rfl⟩, Std.Refl.refl w⟩

theorem barred_bind {first : Act World α} {next : α → Act World β} [hfirst : Act.Follows (Aloof env base) first]
    (hnext : ∀ v t, first w = (.ok v, t) → Aloof env base w t → Barred env base t (next v t)) :
    Barred env base w ((first >>= next) w) := by
  have haloof := hfirst.within w
  rw [Act.bind_apply]
  rcases hout : first w with ⟨f | v, t⟩
  · rw [hout] at haloof
    exact ⟨⟨f, rfl⟩, haloof⟩
  · rw [hout] at haloof
    obtain ⟨hfailed, hrest⟩ := hnext v t hout haloof
    exact ⟨hfailed, IsTrans.trans _ _ _ haloof hrest⟩

/-! Requests about workflows -/

variable {d : Definition} {x : StoredWorkflow} {stored : StoredWorkflow} {t : World}

theorem Awaited.keeps {mid : World} (h : Awaited env base w mid) (hk : w.store.Keeps kept) : mid.store.Keeps kept :=
  hk.same (h.path.shelf fun hm : False => hm)

/-- A workflow is added once others have had their turn, unless the request fails before. -/
theorem adding_createWorkflow (d : Definition) (hr : Ready base w) (hk : w.store.Keeps kept) :
    (∃ message, (createWorkflow env d w).1 = .error (.raised message)) ∨
      ∃ now s, Adding d now s kept ((createWorkflow env d w).1, (createWorkflow env d w).2.store) := by
  obtain ⟨mid, hmid, ⟨message, u, hout⟩ | hout⟩ :=
    awaited env .createWorkflow (now >>= fun time => onStore (Store.createWorkflow d time)) hr
  · exact .inl ⟨message, congrArg Prod.fst hout⟩
  · have hcreate : createWorkflow env d w = reported (onStore (Store.createWorkflow d mid.time) mid) := hout
    rw [hcreate]
    exact .inr ⟨mid.time, mid.store, (hmid.keeps hk).adding d mid.time⟩

theorem barred_createWorkflow (hr : Ready base w) (hk : w.store.Keeps kept) (ht : d.id ∈ kept.map StoredWorkflow.id) :
    Barred env base w (createWorkflow env d w) := by
  refine ⟨?_, tends_requested fun mid hmid => ?_, (Act.Follows.within w : Idle w _).calls⟩
  · rcases @adding_createWorkflow env base w kept d hr hk with ⟨message, hout⟩ | ⟨now, s, hadding⟩
    · exact ⟨_, hout⟩
    · exact ⟨_, congrArg Prod.fst (hadding.of_taken ht)⟩
  · have hsame : (Store.createWorkflow d mid.time mid.store).2 = mid.store :=
      congrArg Prod.snd (((hmid.keeps hk).adding d mid.time).of_taken ht)
    exact tends_of_asked (fun _ => ⟨.looked hsame rfl, congrArg Store.records hsame⟩) rfl rfl rfl rfl

theorem keeps_createWorkflow (hr : Ready base w) (hk : w.store.Keeps kept)
    (h : createWorkflow env d w = (.ok stored, t)) : stored.definition = d ∧ t.store.Keeps (kept ++ [stored]) := by
  have hout := @adding_createWorkflow env base w kept d hr hk
  rw [h] at hout
  rcases hout with ⟨message, hout⟩ | ⟨now, s, hadding⟩
  · cases hout
  · cases hadding with
    | added keeps => exact ⟨rfl, keeps⟩

theorem findWorkflow_of_mem (hr : Ready base w) (hk : w.store.Keeps kept) (hx : x ∈ kept)
    (hfinite : x.definition.toJson.isFinite = true) :
    (∃ message, (findWorkflow env x.id w).1 = .error (.raised message)) ∨
      (findWorkflow env x.id w).1 = .ok (some x) := by
  obtain ⟨mid, hmid, ⟨message, u, hout⟩ | hout⟩ := awaited env .findWorkflow (onStore (Store.findWorkflow x.id)) hr
  · exact .inl ⟨message, congrArg Prod.fst hout⟩
  · refine .inr ((congrArg Prod.fst hout).trans ?_)
    have hmid := hmid.keeps hk
    show (Store.findWorkflow x.id mid.store).1 = _
    rw [hmid.findWorkflow, hmid.find_of_mem hx, Option.map_some, giving_of_isFinite _ hfinite]

end World

namespace Engine

open World

variable {env : Setting} {base w t : World} {kept : List StoredWorkflow} {d : Definition} {doc : Json}
  {stored : StoredWorkflow}

instance (doc : Json) : Act.Idles (readDefinition doc) := by
  have hname : Act.Idles (modify fun w : World => { w with named := w.named + 1 }) :=
    Act.follows_modify fun _ => idle_of_eq rfl rfl rfl (Nat.le_refl _) rfl rfl
  unfold readDefinition
  infer_instance

/-! Under an id that is taken nothing is stored -/

theorem barred_store (hr : Ready base w) (hk : w.store.Keeps kept) (ht : d.id ∈ kept.map StoredWorkflow.id) :
    Barred env base w (store env d w) := by
  unfold store
  by_cases hc : (Catalog.workflow? d.id).isSome = true
  · rw [if_pos hc]
    exact barred_error _ w
  · rw [if_neg hc]
    refine barred_bind fun found u _ hu => ?_
    by_cases hf : found.isSome = true
    · rw [if_pos hf]
      exact barred_error _ u
    · rw [if_neg hf]
      exact barred_createWorkflow (hu.ready hr) (hk.same (hu.shelf hr)) ht

theorem barred_createModel (hr : Ready base w) (hk : w.store.Keeps kept) (ht : d.id ∈ kept.map StoredWorkflow.id) :
    Barred env base w (createModel env d w) :=
  barred_bind fun _ _ _ hu => barred_store (hu.ready hr) (hk.same (hu.shelf hr)) ht

theorem barred_createCustom (hr : Ready base w) (hk : w.store.Keeps kept) (ht : d.id ∈ kept.map StoredWorkflow.id)
    (hread : (readDefinition doc w).1 = .ok d) : Barred env base w (createCustom env doc w) := by
  refine barred_bind fun _ u hu _ => ?_
  obtain ⟨-, rfl⟩ := Act.ofExcept_ok hu
  refine barred_bind fun d' u hout hu => ?_
  rw [hout] at hread
  cases hread
  exact barred_createModel (hu.ready hr) (hk.same (hu.shelf hr)) ht

/-- An attempt to add a workflow under some id, with what comes of it. -/
inductive Attempt (env : Setting) (w : World) (id : String) : Except Failure StoredWorkflow × World → Prop
  | document {doc : Json} {d : Definition} (read : (readDefinition doc w).1 = .ok d) (named : d.id = id) :
      Attempt env w id (createCustom env doc w)
  | model {d : Definition} (named : d.id = id) : Attempt env w id (createModel env d w)
  | direct {d : Definition} (named : d.id = id) : Attempt env w id (World.createWorkflow env d w)

theorem Attempt.barred {id : String} {out : Except Failure StoredWorkflow × World} (h : Attempt env w id out)
    (hr : Ready base w) (hk : w.store.Keeps kept) (ht : id ∈ kept.map StoredWorkflow.id) : Barred env base w out := by
  cases h with
  | document read named => exact barred_createCustom hr hk (named ▸ ht) read
  | model named => exact barred_createModel hr hk (named ▸ ht)
  | direct named => exact barred_createWorkflow hr hk (named ▸ ht)

/-! What is accepted is kept -/

/-- A definition is accepted, be it out of a document or as it is, all numbers in it being finite. -/
inductive Accepts (env : Setting) (w : World) (d : Definition) (stored : StoredWorkflow) (t : World) : Prop
  | document {doc : Json} (finite : doc.isFinite = true) (read : (readDefinition doc w).1 = .ok d)
      (accepted : createCustom env doc w = (.ok stored, t))
  | model (finite : d.toJson.isFinite = true) (accepted : createModel env d w = (.ok stored, t))

/-- A definition has gone into the store. -/
structure Entered (env : Setting) (base : World) (d : Definition) (stored : StoredWorkflow) (t : World) : Prop where
  definition : stored.definition = d
  custom : Catalog.workflow? d.id = none
  ready : Ready base t
  keeps : ∃ kept, t.store.Keeps (kept ++ [stored])

theorem entered_store (hr : Ready base w) (hk : w.store.Keeps kept) (h : store env d w = (.ok stored, t)) :
    Entered env base d stored t := by
  have hall : Act.Follows (Tends env base .anything) (store env d) := follows_store trivial d
  have hready : Ready base (store env d w).2 := (hall.within w hr).1.ready hr
  rw [h] at hready
  unfold store at h
  by_cases hc : (Catalog.workflow? d.id).isSome = true
  · rw [if_pos hc] at h
    cases h
  · rw [if_neg hc] at h
    obtain ⟨found, u, hfind, hcreate⟩ := Act.bind_ok h
    have haloof : Aloof env base w (World.findWorkflow env d.id w).2 := Act.Follows.within w
    rw [hfind] at haloof
    by_cases hf : found.isSome = true
    · rw [if_pos hf] at hcreate
      cases hcreate
    · rw [if_neg hf] at hcreate
      obtain ⟨hd, hkeeps⟩ := keeps_createWorkflow (haloof.ready hr) (hk.same (haloof.shelf hr)) hcreate
      exact ⟨hd, Option.not_isSome_iff_eq_none.1 hc, hready, _, hkeeps⟩

theorem entered_createModel (hr : Ready base w) (hk : w.store.Keeps kept) (h : createModel env d w = (.ok stored, t)) :
    Entered env base d stored t := by
  obtain ⟨_, u, hcheck, hstore⟩ := Act.bind_ok h
  obtain ⟨-, rfl⟩ := Act.ofExcept_ok hcheck
  exact entered_store hr hk hstore

theorem entered_createCustom (hr : Ready base w) (hk : w.store.Keeps kept) (hread : (readDefinition doc w).1 = .ok d)
    (h : createCustom env doc w = (.ok stored, t)) : Entered env base d stored t := by
  obtain ⟨_, u, hcheck, h⟩ := Act.bind_ok h
  obtain ⟨-, rfl⟩ := Act.ofExcept_ok hcheck
  obtain ⟨d', u, hout, h⟩ := Act.bind_ok h
  have haloof : Aloof env base w (readDefinition doc w).2 := Act.Follows.within w
  rw [hout] at hread haloof
  cases hread
  exact entered_createModel (haloof.ready hr) (hk.same (haloof.shelf hr)) h

theorem isFinite_of_readDefinition (h : doc.isFinite = true) (hread : (readDefinition doc w).1 = .ok d) :
    d.toJson.isFinite = true := by
  have hparse : ∃ n : Nat, (readDefinition doc w).1 = (Validation.parse s!"wf-{n}" doc).mapError Failure.ofDefect := by
    unfold readDefinition
    by_cases hn : Definition.needsId doc = true
    · rw [if_pos hn]
      exact ⟨w.named + 1, congrArg Prod.fst (Act.ofExcept_apply ..)⟩
    · rw [if_neg hn]
      exact ⟨w.named, congrArg Prod.fst (Act.ofExcept_apply ..)⟩
  obtain ⟨n, hparse⟩ := hparse
  have hdone := mapError_eq_ok (hparse ▸ hread)
  unfold Validation.parse at hdone
  split at hdone
  · next hdef =>
    cases hdone
    exact Definition.isFinite_of_read h hdef
  · cases hdone

theorem Accepts.isFinite (h : Accepts env w d stored t) : d.toJson.isFinite = true := by
  cases h with
  | document finite read => exact isFinite_of_readDefinition finite read
  | model finite => exact finite

theorem Entered.of_accepts (h : Accepts env w d stored t) (hr : Ready base w) (hk : w.store.Keeps kept) :
    Entered env base d stored t := by
  cases h with
  | document finite read accepted => exact entered_createCustom hr hk read accepted
  | model finite accepted => exact entered_createModel hr hk accepted

/-- A definition has its place: its id stands for it alone, in the store and wherever a workflow is to be run. -/
structure Stands (env : Setting) (d : Definition) (stored : StoredWorkflow) (w : World) : Prop where
  definition : stored.definition = d
  found : (Store.findWorkflow d.id w.store).1 = .ok (some stored)
  runs : (findDefinition env d.id w).1 = .ok d ∨ ∃ message, (findDefinition env d.id w).1 = .error (.raised message)
  custom : Catalog.workflow? d.id = none
  once : ∃ listed, (Store.listWorkflows w.store).1 = .ok listed ∧ stored ∈ listed ∧
    (listed.map StoredWorkflow.id).count d.id = 1
  taken : ∀ out, Attempt env w d.id out → Refused env w out

theorem findDefinition_of_mem (hr : Ready base w) (hk : w.store.Keeps kept) (hmem : stored ∈ kept)
    (hfinite : stored.definition.toJson.isFinite = true) (hcustom : Catalog.workflow? stored.id = none) :
    (findDefinition env stored.id w).1 = .ok stored.definition ∨
      ∃ message, (findDefinition env stored.id w).1 = .error (.raised message) := by
  have hfind := @findWorkflow_of_mem env base w kept stored hr hk hmem hfinite
  rw [findDefinition, hcustom]
  dsimp only
  rw [Act.bind_apply, Act.andThen]
  rcases hfind with ⟨message, hf⟩ | hf
  · rw [hf]
    exact .inr ⟨message, rfl⟩
  · rw [hf]
    exact .inl rfl

theorem Entered.stands {u : World} (h : Entered env base d stored t) (hfinite : d.toJson.isFinite = true) {m : Remit}
    (hpath : Path env base m t u) : Stands env d stored u := by
  obtain ⟨rfl, hcustom, hready, kept, hkeeps⟩ := h
  obtain ⟨more, hmore⟩ := hpath.keeps hkeeps
  have hmem : stored ∈ kept ++ [stored] ++ more := by simp
  have hu := hpath.ready hready
  refine ⟨rfl, ?_, findDefinition_of_mem hu hmore hmem hfinite hcustom, hcustom, ?_, fun out ha => ?_⟩
  · rw [hmore.findWorkflow, hmore.find_of_mem hmem, Option.map_some, giving_of_isFinite _ hfinite]
  · obtain ⟨listed, hlist, hlisted, hcount⟩ := hmore.listed_once hmem
    exact ⟨listed, hlist, giving_of_isFinite _ hfinite ▸ hlisted, hcount⟩
  · exact (ha.barred hu.fresh.ready hmore (List.mem_map_of_mem hmem)).refused hu.fresh

/-- Whatever happened before a definition was accepted, and whatever has happened since. -/
theorem accepted_stands (env : Setting) {w : World} (hw : w.New) (before after : List Use)
    (h : Accepts env (Use.runAll env before w) d stored t) : Stands env d stored (Use.runAll env after t) := by
  have hbefore : Path env w .anything w (Use.runAll env before w) := Use.path before hw.fresh.ready
  obtain ⟨kept, hkept⟩ := hbefore.keeps hw.keeps
  have hkeeps : Entered env w d stored t := Entered.of_accepts h (hbefore.ready hw.fresh.ready) hkept
  exact hkeeps.stands h.isFinite (Use.path after hkeeps.ready)

/-- A document is accepted beside another workflow, and then asked for again in three ways. -/
theorem accepted_stands_against_later_attempts :
    let doc := Json.obj [("id", .str "sort"), ("name", .str "Sort"), ("steps", .arr [.obj [("type", .str "condition"),
      ("id", .str "c"), ("condition", .str "input.urgent"), ("else", .arr [.obj [("type", .str "transform"),
        ("id", .str "t"), ("transform", .obj [("rank", .int 2)]), ("outputKey", .str "order")]])]])]
    let d : Definition := ⟨"sort", "Sort", none,
      [.condition "c" "input.urgent" [] [.transform "t" [("rank", .int 2)] (some "order")]]⟩
    let other : Definition := ⟨"other", "Other", none, [.transform "t" [] none]⟩
    let env : Setting := { agents := ⟨[]⟩ }
    let w : World := Use.runAll env [.ofRequest (.ofEngine (.createModel other))] { store := .table {} }
    let t : World := (createCustom env doc w).2
    let after : List Use := [.ofRequest (.ofEngine (.createModel d)), .createWorkflow { other with id := "sort" },
      .ofRequest (.ofEngine (.createCustom doc))]
    ({ store := .table {} } : World).New ∧ (∃ stored, Accepts env w d stored t ∧
      Stands env d stored (Use.runAll env after t)) ∧
      (Use.runAll env after t).refusals.length = 1 := by
  intro doc d other env w t after
  have hnew : ({ store := .table {} } : World).New := .inr rfl
  have hok : (createCustom env doc w).1.toOption.isSome = true := by decide +kernel
  obtain ⟨stored, hstored⟩ := Option.isSome_iff_exists.1 hok
  have haccepts : Accepts env w d stored t :=
    @Accepts.document env w d stored t doc (by decide +kernel) rfl (Prod.ext (ok_of_toOption hstored) rfl)
  exact ⟨hnew, ⟨stored, haccepts, accepted_stands env hnew [.ofRequest (.ofEngine (.createModel other))] after haccepts⟩,
    by decide +kernel⟩

end Engine

end Conductor
