import Conductor.Proofs.Context
import Conductor.Proofs.Output
import Conductor.Proofs.Run.Bodies

/-! What a run publishes. Each agent, aggregate and transform step that ends well adds one output to those of
its context, and a record that says the same; the outputs of a branch are taken over just when the branch
ends well. As long as no two steps share a result key, nothing that was published is written over. -/

namespace Conductor

namespace Step

/-- Whether the output of a step is published under its result key. -/
def publishes : Step → Bool
  | agent .. => true
  | aggregate .. => true
  | transform .. => true
  | condition .. => false
  | parallel .. => false
  | validate .. => false

/-- The keys that steps may publish under. -/
def keys (steps : List Step) : List String := (steps.filter publishes).map resultKey

theorem keys_append (first second : List Step) : keys (first ++ second) = keys first ++ keys second := by
  rw [keys, List.filter_append, List.map_append]
  rfl

end Step

/-- An output that a step published, and the record of the step. -/
structure Result where
  step : Step
  record : StepRecord
  output : Output

def Result.entry (r : Result) : String × Output := (r.step.resultKey, r.output)

/-- A result as its step left it: the record holds the output as it stood when the step ended. -/
structure Result.Kept (own : String) (r : Result) : Prop where
  publishes : r.step.publishes = true
  reads : r.record.Reads own r.step.id .completed .null fun doc => ∃ c, r.output.KeptIn c doc

/-- Whether a record tells that one of some steps ended well. -/
def StepRecord.Completes (ids : List String) (r : StepRecord) : Prop := r.status = .completed ∧ r.step ∈ ids

instance (ids : List String) : DecidablePred (StepRecord.Completes ids) :=
  fun r => inferInstanceAs (Decidable (r.status = .completed ∧ r.step ∈ ids))

namespace Run

variable {env : Setting} {own : String} {ids : List String} {c c' c'' : Context} {m m' : Multiset StepRecord}
  {whole whole' : Prop} {steps steps' : List Step} {results results' : List Result}

/-- Work on a context that brings results, in the order in which its steps are written. The records that it
makes hold those of the results, and if the work is whole, no others that are completed. -/
structure Brings (own : String) (ids : List String) (steps : List Step) (c c' : Context) (m : Multiset StepRecord)
    (whole : Prop) (results : List Result) : Prop where
  outer : c'.outer = c.outer
  outputs : c'.own.outputs = c.own.outputs ++ results.map Result.entry
  steps : (results.map Result.step).Sublist (steps.filter Step.publishes)
  kept : ∀ r ∈ results, r.Kept own
  records : (results.map Result.record : Multiset StepRecord) ≤ m
  all : whole → (results.map Result.record : Multiset StepRecord) = m.filter (StepRecord.Completes ids)

theorem Brings.names (h : Brings own ids steps c c' m whole results) :
    c'.own.outputs.names = c.own.outputs.names ++ (results.map Result.step).map Step.resultKey := by
  rw [h.outputs, Assoc.names, List.map_append, List.map_map, List.map_map]
  rfl

theorem Brings.keys (h : Brings own ids steps c c' m whole results) :
    ((results.map Result.step).map Step.resultKey).Sublist (Step.keys steps) := h.steps.map _

/-- No key is there twice, not even one that steps may still publish under. -/
def KeysApart (c : Context) (steps : List Step) : Prop := (c.own.outputs.names ++ Step.keys steps).Nodup

theorem KeysApart.left (h : KeysApart c (steps ++ steps')) : KeysApart c steps := by
  rw [KeysApart, Step.keys_append, ← List.append_assoc] at h
  exact h.sublist (List.sublist_append_left _ _)

theorem KeysApart.after (h : KeysApart c (steps ++ steps')) (hb : Brings own ids steps c c' m whole results) :
    KeysApart c' steps' := by
  rw [KeysApart, Step.keys_append, ← List.append_assoc] at h
  rw [KeysApart, hb.names]
  exact h.sublist ((hb.keys.append_left _).append_right _)

theorem KeysApart.mono (h : KeysApart c steps) (hs : steps'.Sublist steps) : KeysApart c steps' :=
  h.sublist (((hs.filter _).map _).append_left _)

theorem brings_nothing (hc : c'.outer = c.outer) (ho : c'.own.outputs = c.own.outputs)
    (hm : ∀ r ∈ m, ¬ r.Completes ids) : Brings own ids steps c c' m whole [] where
  outer := hc
  outputs := by rw [ho, List.map_nil, List.append_nil]
  steps := List.nil_sublist _
  kept := by simp
  records := Multiset.zero_le m
  all _ := (Multiset.filter_eq_nil.2 hm).symm

/-- What came of work that was given up does not count. -/
theorem brings_dropped (c : Context) (m : Multiset StepRecord) : Brings own ids steps c c m False [] where
  outer := rfl
  outputs := (List.append_nil _).symm
  steps := List.nil_sublist _
  kept := by simp
  records := Multiset.zero_le m
  all h := h.elim

theorem Brings.trans (h : Brings own ids steps c c' m whole results)
    (h' : Brings own ids steps' c' c'' m' whole' results') :
    Brings own ids (steps ++ steps') c c'' (m + m') (whole ∧ whole') (results ++ results') where
  outer := h'.outer.trans h.outer
  outputs := by rw [h'.outputs, h.outputs, List.map_append, List.append_assoc]
  steps := by
    rw [List.map_append, List.filter_append]
    exact h.steps.append h'.steps
  kept r hr := (List.mem_append.1 hr).elim (h.kept r) (h'.kept r)
  records := by
    rw [List.map_append, ← Multiset.coe_add]
    exact add_le_add h.records h'.records
  all hw := by rw [List.map_append, ← Multiset.coe_add, h.all hw.1, h'.all hw.2, Multiset.filter_add]

theorem Brings.mono (h : Brings own ids steps c c' m whole results) (hs : steps.Sublist steps')
    (hw : whole' → whole) : Brings own ids steps' c c' m whole' results where
  outer := h.outer
  outputs := h.outputs
  steps := h.steps.trans (hs.filter _)
  kept := h.kept
  records := h.records
  all hw' := h.all (hw hw')

/-- Work goes on without a word on the outputs. -/
theorem Brings.quiet (h : Brings own ids steps c c' m whole results) (hc : c''.outer = c'.outer)
    (ho : c''.own.outputs = c'.own.outputs) : Brings own ids steps c c'' m whole results where
  outer := hc.trans h.outer
  outputs := ho.trans h.outputs
  steps := h.steps
  kept := h.kept
  records := h.records
  all := h.all

theorem Brings.beside (h : Brings own ids steps c c' m whole results) (hm : ∀ r ∈ m', ¬ r.Completes ids) :
    Brings own ids steps c c' (m' + m) whole results := by
  have hnone : Brings own ids [] c c m' True [] := brings_nothing rfl rfl hm
  have hboth := hnone.trans h
  rw [List.nil_append, List.nil_append] at hboth
  exact hboth.mono (List.Sublist.refl _) fun hw => ⟨trivial, hw⟩

/-! Steps -/

/-- Ids tell the steps that publish from those that do not. -/
def Sorts (ids : List String) (steps : List Step) : Prop := ∀ step ∈ steps, step.id ∈ ids ↔ step.publishes = true

theorem not_completes_of_skipped {rs : Multiset StepRecord} (h : Skipped own steps rs) :
    ∀ r ∈ rs, ¬ r.Completes ids := by
  intro r hr hcompletes
  rw [StepRecord.Completes, (h.reads r hr).status] at hcompletes
  cases hcompletes.1

/-- The bodies of the steps that publish, which make no records of their own. -/
theorem did_publishing {step : Step} {out : Except Failure Output} {m : Share} (hp : step.publishes = true)
    (h : Did env own step c out c' m) :
    m.records = 0 ∧ c' = published c step.id (some step.resultKey) out := by
  cases h with
  | agent called => cases called <;> exact ⟨rfl, rfl⟩
  | unclear => cases hp
  | took => cases hp
  | broke => cases hp
  | parallel => cases hp
  | aggregate settles =>
    obtain ⟨rfl, rfl⟩ := settles.unique (Run.settles_aggregate _ _ _ _)
    exact ⟨rfl, rfl⟩
  | transform settles =>
    obtain ⟨rfl, rfl⟩ := settles.unique (Run.settles_transform _ _ _)
    exact ⟨rfl, rfl⟩
  | validate => cases hp

theorem outer_published (c : Context) (id : String) (key : Option String) (out : Except Failure Output) :
    (published c id key out).outer = c.outer := by
  cases out <;> rfl

theorem outputs_published (c : Context) (id : String) (out : Except Failure Output) :
    (published c id none out).own.outputs = c.own.outputs := by
  cases out <;> rfl

/-- A step that publishes brings its own output, any other what the steps in it bring. -/
theorem brings_of_ran {step : Step} {out : Except Failure StepResult} {m : Share} (h : Ran env own step c out c' m)
    (hids : Sorts ids step.flat) (hapart : KeysApart c step.flat)
    (hdid : step.publishes = false → ∀ {out m}, Did env own step c out c' m →
      ∃ results, Brings own ids (Step.flatAll step.children) c c' m.records (Failure.said out = none) results) :
    ∃ results, Brings own ids step.flat c c' m.records (Failure.said out = none) results := by
  have hself : step ∈ step.flat := by rw [Step.flat_eq]; exact List.mem_cons_self ..
  have hheld : (Step.flatAll step.children).Sublist step.flat := by rw [Step.flat_eq]; exact List.sublist_cons_self ..
  cases h with
  | @completed _ _ _ output cost m r store did reads =>
    cases hp : step.publishes with
    | true =>
      obtain ⟨hm, rfl⟩ := did_publishing hp did
      have hcompletes : r.Completes ids := ⟨reads.status, by rw [reads.step]; exact (hids step hself).2 hp⟩
      have hkeys : step.resultKey ∈ Step.keys step.flat :=
        List.mem_map.2 ⟨step, List.mem_filter.2 ⟨hself, hp⟩, rfl⟩
      have hfresh : step.resultKey ∉ c.own.outputs.names := fun hn =>
        (List.nodup_append.1 hapart).2.2 _ hn _ hkeys rfl
      refine ⟨[⟨step, r, output⟩], rfl, ?_, ?_, ?_, ?_, ?_⟩
      · exact Assoc.put_of_get?_eq_none (Assoc.get?_eq_none_of_not_mem hfresh) output
      · exact List.singleton_sublist.2 (List.mem_filter.2 ⟨hself, hp⟩)
      · intro result hr
        obtain rfl := List.mem_singleton.1 hr
        exact ⟨hp, { reads with output := ⟨_, reads.output⟩ }⟩
      · exact Multiset.le_add_right _ _
      · intro _
        show ({r} : Multiset StepRecord) = Multiset.filter _ ({r} + m.records)
        rw [hm, add_zero, Multiset.filter_singleton, if_pos hcompletes]
    | false =>
      obtain ⟨results, hresults⟩ := hdid hp did
      refine ⟨results, (hresults.beside fun r' hr' hcompletes => ?_).mono hheld fun _ => rfl⟩
      obtain rfl := Multiset.mem_singleton.1 hr'
      have hid := (hids step hself).1 (reads.step ▸ hcompletes.2)
      rw [hp] at hid
      cases hid
  | @failed _ _ _ f m r store did reads =>
    have hfailed (r' : StepRecord) (hr : r' ∈ ({r} : Multiset StepRecord)) : ¬ r'.Completes ids := by
      obtain rfl := Multiset.mem_singleton.1 hr
      intro hcompletes
      rw [StepRecord.Completes, reads.status] at hcompletes
      cases hcompletes.1
    cases hp : step.publishes with
    | true =>
      obtain ⟨hm, hc⟩ := did_publishing hp did
      refine ⟨[], brings_nothing (congrArg Context.outer hc) (congrArg (·.own.outputs) hc) fun r' hr' => ?_⟩
      rw [Share.records_add, hm, add_zero] at hr'
      exact hfailed r' hr'
    | false =>
      obtain ⟨results, hresults⟩ := hdid hp did
      exact ⟨results, (hresults.beside hfailed).mono hheld nofun⟩

/-- A join takes over what a branch published, if the branch ended well. -/
theorem brings_mergeInto {fork b : Context} (key : String) (isGate : Bool) {out : Except Failure StepResult}
    (hfork : fork.own.outputs = []) (hapart : KeysApart c steps)
    (h : Brings own ids steps fork b m (Failure.said out = none) results) :
    ∃ results, Brings own ids steps c { c with own := mergeInto c.own ⟨key, isGate, b.own, out⟩ } m
      (Failure.said out = none) results := by
  cases out with
  | error f => exact ⟨[], (brings_dropped c m).mono (List.Sublist.refl _) nofun⟩
  | ok result =>
    have houtputs : b.own.outputs = results.map Result.entry := by rw [h.outputs, hfork, List.nil_append]
    have hnodup : (c.own.outputs.names ++ b.own.outputs.names).Nodup := by
      rw [h.names, hfork]
      exact hapart.sublist (h.keys.append_left _)
    refine ⟨results, rfl, ?_, h.steps, h.kept, h.records, h.all⟩
    show c.own.outputs.overlay b.own.outputs = _
    rw [Assoc.overlay_of_nodup hnodup, houtputs]

theorem flatAll_taken_sublist (id test : String) (whenTrue whenFalse : List Step) (holds : Bool) :
    (Step.flatAll (if holds then whenTrue else whenFalse)).Sublist
      (Step.flatAll (Step.condition id test whenTrue whenFalse).children) := by
  rw [Step.children, Step.flatAll_append]
  cases holds with
  | true => exact List.sublist_append_left _ _
  | false => exact List.sublist_append_right _ _

mutual

theorem brings_of_did (step : Step) {c c' : Context} {out : Except Failure Output} {m : Share}
    (hids : Sorts ids step.flat) (hapart : KeysApart c step.flat) (hp : step.publishes = false)
    (h : Did env own step c out c' m) :
    ∃ results, Brings own ids (Step.flatAll step.children) c c' m.records (Failure.said out = none) results := by
  cases step with
  | agent => cases hp
  | aggregate => cases hp
  | transform => cases hp
  | condition id test whenTrue whenFalse =>
    have hchildren := flatAll_taken_sublist id test whenTrue whenFalse
    have hflat (holds : Bool) : (Step.flatAll (if holds then whenTrue else whenFalse)).Sublist
        (Step.condition id test whenTrue whenFalse).flat := by
      rw [Step.flat_eq]
      exact (hchildren holds).cons _
    have htaken {holds : Bool} {outputs : Assoc Output} {c c' : Context} {out : Except Failure (Assoc Output)}
        {m : Share}
        (hids : Sorts ids (Step.flatAll (if holds then whenTrue else whenFalse)))
        (hapart : KeysApart c (Step.flatAll (if holds then whenTrue else whenFalse)))
        (ran : RanAll env own (if holds then whenTrue else whenFalse) outputs c out c' m) :
        ∃ results, Brings own ids (Step.flatAll (if holds then whenTrue else whenFalse)) c c' m.records
          (Failure.said out = none) results := by
      cases holds with
      | true => exact brings_of_ranAll whenTrue hids hapart ran
      | false => exact brings_of_ranAll whenFalse hids hapart ran
    cases h with
    | unclear => exact ⟨[], brings_nothing rfl rfl (by simp)⟩
    | @took _ _ _ _ _ _ holds _ _ _ _ skipped ran =>
      obtain ⟨results, hresults⟩ :=
        htaken (fun s hs => hids s ((hflat holds).subset hs)) (hapart.mono (hflat holds)) ran
      refine ⟨results, ((hresults.quiet ?_ ?_).beside (not_completes_of_skipped skipped)).mono (hchildren holds)
        fun _ => rfl⟩ <;> rfl
    | @broke _ _ _ _ _ _ holds _ _ _ _ skipped ran =>
      obtain ⟨results, hresults⟩ :=
        htaken (fun s hs => hids s ((hflat holds).subset hs)) (hapart.mono (hflat holds)) ran
      exact ⟨results, (hresults.beside (not_completes_of_skipped skipped)).mono (hchildren holds) nofun⟩
  | parallel id steps =>
    cases h with
    | @parallel _ _ _ _ ends _ _ ran joins =>
      obtain ⟨rfl, rfl⟩ := joins.unique (settles_joinAll id ran.stays)
      rw [Step.flat] at hids hapart
      obtain ⟨results, hresults⟩ := brings_of_ranEach steps (fun s hs => hids s (List.mem_cons_of_mem _ hs))
        (hapart.mono (List.sublist_cons_self ..)) rfl ran
      refine ⟨results, (hresults.quiet (outer_published _ _ _ _) (outputs_published _ _ _)).mono
        (List.Sublist.refl _) fun hsaid b hb => ?_⟩
      rw [said_joinOutcome, Option.map_eq_none_iff, List.findSome?_eq_none_iff] at hsaid
      exact hsaid b hb
  | validate id rules =>
    cases h with
    | validate settles =>
      obtain ⟨rfl, rfl⟩ := settles.unique (settles_validate id rules)
      exact ⟨[], brings_nothing rfl rfl (by simp)⟩

theorem brings_of_ranAll (steps : List Step) {outputs : Assoc Output} {c c' : Context}
    {out : Except Failure (Assoc Output)} {m : Share} (hids : Sorts ids (Step.flatAll steps))
    (hapart : KeysApart c (Step.flatAll steps)) (h : RanAll env own steps outputs c out c' m) :
    ∃ results, Brings own ids (Step.flatAll steps) c c' m.records (Failure.said out = none) results := by
  cases steps with
  | nil =>
    cases h
    exact ⟨[], brings_nothing rfl rfl (by simp)⟩
  | cons first rest =>
    rw [Step.flatAll] at hids hapart ⊢
    have hfirst : Sorts ids first.flat := fun s hs => hids s (List.mem_append_left _ hs)
    have hrest : Sorts ids (Step.flatAll rest) := fun s hs => hids s (List.mem_append_right _ hs)
    cases h with
    | cons ran others =>
      obtain ⟨results, hresults⟩ := brings_of_ran ran hfirst hapart.left
        fun hp => brings_of_did first hfirst hapart.left hp
      obtain ⟨results', hresults'⟩ := brings_of_ranAll rest hrest (hapart.after hresults) others
      exact ⟨results ++ results', (hresults.trans hresults').mono (List.Sublist.refl _) fun hsaid => ⟨rfl, hsaid⟩⟩
    | stopped ran =>
      obtain ⟨results, hresults⟩ := brings_of_ran ran hfirst hapart.left
        fun hp => brings_of_did first hfirst hapart.left hp
      exact ⟨results, hresults.mono (List.sublist_append_left _ _) nofun⟩

theorem brings_of_ranEach (steps : List Step) {fork c : Context} {ends : List BranchEnd} {m : Share}
    (hids : Sorts ids (Step.flatAll steps)) (hapart : KeysApart c (Step.flatAll steps)) (hfork : fork.own.outputs = [])
    (h : RanEach env own steps fork ends m) :
    ∃ results, Brings own ids (Step.flatAll steps) c (joined c ends) m.records
      (∀ b ∈ ends, BranchEnd.failure? b = none) results := by
  cases steps with
  | nil =>
    cases h
    exact ⟨[], brings_nothing rfl rfl (by simp)⟩
  | cons first rest =>
    rw [Step.flatAll] at hids hapart ⊢
    have hfirst : Sorts ids first.flat := fun s hs => hids s (List.mem_append_left _ hs)
    have hrest : Sorts ids (Step.flatAll rest) := fun s hs => hids s (List.mem_append_right _ hs)
    have hbare : KeysApart fork first.flat := by
      rw [KeysApart, hfork]
      exact hapart.left.sublist (List.sublist_append_right _ _)
    cases h with
    | @cons _ _ _ b out ends m m' ran others =>
      obtain ⟨_, hran⟩ := brings_of_ran ran hfirst hbare fun hp => brings_of_did first hfirst hbare hp
      obtain ⟨results, hresults⟩ := brings_mergeInto first.resultKey first.isGate hfork hapart.left hran
      obtain ⟨results', hresults'⟩ := brings_of_ranEach rest hrest (hapart.after hresults) hfork others
      refine ⟨results ++ results', (hresults.trans hresults').mono (List.Sublist.refl _) fun hnone => ⟨?_, ?_⟩⟩
      · have hfirst := hnone _ (List.mem_cons_self ..)
        cases out with
        | ok result => rfl
        | error f => cases hfirst
      · exact fun b hb => hnone b (List.mem_cons_of_mem _ hb)

end

end Run

end Conductor
