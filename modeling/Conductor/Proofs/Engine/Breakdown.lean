import Conductor.Proofs.Engine.Lifecycle

/-! Calls that raise. Either the call has not come as far as making a run, and the store is as it was; or
the run broke off, and whoever made it marks it as failed unless it has ended already. -/

namespace Conductor

open World Store

/-- A call that asks for a new run: of a workflow by its id, of a document, or of a definition that has been read
before. -/
inductive Launch where
  | stored (workflow : String) (input : Json)
  | custom (doc input : Json)
  | model (d : Definition) (input : Json)

namespace Launch

def input : Launch → Json
  | stored _ input => input
  | custom _ input => input
  | model _ input => input

def definition (env : Setting) : Launch → Act World Definition
  | stored workflow _ => Engine.findDefinition env workflow
  | custom doc _ => Engine.readDefinition doc
  | model d _ => pure d

def run (env : Setting) : Launch → Act World Execution
  | stored workflow input => Engine.execute env workflow input
  | custom doc input => Engine.executeCustom env doc input
  | model d input => Engine.executeModel env d input

theorem run_eq (env : Setting) (call : Launch) :
    call.run env = (do
      Engine.requireProject call.input
      Engine.run env (← call.definition env) call.input) := by
  cases call <;> rfl

/-- Why a call that leads from one world to another one makes no run. -/
inductive Unmade (call : Launch) (w t : World) : Failure → Prop
  | noProject (h : ∀ project, call.input.field? "projectId" = some project → project.truthy = false) :
      Unmade call w t .noProject
  | unknown {id : String} {input : Json} (h : call = .stored id input) : Unmade call w t (.unknownWorkflow id)
  | defective {id : String} {doc input : Json} {d : Defect} (h : call = .custom doc input)
      (read : Validation.parse id doc = .error d) : Unmade call w t (.ofDefect d)
  | refused {f : Failure} (h : t.refusals = f :: w.refusals) : Unmade call w t f

end Launch

namespace World

variable {α : Type} {env : Setting} {a b c w t : World}

/-- Nothing is done to the store but what others do; by themselves requests leave it as it is. -/
structure Untouched (env : Setting) (a b : World) : Prop where
  sound : b.Sound
  leaves : ∀ id, Leaves id a.store b.store
  store : (∀ n, env.arrivals n = []) → b.store = a.store

theorem Untouched.trans (h : Untouched env a b) (h' : Untouched env b c) : Untouched env a c :=
  ⟨h'.sound, fun id => (h.leaves id).trans (h'.leaves id),
    fun hn => (h'.store hn).trans (h.store hn)⟩

theorem untouched_of_eq (ha : a.Sound) (hs : b.store = a.store) (hi : b.issued = a.issued) :
    Untouched env a b :=
  ⟨ha.same hi (by rw [hs]; exact .refl _), fun id => by rw [hs]; exact (Same.refl _).leaves id, fun _ => hs⟩

theorem untouched_request (method : Method) (hw : w.Sound) : Untouched env w (request env method w).2 := by
  have h : Awaits env method w _ := awaits_request method w
  refine ⟨(h.works hw).sound, leaves_of_others h.others hw, fun hn => ?_⟩
  have harrive : arrive env w = (.ok ⟨⟩, w) := by
    rw [arrive, Act.bind_apply, Act.get_apply, Act.andThen_ok, hn]
    rfl
  rw [request, Act.bind_apply, harrive]
  simp only [Act.andThen_ok, Act.bind_apply, Act.modify_apply, Act.get_apply]
  rcases env.faults method _ with _ | message | _ <;> rfl

theorem untouched_look {method : Method} {look : Act Store α} (hl : ∀ s, (look s).2 = s) (hw : w.Sound)
    {out : Except Failure α}
    (h : reporting (discard (request env method) >>= fun _ => onStore look) w = (out, t)) :
    Untouched env w t ∧ t.refusals = refusalOf out ++ w.refusals := by
  have hreq : Untouched env w _ := untouched_request method hw
  have hawaits : Awaits env method w _ := awaits_request method w
  have hrefusals := hawaits.refusals
  rw [reporting_apply, Act.bind_apply, Act.discard_apply] at h
  rcases hout : request env method w with ⟨f | fault, mid⟩
  · rw [hout] at h hreq hrefusals
    obtain ⟨rfl, rfl⟩ := Prod.mk.inj h
    refine ⟨hreq.trans (untouched_of_eq hreq.sound rfl rfl), ?_⟩
    exact congrArg (f :: ·) hrefusals
  · rw [hout] at h hreq hrefusals
    obtain ⟨rfl, rfl⟩ := Prod.mk.inj h
    refine ⟨hreq.trans (untouched_of_eq hreq.sound (hl mid.store) rfl), ?_⟩
    exact congrArg (refusalOf (look mid.store).1 ++ ·) hrefusals

theorem untouched_createExecution {workflow : String} {members : Members} {f : Failure} (hw : w.Sound)
    (h : createExecution env workflow (.obj members) w = (.error f, t)) :
    Untouched env w t ∧ t.refusals = f :: w.refusals := by
  have hreq : Untouched env w _ := untouched_request .createExecution hw
  have hawaits : Awaits env .createExecution w _ := awaits_request .createExecution w
  have hrefusals := hawaits.refusals
  rw [createExecution, reporting_apply, Act.bind_apply] at h
  rcases hout : request env .createExecution w with ⟨f' | fault, mid⟩
  · rw [hout] at h hreq hrefusals
    cases h
    exact ⟨hreq.trans (untouched_of_eq hreq.sound rfl rfl), congrArg (f :: ·) hrefusals⟩
  · -- once a run is made, the request cannot fail any more
    rw [hout] at h hreq
    have hfree := hreq.sound.executions _ (Nat.lt_succ_self _)
    obtain ⟨made, hmade, -⟩ :=
      mid.store.created mid.nextId workflow (.obj members) (.ofMillis mid.clock) hfree
    have hcancels := mid.store.created_cancels mid.nextId workflow members (.ofMillis mid.clock) hfree
    rw [hmade] at hcancels
    obtain ⟨x, cancelled, hcancelled⟩ := hcancels
    simp only [Act.andThen_ok, Act.bind_apply, issuing, now, Act.get_apply, Act.pure_apply, onStore_apply,
      hmade, Act.modify_apply] at h
    by_cases hf : fault = some .cancel
    · rw [if_pos hf, Act.bind_apply, Act.discard_apply, onStore_apply, hcancelled] at h
      cases h
    · rw [if_neg hf] at h
      cases h

end World

namespace Engine

variable {env : Setting} {w t : World} {out : Except Failure Definition}

theorem findDefinition_cases {id : String} (hw : w.Sound) (h : findDefinition env id w = (out, t)) :
    Untouched env w t ∧ (∀ d, out = .ok d → t.refusals = w.refusals) ∧
      ∀ f, out = .error f → f = .unknownWorkflow id ∨ t.refusals = f :: w.refusals := by
  unfold findDefinition at h
  cases hd : Catalog.workflow? id with
  | some d =>
    rw [hd] at h
    cases h
    exact ⟨untouched_of_eq hw rfl rfl, fun _ _ => rfl, fun _ => nofun⟩
  | none =>
    rw [hd] at h
    dsimp only at h
    rw [Act.bind_apply] at h
    rcases hfind : World.findWorkflow env id w with ⟨found, u⟩
    obtain ⟨huntouched, hrefusals⟩ := untouched_look (Store.findWorkflow_snd · id) hw hfind
    rw [hfind] at h
    rcases found with f | _ | stored <;> cases h
    · exact ⟨huntouched, fun _ => nofun, fun f hf => by cases hf; exact .inr hrefusals⟩
    · exact ⟨huntouched, fun _ => nofun, fun f hf => by cases hf; exact .inl rfl⟩
    · exact ⟨huntouched, fun _ _ => hrefusals, fun _ => nofun⟩

theorem readDefinition_cases {doc : Json} (hw : w.Sound) (h : readDefinition doc w = (out, t)) :
    Untouched env w t ∧ t.refusals = w.refusals ∧
      ∀ f, out = .error f → ∃ id d, Validation.parse id doc = .error d ∧ f = .ofDefect d := by
  have hread (n : Nat) (u : World) (hs : u.store = w.store) (hi : u.issued = w.issued) (hr : u.refusals = w.refusals)
      (h : (Failure.ofExcept .ofDefect (Validation.parse s!"wf-{n}" doc) : Act World _) u = (out, t)) :
      Untouched env w t ∧ t.refusals = w.refusals ∧
        ∀ f, out = .error f → ∃ id d, Validation.parse id doc = .error d ∧ f = .ofDefect d := by
    rw [Act.ofExcept_apply] at h
    cases h
    refine ⟨untouched_of_eq hw hs hi, hr, fun f hf => ?_⟩
    obtain ⟨d, hd, rfl⟩ := mapError_eq_error hf
    exact ⟨_, d, hd, rfl⟩
  unfold readDefinition at h
  dsimp only at h
  split at h
  · exact hread _ { w with named := w.named + 1 } rfl rfl rfl h
  · exact hread _ w rfl rfl rfl h

end Engine

namespace Launch

variable {env : Setting} {call : Launch} {w t : World}

theorem definition_cases (hw : w.Sound) {out : Except Failure Definition} (h : call.definition env w = (out, t)) :
    Untouched env w t ∧ (∀ d, out = .ok d → t.refusals = w.refusals) ∧
      ∀ f, out = .error f → call.Unmade w t f := by
  cases call with
  | stored id input =>
    obtain ⟨huntouched, hquiet, hfails⟩ := Engine.findDefinition_cases hw h
    refine ⟨huntouched, hquiet, fun f hf => ?_⟩
    rcases hfails f hf with rfl | hrefusals
    · exact .unknown rfl
    · exact .refused hrefusals
  | custom doc input =>
    obtain ⟨huntouched, hquiet, hfails⟩ := Engine.readDefinition_cases hw h
    refine ⟨huntouched, fun _ _ => hquiet, fun f hf => ?_⟩
    obtain ⟨id, d, hread, rfl⟩ := hfails f hf
    exact .defective rfl hread
  | model d input =>
    cases h
    exact ⟨untouched_of_eq hw rfl rfl, fun _ _ => rfl, fun _ => nofun⟩

end Launch

namespace Engine

variable (env : Setting) {own : String} {w u : World}

theorem known_of_leads {a b : World} (h : Leads (Runs own) a b) (ha : a.store.execution? own = none)
    {x : Execution} (hx : b.store.execution? own = some x) : x.status.isKnown = true := by
  refine h.keeps (fun s => ∀ x, s.execution? own = some x → x.status.isKnown = true)
    (fun s t hs hruns x hx => ?_) (fun x hx => by rw [ha] at hx; cases hx) x hx
  have hmoves := hruns.lives.moves
  rw [status?, status?, hx] at hmoves
  cases he : s.execution? own with
  | none =>
    rw [he, Option.map_none, Option.map_some] at hmoves
    generalize x.status = status at hmoves ⊢
    cases hmoves
    rfl
  | some e =>
    have hknown := hs e he
    rw [he, Option.map_some, Option.map_some] at hmoves
    generalize x.status = status at hmoves ⊢
    generalize e.status = before at hmoves hknown
    cases hmoves with
    | stay => exact hknown
    | move hmove => cases hmove <;> rfl

/-- What is left of a run that broke off: it has failed with the message of that failure, or it had
ended before, or others cancelled it even then. -/
def Ended (own : String) (f : Failure) (s t : Store) : Prop :=
  ∃ x, t.execution? own = some x ∧ ((x.status = .failed ∧ x.error = .str f.message) ∨
    (x.status ∈ [.completed, .failed, .cancelled] ∧ Leaves own s t))

theorem ended_abort {f : Failure} (hw : w.Sound)
    (hx : ∃ x, w.store.execution? own = some x ∧ x.status.isKnown = true)
    (hcalm : (abort env own f w).2.refusals = w.refusals) : Ended own f w.store (abort env own f w).2.store := by
  rw [abort_snd] at hcalm ⊢
  obtain ⟨mid, hmid, hout⟩ :=
    updateExecution_cases env own (breakPatch f w.time) rfl (some RunStatus.active) w
  rcases hout with ⟨e, t, hout, ht⟩ | ⟨out, hu, hout⟩
  · rw [hout] at hcalm
    exact absurd (ht.refusals.symm.trans hcalm) (List.cons_ne_self _ _)
  · rw [hout] at hcalm ⊢
    have hleaves := leaves_of_others hmid.others hw own
    have hknown : ∀ x, mid.store.execution? own = some x → x.status.isKnown = true := by
      intro x hx'
      obtain ⟨x₀, hx₀, hstatus⟩ := hx
      rcases hleaves.execution with he | ⟨e, now, _, _, he⟩
      · rw [he, hx₀] at hx'
        cases hx'
        exact hstatus
      · rw [he] at hx'
        cases hx'
        rfl
    cases hu with
    | refused e =>
      have hcons : e :: mid.refusals = w.refusals := hcalm
      rw [hmid.refusals] at hcons
      exact absurd hcons (List.cons_ne_self _ _)
    | passed found asked status =>
      cases asked
      refine ⟨_, found, .inr ⟨?_, hleaves⟩⟩
      have hk := hknown _ found
      revert status hk
      generalize Execution.status _ = status
      intro hnot hk
      cases status <;> simp_all [RunStatus.active, RunStatus.isKnown]
    | wrote found asked wrote replaced answer =>
      refine ⟨_, (replaced.execution? own).trans (if_pos rfl), .inl ⟨?_, ?_⟩⟩
      · rw [wrote.named rfl]
        rfl
      · exact wrote.text f.message rfl

theorem requireProject_cases {input : Json} :
    (requireProject input w = (.error .noProject, w) ∧
      ∀ project, input.field? "projectId" = some project → project.truthy = false) ∨
    ∃ members, input = .obj members ∧ requireProject input w = (.ok ⟨⟩, w) := by
  unfold requireProject
  cases hp : input.field? "projectId" with
  | none => exact .inl ⟨rfl, fun _ => nofun⟩
  | some project =>
    by_cases ht : project.truthy = true
    · cases input with
      | obj members => exact .inr ⟨members, rfl, by simp [ht]⟩
      | _ => cases hp
    · refine .inl ⟨by simp [ht], ?_⟩
      rintro other ⟨⟩
      simpa using ht

/-- How a run that was made is left by a call for it that raises, when its course broke off in some world. Whoever drives
it marks it as failed and raises what it broke off with, unless the update that marks it raises an exit. An exit
passes by, and the run stays as it stands. -/
inductive Left (own : String) (broke : Failure) (s : World) : Failure → World → Prop
  | marked (handled : broke.isExit = false)
      (ended : (abort env own broke s).2.refusals = s.refusals → Ended own broke s.store (abort env own broke s).2.store) :
      Left own broke s broke (abort env own broke s).2
  | interrupted {f : Failure} (handled : broke.isExit = false) (exit : f.isExit = true) :
      Left own broke s f (abort env own broke s).2
  | escaped (exit : broke.isExit = true) : Left own broke s broke s

theorem run_breaks_off {d : Definition} {members : Members} {f : Failure} {t : World} (hw : w.Sound)
    (h : run env d (.obj members) w = (.error f, t)) :
    (Untouched env w t ∧ t.refusals = f :: w.refusals) ∨ ∃ e made broke c s,
      w.store.execution? e.id = none ∧
      World.createExecution env d.id (.obj members) w = (.ok e, made) ∧
      (drive env d e.id).exec { input := .obj members } ⟨made, .empty⟩ = ((.error broke, c), s) ∧
      Left env e.id broke s.world f t := by
  obtain ⟨own, hfresh, hwent, hok⟩ := came_createExecution env hw d.id (.obj members)
  have hupshot := upshot env d (.obj members) w
  generalize run env d (.obj members) w = out at h hupshot
  cases hupshot with
  | unmade create =>
    cases h
    exact .inl (untouched_createExecution hw create)
  | returned create drove => cases h
  | @escaped e made broke c s create drove exit =>
    cases h
    obtain ⟨rfl, -⟩ := hok e made create
    exact .inr ⟨e, made, f, c, s, hfresh, create, drove, .escaped exit⟩
  | @broken e made broke x c s create drove handled raised =>
    cases h
    obtain ⟨rfl, hat⟩ := hok e made create
    rw [create] at hwent
    have hdrive := went_drive env d { input := .obj members } (s := ⟨made, .empty⟩) hwent.sound hat
    rw [drove] at hdrive
    obtain ⟨x, hx⟩ := Option.isSome_iff_exists.1 (has_of_went hdrive (under_of_at hwent.sound hat).2)
    refine .inr ⟨e, made, broke, c, s, hfresh, create, drove, ?_⟩
    rcases raised with rfl | hexit
    · exact .marked handled
        (ended_abort env hdrive.sound ⟨x, hx, known_of_leads (hwent.trans hdrive).leads hfresh hx⟩)
    · exact .interrupted handled hexit

end Engine

namespace Launch

variable {env : Setting} {call : Launch} {w t : World}

/-- A call that raises has made no run, and the store is as it was but for what others did; or it has made
a run whose course broke off. When that is no exit, the call raises it and the run has ended, unless the one update
that should have marked it as failed was refused as well; an exit leaves the run as it stands. -/
theorem no_run_left_hanging (hw : w.Sound) {f : Failure} (h : call.run env w = (.error f, t)) :
    (call.Unmade w t f ∧ (∀ id, Leaves id w.store t.store) ∧
      ((∀ n, env.arrivals n = []) → t.store = w.store)) ∨
    ∃ d mid e made broke c s,
      call.definition env w = (.ok d, mid) ∧
      World.createExecution env d.id call.input mid = (.ok e, made) ∧
      w.store.execution? e.id = none ∧
      (Engine.drive env d e.id).exec { input := call.input } ⟨made, .empty⟩ = ((.error broke, c), s) ∧
      Engine.Left env e.id broke s.world f t := by
  rw [run_eq, Act.bind_apply] at h
  rcases @Engine.requireProject_cases w call.input with
    ⟨hproject, hmissing⟩ | ⟨members, hinput, hproject⟩
  · rw [hproject] at h
    cases h
    exact .inl ⟨.noProject hmissing, fun id => (Same.refl _).leaves id, fun _ => rfl⟩
  · rw [hproject, Act.andThen_ok, Act.bind_apply] at h
    rcases hdefinition : call.definition env w with ⟨out, mid⟩
    obtain ⟨huntouched, hquiet, hunmade⟩ := definition_cases hw hdefinition
    rw [hdefinition] at h
    cases out with
    | error f' =>
      cases h
      exact .inl ⟨hunmade f rfl, huntouched.leaves, huntouched.store⟩
    | ok d =>
      rw [Act.andThen_ok, hinput] at h
      rcases Engine.run_breaks_off env huntouched.sound h with ⟨hstays, hrefusals⟩ | hmade
      · rw [hquiet d rfl] at hrefusals
        have hall := huntouched.trans hstays
        exact .inl ⟨.refused hrefusals, hall.leaves, hall.store⟩
      · obtain ⟨e, made, broke, c, s, hfresh, hcreated, hbroke, hleft⟩ := hmade
        rw [hinput]
        refine .inr ⟨d, mid, e, made, broke, c, s, rfl, hcreated, ?_, hbroke, hleft⟩
        cases hw' : w.store.execution? e.id with
        | none => rfl
        | some x =>
          rcases (huntouched.leaves e.id).execution with he | ⟨x', now, _, _, he⟩
          · rw [hfresh, hw'] at he
            cases he
          · rw [hfresh] at he
            cases he

/-- A run of one step whose first look at its own record fails: it has failed with that message. -/
theorem no_run_left_hanging_at_first_look :
    let doc := Json.obj [("name", .str "sum up"), ("steps", .arr [.obj [("type", .str "aggregate"),
      ("id", .str "sum"), ("sources", .arr [.str "first"])]])]
    let call := custom doc (.obj [("projectId", .str "p")])
    let env : Setting := { agents := ⟨[]⟩, faults := fun method n =>
      if method = .findExecution ∧ n = 1 then some (.raise "down") else none }
    ({} : World).Sound ∧ ∃ f t, call.run env {} = (.error f, t) ∧
      (t.store.execution? "id-1").map (fun x => (x.status, Template.inText x.error)) = some (.failed, "down") ∧
      ∃ own broke u, Engine.Left env own broke u f t := by
  intro doc call env
  refine ⟨sound_empty, ?_⟩
  have hraises : (call.run env {}).1.toOption.isNone = true := by decide +kernel
  have hstored : ((call.run env {}).2.store.execution? "id-1").map
      (fun x => (x.status, Template.inText x.error)) = some (.failed, "down") := by decide +kernel
  rcases h : call.run env {} with ⟨f | e, t⟩
  · rw [h] at hstored
    refine ⟨f, t, rfl, hstored, ?_⟩
    rcases no_run_left_hanging sound_empty h with ⟨-, hleaves, -⟩ | ⟨d, mid, e, made, broke, c, s, -, -, -, -, hleft⟩
    · rcases (hleaves "id-1").execution with he | ⟨x, now, he, -, -⟩
      · rw [he] at hstored
        cases hstored
      · cases he
    · exact ⟨e.id, broke, s.world, hleft⟩
  · rw [h] at hraises
    cases hraises

/-- An agent that raises an exit, though no request fails: the call raises it, and the run that it has made goes on
running for ever. -/
theorem run_left_hanging_by_an_exit :
    let doc := Json.obj [("name", .str "stop"), ("steps", .arr [.obj [("type", .str "agent"), ("id", .str "a"),
      ("agent", .str "Warden"), ("operation", .str "stop")]])]
    let stop : Script := fun _ _ => { outcome := .fails { message := "", exit := true } }
    let env : Setting := { agents := ⟨[("Warden", [("stop", stop)])]⟩ }
    let call := custom doc (.obj [("projectId", .str "p")])
    ({} : World).Sound ∧ ∃ f t, call.run env {} = (.error f, t) ∧ f.isExit = true ∧
      (t.store.execution? "id-1").map (fun x => x.status) = some .running := by
  intro doc stop env call
  refine ⟨sound_empty, ?_⟩
  have hraises : (match (call.run env {}).1 with | .error f => f.isExit | .ok _ => false) = true := by decide +kernel
  have hstored : ((call.run env {}).2.store.execution? "id-1").map (fun x => x.status) = some .running := by
    decide +kernel
  rcases h : call.run env {} with ⟨f | e, t⟩
  · rw [h] at hraises hstored
    exact ⟨f, t, rfl, hraises, hstored⟩
  · rw [h] at hraises
    cases hraises

end Launch

end Conductor
