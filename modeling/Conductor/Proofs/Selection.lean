import Conductor.Selection
import Conductor.Proofs.Act
import Conductor.Proofs.Except
import Mathlib.Data.List.Induction

/-! Which store is shared. What is shared is what was installed last, whatever has changed outside since then, and a
call that must build a store takes the first address that is set. -/

namespace Conductor

namespace Selection

variable {s t : Selection} {url a : Option String} {config : Option Config} {backend : Backend} {h : Handle}
  {f : Failure}

/-! Building a store -/

theorem reach_eq_ok : s.reach url = .ok backend ↔ Backend.ofUrl url = .ok backend ∧ s.opening backend = .ok () := by
  constructor
  · intro hreach
    obtain ⟨found, hfound, hreach⟩ := bind_eq_ok hreach
    obtain ⟨_, hopen, hreach⟩ := bind_eq_ok hreach
    cases hreach
    exact ⟨hfound, hopen⟩
  · rintro ⟨hfound, hopen⟩
    rw [reach, hfound]
    show (s.opening backend >>= fun _ => .ok backend) = .ok backend
    rw [hopen]
    rfl

/-- A call that builds a store installs it, if it can. -/
def renew (s : Selection) : Except Failure Backend → Except Failure Handle × Selection
  | .ok backend => (.ok ⟨s.built, backend⟩, { s with shared := some ⟨s.built, backend⟩, built := s.built + 1 })
  | .error f => (.error f, s)

theorem build_apply (s : Selection) (url : Option String) :
    build url s = ((s.renew (s.reach url)).1, { (s.renew (s.reach url)).2 with shared := s.shared }) := by
  rw [build, Act.bind_apply, Act.get_apply, Act.andThen_ok, Act.bind_apply, Act.of_apply]
  cases s.reach url <;> rfl

theorem acquire_shared (hshared : s.shared = some h) : acquire none none s = (.ok h, s) := by
  rw [acquire, Act.bind_apply, Act.get_apply, Act.andThen_ok, hshared]
  rfl

theorem acquire_new (hnew : s.shared = none ∨ url ≠ none ∨ config ≠ none) :
    acquire url config s = s.renew (s.address url config >>= s.reach) := by
  have hbuild : acquire url config s = (do
      let address ← Failure.of (s.address url config)
      let handle ← build address
      share handle
      return handle : Act Selection Handle) s := by
    rw [acquire, Act.bind_apply, Act.get_apply, Act.andThen_ok]
    rcases hshared : s.shared with _ | handle
    · rfl
    rcases url with _ | url
    · rcases config with _ | config
      · simp [hshared] at hnew
      · rfl
    · rfl
  rw [hbuild, Act.bind_apply, Act.of_apply]
  rcases s.address url config with f | address
  · rfl
  · rw [Act.andThen_ok, Act.bind_apply, build_apply]
    show _ = s.renew (s.reach address)
    rcases s.reach address with f | backend
    · rfl
    · have hmax : max (s.built + 1) (s.built + 1) = s.built + 1 := Nat.max_self _
      show (Except.ok _, { s with shared := some ⟨s.built, backend⟩, built := max (s.built + 1) (s.built + 1) }) = _
      rw [hmax]
      rfl

theorem acquire_cases (s : Selection) (url : Option String) (config : Option Config) :
    (∃ h, s.shared = some h ∧ acquire url config s = (.ok h, s)) ∨
      acquire url config s = s.renew (s.address url config >>= s.reach) := by
  by_cases hnew : s.shared = none ∨ url ≠ none ∨ config ≠ none
  · exact .inr (acquire_new hnew)
  · obtain ⟨hshared, rfl, rfl⟩ : s.shared ≠ none ∧ url = none ∧ config = none := by
      simpa [not_or] using hnew
    obtain ⟨h, hshared⟩ := Option.ne_none_iff_exists'.1 hshared
    exact .inl ⟨h, hshared, acquire_shared hshared⟩

/-! The address of a call -/

/-- The first address that is set to a text. -/
def firstSet (addresses : List (Option String)) : Option String := addresses.findSome? (·.filter (· ≠ ""))

theorem firstSet_cons (x : Option String) (rest : List (Option String)) :
    firstSet (x :: rest) = (x.filter (· ≠ "")).or (firstSet rest) := by
  rw [firstSet, List.findSome?_cons, firstSet]
  cases x.filter (· ≠ "") <;> rfl

/-- The address of a call is the first of those in the call, in two variables and in the settings, which are looked
into only when no other is set. -/
def Addressed (s : Selection) (url : Option String) (config : Option Config) (a : Option String) : Prop :=
  ∃ configured,
    a = firstSet [url, s.env.get? "TESTPILOT_DATABASE_URL", s.env.get? "DATABASE_URL", configured] ∧
      (firstSet [url, s.env.get? "TESTPILOT_DATABASE_URL", s.env.get? "DATABASE_URL"] = none →
        ∃ c, s.settings config = .ok c ∧ configured = c.databaseUrl)

theorem address_eq (s : Selection) (url : Option String) (config : Option Config) : s.address url config =
    match firstSet [url, s.env.get? "TESTPILOT_DATABASE_URL", s.env.get? "DATABASE_URL"] with
    | some given => .ok (some given)
    | none => (s.settings config).map Config.databaseUrl := by
  have hvariables : Config.Environment.first? s.env Config.databaseVariables =
      firstSet [s.env.get? "TESTPILOT_DATABASE_URL", s.env.get? "DATABASE_URL"] := rfl
  rw [address, hvariables, firstSet_cons url]
  cases url.filter (· ≠ "") <;> rfl

theorem ofUrl_filter (a : Option String) : Backend.ofUrl (a.filter (· ≠ "")) = Backend.ofUrl a := by
  have hfilter : (a.filter (· ≠ "")).filter (fun s => s ≠ "" && s ≠ "memory://") =
      a.filter (fun s => s ≠ "" && s ≠ "memory://") := by
    cases a with
    | none => rfl
    | some text => by_cases h : text = "" <;> simp [h]
  unfold Backend.ofUrl
  rw [hfilter]

/-- Texts that are empty count as no address at all. -/
theorem exists_address : (∃ a, s.address url config = .ok a ∧ Backend.ofUrl a = .ok backend) ↔
    ∃ a, s.Addressed url config a ∧ Backend.ofUrl a = .ok backend := by
  have hlast (configured : Option String) :
      firstSet [url, s.env.get? "TESTPILOT_DATABASE_URL", s.env.get? "DATABASE_URL", configured] =
        (firstSet [url, s.env.get? "TESTPILOT_DATABASE_URL", s.env.get? "DATABASE_URL"]).or
          (configured.filter (· ≠ "")) := by
    have hnil : firstSet [] = none := rfl
    simp only [firstSet_cons, hnil, Option.or_assoc, Option.or_none]
  simp only [address_eq, Addressed, hlast]
  cases firstSet [url, s.env.get? "TESTPILOT_DATABASE_URL", s.env.get? "DATABASE_URL"] with
  | some given =>
    constructor
    · rintro ⟨a, ha, hkind⟩
      cases ha
      exact ⟨some given, ⟨none, rfl, nofun⟩, hkind⟩
    · rintro ⟨a, ⟨configured, rfl, -⟩, hkind⟩
      exact ⟨some given, rfl, hkind⟩
  | none =>
    constructor
    · rintro ⟨a, ha, hkind⟩
      obtain ⟨c, hc, rfl⟩ := map_eq_ok ha
      refine ⟨_, ⟨c.databaseUrl, rfl, fun _ => ⟨c, hc, rfl⟩⟩, ?_⟩
      rwa [Option.none_or, ofUrl_filter]
    · rintro ⟨a, ⟨configured, rfl, hconfigured⟩, hkind⟩
      obtain ⟨c, hc, rfl⟩ := hconfigured rfl
      rw [Option.none_or, ofUrl_filter] at hkind
      exact ⟨c.databaseUrl, by rw [hc]; rfl, hkind⟩

/-! Calls one after the other -/

/-- A call, or a change outside. -/
inductive Call where
  | create (url : Option String)
  | get (url : Option String) (config : Option Config)
  | set (store : Handle)
  | reset
  | surround (env : Config.Environment) (files : Files) (hasServers : Bool) (refusal : String → Option String)

/-- What comes of a call. -/
inductive Event where
  | created (answer : Except Failure Handle)
  | got (answer : Except Failure Handle)
  | installed (store : Handle)
  | reset
  | surrounded

namespace Event

/-- The store that is seen. -/
def store? : Event → Option Handle
  | created answer | got answer => answer.toOption
  | installed h => some h
  | reset | surrounded => none

/-- The store that is shared from then on. -/
def shares? : Event → Option Handle
  | got answer => answer.toOption
  | installed h => some h
  | created _ | reset | surrounded => none

def isReset : Event → Bool
  | reset => true
  | _ => false

/-- What is shared after an event. -/
def after (shared : Option Handle) (e : Event) : Option Handle := if e.isReset then none else e.shares?.or shared

theorem store?_of_shares? {e : Event} (he : e.shares? = some h) : e.store? = some h := by
  cases e with
  | got answer => exact he
  | installed store => exact he
  | created answer => cases he
  | reset => cases he
  | surrounded => cases he

end Event

def Call.step (s : Selection) : Call → Event × Selection
  | create url => (.created (build url s).1, (build url s).2)
  | get url config => (.got (acquire url config s).1, (acquire url config s).2)
  | set store => (.installed store, (share store s).2)
  | reset => (.reset, (Selection.reset s).2)
  | surround env files hasServers refusal => (.surrounded, { s with env, files, hasServers, refusal })

/-- The events that calls lead to, and what is left. -/
def run (s : Selection) : List Call → List Event × Selection
  | [] => ([], s)
  | call :: calls => ((call.step s).1 :: (run (call.step s).2 calls).1, (run (call.step s).2 calls).2)

/-- The store that was shared last, and no reset since. -/
def LastShared (trace : List Event) (h : Handle) : Prop :=
  ∃ earlier e later, trace = earlier ++ e :: later ∧ e.shares? = some h ∧
    ∀ x ∈ later, x.shares? = none ∧ x.isReset = false

theorem lastShared_snoc {trace : List Event} {e : Event} : LastShared (trace ++ [e]) h ↔
    e.shares? = some h ∨ e.shares? = none ∧ e.isReset = false ∧ LastShared trace h := by
  constructor
  · rintro ⟨earlier, x, later, heq, hx, hlater⟩
    rcases List.eq_nil_or_concat later with rfl | ⟨rest, last, rfl⟩
    · obtain ⟨-, hlast⟩ := List.append_inj' heq rfl
      cases hlast
      exact .inl hx
    · rw [List.concat_eq_append, ← List.cons_append, ← List.append_assoc] at heq
      obtain ⟨rfl, hlast⟩ := List.append_inj' heq rfl
      cases hlast
      obtain ⟨hnone, hkeeps⟩ := hlater e (by simp)
      exact .inr ⟨hnone, hkeeps, earlier, x, rest, rfl, hx, fun y hy => hlater y (by simp [hy])⟩
  · rintro (he | ⟨hnone, hkeeps, earlier, x, later, rfl, hx, hlater⟩)
    · exact ⟨trace, e, [], rfl, he, nofun⟩
    · refine ⟨earlier, x, later ++ [e], by simp, hx, fun y hy => ?_⟩
      rcases List.mem_append.1 hy with hy | hy
      · exact hlater y hy
      · rw [List.mem_singleton.1 hy]
        exact ⟨hnone, hkeeps⟩

/-- Shared is what was shared last. -/
theorem foldl_after {trace : List Event} : trace.foldl Event.after none = some h ↔ LastShared trace h := by
  induction trace using List.reverseRecOn with
  | nil =>
    refine ⟨nofun, ?_⟩
    rintro ⟨earlier, e, later, heq, -⟩
    simp at heq
  | append_singleton trace e ih =>
    rw [List.foldl_append, lastShared_snoc, ← ih]
    show Event.after (trace.foldl Event.after none) e = some h ↔ _
    cases hreset : e.isReset with
    | true =>
      have hnone : e.shares? = none := by
        cases e with
        | reset => rfl
        | _ => cases hreset
      simp [Event.after, hreset, hnone]
    | false =>
      cases hshares : e.shares? with
      | none => simp [Event.after, hreset, hshares]
      | some other => simp [Event.after, hreset, hshares]

theorem step_shared (s : Selection) (call : Call) :
    (call.step s).2.shared = (call.step s).1.after s.shared := by
  cases call with
  | create url =>
    simp only [Call.step, build_apply]
    cases s.reach url <;> rfl
  | get url config =>
    rw [Call.step]
    rcases acquire_cases s url config with ⟨h, hshared, heq⟩ | heq
    · rw [heq, hshared]
      rfl
    · rw [heq]
      cases s.address url config >>= s.reach <;> rfl
  | set store => rfl
  | reset => rfl
  | surround env files hasServers refusal => rfl

theorem run_shared (s : Selection) (calls : List Call) :
    (run s calls).2.shared = (run s calls).1.foldl Event.after s.shared := by
  induction calls generalizing s with
  | nil => rfl
  | cons call calls ih =>
    rw [run, ih, step_shared]
    rfl

/-! Stores are numbered as they are built -/

/-- The shared store is one that there has been. -/
def Known (s : Selection) : Prop := ∀ h, s.shared = some h → h.number < s.built

theorem renew_numbers (s : Selection) (found : Except Failure Backend) : s.built ≤ (s.renew found).2.built ∧
    ∀ h, (s.renew found).1.toOption = some h → h.number < (s.renew found).2.built := by
  cases found with
  | error f => exact ⟨Nat.le_refl _, nofun⟩
  | ok backend =>
    refine ⟨Nat.le_succ _, fun h hstore => ?_⟩
    cases hstore
    exact Nat.lt_succ_self _

theorem step_numbers (hs : s.Known) (call : Call) :
    s.built ≤ (call.step s).2.built ∧ ∀ h, (call.step s).1.store? = some h → h.number < (call.step s).2.built := by
  cases call with
  | create url =>
    simp only [Call.step, build_apply]
    exact renew_numbers s _
  | get url config =>
    rw [Call.step]
    rcases acquire_cases s url config with ⟨h, hshared, heq⟩ | heq
    · rw [heq]
      refine ⟨Nat.le_refl _, fun other hstore => ?_⟩
      cases hstore
      exact hs h hshared
    · rw [heq]
      exact renew_numbers s _
  | set store =>
    refine ⟨Nat.le_max_left _ _, fun h hstore => ?_⟩
    cases hstore
    exact Nat.lt_of_lt_of_le (Nat.lt_succ_self _) (Nat.le_max_right _ _)
  | reset => exact ⟨Nat.le_refl _, nofun⟩
  | surround env files hasServers refusal => exact ⟨Nat.le_refl _, nofun⟩

theorem step_known (hs : s.Known) (call : Call) : (call.step s).2.Known := by
  obtain ⟨hgrows, hstore⟩ := step_numbers hs call
  intro h hshared
  rw [step_shared, Event.after] at hshared
  split at hshared
  · cases hshared
  · rcases Option.or_eq_some_iff.1 hshared with hshares | ⟨-, hbefore⟩
    · exact hstore h (Event.store?_of_shares? hshares)
    · exact Nat.lt_of_lt_of_le (hs h hbefore) hgrows

theorem run_numbers (hs : s.Known) (calls : List Call) :
    s.built ≤ (run s calls).2.built ∧
      ∀ e ∈ (run s calls).1, ∀ h, e.store? = some h → h.number < (run s calls).2.built := by
  induction calls generalizing s with
  | nil => exact ⟨Nat.le_refl _, nofun⟩
  | cons call calls ih =>
    obtain ⟨hgrows, hstore⟩ := step_numbers hs call
    obtain ⟨hlater, hstores⟩ := ih (step_known hs call)
    refine ⟨Nat.le_trans hgrows hlater, List.forall_mem_cons.2 ⟨fun h he => ?_, hstores⟩⟩
    exact Nat.lt_of_lt_of_le (hstore h he) hlater

/-! What is shared -/

section

variable {trace : List Event} {calls : List Call} {now : Selection}

theorem shared_iff_lastShared (hs : s.shared = none) (hrun : run s calls = (trace, now)) :
    now.shared = some h ↔ LastShared trace h := by
  have hafter := run_shared s calls
  rw [hrun, hs] at hafter
  rw [hafter]
  exact foldl_after

theorem number_lt_built (hs : s.shared = none) (hrun : run s calls = (trace, now)) {e : Event} (he : e ∈ trace)
    (hstore : e.store? = some h) : h.number < now.built := by
  have hknown : s.Known := by
    intro other hother
    rw [hs] at hother
    cases hother
  have hnumbers := (run_numbers hknown calls).2
  rw [hrun] at hnumbers
  exact hnumbers e he h hstore

end

/-- A call has built a store that there has not been before, at the address that counts, and has installed it. -/
structure Renewed (trace : List Event) (now : Selection) (url : Option String) (config : Option Config) (h : Handle)
    (after : Selection) : Prop where
  fresh : ∀ e ∈ trace, ∀ known, e.store? = some known → known.number ≠ h.number
  addressed : ∃ a, now.Addressed url config a ∧ Backend.ofUrl a = .ok h.backend
  opened : now.opening h.backend = .ok ()
  installed : after.shared = some h

theorem found_iff : (s.address url config >>= s.reach) = .ok backend ↔
    (∃ a, s.Addressed url config a ∧ Backend.ofUrl a = .ok backend) ∧ s.opening backend = .ok () := by
  rw [← exists_address]
  constructor
  · intro hfound
    obtain ⟨a, ha, hreach⟩ := bind_eq_ok hfound
    obtain ⟨hkind, hopen⟩ := reach_eq_ok.1 hreach
    exact ⟨⟨a, ha, hkind⟩, hopen⟩
  · rintro ⟨⟨a, ha, hkind⟩, hopen⟩
    rw [ha]
    exact reach_eq_ok.2 ⟨hkind, hopen⟩

theorem renew_eq_ok {found : Except Failure Backend} {after : Selection} (h' : s.renew found = (.ok h, after)) :
    found = .ok h.backend ∧ h.number = s.built ∧ after.shared = some h := by
  cases found with
  | error f => cases h'
  | ok backend =>
    cases h'
    exact ⟨rfl, rfl, rfl⟩

theorem renew_error {found : Except Failure Backend} {after : Selection} (h' : s.renew found = (.error f, after)) :
    after = s := by
  cases found with
  | error f =>
    cases h'
    rfl
  | ok backend => cases h'

theorem get_step {now after : Selection} {answer : Except Failure Handle} :
    (Call.get url config).step now = (.got answer, after) ↔ acquire url config now = (answer, after) := by
  rw [Call.step]
  constructor
  · intro hstep
    cases hstep
    rfl
  · intro hget
    rw [hget]

/-- A call without an address or settings answers the store that was shared last, whatever has changed outside. Every
other call for a store that succeeds builds a new one and installs it. -/
theorem last_shared_is_answered {trace : List Event} {calls : List Call} {now : Selection} (hs : s.shared = none)
    (hrun : run s calls = (trace, now)) :
    (∀ h, LastShared trace h → (Call.get none none).step now = (.got (.ok h), now)) ∧
    (∀ url config, (url ≠ none ∨ config ≠ none ∨ ∀ h, ¬ LastShared trace h) →
      (∀ h after, (Call.get url config).step now = (.got (.ok h), after) → Renewed trace now url config h after) ∧
      ((∃ a backend, now.Addressed url config a ∧ Backend.ofUrl a = .ok backend ∧ now.opening backend = .ok ()) →
        ∃ h after, (Call.get url config).step now = (.got (.ok h), after))) ∧
    (∀ url config f after, (Call.get url config).step now = (.got (.error f), after) → after = now) ∧
    ∀ url, ((Call.create url).step now).2.shared = now.shared := by
  refine ⟨fun h hlast => ?_, fun url config hother => ?_, fun url config f after hstep => ?_, fun url => ?_⟩
  · exact get_step.2 (acquire_shared ((shared_iff_lastShared hs hrun).2 hlast))
  · have hnew : now.shared = none ∨ url ≠ none ∨ config ≠ none := by
      rcases hother with hurl | hconfig | hnone
      · exact .inr (.inl hurl)
      · exact .inr (.inr hconfig)
      · refine .inl (Option.eq_none_iff_forall_ne_some.2 fun h hsome => hnone h ?_)
        exact (shared_iff_lastShared hs hrun).1 hsome
    constructor
    · intro h after hstep
      rw [get_step, acquire_new hnew] at hstep
      obtain ⟨hfound, hnumber, hinstalled⟩ := renew_eq_ok hstep
      obtain ⟨haddressed, hopen⟩ := found_iff.1 hfound
      refine ⟨fun e he known hstore => ?_, haddressed, hopen, hinstalled⟩
      rw [hnumber]
      exact Nat.ne_of_lt (number_lt_built hs hrun he hstore)
    · rintro ⟨a, backend, haddressed, hkind, hopen⟩
      have hfound := found_iff.2 ⟨⟨a, haddressed, hkind⟩, hopen⟩
      have hget := acquire_new hnew
      rw [hfound] at hget
      exact ⟨_, _, get_step.2 hget⟩
  · rw [get_step] at hstep
    rcases acquire_cases now url config with ⟨h, -, heq⟩ | heq
    · rw [heq] at hstep
      cases hstep
    · exact renew_error (heq.symm.trans hstep)
  · rw [Call.step, build_apply]

/-- A store is shared, the environment comes to name another one, a store is built for no one else, and a call for an
address of no kind fails. -/
def changes : List Call := [
  .get (some "sqlite://a.db") none, .surround [("DATABASE_URL", "sqlite://b.db")] [] true fun _ => none,
  .create (some "memory://"), .get (some "mysql://localhost/db") none]

def changed : List Event := [
  .got (.ok ⟨0, .file "a.db"⟩), .surrounded, .created (.ok ⟨1, .memory⟩),
  .got (.error (.unsupportedStore "mysql://localhost/db"))]

def afterChanges : Selection where
  built := 2
  shared := some ⟨0, .file "a.db"⟩
  env := [("DATABASE_URL", "sqlite://b.db")]

theorem last_shared_is_answered_after_changes :
    run {} changes = (changed, afterChanges) ∧ LastShared changed ⟨0, .file "a.db"⟩ ∧
      (Call.get none none).step afterChanges = (.got (.ok ⟨0, .file "a.db"⟩), afterChanges) ∧
      (∃ after, (Call.get (some "") none).step afterChanges = (.got (.ok ⟨2, .file "b.db"⟩), after) ∧
        Renewed changed afterChanges (some "") none ⟨2, .file "b.db"⟩ after) ∧
      ((Call.get (some "mysql://localhost/db") none).step afterChanges).2 = afterChanges ∧
      ((Call.create none).step afterChanges).2.shared = afterChanges.shared := by
  have hrun : run {} changes = (changed, afterChanges) := rfl
  have hlast : LastShared changed ⟨0, .file "a.db"⟩ := by
    refine ⟨[], _, _, rfl, rfl, fun e he => ?_⟩
    rcases List.mem_cons.1 he with rfl | he
    · exact ⟨rfl, rfl⟩
    rcases List.mem_pair.1 he with rfl | rfl <;> exact ⟨rfl, rfl⟩
  obtain ⟨hshared, hother, hfailed, hcreated⟩ := last_shared_is_answered (s := {}) rfl hrun
  obtain ⟨hrenewed, hbuilt⟩ := hother (some "") none (.inl nofun)
  have hkept := hfailed (some "mysql://localhost/db") none (.unsupportedStore "mysql://localhost/db") _ rfl
  refine ⟨hrun, hlast, hshared _ hlast, ?_, hkept, hcreated none⟩
  obtain ⟨h, after, hstep⟩ := hbuilt
    ⟨some "sqlite://b.db", .file "b.db", ⟨none, rfl, fun hunset => absurd hunset (by decide)⟩, rfl, rfl⟩
  have hnew : h = ⟨2, .file "b.db"⟩ := by
    cases hstep
    rfl
  subst hnew
  exact ⟨after, hstep, hrenewed _ _ hstep⟩

end Selection

end Conductor
