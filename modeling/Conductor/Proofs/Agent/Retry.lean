import Conductor.Agent.Model
import Conductor.Proofs.Act
import Conductor.Proofs.Backoff
import Conductor.Proofs.Except

/-! How an agent asks its model again. It stops at the first answer, or when it has asked once more than it may ask
again, and waits between each two requests for as long as the number of the attempt says. There are 1024 such waits;
an agent that needs one more fails of that. -/

namespace Conductor

def ModelOutcome.isAnswer : ModelOutcome → Bool
  | .answers .. => true
  | .fails _ => false

namespace Conversation

/-- The reply to the request with that number, counted from here on. -/
def reply (c : Conversation) (i : Nat) : ModelReply := c.replies (c.requests.length + i)

/-- What the clock shows before the request with that number. -/
def time (c : Conversation) (i : Nat) : Int := c.clock + ((List.range i).map fun j => (c.reply j).advance).sum

def after (c : Conversation) (r : ModelRequest) : Conversation :=
  { c with course := c.course ++ [Exchange.asked r], clock := c.clock + (c.reply 0).advance }

def later (c : Conversation) (wait : Float) : Conversation :=
  { c with course := c.course ++ [Exchange.waited wait] }

end Conversation

namespace ModelAgent

variable {a : ModelAgent} {r : ModelRequest} {c : Conversation} {limit attempt k : Nat} {wait : Float}

/-- A request before each of the waits, and one after the last. -/
def story (r : ModelRequest) (waits : List Float) : List Exchange :=
  (waits.flatMap fun wait => [.asked r, .waited wait]) ++ [.asked r]

/-- How a call ends with the reply to the request with that number. -/
def ending (a : ModelAgent) (c : Conversation) (i : Nat) : Except Failure Response :=
  match (c.reply i).outcome with
  | .answers data used => .ok { data, usage := a.usage used (duration (c.time i) (c.time (i + 1))) }
  | .fails message => .error (.raised message)

theorem reply_succ (c : Conversation) (r : ModelRequest) (wait : Float) (i : Nat) :
    ((c.after r).later wait).reply i = c.reply (i + 1) := by
  have hlength : ((c.after r).later wait).requests.length = c.requests.length + 1 := by
    simp [Conversation.later, Conversation.after, Conversation.requests]
  show c.replies (_ + i) = c.replies (_ + (i + 1))
  rw [hlength, Nat.add_right_comm, Nat.add_assoc]

theorem time_succ (c : Conversation) (r : ModelRequest) (wait : Float) (i : Nat) :
    ((c.after r).later wait).time i = c.time (i + 1) := by
  have hclock : ((c.after r).later wait).clock = c.clock + (c.reply 0).advance := rfl
  simp only [Conversation.time, reply_succ, hclock, List.range_succ_eq_map, List.map_cons, List.map_map, List.sum_cons,
    Int.add_assoc]
  rfl

theorem ending_succ (a : ModelAgent) (c : Conversation) (r : ModelRequest) (wait : Float) (i : Nat) :
    a.ending ((c.after r).later wait) i = a.ending c (i + 1) := by
  simp only [ending, reply_succ, time_succ]

theorem send_apply (r : ModelRequest) (c : Conversation) : send r c = (.ok (c.reply 0).outcome, c.after r) := rfl

theorem attempts_answered {data : Json} {used : ModelUsage} (h : (c.reply 0).outcome = .answers data used) :
    attempts a r limit attempt c = (a.ending c 0, c.after r) := by
  have hclock : (c.after r).clock = c.time 1 := by simp [Conversation.after, Conversation.time]
  have hstart : c.clock = c.time 0 := by simp [Conversation.time]
  have hrun : attempts a r limit attempt c =
      (.ok { data, usage := a.usage used (duration c.clock (c.after r).clock) }, c.after r) := by
    rw [attempts, Act.bind_apply, Act.get_apply, Act.andThen_ok, Act.bind_apply, send_apply, Act.andThen_ok, h]
    show (get >>= fun _ => pure _ : Act Conversation Response) _ = _
    rw [Act.bind_apply]
    rfl
  rw [hrun, hclock, hstart, ending, h]

theorem attempts_zero {message : String} (h : (c.reply 0).outcome = .fails message) :
    attempts a r 0 attempt c = (a.ending c 0, c.after r) := by
  rw [attempts]
  simp only [Act.bind_apply, Act.get_apply, Act.andThen_ok, send_apply, h, Act.throw_apply, ending]

theorem attempts_succ {message : String} (h : (c.reply 0).outcome = .fails message)
    (hwait : Backoff.default attempt = .ok wait) :
    attempts a r (limit + 1) attempt c = attempts a r limit (attempt + 1) ((c.after r).later wait) := by
  rw [attempts]
  simp only [Act.bind_apply, Act.get_apply, Act.andThen_ok, send_apply, h, Act.ofExcept_apply, hwait, Except.mapError,
    Act.modify_apply]
  rfl

theorem attempts_tooLarge {message : String} (h : (c.reply 0).outcome = .fails message) (hattempt : 1024 ≤ attempt) :
    attempts a r (limit + 1) attempt c = (.error .tooLarge, c.after r) := by
  rw [attempts]
  simp only [Act.bind_apply, Act.get_apply, Act.andThen_ok, send_apply, h, Act.ofExcept_apply,
    Backoff.default_tooLarge hattempt, Except.mapError, Act.andThen_error]

/-- The conversation after some waits, with a request before each of them. -/
def paused (c : Conversation) (r : ModelRequest) (waits : List Float) : Conversation :=
  { c with
    clock := c.time waits.length
    course := c.course ++ waits.flatMap fun wait => [.asked r, .waited wait] }

theorem paused_nil (c : Conversation) (r : ModelRequest) : paused c r [] = c := by
  simp [paused, Conversation.time]

theorem paused_cons (c : Conversation) (r : ModelRequest) (wait : Float) (waits : List Float) :
    paused ((c.after r).later wait) r waits = paused c r (wait :: waits) := by
  simp only [paused, time_succ, List.length_cons]
  simp [Conversation.after, Conversation.later]

theorem ending_paused (a : ModelAgent) (c : Conversation) (r : ModelRequest) (waits : List Float) (i : Nat) :
    a.ending (paused c r waits) i = a.ending c (i + waits.length) := by
  induction waits generalizing c with
  | nil => rw [paused_nil, List.length_nil, Nat.add_zero]
  | cons wait waits ih => rw [← paused_cons, ih, ending_succ, List.length_cons, Nat.add_assoc]

theorem reply_paused (c : Conversation) (r : ModelRequest) (waits : List Float) (i : Nat) :
    (paused c r waits).reply i = c.reply (i + waits.length) := by
  induction waits generalizing c with
  | nil => rw [paused_nil, List.length_nil, Nat.add_zero]
  | cons wait waits ih => rw [← paused_cons, ih, reply_succ, List.length_cons, Nat.add_assoc]

/-- The conversation after some waits, with a request before each of them and one more. -/
def told (c : Conversation) (r : ModelRequest) (waits : List Float) : Conversation :=
  { c with clock := c.time (waits.length + 1), course := c.course ++ story r waits }

theorem after_paused (c : Conversation) (r : ModelRequest) (waits : List Float) :
    (paused c r waits).after r = told c r waits := by
  have htime : (paused c r waits).clock + (c.reply waits.length).advance = c.time (waits.length + 1) := by
    simp [paused, Conversation.time, List.range_succ, Int.add_assoc]
  simp only [Conversation.after, reply_paused, Nat.zero_add, htime]
  simp [told, story, paused]

/-- Where the requests end: at the first answer, or at the limit. -/
def LastRequest (c : Conversation) (limit k : Nat) : Prop :=
  k ≤ limit ∧ (∀ i < k, (c.reply i).outcome.isAnswer = false) ∧ (k < limit → (c.reply k).outcome.isAnswer = true)

theorem exists_lastRequest (c : Conversation) (limit : Nat) : ∃ k, LastRequest c limit k := by
  by_cases h : ∃ k, k ≤ limit ∧ (c.reply k).outcome.isAnswer = true
  · obtain ⟨hle, hanswer⟩ := Nat.find_spec h
    refine ⟨Nat.find h, hle, ?_, fun _ => hanswer⟩
    intro i hi
    have hnot := Nat.find_min h hi
    rw [Bool.eq_false_iff]
    exact fun hi' => hnot ⟨by omega, hi'⟩
  · refine ⟨limit, le_rfl, ?_, fun hlt => absurd hlt (lt_irrefl limit)⟩
    intro i hi
    rw [Bool.eq_false_iff]
    exact fun hi' => h ⟨i, hi.le, hi'⟩

theorem exists_fails {outcome : ModelOutcome} (h : outcome.isAnswer = false) :
    ∃ message, outcome = .fails message := by
  cases outcome with
  | fails message => exact ⟨message, rfl⟩
  | answers data used => cases h

/-- Requests that fail are waited after, and the agent goes on as it would with so many less left. -/
theorem attempts_paused (hfails : ∀ i < k, (c.reply i).outcome.isAnswer = false) (hk : attempt + k ≤ 1024) :
    ∃ waits : List Float, waits.length = k ∧ (List.range' attempt k).mapM Backoff.default = .ok waits ∧
      ∀ limit, attempts a r (limit + k) attempt c = attempts a r limit (attempt + k) (paused c r waits) := by
  -- the conversation goes on and the attempts count up, so both are arbitrary
  induction k generalizing attempt c with
  | zero =>
    refine ⟨[], rfl, rfl, fun limit => ?_⟩
    rw [paused_nil]
    rfl
  | succ k ih =>
    obtain ⟨message, hfirst⟩ := exists_fails (hfails 0 (by omega))
    obtain ⟨wait, hwait, -⟩ := Backoff.exists_default (n := attempt) (by omega)
    have hrest : ∀ i < k, (((c.after r).later wait).reply i).outcome.isAnswer = false := by
      intro i hi
      rw [reply_succ]
      exact hfails (i + 1) (by omega)
    have hnext : attempt + 1 + k ≤ 1024 := by omega
    obtain ⟨waits, rfl, hwaits, hrun⟩ := ih hrest hnext
    refine ⟨wait :: waits, rfl, ?_, fun limit => ?_⟩
    · rw [List.range'_succ, List.mapM_cons, hwait, hwaits]
      rfl
    · rw [← Nat.add_assoc, attempts_succ hfirst hwait, hrun, paused_cons, Nat.add_assoc, Nat.add_comm 1]

theorem attempts_last (h : 0 < limit → (c.reply 0).outcome.isAnswer = true) :
    attempts a r limit attempt c = (a.ending c 0, c.after r) := by
  cases hout : (c.reply 0).outcome with
  | answers data used => exact attempts_answered hout
  | fails message =>
    obtain rfl : limit = 0 := by
      by_contra hpos
      rw [hout] at h
      exact absurd (h (by omega)) nofun
    exact attempts_zero hout

theorem attempts_of_lastRequest (hlast : LastRequest c limit k) (hk : attempt + k ≤ 1024) :
    ∃ waits : List Float, waits.length = k ∧ (List.range' attempt k).mapM Backoff.default = .ok waits ∧
      attempts a r limit attempt c = (a.ending c k, told c r waits) := by
  obtain ⟨hle, hfails, hanswer⟩ := hlast
  obtain ⟨waits, rfl, hwaits, hrun⟩ := attempts_paused (a := a) (r := r) hfails hk
  obtain ⟨rest, rfl⟩ := Nat.exists_eq_add_of_le' hle
  have hend : 0 < rest → ((paused c r waits).reply 0).outcome.isAnswer = true := by
    intro hrest
    rw [reply_paused, Nat.zero_add]
    exact hanswer (by omega)
  refine ⟨waits, rfl, hwaits, ?_⟩
  rw [hrun, attempts_last hend, ending_paused, Nat.zero_add, after_paused]

theorem attempts_eq (hlimit : attempt + limit ≤ 1024) : ∃ waits : List Float, LastRequest c limit waits.length ∧
    (List.range' attempt waits.length).mapM Backoff.default = .ok waits ∧
    attempts a r limit attempt c = (a.ending c waits.length, told c r waits) := by
  obtain ⟨k, hlast⟩ := exists_lastRequest c limit
  have hk : attempt + k ≤ 1024 := (Nat.add_le_add_left hlast.1 attempt).trans hlimit
  obtain ⟨waits, rfl, hwaits, hrun⟩ := attempts_of_lastRequest (a := a) (r := r) hlast hk
  exact ⟨waits, hlast, hwaits, hrun⟩

/-- An agent asks until it is answered, or one time more than it may ask again. -/
theorem run_asks_until_answered (hlimit : a.config.agents.maxRetries ≤ 1024) (operation : String) (input : Json)
    (c : Conversation) :
    ∃ waits : List Float, LastRequest c a.config.agents.maxRetries.toNat waits.length ∧
      (List.range waits.length).mapM Backoff.default = .ok waits ∧
      a.run operation input c = (a.ending c waits.length, told c (a.request operation input) waits) := by
  have hattempts : 0 + a.config.agents.maxRetries.toNat ≤ 1024 := by omega
  rw [run]
  simp only [List.range_eq_range']
  exact attempts_eq hattempts

def busyOnce : Conversation where
  replies n := { outcome := if n = 0 then .fails "busy" else .answers .null {} }

def planner : ModelAgent := make "planner" ["plan"] "model" {} none

theorem run_asks_until_answered_when_busy :
    planner.config.agents.maxRetries ≤ 1024 ∧ (planner.run "plan" .null busyOnce).2.requests.length = 2 := by
  have hlimit : planner.config.agents.maxRetries ≤ 1024 := by decide
  obtain ⟨waits, ⟨-, hfails, hanswer⟩, -, hrun⟩ := run_asks_until_answered hlimit "plan" .null busyOnce
  have hsome : waits.length ≠ 0 := by
    intro hnone
    rw [hnone] at hanswer
    exact absurd (hanswer (by decide)) (by decide)
  have hnotmore : ¬ 1 < waits.length := fun hmore => absurd (hfails 1 hmore) (by decide)
  have hone : waits.length = 1 := by omega
  obtain ⟨wait, rfl⟩ := List.length_eq_one_iff.1 hone
  rw [hrun]
  exact ⟨hlimit, rfl⟩

/-- The agent may ask more than 1024 times again, and none of its first 1025 requests is answered. -/
def RunsOut (a : ModelAgent) (c : Conversation) : Prop :=
  1024 < a.config.agents.maxRetries ∧ ∀ i ≤ 1024, (c.reply i).outcome.isAnswer = false

/-- After 1024 waits the next one cannot be worked out. -/
theorem RunsOut.run_eq (h : RunsOut a c) (operation : String) (input : Json) :
    ∃ waits : List Float, waits.length = 1024 ∧
      a.run operation input c = (.error .tooLarge, told c (a.request operation input) waits) := by
  obtain ⟨hlimit, hfails⟩ := h
  obtain ⟨rest, hrest⟩ : ∃ rest, a.config.agents.maxRetries.toNat = rest + (1 + 1024) :=
    Nat.exists_eq_add_of_le' (by omega)
  have hall : 0 + 1024 ≤ 1024 := le_rfl
  obtain ⟨waits, hlength, -, hrun⟩ :=
    attempts_paused (a := a) (r := a.request operation input) (fun i hi => hfails i hi.le) hall
  obtain ⟨message, hlast⟩ := exists_fails (hfails 1024 le_rfl)
  have hnext : ((paused c (a.request operation input) waits).reply 0).outcome = .fails message := by
    rw [reply_paused, hlength]
    exact hlast
  refine ⟨waits, hlength, ?_⟩
  rw [run, hrest, ← Nat.add_assoc, hrun, Nat.zero_add, attempts_tooLarge hnext le_rfl, after_paused]

theorem LastRequest.le_of_not_runsOut (hlast : LastRequest c a.config.agents.maxRetries.toNat k) (h : ¬ RunsOut a c) :
    k ≤ 1024 := by
  obtain ⟨hle, hfails, -⟩ := hlast
  by_contra hmore
  exact h ⟨by omega, fun i hi => hfails i (by omega)⟩

theorem length_requests_told (c : Conversation) (r : ModelRequest) (waits : List Float) :
    (told c r waits).requests.length = c.requests.length + (waits.length + 1) := by
  simp only [Conversation.requests, told, List.filterMap_append, List.length_append]
  congr 1
  induction waits with
  | nil => rfl
  | cons wait waits ih => exact congrArg (· + 1) ih

/-- Attempts below 1024 wait for no longer than the longest wait, and no others can wait. So an agent ends as its last
request does, unless it runs out of waits first. -/
theorem waits_capped_until_too_large (n : Nat) (a : ModelAgent) (operation : String) (input : Json)
    (c : Conversation) :
    (n < 1024 → ∃ wait, Backoff.default n = .ok wait ∧
      (Number.real wait).worth? = some (.ofRat (min (2 ^ n) 30))) ∧
    (1024 ≤ n → Backoff.default n = .error .tooLarge) ∧
    (¬ RunsOut a c → ∃ k, LastRequest c a.config.agents.maxRetries.toNat k ∧
      (a.run operation input c).1 = a.ending c k) ∧
    (RunsOut a c → (a.run operation input c).1 = .error .tooLarge ∧
      (a.run operation input c).2.requests.length = c.requests.length + 1025) := by
  refine ⟨Backoff.exists_default, Backoff.default_tooLarge, ?_, ?_⟩
  · intro hends
    obtain ⟨k, hlast⟩ := exists_lastRequest c a.config.agents.maxRetries.toNat
    have hk : 0 + k ≤ 1024 := by
      rw [Nat.zero_add]
      exact hlast.le_of_not_runsOut hends
    obtain ⟨waits, -, -, hrun⟩ := attempts_of_lastRequest (a := a) (r := a.request operation input) hlast hk
    exact ⟨k, hlast, by rw [run, hrun]⟩
  · intro hruns
    obtain ⟨waits, hlength, hrun⟩ := hruns.run_eq operation input
    rw [hrun, length_requests_told, hlength]
    exact ⟨rfl, rfl⟩

def busyForever : Conversation where
  replies _ := { outcome := .fails "busy" }

def stubborn : ModelAgent := make "planner" ["plan"] "model" { agents := { maxRetries := 2000 } } none

theorem waits_capped_until_too_large_of_stubborn :
    (∃ wait, Backoff.default 1023 = .ok wait ∧ (Number.real wait).worth? = some (.ofRat 30)) ∧
      Backoff.default 1024 = .error .tooLarge ∧
      ¬ RunsOut planner busyOnce ∧
      (∃ k, LastRequest busyOnce 3 k ∧ (planner.run "plan" .null busyOnce).1 = planner.ending busyOnce k) ∧
      RunsOut stubborn busyForever ∧ (stubborn.run "plan" .null busyForever).1 = .error .tooLarge := by
  obtain ⟨hcapped, -, hends, -⟩ := waits_capped_until_too_large 1023 planner "plan" .null busyOnce
  obtain ⟨-, hlarge, -, hruns⟩ := waits_capped_until_too_large 1024 stubborn "plan" .null busyForever
  have hlongest : min ((2 : ℚ) ^ 1023) 30 = 30 := by
    have hpow : (2 : ℚ) ^ 5 ≤ 2 ^ 1023 := pow_le_pow_right₀ one_le_two (by decide)
    exact min_eq_right (le_trans (by norm_num) hpow)
  have hplanner : ¬ RunsOut planner busyOnce := fun h => absurd h.1 (by decide)
  have hstubborn : RunsOut stubborn busyForever := ⟨by decide, fun _ _ => rfl⟩
  refine ⟨?_, hlarge le_rfl, hplanner, hends hplanner, hstubborn, (hruns hstubborn).1⟩
  rw [← hlongest]
  exact hcapped (by decide)

end ModelAgent

end Conductor
