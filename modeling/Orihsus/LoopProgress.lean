import Orihsus.Deadlines
import Orihsus.Endings
import Orihsus.TrafficSteps

/-!
# The loop of attempts comes to its end by itself

A request in the loop waits for two things: inside `next` for a key, and after a send for the
response. Neither wait depends on anybody else for its end. A call of `next` gives up at the
deadline that the request was created with. An attempt ends at the bound on the head of its
response, or after it at the bound on an error body or on the first event of a stream. So
wherever the loop stands, its own steps and the clock lead it to an outcome, whatever the
upstreams do, with a pool in which no key recovers, and before an instant that can be told in
advance.
-/

namespace Orihsus.Pool

variable {policy : PoolPolicy} {fingerprint : String → String} {state : PoolState} {now : Nat}
  {attempts : RequestAttempts} {phase next : CallPhase} {answer : Option AttemptResult}

/-- A call goes on exactly as long as it has not answered. -/
theorem QuietStep.busy_iff (step : QuietStep policy state now attempts phase next answer) :
    answer = none ↔ next ≠ .idle := by
  cases step <;> simp

/-- A call sleeps at most until the deadline. -/
theorem QuietStep.wakes (step : QuietStep policy state now attempts phase next answer) {wake : Nat}
    (sleeps : next = .sleeping wake) : wake ≤ attempts.deadline := by
  cases step with
  | slept early earliest ahead =>
    cases sleeps
    exact Nat.min_le_right _ _
  | _ => cases sleeps

namespace System

variable {before after : System} {request : Nat} {caller : Caller} {call : Action}

/-- What a call does for its own request: a turn without a selection, or a selection. -/
inductive CallTurn (policy : PoolPolicy) (before : System) (request : Nat) (caller : Caller) :
    System → Option AttemptResult → Prop
  | quiet {phase : CallPhase} {answer : Option AttemptResult}
      (step : QuietStep policy before.pool before.clock caller.attempts caller.phase phase answer) :
      CallTurn policy before request caller
        { before with callers := before.callers.set request ⟨caller.attempts, phase⟩ } answer
  | selected {selection : Selection} {claimed : PoolState}
      (looks : caller.phase = .idle ∧ caller.attempts.used.length < caller.attempts.max ∨
        caller.phase = .selecting) :
      CallTurn policy before request caller
        { before with
          pool := claimed
          callers := before.callers.set request ⟨caller.attempts.markUsed selection, .idle⟩
          issued := before.issued ++ [selection] }
        (some (.selected selection))

/-- A waiting call selects a key only where it looks for one. -/
theorem advance_selected {caller left : Caller} {state claimed : PoolState} {now : Nat}
    {selection : Selection}
    (answered : caller.advance policy state now =
      some (left, claimed, some (.selected selection))) :
    caller.phase = .selecting ∧
      caller.attempts.trySelectUnused policy state now = some (selection, claimed) := by
  unfold Caller.advance at answered
  cases phase : caller.phase with
  | selecting =>
    simp only [phase] at answered
    refine ⟨rfl, ?_⟩
    split at answered
    · rename_i selected
      cases answered
      exact selected
    · cases answered
  | idle =>
    simp only [phase] at answered
    cases answered
  | missed | sleeping =>
    simp only [phase] at answered
    split at answered <;> cases answered
  | recovering read =>
    simp only [phase] at answered
    split at answered
    · cases answered
    · split at answered
      · cases answered
      · split at answered <;> cases answered

/-- What a step of a call does to its tracker. -/
theorem call_turn
    (calls : call = .next request ∨ call = .nextImmediate request ∨ call = .advance request)
    (waiting : before.callers[request]? = some caller)
    (performed : before.perform policy fingerprint call = some (after, answer)) :
    CallTurn policy before request caller after answer := by
  have performs := perform_cases performed
  cases performs with
  | @quiet action asked other phase answer call present step =>
    obtain rfl : asked = request := by
      rcases call with rfl | rfl | rfl <;> simpa using calls
    rw [waiting, Option.some.injEq] at present
    subst present
    exact .quiet step
  | @selected action asked other selection claimed call present room tried =>
    obtain rfl : asked = request := by
      rcases call with rfl | rfl <;> simpa using calls
    rw [waiting, Option.some.injEq] at present
    subst present
    refine .selected ?_
    rcases room with space | selecting
    · rcases call with rfl | rfl
      · obtain ⟨other, found, rest⟩ := Option.bind_eq_some_iff.mp performed
        rw [waiting, Option.some.injEq] at found
        subst found
        exact .inl ⟨(Runs.guard_bind.mp rest).1, space⟩
      · obtain ⟨other, found, rest⟩ := Option.bind_eq_some_iff.mp performed
        obtain ⟨⟨advanced, pool, answer⟩, turned, done⟩ := Option.bind_eq_some_iff.mp rest
        rw [waiting, Option.some.injEq] at found
        subst found
        have given : answer = some (.selected selection) :=
          congrArg Prod.snd (Option.some.inj done)
        rw [given] at turned
        exact .inr (advance_selected turned).1
    · exact .inr selecting
  | _ => simp at calls

/-- Past its deadline a call never waits. -/
theorem advance_enabled (policy : PoolPolicy) (fingerprint : String → String)
    (waiting : before.callers[request]? = some caller)
    (busy : caller.phase ≠ .idle) (overdue : caller.attempts.deadline ≤ before.clock)
    (wakes : ∀ wake, caller.phase = .sleeping wake → wake ≤ caller.attempts.deadline) :
    ∃ result, before.perform policy fingerprint (.advance request) = some result := by
  have turns : ∃ result, caller.advance policy before.pool before.clock = some result := by
    unfold Caller.advance
    cases phase : caller.phase with
    | idle => exact absurd phase busy
    | selecting | missed =>
      dsimp only
      split
      · exact ⟨_, rfl⟩
      · exact ⟨_, rfl⟩
    | recovering read =>
      dsimp only
      split
      · exact ⟨_, rfl⟩
      · split
        · exact ⟨_, rfl⟩
        · split
          · exact ⟨_, rfl⟩
          · exact ⟨_, rfl⟩
    | sleeping wake =>
      dsimp only
      rw [if_pos (Nat.le_trans (wakes wake phase) overdue)]
      exact ⟨_, rfl⟩
  obtain ⟨⟨advanced, pool, answer⟩, turned⟩ := turns
  exact ⟨_, Option.bind_eq_some_iff.mpr ⟨caller, waiting,
    Option.bind_eq_some_iff.mpr ⟨_, turned, rfl⟩⟩⟩

end System

end Orihsus.Pool

namespace Orihsus.Gateway

open Pool (AttemptResult CallPhase Caller Selection System)

/-! ## The bound on an attempt -/

/-- The longest wait for the first event of a stream, global or of a model. -/
def GatewayState.longestFirstEvent (state : GatewayState) : Nat :=
  (state.modelEventTimeouts.map fun entry => entry.2.firstEventTimeout).foldr max
    state.timeouts.firstEvent

/-- The bound on an attempt: on the head of the response, and on what is read of its body. -/
def GatewayState.attemptBound (state : GatewayState) : Nat :=
  state.timeouts.upstreamHeader + max state.timeouts.upstreamErrorBody state.longestFirstEvent

/-- No model waits longer for its first event. -/
theorem firstEvent_le (state : GatewayState) (model : String) :
    (state.eventTimeoutsFor model).firstEventTimeout ≤ state.longestFirstEvent := by
  have least (waits : List Nat) : state.timeouts.firstEvent ≤
      waits.foldr max state.timeouts.firstEvent := by
    induction waits with
    | nil => exact Nat.le_refl _
    | cons wait rest inductionHypothesis =>
      exact Nat.le_trans inductionHypothesis (Nat.le_max_right _ _)
  have most (waits : List Nat) : ∀ wait ∈ waits, wait ≤
      waits.foldr max state.timeouts.firstEvent := by
    induction waits with
    | nil => exact nofun
    | cons wait rest inductionHypothesis =>
      intro other member
      rcases List.mem_cons.mp member with rfl | later
      · exact Nat.le_max_left _ _
      · exact Nat.le_trans (inductionHypothesis other later) (Nat.le_max_right _ _)
  unfold GatewayState.eventTimeoutsFor GatewayState.longestFirstEvent
  cases found : state.modelEventTimeouts.lookup model with
  | none => exact least _
  | some timeouts => exact most _ _ (List.mem_map.mpr ⟨_, lookup_mem found, rfl⟩)

/-- The read of an error body is over by its deadline. -/
theorem consumeLoop_time {attemptStart requestStart deadline : Nat} {read : ConsumedResponse}
    {buffered : List UInt8} {now : Nat} {body : Body} (ahead : now ≤ deadline) :
    (consumeLoop attemptStart requestStart deadline read buffered now body).time ≤ deadline := by
  induction body generalizing read buffered now with
  | nil => exact Nat.max_le.mpr ⟨ahead, Nat.le_refl _⟩
  | cons arrival rest inductionHypothesis =>
    unfold consumeLoop
    split
    · rename_i inTime
      have near := (inTime_iff ahead).mp inTime
      cases arrival.event with
      | failed | ended => exact near
      | chunk bytes =>
        dsimp only
        split
        · exact inductionHypothesis near
        · exact near
    · exact Nat.max_le.mpr ⟨ahead, Nat.le_refl _⟩

/-- The prefetch is over by its deadline. -/
theorem prefetchLoop_bounded {reading : Reading} {bufferCap attemptStart deadline : Nat}
    {held : Prefetch} {now : Nat} {body : Body} (ahead : now ≤ deadline) :
    (prefetchLoop reading bufferCap attemptStart deadline held now body).time ≤ deadline := by
  induction body generalizing held now with
  | nil => exact Nat.max_le.mpr ⟨ahead, Nat.le_refl _⟩
  | cons arrival rest inductionHypothesis =>
    unfold prefetchLoop
    split
    · rename_i inTime
      have near := (inTime_iff ahead).mp inTime
      cases arrival.event with
      | failed | ended => exact near
      | chunk bytes =>
        dsimp only
        split
        · exact near
        · split
          · exact near
          · exact inductionHypothesis near
    · exact Nat.max_le.mpr ⟨ahead, Nat.le_refl _⟩

/-- A response is prepared within the wait for its first event. -/
theorem prepareResponse_bounded {reading : Reading} {response : Response}
    {timeouts : EventTimeouts} {bufferCap attemptStart now : Nat} :
    (prepareResponse reading response timeouts bufferCap attemptStart now).1 ≤
      now + timeouts.firstEventTimeout := by
  have bounded : (prefetch reading response timeouts bufferCap attemptStart now).time ≤
      now + timeouts.firstEventTimeout := prefetchLoop_bounded (Nat.le_add_right _ _)
  unfold prepareResponse
  dsimp only
  split
  · exact Nat.le_add_right _ _
  · split
    · exact bounded
    · exact bounded

/-- A response of a retryable status is read within its bound. -/
theorem rejected_time {state : GatewayState} {attempt : Attempt} {now : Nat}
    {response : Response} {attempts : List AttemptSummary} {unreadable : Pool.Failure}
    {classified : ConsumedResponse → Pool.Failure} :
    (attempt.rejected state now response attempts unreadable classified).time ≤
      now + state.timeouts.upstreamErrorBody := by
  have bounded : (consumeClassifyBody response state.timeouts.upstreamErrorBody
      attempt.attemptStart attempt.requestStart now).time ≤
        now + state.timeouts.upstreamErrorBody := consumeLoop_time (Nat.le_add_right _ _)
  unfold Attempt.rejected
  split
  · rename_i consumes
    rw [consumes] at bounded
    exact bounded
  · rename_i consumes
    rw [consumes] at bounded
    exact bounded

/-- An attempt whose response has a head is over when what has to be read of the body is. -/
theorem respond_time {state : GatewayState} {libraries : Libraries} {attempt : Attempt}
    {wall : Int} {now : Nat} {response : Response} :
    (attempt.respond state libraries wall now response).time ≤
      now + max state.timeouts.upstreamErrorBody state.longestFirstEvent := by
  have consumed {time : Nat} (bounded : time ≤ now + state.timeouts.upstreamErrorBody) :
      time ≤ now + max state.timeouts.upstreamErrorBody state.longestFirstEvent :=
    Nat.le_trans bounded (Nat.add_le_add_left (Nat.le_max_left _ _) _)
  have prepared := Nat.le_trans (@prepareResponse_bounded libraries.reading response
      (state.eventTimeoutsFor attempt.model) sseEventCap attempt.attemptStart now)
    (Nat.add_le_add_left (Nat.le_trans (firstEvent_le state attempt.model)
      (Nat.le_max_right state.timeouts.upstreamErrorBody _)) now)
  unfold Attempt.respond
  dsimp only
  split
  · exact consumed rejected_time
  · split
    · exact consumed rejected_time
    · split
      · exact consumed rejected_time
      · split
        · rename_i prepares
          rw [prepares] at prepared
          exact prepared
        · rename_i prepares
          rw [prepares] at prepared
          exact prepared

/-- An attempt is over within its bound, whatever the upstream does.

Proof: without a head in time it is over at the bound on the head. With one, what is left is
the read of an error body or the wait for the first event, each under its own bound. -/
theorem conclude_time {state : GatewayState} {libraries : Libraries} {attempt : Attempt}
    {wall : Int} {exchange : Exchange} :
    (attempt.conclude state libraries wall exchange).time ≤
      attempt.attemptStart + state.attemptBound := by
  have header : attempt.attemptStart + state.timeouts.upstreamHeader ≤
      attempt.attemptStart + state.attemptBound :=
    Nat.add_le_add_left (Nat.le_add_right _ _) _
  unfold Attempt.conclude
  cases exchange with
  | silent => exact header
  | failed time =>
    dsimp only
    split
    · rename_i inTime
      exact Nat.le_trans (Nat.max_le.mpr ⟨Nat.le_add_right _ _, inTime⟩) header
    · exact header
  | responded time response =>
    dsimp only
    split
    · rename_i inTime
      refine Nat.le_trans respond_time ?_
      unfold GatewayState.attemptBound
      omega
    · exact header

namespace Setup

variable {setup : Setup} {before after first last : Proxy} {action : ProxyAction} {caller : Caller}
  {trace : List (Runs.Transition Proxy ProxyAction)}
  {answer : Option AttemptResult} {selection : Selection} {now : Nat}

/-! ## The tracker and the loop -/

/-- The tracker fits the place where the loop stands: it is in a call exactly while the loop
is, it sleeps at most until its deadline, and the deadline is no further away than when the
request was created. -/
structure Engaged (setup : Setup) (proxy : Proxy) (caller : Caller) : Prop where
  busy : proxy.stage = .calling ↔ caller.phase ≠ .idle
  deadline : caller.attempts.deadline ≤ proxy.system.clock + setup.policy.waitTimeout
  wakes : ∀ wake, caller.phase = .sleeping wake → wake ≤ caller.attempts.deadline
  sent : ∀ selection attemptStart, proxy.stage = .sending selection attemptStart →
    0 < caller.attempts.used.length ∧ attemptStart ≤ proxy.system.clock

/-- A loop that has been entered has a tracker, and the tracker fits. -/
structure Steered (setup : Setup) (proxy : Proxy) : Prop where
  present : proxy.stage ≠ .preparing →
    ∃ caller, proxy.system.callers[setup.request]? = some caller
  engaged : ∀ caller, proxy.system.callers[setup.request]? = some caller →
    Engaged setup proxy caller

/-- A loop with an engaged tracker is steered. -/
theorem Steered.of (waiting : after.system.callers[setup.request]? = some caller)
    (engaged : Engaged setup after caller) : Steered setup after := by
  refine ⟨fun _ => ⟨caller, waiting⟩, ?_⟩
  intro other present
  rw [waiting, Option.some.injEq] at present
  subst present
  exact engaged

/-- The answer of a call moves the loop and its tracker together. -/
theorem answered_steered {system : System}
    (waiting : before.system.callers[setup.request]? = some caller)
    (engaged : Engaged setup before caller)
    (turn : System.CallTurn setup.policy before.system setup.request caller system answer) :
    Steered setup (before.answered system answer) := by
  have bound : setup.request < before.system.callers.length :=
    (List.getElem?_eq_some_iff.mp waiting).1
  cases turn with
  | @quiet phase answer step =>
    have standing : (before.answered { before.system with
        callers := before.system.callers.set setup.request ⟨caller.attempts, phase⟩ }
        answer).system.callers[setup.request]? = some ⟨caller.attempts, phase⟩ := by
      rw [answered_system]
      exact List.getElem?_set_self bound
    have busy := step.busy_iff
    refine .of standing ⟨?_, ?_, fun wake sleeps => step.wakes sleeps, ?_⟩
    · rw [← busy]
      cases answer with
      | none => simp [Proxy.answered]
      | some given =>
        cases given with
        | selected selection => exact absurd rfl step.not_selected
        | unavailable | exhausted => simp [Proxy.answered]
    · rw [answered_system]
      exact engaged.deadline
    · intro selection attemptStart sending
      cases answer with
      | none => cases sending
      | some given =>
        cases given with
        | selected selection => exact absurd rfl step.not_selected
        | unavailable | exhausted => cases sending
  | @selected selection claimed looks =>
    have standing : (before.system.callers.set setup.request
        ⟨caller.attempts.markUsed selection, .idle⟩)[setup.request]? =
          some ⟨caller.attempts.markUsed selection, .idle⟩ := List.getElem?_set_self bound
    refine .of standing ⟨?_, engaged.deadline, ?_, ?_⟩
    · simp [Proxy.answered]
    · intro wake sleeps
      cases sleeps
    · intro _ _ sending
      cases sending
      exact ⟨by simp [Pool.RequestAttempts.markUsed], Nat.le_refl _⟩

/-- A step of anyone else keeps the tracker, or creates it before the loop is entered. -/
theorem other_steered {call : Pool.Action} {system : System}
    (foreign : calledRequest call ≠ some setup.request)
    (performed : before.system.perform setup.policy setup.fingerprint call =
      some (system, answer)) (steered : Steered setup before) :
    Steered setup { before with system := system } := by
  have later : before.system.clock ≤ system.clock := performed_clock performed
  cases waiting : before.system.callers[setup.request]? with
  | some caller =>
    have engaged := steered.engaged caller waiting
    have standing : system.callers[setup.request]? = some caller :=
      foreign_caller performed foreign waiting
    refine .of standing ⟨engaged.busy, ?_, engaged.wakes, ?_⟩
    · exact Nat.le_trans engaged.deadline (Nat.add_le_add_right later _)
    · intro selection attemptStart sending
      obtain ⟨used, past⟩ := engaged.sent selection attemptStart sending
      exact ⟨used, Nat.le_trans past later⟩
  | none =>
    have preparing : before.stage = .preparing := by
      by_contra entered
      obtain ⟨caller, present⟩ := steered.present entered
      rw [waiting] at present
      cases present
    have stepped : System.Step setup.policy setup.fingerprint before.system call system := by
      rw [System.Step, performed]
      rfl
    have treated := System.step_request stepped setup.request
    rw [waiting] at treated
    generalize found : system.callers[setup.request]? = left at treated
    generalize System.handed _ _ _ _ = hands at treated
    cases treated with
    | kept =>
      refine ⟨fun entered => absurd preparing entered, ?_⟩
      intro caller present
      rw [found] at present
      cases present
    | created model fresh asked =>
      refine .of found ⟨?_, ?_, ?_, ?_⟩
      · simp [preparing]
      · exact Nat.le_trans (Nat.add_le_add_left (Nat.min_le_left _ _) _)
          (Nat.add_le_add_right later _)
      · intro wake sleeps
        cases sleeps
      · intro selection attemptStart sending
        rw [preparing] at sending
        cases sending

/-- Outside of a call the tracker is idle. -/
theorem Engaged.idle (engaged : Engaged setup before caller) (apart : before.stage ≠ .calling) :
    caller.phase = .idle := by
  by_contra busy
  exact apart (engaged.busy.mpr busy)

/-- The end of an attempt keeps the tracker. -/
theorem settled_steered {system : System} {attemptStart : Nat}
    (sending : before.stage = .sending selection attemptStart)
    (engaged : Engaged setup before caller)
    (remains : system.callers[setup.request]? = some caller)
    (later : before.system.clock ≤ system.clock) (concluded : Concluded) :
    Steered setup (before.settled system selection attemptStart concluded) := by
  have idle := engaged.idle (by rw [sending]; exact Stage.noConfusion)
  have deadline : caller.attempts.deadline ≤ system.clock + setup.policy.waitTimeout :=
    Nat.le_trans engaged.deadline (Nat.add_le_add_right later _)
  have fits {settled : Proxy} (same : settled.system = system) (uncalled : settled.stage ≠ .calling)
      (unsent : ∀ chosen start, settled.stage ≠ .sending chosen start) :
      Steered setup settled := by
    subst same
    refine .of remains ⟨?_, deadline, engaged.wakes, ?_⟩
    · exact iff_of_false uncalled (fun busy => busy idle)
    · intro chosen start again
      exact absurd again (unsent chosen start)
  unfold Proxy.settled
  split
  · exact fits rfl Stage.noConfusion fun _ _ => Stage.noConfusion
  · exact fits rfl Stage.noConfusion fun _ _ => Stage.noConfusion

/-- Every step leaves the loop steered. -/
theorem step_steered (stepped : setup.Step before action after) (steered : Steered setup before) :
    Steered setup after := by
  have turns := step_turns stepped
  cases turns with
  | other foreign performed => exact other_steered foreign performed steered
  | @entered model system answer preparing performed =>
    have performs := System.perform_cases performed
    cases performs with
    | @setModel _ caller _ waiting idle =>
      have bound : setup.request < before.system.callers.length :=
        (List.getElem?_eq_some_iff.mp waiting).1
      have standing : (before.system.callers.set setup.request
          ⟨caller.attempts.setModel model, .idle⟩)[setup.request]? =
            some ⟨caller.attempts.setModel model, .idle⟩ := List.getElem?_set_self bound
      refine .of standing ⟨?_, (steered.engaged caller waiting).deadline, ?_, ?_⟩
      · simp
      · intro wake sleeps
        cases sleeps
      · intro selection attemptStart sending
        cases sending
    | quiet call | selected call => simp at call
  | chosen choosing performed =>
    obtain ⟨caller, waiting⟩ := steered.present (by rw [choosing]; exact Stage.noConfusion)
    refine answered_steered waiting (steered.engaged caller waiting)
      (System.call_turn ?_ waiting performed)
    unfold choice
    split
    · exact .inr (.inl rfl)
    · exact .inl rfl
  | advanced calling performed =>
    obtain ⟨caller, waiting⟩ := steered.present (by rw [calling]; exact Stage.noConfusion)
    exact answered_steered waiting (steered.engaged caller waiting)
      (System.call_turn (.inr (.inr rfl)) waiting performed)
  | @retried selection attemptStart exchange wall jitter report saved system answer sending verdict
      performed =>
    obtain ⟨caller, waiting⟩ := steered.present (by rw [sending]; exact Stage.noConfusion)
    have remains := foreign_caller performed (report_foreign _ _ _ _ setup.request) waiting
    exact settled_steered sending (steered.engaged caller waiting) remains
      (performed_clock performed) _
  | forwarded sending verdict =>
    obtain ⟨caller, waiting⟩ := steered.present (by rw [sending]; exact Stage.noConfusion)
    exact settled_steered sending (steered.engaged caller waiting) waiting (Nat.le_refl _) _

/-- So does every run. -/
theorem run_steered (initial : System.Initial setup.policy setup.fingerprint first.system)
    (fresh : Fresh first) (run : Runs.Run setup.Step first trace last) : Steered setup last := by
  refine run.invariant (Steered setup) ?_ fun _ _ _ => step_steered
  obtain ⟨_, _, none, _⟩ := initial
  refine ⟨fun entered => absurd fresh.1 entered, ?_⟩
  intro caller present
  rw [none] at present
  cases present

/-- The loop is not left for the place before it. -/
theorem step_entered (stepped : setup.Step before action after)
    (entered : before.stage ≠ .preparing) : after.stage ≠ .preparing := by
  have turns := step_turns stepped
  have answered (system : System) (answer : Option AttemptResult) :
      (before.answered system answer).stage ≠ .preparing := by
    unfold Proxy.answered
    split <;> exact Stage.noConfusion
  have settled (system : System) (selection : Selection) (attemptStart : Nat)
      (concluded : Concluded) :
      (before.settled system selection attemptStart concluded).stage ≠ .preparing := by
    unfold Proxy.settled
    split <;> exact Stage.noConfusion
  cases turns with
  | other foreign performed => exact entered
  | entered preparing performed => exact Stage.noConfusion
  | chosen | advanced => exact answered _ _
  | retried | forwarded => exact settled _ _ _ _

/-! ## The way to the end -/

/-- The attempts that a request has left. -/
def attemptsLeft (caller : Caller) : Nat := caller.attempts.max - caller.attempts.used.length

/-- The turns that a call past its deadline can still take, and one more. -/
def callTurns (caller : Caller) : Nat :=
  match caller.phase with
  | .idle => 0
  | .recovering read => if caller.attempts.deadline ≤ read then 2 else 6
  | .missed => 3
  | .selecting => 4
  | .sleeping _ => 5

/-- The instant from which on the loop can go on: a call has come to its deadline, or the
attempt in flight is over. What the upstreams do with each attempt is given. -/
def due (setup : Setup) (answers : Selection → Nat → Exchange) (proxy : Proxy)
    (caller : Caller) : Nat :=
  match proxy.stage with
  | .calling => caller.attempts.deadline
  | .sending selection attemptStart =>
      (setup.concluded proxy selection attemptStart 0 (answers selection attemptStart)).time
  | _ => 0

/-- One if an instant is still to come. -/
def ahead (now instant : Nat) : Nat := if now < instant then 1 else 0

/-- A wait counts as one step. -/
theorem ahead_le (now instant : Nat) : ahead now instant ≤ 1 := by
  unfold ahead
  split <;> omega

/-- An instant that has passed is not waited for. -/
theorem ahead_past {now instant : Nat} (past : instant ≤ now) : ahead now instant = 0 :=
  if_neg (Nat.not_lt.mpr past)

/-- One that has not is. -/
theorem ahead_early {now instant : Nat} (early : now < instant) : ahead now instant = 1 :=
  if_pos early

/-- The steps that are left to the loop where it stands. -/
def stageSteps (proxy : Proxy) (caller : Caller) : Nat :=
  match proxy.stage with
  | .preparing => 0
  | .finished _ => 1
  | .choosing => 10 * attemptsLeft caller + 10
  | .calling => 10 * attemptsLeft caller + callTurns caller
  | .sending _ _ => 10 * attemptsLeft caller + 11

/-- The steps that are left to the loop, with the one that lets time pass. -/
def stepsLeft (setup : Setup) (answers : Selection → Nat → Exchange) (proxy : Proxy)
    (caller : Caller) : Nat :=
  stageSteps proxy caller + ahead proxy.system.clock (setup.due answers proxy caller)

/-- The rest of the bound on the attempt in flight. -/
def flightLeft (setup : Setup) (proxy : Proxy) : Nat :=
  match proxy.stage with
  | .sending _ attemptStart =>
      attemptStart + setup.gateway.attemptBound - proxy.system.clock
  | _ => 0

/-- The instant before which the loop is over, left to itself: it waits for a key at most
until the deadline and for each attempt at most its bound. -/
def overBy (setup : Setup) (proxy : Proxy) (caller : Caller) : Nat :=
  max proxy.system.clock caller.attempts.deadline +
    attemptsLeft caller * setup.gateway.attemptBound + setup.flightLeft proxy

variable {answers : Selection → Nat → Exchange}

/-- Time passes until the loop can go on. -/
def waited (setup : Setup) (answers : Selection → Nat → Exchange) (proxy : Proxy)
    (caller : Caller) : Proxy :=
  { proxy with system := { proxy.system with
      clock := proxy.system.clock + (setup.due answers proxy caller - proxy.system.clock) } }

/-- Time brings the loop nearer to its end and keeps the instant before which it is over. -/
theorem waited_progress (early : before.system.clock < setup.due answers before caller) :
    setup.stepsLeft answers (setup.waited answers before caller) caller <
        setup.stepsLeft answers before caller ∧
      setup.overBy (setup.waited answers before caller) caller ≤ setup.overBy before caller := by
  have clock : (setup.waited answers before caller).system.clock =
      setup.due answers before caller := by
    simp only [waited]
    omega
  have same : setup.due answers (setup.waited answers before caller) caller =
      setup.due answers before caller := rfl
  have steps : stageSteps (setup.waited answers before caller) caller =
      stageSteps before caller := rfl
  constructor
  · unfold stepsLeft
    rw [clock, same, steps, ahead_past (Nat.le_refl _), ahead_early early]
    exact Nat.lt_succ_self _
  · unfold overBy flightLeft
    rw [clock]
    have stage : (setup.waited answers before caller).stage = before.stage := rfl
    rw [stage]
    unfold due at early ⊢
    cases at_ : before.stage with
    | calling =>
      simp only [at_] at early ⊢
      omega
    | sending selection attemptStart =>
      have bounded : (setup.concluded before selection attemptStart 0
          (answers selection attemptStart)).time ≤ attemptStart + setup.gateway.attemptBound :=
        conclude_time
      simp only [at_] at early ⊢
      omega
    | _ =>
      simp only [at_] at early
      omega

/-- What one step of the loop leaves. -/
def Nearer (setup : Setup) (answers : Selection → Nat → Exchange) (before : Proxy)
    (caller : Caller) (after : Proxy) : Prop :=
  ∃ left, after.system.callers[setup.request]? = some left ∧
    setup.stepsLeft answers after left < setup.stepsLeft answers before caller ∧
      setup.overBy after left ≤ setup.overBy before caller

/-- A finished loop has its last step left. -/
theorem stepsLeft_finished {outcome : FinalOutcome} (finished : before.stage = .finished outcome) :
    setup.stepsLeft answers before caller = 1 := by
  simp only [stepsLeft, stageSteps, due, finished, ahead_past (Nat.zero_le _)]

/-- A choosing loop can make all its attempts. -/
theorem stepsLeft_choosing (choosing : before.stage = .choosing) :
    setup.stepsLeft answers before caller = 10 * attemptsLeft caller + 10 := by
  simp only [stepsLeft, stageSteps, due, choosing, ahead_past (Nat.zero_le _), Nat.add_zero]

/-- A call has its turns and its deadline left. -/
theorem stepsLeft_calling (calling : before.stage = .calling) :
    setup.stepsLeft answers before caller = 10 * attemptsLeft caller + callTurns caller +
      ahead before.system.clock caller.attempts.deadline := by
  simp only [stepsLeft, stageSteps, due, calling]

/-- A call has at most six turns. -/
theorem callTurns_le (caller : Caller) : callTurns caller ≤ 6 := by
  unfold callTurns
  split
  · omega
  · split <;> omega
  · omega
  · omega
  · omega

/-- Every turn of a call past its deadline is one less to come. -/
theorem turns_fall {state : Pool.PoolState} {attempts : Pool.RequestAttempts}
    {phase next : CallPhase}
    (step : Pool.QuietStep setup.policy state now attempts phase next answer)
    (busy : phase ≠ .idle) (overdue : attempts.deadline ≤ now) :
    callTurns ⟨attempts, next⟩ < callTurns ⟨attempts, phase⟩ ∧ 2 ≤ callTurns ⟨attempts, phase⟩ := by
  cases step with
  | spent | began | unlucky => exact absurd rfl busy
  | missed | drained | woke => simp [callTurns]
  | timed => simp [callTurns, overdue]
  | late late => simp [callTurns, late]
  | stranded early | retried early | slept early => simp [callTurns, Nat.not_le.mpr early]

/-- A turn without a selection leaves the loop in its call, or ends it. -/
theorem quiet_stage {system : System} {phase next : CallPhase} {state : Pool.PoolState}
    {attempts : Pool.RequestAttempts}
    (step : Pool.QuietStep setup.policy state now attempts phase next answer) :
    (before.answered system answer).stage = .calling ∨
      ∃ outcome, (before.answered system answer).stage = .finished outcome := by
  cases answer with
  | none => exact .inl rfl
  | some given =>
    cases given with
    | selected selection => exact absurd rfl step.not_selected
    | unavailable | exhausted => exact .inr ⟨_, rfl⟩

/-- A turn of a call past its deadline, or the start of a call, brings the loop nearer. -/
theorem quiet_nearer {phase : CallPhase}
    (waiting : before.system.callers[setup.request]? = some caller)
    (engaged : Engaged setup before caller)
    (asks : before.stage = .choosing ∨
      before.stage = .calling ∧ caller.attempts.deadline ≤ before.system.clock)
    (step : Pool.QuietStep setup.policy before.system.pool before.system.clock caller.attempts
      caller.phase phase answer) :
    Nearer setup answers before caller (before.answered { before.system with
      callers := before.system.callers.set setup.request ⟨caller.attempts, phase⟩ } answer) := by
  have bound : setup.request < before.system.callers.length :=
    (List.getElem?_eq_some_iff.mp waiting).1
  let left : Caller := ⟨caller.attempts, phase⟩
  let system : System :=
    { before.system with callers := before.system.callers.set setup.request left }
  have stages : (before.answered system answer).stage = .calling ∨
      ∃ outcome, (before.answered system answer).stage = .finished outcome := quiet_stage step
  have reached : (before.answered system answer).system = system := answered_system _ _
  refine ⟨left, ?_, ?_, ?_⟩
  · rw [reached]
    exact List.getElem?_set_self bound
  · have few := callTurns_le left
    rcases asks with choosing | ⟨calling, overdue⟩
    · rw [stepsLeft_choosing choosing]
      rcases stages with onward | ⟨outcome, ends⟩
      · rw [stepsLeft_calling onward]
        have flag := ahead_le (before.answered system answer).system.clock left.attempts.deadline
        change 10 * attemptsLeft caller + callTurns left + _ < _
        omega
      · rw [stepsLeft_finished ends]
        omega
    · obtain ⟨falls, turns⟩ := turns_fall step (engaged.busy.mp calling) overdue
      rw [stepsLeft_calling calling]
      rcases stages with onward | ⟨outcome, ends⟩
      · rw [stepsLeft_calling onward, reached]
        exact Nat.add_lt_add_right (Nat.add_lt_add_left falls _) _
      · rw [stepsLeft_finished ends]
        change 2 ≤ callTurns caller at turns
        omega
  · have unsent {proxy : Proxy} (stage : proxy.stage = .choosing ∨ proxy.stage = .calling ∨
        ∃ outcome, proxy.stage = .finished outcome) : setup.flightLeft proxy = 0 := by
      rcases stage with at_ | at_ | ⟨outcome, at_⟩ <;> simp only [flightLeft, at_]
    have standing : before.stage = .choosing ∨ before.stage = .calling :=
      asks.imp_right And.left
    unfold overBy
    rw [unsent (.inr stages), unsent (standing.imp_right .inl), reached]
    exact Nat.le_refl _

/-- A selection uses up an attempt. -/
theorem selected_nearer {claimed : Pool.PoolState}
    (waiting : before.system.callers[setup.request]? = some caller)
    (asks : before.stage = .choosing ∨ before.stage = .calling ∧ caller.phase = .selecting)
    (room : caller.attempts.used.length < caller.attempts.max) :
    Nearer setup answers before caller (before.answered { before.system with
      pool := claimed
      callers := before.system.callers.set setup.request
        ⟨caller.attempts.markUsed selection, .idle⟩
      issued := before.system.issued ++ [selection] } (some (.selected selection))) := by
  have bound : setup.request < before.system.callers.length :=
    (List.getElem?_eq_some_iff.mp waiting).1
  have fewer : attemptsLeft caller =
      attemptsLeft ⟨caller.attempts.markUsed selection, .idle⟩ + 1 := by
    simp only [attemptsLeft, Pool.RequestAttempts.markUsed, List.length_append,
      List.length_singleton]
    omega
  refine ⟨⟨caller.attempts.markUsed selection, .idle⟩, List.getElem?_set_self bound, ?_, ?_⟩
  · have sending : setup.stepsLeft answers (before.answered { before.system with
        pool := claimed
        callers := before.system.callers.set setup.request
          ⟨caller.attempts.markUsed selection, .idle⟩
        issued := before.system.issued ++ [selection] } (some (.selected selection)))
          ⟨caller.attempts.markUsed selection, .idle⟩ ≤ 10 * attemptsLeft caller + 2 := by
      simp only [stepsLeft, stageSteps, due, Proxy.answered]
      refine Nat.le_trans (Nat.add_le_add_left (ahead_le _ _) _) ?_
      omega
    refine Nat.lt_of_le_of_lt sending ?_
    rcases asks with choosing | ⟨calling, selecting⟩
    · rw [stepsLeft_choosing choosing]
      omega
    · rw [stepsLeft_calling calling]
      simp only [callTurns, selecting]
      omega
  · have standing : setup.flightLeft before = 0 := by
      rcases asks with at_ | ⟨at_, _⟩ <;> simp only [flightLeft, at_]
    unfold overBy
    rw [standing, fewer, Nat.succ_mul]
    simp only [flightLeft, Proxy.answered, Pool.RequestAttempts.markUsed]
    omega

/-- The report that an attempt makes is one that the pool takes. -/
theorem report_performed {report : Report} {selection : Selection} {jitter : Nat → Nat}
    (issued : selection ∈ before.system.issued) :
    ∃ pool, before.system.perform setup.policy setup.fingerprint
      (report.action selection before.model jitter) = some (before.system.withPool pool) := by
  cases report with
  | failure | livenessFailure => exact ⟨_, Runs.guard_bind.mpr ⟨issued, rfl⟩⟩

/-- An attempt that is over leaves the loop for the next choice or for its end. -/
theorem conclude_acts (ledger : Ledger setup trace before) {attemptStart : Nat}
    (sending : before.stage = .sending selection attemptStart) {exchange : Exchange} {wall : Int}
    (ends : (setup.concluded before selection attemptStart wall exchange).time ≤
      before.system.clock) (jitter : Nat → Nat) :
    ∃ pool, setup.Step before (.conclude exchange wall jitter)
      (before.settled { before.system with pool := pool } selection attemptStart
        (setup.concluded before selection attemptStart wall exchange)) := by
  have issued := ledger.issued selection attemptStart sending
  have enabled : setup.enabled before (.conclude exchange wall jitter) = true := by
    simp only [Setup.enabled, sending, decide_eq_true_eq]
    exact ends
  have asks : setup.poolAction before (.conclude exchange wall jitter) =
      (setup.concluded before selection attemptStart wall exchange).verdict.report.map
        (Report.action selection before.model jitter) := by
    simp only [poolAction, sending]
  unfold Step perform
  rw [if_pos enabled, asks]
  cases (setup.concluded before selection attemptStart wall exchange).verdict.report with
  | none =>
    refine ⟨before.system.pool, ?_⟩
    simp only [Option.map_none, follow, sending]
  | some report =>
    obtain ⟨pool, performed⟩ := @report_performed setup before report selection jitter issued
    refine ⟨pool, ?_⟩
    simp only [Option.map_some, performed, follow, sending, System.withPool]

/-- The loop can go on where it stands, and what it does brings it nearer to its end: past the
instant it waits for, a call takes its next turn, and an attempt that is over is concluded. -/
theorem loop_acts (ledger : Ledger setup trace before) (steered : Steered setup before)
    (waiting : before.system.callers[setup.request]? = some caller)
    (room : caller.phase ≠ .idle → caller.attempts.used.length < caller.attempts.max)
    (entered : before.stage ≠ .preparing)
    (going : ∀ outcome, before.stage ≠ .finished outcome)
    (overdue : setup.due answers before caller ≤ before.system.clock) (jitter : Nat → Nat) :
    ∃ action next, setup.Step before action next ∧ Nearer setup answers before caller next ∧
      (action = .choose ∨ action = .advance ∨ ∃ selection attemptStart,
        before.stage = .sending selection attemptStart ∧
          action = .conclude (answers selection attemptStart) 0 jitter) := by
  have engaged := steered.engaged caller waiting
  cases stage : before.stage with
  | preparing => exact absurd stage entered
  | finished outcome => exact absurd stage (going outcome)
  | choosing =>
    have idle := engaged.idle (by rw [stage]; exact Stage.noConfusion)
    have performed : ∃ result, before.system.perform setup.policy setup.fingerprint
        (setup.choice before) = some result := by
      unfold choice
      split
      · exact ⟨_, Option.bind_eq_some_iff.mpr ⟨caller, waiting, Runs.guard_bind.mpr ⟨idle, rfl⟩⟩⟩
      · exact ⟨_, Option.bind_eq_some_iff.mpr ⟨caller, waiting, Runs.guard_bind.mpr ⟨idle, rfl⟩⟩⟩
    obtain ⟨⟨system, answer⟩, performed⟩ := performed
    have calls : setup.choice before = .next setup.request ∨
        setup.choice before = .nextImmediate setup.request ∨
          setup.choice before = .advance setup.request := by
      unfold choice
      split
      · exact .inr (.inl rfl)
      · exact .inl rfl
    refine ⟨.choose, before.answered system answer, ?_, ?_, .inl rfl⟩
    · simp [Step, perform, enabled, stage, poolAction, performed, follow]
    · cases System.call_turn calls waiting performed with
      | quiet step => exact quiet_nearer waiting engaged (.inl stage) step
      | selected looks =>
        refine selected_nearer waiting (.inl stage) ?_
        rcases looks with ⟨_, space⟩ | selecting
        · exact space
        · rw [idle] at selecting
          cases selecting
  | calling =>
    have busy := engaged.busy.mp stage
    have late : caller.attempts.deadline ≤ before.system.clock := by
      simpa only [due, stage] using overdue
    obtain ⟨⟨system, answer⟩, performed⟩ :=
      System.advance_enabled setup.policy setup.fingerprint waiting busy late engaged.wakes
    refine ⟨.advance, before.answered system answer, ?_, ?_, .inr (.inl rfl)⟩
    · simp [Step, perform, enabled, stage, poolAction, performed, follow]
    · cases System.call_turn (.inr (.inr rfl)) waiting performed with
      | quiet step => exact quiet_nearer waiting engaged (.inr ⟨stage, late⟩) step
      | selected looks =>
        refine selected_nearer waiting (.inr ⟨stage, ?_⟩) (room busy)
        rcases looks with ⟨idle, _⟩ | selecting
        · exact absurd idle busy
        · exact selecting
  | sending selection attemptStart =>
    have late : (setup.concluded before selection attemptStart 0
        (answers selection attemptStart)).time ≤ before.system.clock := by
      simpa only [due, stage] using overdue
    obtain ⟨pool, stepped⟩ := conclude_acts ledger stage late jitter
    refine ⟨_, _, stepped, ⟨caller, ?_, ?_, ?_⟩, .inr (.inr ⟨selection, attemptStart, rfl, rfl⟩)⟩
    · rw [settled_system]
      exact waiting
    · have most : 10 * attemptsLeft caller + 11 ≤ setup.stepsLeft answers before caller := by
        simp only [stepsLeft, stageSteps, stage]
        exact Nat.le_add_right _ _
      refine Nat.lt_of_lt_of_le ?_ most
      cases verdict : (setup.concluded before selection attemptStart 0
          (answers selection attemptStart)).verdict with
      | retry report saved =>
        rw [stepsLeft_choosing (by simp [Proxy.settled, verdict])]
        exact Nat.lt_succ_self _
      | forward prepared =>
        rw [stepsLeft_finished (by simp [Proxy.settled, verdict]; rfl)]
        omega
    · obtain ⟨same, _, unsent⟩ := settled_instants before { before.system with pool := pool }
        selection attemptStart (setup.concluded before selection attemptStart 0
          (answers selection attemptStart))
      have landed : setup.flightLeft (before.settled { before.system with pool := pool } selection
          attemptStart (setup.concluded before selection attemptStart 0
            (answers selection attemptStart))) = 0 := by
        unfold flightLeft
        split
        · rename_i again
          exact absurd again (unsent _ _)
        · rfl
      unfold overBy
      rw [landed, same]
      exact Nat.le_add_right _ _

end Setup

/-! ## The loop of a handler -/

namespace Handler

variable {handler : Handler} {before after first last : Handling} {action : HandlerAction}
  {trace : List (Runs.Transition Handling HandlerAction)}

/-- The request is in the loop exactly where its handler is. -/
structure Placed (handling : Handling) : Prop where
  early : handling.station.early = true → handling.proxy.stage = .preparing
  entered : ∀ snapshot identity body, handling.station = .attempting snapshot identity body →
    handling.proxy.stage ≠ .preparing

/-- The loop stands where its handler does. -/
theorem step_placed (stepped : handler.Step before action after)
    (kept : after.station.early = true → after.proxy.stage = .preparing)
    (placed : Placed before) : Placed after := by
  refine ⟨kept, ?_⟩
  intro snapshot identity body attempting
  have walked (walks : Walks before after.station) :
      before.station = .attempting snapshot identity body := by
    generalize after.station = station at walks attempting
    cases walks with
    | stays => exact attempting
    | nears early still =>
      rw [attempting] at still
      cases still
    | drops | streams => cases attempting
  have moves := step_moves stepped
  cases moves with
  | walks quiet same unrecorded walks =>
    rw [same]
    exact placed.entered snapshot identity body (walked walks)
  | @calls _ call _ takes looped unrecorded calls =>
    generalize at_ : after.station = station at calls
    cases calls with
    | outside foreign walks =>
      rw [← at_] at walks
      exact Setup.step_entered looped (placed.entered snapshot identity body (walked walks))
    | enters buffered accepted =>
      have turns := Setup.step_turns looped
      generalize after.proxy = proxy at turns
      cases turns with
      | entered preparing performed => exact Stage.noConfusion
    | attempts standing own =>
      rw [standing] at at_
      exact Setup.step_entered looped (placed.entered _ _ _ standing)
  | rejects | serves | pumps => cases attempting

/-- No step of a handler sets the clock back. -/
theorem step_clock (stepped : handler.Step before action after) :
    before.proxy.system.clock ≤ after.proxy.system.clock := by
  cases step_moves stepped with
  | walks quiet same => exact Nat.le_of_eq (by rw [same])
  | calls takes looped => exact (Setup.step_instants looped).2.1
  | rejects | serves => exact Nat.le_refl _
  | pumps streaming reports =>
    rcases reports with ⟨_, same⟩ | ⟨_, _, reported⟩
    · exact Nat.le_of_eq (by rw [same]; rfl)
    · exact (Setup.step_instants reported).2.1

/-- The read of a body is given its bound when it starts. -/
theorem reading_step {snapshot : RuntimeState} {identity : GatewayIdentity} {deadline : Nat}
    (stepped : handler.Step before action after)
    (reading : after.station = .reading snapshot identity deadline) :
    before.station = .reading snapshot identity deadline ∨
      deadline = before.proxy.system.clock + handler.setup.gateway.timeouts.bodyRead := by
  unfold Step at stepped
  cases own : action.own with
  | true =>
    have passes := (own_passes stepped own).1
    rw [reading] at passes
    generalize before.station = station at passes
    cases passes with
    | checked leads | rechecked leads => cases leads
    | served =>
      simp only [perform] at stepped
      split at stepped
      · split at stepped
        · obtain ⟨proxy, _, rfl⟩ := Option.map_eq_some_iff.mp stepped
          cases reading
          exact .inr rfl
        · cases stepped
      · cases stepped
  | false =>
    cases action with
    | other call | updateWithKeys keys state =>
      obtain ⟨proxy, _, rfl⟩ := Option.map_eq_some_iff.mp stepped
      exact .inl reading
    | update | setWall =>
      cases stepped
      exact .inl reading
    | _ => cases own

/-- What its run says about the body and the loop of a request. -/
structure Guided (handler : Handler) (handling : Handling) : Prop extends Placed handling where
  reads : ∀ snapshot identity deadline,
    handling.station = .reading snapshot identity deadline →
      deadline ≤ handling.proxy.system.clock + handler.setup.gateway.timeouts.bodyRead
  ledger : ∃ trace, Setup.Ledger handler.setup trace handling.proxy
  steered : Setup.Steered handler.setup handling.proxy
  limit : ∀ caller, handling.proxy.system.callers[handler.setup.request]? = some caller →
    caller.attempts.max = handler.setup.policy.maxAttempts
  bounded : ∀ caller, handling.proxy.system.callers[handler.setup.request]? = some caller →
    caller.attempts.used.length ≤ caller.attempts.max
  room : ∀ caller, handling.proxy.system.callers[handler.setup.request]? = some caller →
    caller.phase ≠ .idle → caller.attempts.used.length < caller.attempts.max

/-- So it does in every run. -/
theorem run_placed (arrives : Arrives handler first)
    (run : Runs.Run handler.Step first trace last) : Placed last := by
  induction run with
  | start =>
    refine ⟨fun _ => arrives.fresh.1, ?_⟩
    rw [arrives.arriving]
    intro _ _ _ attempting
    cases attempting
  | extend earlier stepped inductionHypothesis =>
    exact step_placed stepped (run_kept arrives (earlier.extend stepped)).early inductionHypothesis

/-- In every run of a request the read of its body is bounded. -/
theorem run_reads (arrives : Arrives handler first)
    (run : Runs.Run handler.Step first trace last) {snapshot : RuntimeState}
    {identity : GatewayIdentity} {deadline : Nat}
    (reading : last.station = .reading snapshot identity deadline) :
    deadline ≤ last.proxy.system.clock + handler.setup.gateway.timeouts.bodyRead := by
  induction run with
  | start =>
    rw [arrives.arriving] at reading
    cases reading
  | extend earlier stepped inductionHypothesis =>
    refine Nat.le_trans ?_ (Nat.add_le_add_right (step_clock stepped) _)
    rcases reading_step stepped reading with still | set
    · exact inductionHypothesis still
    · exact Nat.le_of_eq set

/-- In every run of a request its loop is guided. -/
theorem run_guided (arrives : Arrives handler first)
    (run : Runs.Run handler.Step first trace last) : Guided handler last := by
  have looped := run_loop run
  have none : first.proxy.system.callers = [] := by
    obtain ⟨_, _, none, _⟩ := arrives.initial
    exact none
  have tracked (caller : Caller)
      (waiting : last.proxy.system.callers[handler.setup.request]? = some caller) :
      ∃ taken, System.Tracked handler.setup.policy handler.setup.fingerprint
        handler.setup.request taken caller := by
    have followed := System.run_followed none (Setup.run_pool looped) handler.setup.request
    rw [waiting] at followed
    exact ⟨_, followed⟩
  refine ⟨run_placed arrives run, fun _ _ _ => run_reads arrives run,
    ⟨_, Setup.run_ledger arrives.fresh looped⟩,
    Setup.run_steered arrives.initial arrives.fresh looped, ?_, ?_, ?_⟩
  · intro caller waiting
    obtain ⟨taken, follows⟩ := tracked caller waiting
    exact follows.limit
  · intro caller waiting
    obtain ⟨taken, follows⟩ := tracked caller waiting
    exact follows.bounded
  · intro caller waiting
    obtain ⟨taken, follows⟩ := tracked caller waiting
    exact follows.room

/-- The loop is over after the wait for a key and the bounds on the attempts, at the latest. -/
theorem Guided.overBy_le {handling : Handling} {caller : Caller} (guided : Guided handler handling)
    (waiting : handling.proxy.system.callers[handler.setup.request]? = some caller) :
    handler.setup.overBy handling.proxy caller ≤ handling.proxy.system.clock +
      (handler.setup.policy.waitTimeout + handler.setup.policy.maxAttempts *
        handler.setup.gateway.attemptBound) := by
  have engaged := guided.steered.engaged caller waiting
  have limit := guided.limit caller waiting
  have bounded := guided.bounded caller waiting
  generalize bounds : handler.setup.gateway.attemptBound = bound
  have flights : Setup.attemptsLeft caller * bound + handler.setup.flightLeft handling.proxy ≤
      handler.setup.policy.maxAttempts * bound := by
    unfold Setup.attemptsLeft
    cases stage : handling.proxy.stage with
    | sending selection attemptStart =>
      obtain ⟨used, past⟩ := engaged.sent selection attemptStart stage
      have flight : handler.setup.flightLeft handling.proxy ≤ bound := by
        simp only [Setup.flightLeft, stage, bounds]
        omega
      calc (caller.attempts.max - caller.attempts.used.length) * bound +
              handler.setup.flightLeft handling.proxy
          ≤ (caller.attempts.max - caller.attempts.used.length) * bound + bound :=
            Nat.add_le_add_left flight _
        _ = (caller.attempts.max - caller.attempts.used.length + 1) * bound :=
            (Nat.succ_mul _ _).symm
        _ ≤ handler.setup.policy.maxAttempts * bound := Nat.mul_le_mul_right _ (by omega)
    | _ =>
      simp only [Setup.flightLeft, stage, Nat.add_zero]
      exact Nat.mul_le_mul_right _ (by omega)
  have deadline := engaged.deadline
  rw [Setup.overBy, bounds]
  omega

end Handler

end Orihsus.Gateway
