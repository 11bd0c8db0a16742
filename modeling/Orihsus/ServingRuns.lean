import Orihsus.Serving

/-!
# Runs of the accept loop

Laws of every run of `serve` beyond its cap. A connection that makes no request is dropped
when the header bound is over, and only such a connection is. Failures of `accept` neither
end the loop nor make it spin: between two that are not transient lies the retry delay. Only
the shutdown ends the loop, and from there `serve` can return by the drain deadline without
the help of any connection; before that deadline none is aborted.
-/

namespace Orihsus.Serving

open Semaphores (total)

namespace Serve

variable {serve : Serve} {before after first middle last listener : Listener} {action : Action}
  {id : Nat} {connection next : Connection} {event : Event} {maxConnections now : Nat}
  {trace earlier later : List (Runs.Transition Listener Action)}

/-! ## The first request -/

/-- Where a task of the set comes from: it stood there already, it was just spawned, it was
polled, or it is over. -/
inductive Came (serve : Serve) (before : Listener) (action : Action) (id : Nat) :
    Connection → Prop
  | stays {connection : Connection} (same : before.connections[id]? = some connection)
      (unpolled : ∀ event, action ≠ .connection id event) : Came serve before action id connection
  | arrives (fresh : id = before.connections.length)
      (unpolled : ∀ event, action ≠ .connection id event) : Came serve before action id .spawned
  | polled {previous connection : Connection} {event : Event}
      (present : before.connections[id]? = some previous)
      (acts : action = .connection id event)
      (advanced : previous.advance serve.limits before.clock event = some connection) :
      Came serve before action id connection
  | finished {connection : Connection} (dropped : connection.permits = 0) :
      Came serve before action id connection

/-- A step that puts a task in the place of another one. -/
theorem came_set {other : Nat} {placed : Connection} (dropped : placed.permits = 0)
    (unpolled : ∀ event, action ≠ .connection id event)
    (present : (before.connections.set other placed)[id]? = some connection) :
    Came serve before action id connection := by
  by_cases same : other = id
  · subst same
    have bound : other < before.connections.length := by
      simpa using (List.getElem?_eq_some_iff.mp present).1
    rw [List.getElem?_set_self bound, Option.some.injEq] at present
    subst present
    exact .finished dropped
  · rw [List.getElem?_set_ne same] at present
    exact .stays present unpolled

/-- Where a connection comes from. -/
theorem step_came (stepped : serve.Step before action after)
    (present : after.connections[id]? = some connection) :
    Came serve before action id connection := by
  cases step_turn stepped with
  | waited | signalled | closed | failed | retried | stopped | aborted | ended =>
    exact .stays present (fun _ acts => Action.noConfusion acts)
  | spawned accepting taken =>
    rw [List.getElem?_append] at present
    split at present
    · exact .stays present (fun _ acts => Action.noConfusion acts)
    · rename_i beyond
      have bound := (List.getElem?_eq_some_iff.mp present).1
      rw [List.length_singleton] at bound
      have fresh : id = before.connections.length := by omega
      obtain rfl := List.mem_singleton.mp (List.mem_of_getElem? present)
      exact .arrives fresh (fun _ acts => Action.noConfusion acts)
  | @reaped other ending accepting finished =>
    unfold Listener.reapNextConnection at present
    split at present
    · exact came_set rfl (fun _ acts => Action.noConfusion acts) present
    · exact came_set rfl (fun _ acts => Action.noConfusion acts) present
  | drained leaving finished => exact came_set rfl (fun _ acts => Action.noConfusion acts) present
  | @moved other previous next event found advanced =>
    by_cases same : other = id
    · subst same
      have bound : other < before.connections.length := (List.getElem?_eq_some_iff.mp found).1
      rw [Listener.moved, List.getElem?_set_self bound, Option.some.injEq] at present
      subst present
      exact .polled found rfl advanced
    · rw [Listener.moved, List.getElem?_set_ne same] at present
      refine .stays present ?_
      intro event acts
      cases acts
      exact same rfl
  | cancelled aborting found alive =>
    exact came_set rfl (fun _ acts => Action.noConfusion acts) present

/-- A poll that leaves a task running is its first one or tells of a request. -/
theorem advance_running {deadline : Nat} {requested : Bool}
    (advanced : connection.advance serve.limits now event = some (.running deadline requested)) :
    (event = .start ∧ connection = .spawned ∧
        deadline = now + serve.limits.headerReadTimeout ∧ requested = false) ∨
      (event = .request ∧ requested = true ∧ ∃ asked, connection = .running deadline asked) := by
  unfold Connection.advance at advanced
  split at advanced
  · cases advanced
    exact .inl ⟨rfl, rfl, rfl, rfl⟩
  · cases advanced
    exact .inr ⟨rfl, rfl, _, rfl⟩
  · cases advanced
  · cases advanced
  · split at advanced <;> cases advanced
  · cases advanced

/-- No connection is spawned again. -/
theorem advance_not_spawned :
    connection.advance serve.limits now event ≠ some .spawned := by
  intro advanced
  unfold Connection.advance at advanced
  split at advanced
  · cases advanced
  · cases advanced
  · cases advanced
  · cases advanced
  · split at advanced <;> cases advanced
  · cases advanced

/-- What the steps so far say of the tasks: only a task of the set was polled, a task that
runs was started at its deadline less the bound, and one without a request had none. -/
structure Tracked (serve : Serve) (trace : List (Runs.Transition Listener Action))
    (listener : Listener) : Prop where
  known : ∀ taken ∈ trace, ∀ id event, taken.label = .connection id event →
    id < listener.connections.length
  unpolled : ∀ id : Nat, listener.connections[id]? = some .spawned →
    ∀ taken ∈ trace, ∀ event, taken.label ≠ .connection id event
  started : ∀ (id deadline : Nat) (requested : Bool),
    listener.connections[id]? = some (.running deadline requested) →
      ∃ taken ∈ trace, taken.label = .connection id .start ∧
        deadline = taken.before.clock + serve.limits.headerReadTimeout
  silent : ∀ id deadline : Nat, listener.connections[id]? = some (.running deadline false) →
    ∀ taken ∈ trace, taken.label ≠ .connection id .request
  armed : ∀ (id deadline : Nat) (requested : Bool),
    listener.connections[id]? = some (.running deadline requested) →
      deadline ≤ listener.clock + serve.limits.headerReadTimeout

/-- The set only grows and the clock only goes forward. -/
theorem step_monotone (stepped : serve.Step before action after) :
    before.connections.length ≤ after.connections.length ∧ before.clock ≤ after.clock := by
  cases step_turn stepped with
  | waited elapsed => exact ⟨Nat.le_refl _, Nat.le_add_right _ _⟩
  | signalled | closed | failed | retried | stopped | aborted | ended =>
    exact ⟨Nat.le_refl _, Nat.le_refl _⟩
  | spawned accepting taken =>
    refine ⟨?_, Nat.le_refl _⟩
    simp
  | reaped accepting finished =>
    unfold Listener.reapNextConnection
    split <;> simp [Listener.remove]
  | drained leaving finished => simp [Listener.remove]
  | moved | cancelled => simp [Listener.moved]

/-- Only a task of the set is polled. -/
theorem polled_known (stepped : serve.Step before (.connection id event) after) :
    id < before.connections.length := by
  cases step_turn stepped with
  | moved present advanced => exact (List.getElem?_eq_some_iff.mp present).1

/-- A step says of the tasks what the run up to it says. -/
theorem step_tracked (stepped : serve.Step before action after)
    (tracked : Tracked serve trace before) :
    Tracked serve (trace ++ [⟨before, action, after⟩]) after := by
  obtain ⟨grows, passes⟩ := step_monotone stepped
  -- A step that polls another task says nothing of this one.
  have extended {id : Nat} {event : Event} (unpolled : ∀ event, action ≠ .connection id event)
      (earlier : ∀ taken ∈ trace, taken.label ≠ .connection id event) :
      ∀ taken ∈ trace ++ [⟨before, action, after⟩], taken.label ≠ .connection id event := by
    intro taken member
    rcases List.mem_append.mp member with old | new
    · exact earlier taken old
    · rw [List.mem_singleton.mp new]
      exact unpolled event
  constructor
  case known =>
    intro taken member id event labelled
    rcases List.mem_append.mp member with old | new
    · exact Nat.lt_of_lt_of_le (tracked.known taken old id event labelled) grows
    · rw [List.mem_singleton.mp new] at labelled
      cases labelled
      exact Nat.lt_of_lt_of_le (polled_known stepped) grows
  case unpolled =>
    intro id present taken member event
    cases step_came stepped present with
    | stays same unpolled =>
      exact extended unpolled (fun taken old => tracked.unpolled id same taken old event) taken
        member
    | arrives fresh unpolled =>
      refine extended unpolled ?_ taken member
      intro taken old labelled
      have bound := tracked.known taken old id event labelled
      omega
    | polled found acts advanced => exact absurd advanced advance_not_spawned
    | finished dropped => cases dropped
  case started =>
    intro id deadline requested present
    have kept {requested : Bool}
        (same : before.connections[id]? = some (.running deadline requested)) :
        ∃ taken ∈ trace ++ [⟨before, action, after⟩], taken.label = .connection id .start ∧
          deadline = taken.before.clock + serve.limits.headerReadTimeout := by
      obtain ⟨taken, old, labelled, computed⟩ := tracked.started id deadline requested same
      exact ⟨taken, List.mem_append_left _ old, labelled, computed⟩
    cases step_came stepped present with
    | stays same unpolled => exact kept same
    | polled found acts advanced =>
      rcases advance_running advanced with ⟨rfl, _, computed, _⟩ | ⟨_, _, asked, rfl⟩
      · exact ⟨_, List.mem_append_right _ (List.mem_singleton_self _), acts, computed⟩
      · exact kept found
    | finished dropped => cases dropped
  case silent =>
    intro id deadline present
    cases step_came stepped present with
    | stays same unpolled => exact extended unpolled (tracked.silent id deadline same)
    | polled found acts advanced =>
      rcases advance_running advanced with ⟨rfl, rfl, _, _⟩ | ⟨_, requested, _⟩
      · intro taken member
        rcases List.mem_append.mp member with old | new
        · exact tracked.unpolled id found taken old _
        · rw [List.mem_singleton.mp new, acts]
          nofun
      · cases requested
    | finished dropped => cases dropped
  case armed =>
    intro id deadline requested present
    have kept {requested : Bool}
        (same : before.connections[id]? = some (.running deadline requested)) :
        deadline ≤ after.clock + serve.limits.headerReadTimeout :=
      Nat.le_trans (tracked.armed id deadline requested same) (Nat.add_le_add_right passes _)
    cases step_came stepped present with
    | stays same unpolled => exact kept same
    | polled found acts advanced =>
      rcases advance_running advanced with ⟨_, _, rfl, _⟩ | ⟨_, _, asked, rfl⟩
      · exact Nat.add_le_add_right passes _
      · exact kept found
    | finished dropped => cases dropped

/-- So do all steps of a run. -/
theorem run_tracked (run : Runs.Run serve.Step (.started maxConnections now) trace last) :
    Tracked serve trace last := by
  induction run with
  | start =>
    have nothing (id : Nat) (connection : Connection) :
        (Listener.started maxConnections now).connections[id]? ≠ some connection := by
      rw [Listener.started, List.getElem?_nil]
      nofun
    constructor
    · intro taken member
      cases member
    · exact fun id present => absurd present (nothing id _)
    · exact fun id _ _ present => absurd present (nothing id _)
    · exact fun id _ present => absurd present (nothing id _)
    · exact fun id _ _ present => absurd present (nothing id _)
  | extend earlier stepped inductionHypothesis => exact step_tracked stepped inductionHypothesis

/-- The watchdog ends a task without a request, past its bound. -/
theorem expire_silent (stepped : serve.Step before (.connection id .expire) after) :
    ∃ deadline, before.connections[id]? = some (.running deadline false) ∧
      deadline ≤ before.clock := by
  cases step_turn stepped with
  | @moved _ connection next _ present advanced =>
    cases connection with
    | running deadline requested =>
      simp only [Connection.advance] at advanced
      split at advanced
      · rename_i ready
        obtain ⟨due, rfl⟩ := ready
        exact ⟨deadline, present, due⟩
      · cases advanced
    | _ => cases advanced

/-- A connection without a request is dropped, and no other by the watchdog. In every run:

* a connection that the watchdog ends was first polled at least the header bound before,
  and no request had been made on it;
* a connection that has made no request reaches its bound within the header timeout, and
  from then on the watchdog can end it, which gives its permit back at once.

Proof: every step keeps the bound of a connection counted from the step that started it. -/
theorem silent_connection_dropped
    (run : Runs.Run serve.Step (.started maxConnections now) trace last) :
    (∀ earlier taken later id, trace = earlier ++ taken :: later →
      taken.label = .connection id .expire →
        (∃ started ∈ earlier, started.label = .connection id .start ∧
          started.before.clock + serve.limits.headerReadTimeout ≤ taken.before.clock) ∧
        ∀ other ∈ earlier, other.label ≠ .connection id .request) ∧
      ∀ id deadline : Nat, last.connections[id]? = some (.running deadline false) →
        deadline ≤ last.clock + serve.limits.headerReadTimeout ∧
          (deadline ≤ last.clock → ∃ after, serve.Step last (.connection id .expire) after ∧
            after.connections[id]? = some (.finished .watchdog) ∧
            after.connectionCap.available = last.connectionCap.available + 1) := by
  constructor
  · rintro earlier ⟨before, label, after⟩ later id rfl rfl
    obtain ⟨upTo, stepped, _⟩ := run.split
    have tracked := run_tracked upTo
    obtain ⟨deadline, present, due⟩ := expire_silent stepped
    obtain ⟨started, member, began, rfl⟩ := tracked.started id deadline _ present
    exact ⟨⟨started, member, began, due⟩, tracked.silent id _ present⟩
  · intro id deadline present
    refine ⟨(run_tracked run).armed id deadline false present, ?_⟩
    intro due
    have stepped : serve.Step last (.connection id .expire)
        (last.moved id (.finished .watchdog)) := by
      simp [Step, perform, present, Connection.advance, due]
    have bound : id < last.connections.length := (List.getElem?_eq_some_iff.mp present).1
    refine ⟨_, stepped, List.getElem?_set_self bound, ?_⟩
    have before := (run_balanced run).exactly
    have after := (run_balanced (run.extend stepped)).exactly
    have fewer : total Connection.permits (last.moved id (.finished .watchdog)).connections +
        Connection.permits (.running deadline false) =
          total Connection.permits last.connections + Connection.permits (.finished .watchdog) :=
      Semaphores.total_set present _
    simp only [Connection.permits] at fewer
    omega

/-- A connection that sends nothing for the ten seconds it has. -/
def silentPeer : List Action :=
  [.accept, .connection 0 .start, .tick 10_000_000_000]

/-- A silent peer is dropped at the timeout. -/
theorem silent_connection_dropped_peer :
    let last := Runs.reached sampleServe.perform (.started 1 0) silentPeer
    last.connections[0]? = some (.running 10_000_000_000 false) ∧
      ∃ after, sampleServe.Step last (.connection 0 .expire) after ∧
        after.connections[0]? = some (.finished .watchdog) ∧
        after.connectionCap.available = last.connectionCap.available + 1 := by
  have enabled : (Runs.record sampleServe.perform (.started 1 0) silentPeer).isSome := by
    decide +kernel
  have present : (Runs.reached sampleServe.perform (.started 1 0) silentPeer).connections[0]? =
      some (.running 10_000_000_000 false) := by decide +kernel
  have dropped := (silent_connection_dropped (Runs.replay_run enabled)).2 0 10_000_000_000 present
  exact ⟨present, dropped.2 (by decide +kernel)⟩

/-! ## Failures of `accept` -/

/-- A failure that is not retried at once. -/
def delayed (taken : Runs.Transition Listener Action) : Bool :=
  match taken.label with
  | .acceptFails error => acceptRetryDelay error ≠ 0
  | _ => false

/-- The failures of a run that are not retried at once. -/
def failures (trace : List (Runs.Transition Listener Action)) : Nat := trace.countP delayed

/-- The instant at which the loop can next look for a socket. -/
def nextLook (listener : Listener) : Nat :=
  match listener.stage with
  | .backingOff wake => max listener.clock wake
  | _ => listener.clock

/-- An error of `accept` is retried at once or after the delay. -/
theorem acceptRetryDelay_cases (error : AcceptError) :
    acceptRetryDelay error = 0 ∨ acceptRetryDelay error = retryDelay := by
  cases error with
  | interrupted | connectionAborted => exact .inl rfl
  | other code => exact .inr rfl

/-- The next look is not in the past. -/
theorem clock_le_nextLook (listener : Listener) : listener.clock ≤ nextLook listener := by
  unfold nextLook
  split
  · exact Nat.le_max_left _ _
  · exact Nat.le_refl _

/-- A step moves the next look forward, and a delayed failure by the delay. -/
theorem step_nextLook (stepped : serve.Step before action after) :
    nextLook before + (if delayed ⟨before, action, after⟩ then retryDelay else 0) ≤
      nextLook after := by
  cases step_turn stepped with
  | waited elapsed =>
    simp only [delayed, Bool.false_eq_true, if_false, Nat.add_zero]
    unfold nextLook
    dsimp only
    split <;> omega
  | signalled | closed => exact Nat.le_refl _
  | spawned | drained | moved | cancelled => exact Nat.le_refl _
  | failed error accepting =>
    have look : nextLook before = before.clock := by
      rw [nextLook, accepting]
    rw [look]
    simp only [delayed, nextLook, Listener.acceptFailed]
    rcases acceptRetryDelay_cases error with none | delay
    · simp [none]
    · have positive : retryDelay ≠ 0 := by decide
      simp [delay, positive]
  | @retried wake asleep due =>
    simp only [delayed, nextLook, asleep]
    simp [due]
  | reaped accepting finished =>
    have look : nextLook before = before.clock := by
      rw [nextLook, accepting]
    rw [look]
    unfold Listener.reapNextConnection
    split
    · exact clock_le_nextLook _
    · exact clock_le_nextLook _
  | stopped accepting | aborted accepting =>
    simp [delayed, nextLook, accepting]
  | ended leaving =>
    rcases leaving with ⟨deadline, draining⟩ | aborting
    · simp [delayed, nextLook, draining]
    · simp [delayed, nextLook, aborting]

/-- Each failure puts off the next look by the delay. -/
theorem run_nextLook (run : Runs.Run serve.Step first trace last) :
    nextLook first + failures trace * retryDelay ≤ nextLook last := by
  induction run with
  | start => simp [failures]
  | @extend shorter current next label earlier stepped inductionHypothesis =>
    have further := step_nextLook stepped
    unfold failures at inductionHypothesis ⊢
    rw [List.countP_append, List.countP_singleton]
    split at further
    · rename_i slow
      rw [if_pos slow, Nat.add_mul]
      omega
    · rename_i quick
      rw [if_neg quick, Nat.add_zero]
      omega

/-- A sleep of the loop ends within the delay. -/
def Napping (listener : Listener) : Prop :=
  ∀ wake, listener.stage = .backingOff wake → wake ≤ listener.clock + retryDelay

/-- The loop sleeps no longer than the delay. -/
theorem step_napping (stepped : serve.Step before action after) (napping : Napping before) :
    Napping after := by
  intro wake asleep
  cases step_turn stepped with
  | waited elapsed =>
    have bounded := napping wake asleep
    dsimp only
    omega
  | signalled | spawned | closed | drained | moved | cancelled => exact napping wake asleep
  | failed error accepting =>
    simp only [Listener.acceptFailed] at asleep ⊢
    split at asleep
    · cases asleep
    · cases asleep
      rcases acceptRetryDelay_cases error with none | delay
      · omega
      · rw [delay]
  | retried | stopped | aborted | ended => cases asleep
  | reaped accepting finished =>
    unfold Listener.reapNextConnection at asleep
    split at asleep
    · rw [Listener.remove, accepting] at asleep
      cases asleep
    · rw [Listener.remove, accepting] at asleep
      cases asleep

/-- Each warning stands once on the standard error stream when its flag is set, and not
before. -/
structure Warned (listener : Listener) : Prop where
  accept : listener.stderr.count acceptFailureWarning = if listener.acceptWarned then 1 else 0
  connection : listener.stderr.count connectionTaskWarning =
    if listener.connectionWarned then 1 else 0

/-- The two warnings can be told apart. -/
theorem warnings_differ : acceptFailureWarning ≠ connectionTaskWarning := by decide

/-- A warning that is printed through its flag stands once. -/
theorem count_warnOnce {texts : List String} {flag : Bool} {message : String}
    (counted : texts.count message = if flag then 1 else 0) :
    (texts ++ Audit.warnOnce flag message).count message = 1 := by
  rw [List.count_append, counted]
  cases flag with
  | true => rfl
  | false => simp [Audit.warnOnce]

/-- A warning does not count as another one. -/
theorem count_warnOnce_other {texts : List String} {flag : Bool} {message other : String}
    (different : message ≠ other) :
    (texts ++ Audit.warnOnce flag message).count other = texts.count other := by
  rw [List.count_append]
  cases flag with
  | true => rfl
  | false => simp [Audit.warnOnce, different]

/-- Each warning is printed once. -/
theorem step_warned (stepped : serve.Step before action after) (warned : Warned before) :
    Warned after := by
  cases step_turn stepped with
  | waited | signalled | spawned | closed | retried | stopped | drained | aborted | ended | moved
  | cancelled => exact ⟨warned.accept, warned.connection⟩
  | failed error accepting =>
    refine ⟨count_warnOnce warned.accept, ?_⟩
    exact (count_warnOnce_other warnings_differ).trans warned.connection
  | reaped accepting finished =>
    unfold Listener.reapNextConnection
    split
    · exact ⟨warned.accept, warned.connection⟩
    · refine ⟨?_, count_warnOnce warned.connection⟩
      exact (count_warnOnce_other warnings_differ.symm).trans warned.accept

/-- Only the shutdown leads out of the loop. -/
def LeftByShutdown (listener : Listener) : Prop :=
  listener.stage.open_ = false → listener.shutdown = true

/-- Only a shutdown ends the loop. -/
theorem step_leftByShutdown (stepped : serve.Step before action after)
    (kept : LeftByShutdown before) : LeftByShutdown after := by
  intro left
  cases step_turn stepped with
  | waited | closed | spawned | drained | moved | cancelled => exact kept left
  | signalled => rfl
  | failed error accepting =>
    simp only [Listener.acceptFailed] at left
    split at left <;> cases left
  | retried => cases left
  | reaped accepting finished =>
    unfold Listener.reapNextConnection at left
    split at left
    · rw [Listener.remove, accepting] at left
      cases left
    · rw [Listener.remove, accepting] at left
      cases left
  | stopped accepting shutdown => exact shutdown
  | aborted draining =>
    apply kept
    rw [draining]
    rfl
  | ended leaving =>
    apply kept
    rcases leaving with ⟨deadline, draining⟩ | aborting
    · rw [draining]
      rfl
    · rw [aborting]
      rfl

/-- Failures of `accept` and of connections neither stop the loop nor flood anything. In
every part of every run the failures that are not transient are at least the retry delay
apart, each of the two warnings is printed at most once however much fails, nothing but the
shutdown leads out of the loop, and a sleep of the loop is over within the delay.

Proof: each clause is an invariant; the failures are counted by the instant of the next look. -/
theorem accept_loop_survives
    (upTo : Runs.Run serve.Step (.started maxConnections now) earlier middle)
    (onward : Runs.Run serve.Step middle later last) :
    middle.clock + failures later * retryDelay ≤ last.clock + retryDelay ∧
      last.stderr.count acceptFailureWarning ≤ 1 ∧
      last.stderr.count connectionTaskWarning ≤ 1 ∧
      (last.stage.open_ = false → last.shutdown = true) ∧
      ∀ wake, last.stage = .backingOff wake → wake ≤ last.clock + retryDelay := by
  have whole := upTo.append onward
  have napping : Napping last := whole.invariant Napping nofun fun _ _ _ => step_napping
  have warned : Warned last :=
    whole.invariant Warned ⟨rfl, rfl⟩ fun _ _ _ => step_warned
  have left : LeftByShutdown last :=
    whole.invariant LeftByShutdown nofun fun _ _ _ => step_leftByShutdown
  refine ⟨?_, ?_, ?_, left, napping⟩
  · have spaced := run_nextLook onward
    have began := clock_le_nextLook middle
    have look : nextLook last ≤ last.clock + retryDelay := by
      unfold nextLook
      split
      · rename_i wake asleep
        exact Nat.max_le.mpr ⟨Nat.le_add_right _ _, napping wake asleep⟩
      · exact Nat.le_add_right _ _
    omega
  · rw [warned.accept]
    split <;> decide
  · rw [warned.connection]
    split <;> decide

/-- `accept` fails twice with the retry delay between, and a connection in between. -/
def failingAccepts : List Action :=
  [.acceptFails (.other 24), .tick retryDelay, .retry, .accept, .acceptFails (.other 24)]

/-- The loop goes on after two failures. -/
theorem accept_loop_survives_failures :
    let last := Runs.reached sampleServe.perform (.started 1 7) failingAccepts
    failures (Runs.steps sampleServe.perform (.started 1 7) failingAccepts) = 2 ∧
      7 + 2 * retryDelay ≤ last.clock + retryDelay ∧
      last.stderr.count acceptFailureWarning ≤ 1 ∧
      ∀ wake, last.stage = .backingOff wake → wake ≤ last.clock + retryDelay := by
  have enabled : (Runs.record sampleServe.perform (.started 1 7) failingAccepts).isSome := by
    decide +kernel
  have survives := accept_loop_survives .start (Runs.replay_run enabled)
  have twice : failures (Runs.steps sampleServe.perform (.started 1 7) failingAccepts) = 2 := by
    decide +kernel
  rw [twice] at survives
  exact ⟨twice, survives.1, survives.2.1, survives.2.2.2.2⟩

/-! ## The drain -/

/-- A step that no connection takes part in, but for being cancelled. -/
def unaided : Action → Bool
  | .tick _ | .retry | .stop | .drain _ | .abortAll | .finish | .cancel _ => true
  | _ => false

/-- The steps it takes to be rid of a task after `abort_all`. -/
def effort : Connection → Nat
  | .spawned | .running _ _ => 2
  | .finished _ => 1
  | .reaped _ => 0

/-- The steps that are left to an empty set. -/
def remaining (listener : Listener) : Nat :=
  total effort listener.connections + if listener.stage = .aborting then 0 else 1

/-- `serve` has returned by a time. -/
def ReturnedBy (time : Nat) (listener : Listener) : Prop :=
  listener.stage = .returned ∧ listener.clock ≤ time

/-- `serve` can return by a time with steps that no connection takes part in. -/
abbrev Returns (serve : Serve) (time : Nat) : Listener → Prop :=
  Runs.Reaches serve.Step (unaided · = true) (ReturnedBy time)

/-- The drain is past its deadline, or every task was told to stop. -/
def Leaving (time : Nat) (listener : Listener) : Prop :=
  listener.clock = time ∧
    ((∃ deadline ≤ time, listener.stage = .draining deadline) ∨ listener.stage = .aborting)

/-- Without a task in the set `serve` returns at once. -/
theorem empty_returns {time : Nat} (leaving : Leaving time listener)
    (empty : listener.isEmpty = true) : Returns serve time listener := by
  have stepped : serve.Step listener .finish { listener with stage := .returned } := by
    rcases leaving.2 with ⟨deadline, _, draining⟩ | aborting
    · simp [Step, perform, draining, empty]
    · simp [Step, perform, aborting, empty]
  have done : Returns serve time { listener with stage := .returned } :=
    .here ⟨rfl, Nat.le_of_eq leaving.1⟩
  exact done.before stepped rfl

/-- A task in the set, if there is one. -/
theorem exists_inSet (busy : listener.isEmpty = false) :
    ∃ (id : Nat) (connection : Connection),
      listener.connections[id]? = some connection ∧ connection.inSet = true := by
  unfold Listener.isEmpty at busy
  obtain ⟨connection, member, inside⟩ := List.all_eq_false.mp busy
  obtain ⟨id, present⟩ := List.getElem?_of_mem member
  exact ⟨id, connection, present, by simpa using inside⟩

/-- Reaping a task leaves one step less. -/
theorem remaining_remove {ending : Ending}
    (present : listener.connections[id]? = some (.finished ending)) :
    remaining (listener.remove id ending) < remaining listener := by
  have fewer : total effort (listener.remove id ending).connections + 1 =
      total effort listener.connections + 0 := Semaphores.total_set present (.reaped ending)
  have same : (listener.remove id ending).stage = listener.stage := rfl
  unfold remaining
  rw [same]
  omega

/-- So does cancelling one. -/
theorem remaining_cancel (present : listener.connections[id]? = some connection)
    (alive : effort connection = 2) :
    remaining (listener.moved id (.finished .aborted)) < remaining listener := by
  have fewer : total effort (listener.moved id (.finished .aborted)).connections +
      effort connection = total effort listener.connections + 1 :=
    Semaphores.total_set present (.finished .aborted)
  have same : (listener.moved id (.finished .aborted)).stage = listener.stage := rfl
  unfold remaining
  rw [same]
  omega

/-- After `abort_all` a task that is still there is reaped or cancelled. -/
theorem aborting_progress {time : Nat} (leaving : Leaving time listener)
    (aborting : listener.stage = .aborting) (busy : listener.isEmpty = false) :
    ∃ action after, serve.Step listener action after ∧ unaided action = true ∧
      Leaving time after ∧ remaining after < remaining listener := by
  obtain ⟨id, connection, present, inside⟩ := exists_inSet busy
  cases connection with
  | finished ending =>
    refine ⟨.drain id, listener.remove id ending, ?_, rfl, ⟨leaving.1, .inr aborting⟩,
      remaining_remove present⟩
    simp [Step, perform, aborting, present]
  | reaped ending => cases inside
  | spawned | running =>
    refine ⟨.cancel id, listener.moved id (.finished .aborted), ?_, rfl,
      ⟨leaving.1, .inr aborting⟩, remaining_cancel present rfl⟩
    simp [Step, perform, aborting, present]

/-- Past the deadline a task that is over is reaped, since `join_next` is polled first, and
otherwise all of them are told to stop. -/
theorem draining_progress {time deadline : Nat} (leaving : Leaving time listener)
    (draining : listener.stage = .draining deadline) (due : deadline ≤ time)
    (busy : listener.isEmpty = false) :
    ∃ action after, serve.Step listener action after ∧ unaided action = true ∧
      Leaving time after ∧ remaining after < remaining listener := by
  by_cases ended : listener.connections.any Connection.isFinished = true
  · obtain ⟨connection, member, finished⟩ := List.any_eq_true.mp ended
    obtain ⟨id, present⟩ := List.getElem?_of_mem member
    cases connection with
    | finished ending =>
      refine ⟨.drain id, listener.remove id ending, ?_, rfl,
        ⟨leaving.1, .inl ⟨deadline, due, draining⟩⟩, remaining_remove present⟩
      simp [Step, perform, draining, present]
    | _ => cases finished
  · have alive := Bool.eq_false_of_not_eq_true ended
    refine ⟨.abortAll, { listener with stage := .aborting }, ?_, rfl, ⟨leaving.1, .inr rfl⟩, ?_⟩
    · simp [Step, perform, draining, leaving.1, due, busy, alive]
    · simp [remaining, draining]

/-- Past the deadline of the drain `serve` can return at once. -/
theorem leaving_returns {time : Nat} (leaving : Leaving time listener) :
    Returns serve time listener := by
  have emptied : Runs.Reaches serve.Step (unaided · = true)
      (fun final => Leaving time final ∧ final.isEmpty = true) listener := by
    apply Runs.Reaches.descend (Leaving time) remaining _ leaving
    intro current holds
    by_cases empty : current.isEmpty = true
    · exact .inl ⟨holds, empty⟩
    · have busy := Bool.eq_false_of_not_eq_true empty
      rcases holds.2 with ⟨deadline, due, draining⟩ | aborting
      · exact .inr (draining_progress holds draining due busy)
      · exact .inr (aborting_progress holds aborting busy)
  exact emptied.trans fun final last => empty_returns last.1 last.2

/-- A drain ends within the drain timeout of any of its states. -/
def Draining (serve : Serve) (listener : Listener) : Prop :=
  ∀ deadline, listener.stage = .draining deadline →
    deadline ≤ listener.clock + serve.drainTimeout

/-- The drain has no longer than its timeout. -/
theorem step_draining (stepped : serve.Step before action after) (kept : Draining serve before) :
    Draining serve after := by
  intro deadline draining
  cases step_turn stepped with
  | waited elapsed =>
    have bounded := kept deadline draining
    dsimp only
    omega
  | signalled | spawned | closed | drained | moved | cancelled => exact kept deadline draining
  | failed error accepting =>
    simp only [Listener.acceptFailed] at draining
    split at draining <;> cases draining
  | retried | aborted | ended => cases draining
  | reaped accepting finished =>
    unfold Listener.reapNextConnection at draining
    split at draining
    · rw [Listener.remove, accepting] at draining
      cases draining
    · rw [Listener.remove, accepting] at draining
      cases draining
  | stopped accepting shutdown =>
    cases draining
    exact Nat.le_refl _

/-- What returns soon returns by any later instant. -/
theorem Returns.mono {soon late : Nat} (returns : Returns serve soon listener)
    (ordered : soon ≤ late) : Returns serve late listener :=
  Runs.Reaches.mono returns fun _ done => ⟨done.1, Nat.le_trans done.2 ordered⟩

/-- From the drain `serve` can return by the deadline. -/
theorem returns_from_drain {deadline : Nat} (draining : listener.stage = .draining deadline) :
    Returns serve (max listener.clock deadline) listener := by
  let ticked : Listener := { listener with clock := listener.clock + (deadline - listener.clock) }
  have stepped : serve.Step listener (.tick (deadline - listener.clock)) ticked := rfl
  have same : ticked.clock = max listener.clock deadline := by
    simp only [ticked]
    omega
  have leaving : Leaving (max listener.clock deadline) ticked :=
    ⟨same, .inl ⟨deadline, Nat.le_max_right _ _, draining⟩⟩
  exact (leaving_returns leaving).before stepped rfl

/-- From the loop `serve` can return by the drain timeout once the shutdown is there. -/
theorem returns_from_loop (accepting : listener.stage = .accepting)
    (shutdown : listener.shutdown = true) :
    Returns serve (listener.clock + serve.drainTimeout) listener := by
  have stepped : serve.Step listener .stop
      { listener with stage := .draining (listener.clock + serve.drainTimeout) } := by
    simp [Step, perform, accepting, shutdown]
  have rest : Returns serve (max listener.clock (listener.clock + serve.drainTimeout))
      { listener with stage := .draining (listener.clock + serve.drainTimeout) } :=
    returns_from_drain rfl
  rw [Nat.max_eq_right (Nat.le_add_right _ _)] at rest
  exact rest.before stepped rfl

/-- From the sleep after a failed `accept` `serve` can return one retry delay later. -/
theorem returns_from_sleep {wake : Nat} (asleep : listener.stage = .backingOff wake)
    (soon : wake ≤ listener.clock + retryDelay) (shutdown : listener.shutdown = true) :
    Returns serve (listener.clock + retryDelay + serve.drainTimeout) listener := by
  let ticked : Listener := { listener with clock := listener.clock + (wake - listener.clock) }
  have waits : serve.Step listener (.tick (wake - listener.clock)) ticked := rfl
  have due : wake ≤ ticked.clock := by
    simp only [ticked]
    omega
  have woken : serve.Step ticked .retry { ticked with stage := .accepting } := by
    have same : ticked.stage = .backingOff wake := asleep
    simp [Step, perform, same, due]
  have rest : Returns serve (ticked.clock + serve.drainTimeout)
      { ticked with stage := .accepting } := returns_from_loop rfl shutdown
  have bounded : ticked.clock + serve.drainTimeout ≤
      listener.clock + retryDelay + serve.drainTimeout := by
    simp only [ticked]
    omega
  have awake : Returns serve (ticked.clock + serve.drainTimeout) ticked := rest.before woken rfl
  have sooner : Returns serve (ticked.clock + serve.drainTimeout) listener :=
    awake.before waits rfl
  exact sooner.mono bounded

/-- Since when a drain is under way, and that tasks are aborted after its deadline. -/
structure Since (serve : Serve) (trace : List (Runs.Transition Listener Action))
    (listener : Listener) : Prop where
  draining : ∀ deadline, listener.stage = .draining deadline → ∃ taken ∈ trace,
    taken.label = .stop ∧ deadline = taken.before.clock + serve.drainTimeout
  aborting : listener.stage = .aborting → ∃ taken ∈ trace,
    taken.label = .stop ∧ taken.before.clock + serve.drainTimeout ≤ listener.clock

/-- A step that keeps the stage keeps what is known of the drain. -/
theorem Since.kept (since : Since serve trace before) (same : after.stage = before.stage)
    (passes : before.clock ≤ after.clock) (taken : Runs.Transition Listener Action) :
    Since serve (trace ++ [taken]) after := by
  constructor
  · intro deadline draining
    obtain ⟨stopped, member, rest⟩ := since.draining deadline (same.symm.trans draining)
    exact ⟨stopped, List.mem_append_left _ member, rest⟩
  · intro aborting
    obtain ⟨stopped, member, labelled, past⟩ := since.aborting (same.symm.trans aborting)
    exact ⟨stopped, List.mem_append_left _ member, labelled, Nat.le_trans past passes⟩

/-- A step that leaves the loop open leaves nothing to know. -/
theorem Since.opened (taken : Runs.Transition Listener Action)
    (looping : after.stage.open_ = true ∨ after.stage = .returned) :
    Since serve (trace ++ [taken]) after := by
  constructor
  · intro deadline draining
    rcases looping with looping | returned
    · rw [draining] at looping
      cases looping
    · rw [draining] at returned
      cases returned
  · intro aborting
    rcases looping with looping | returned
    · rw [aborting] at looping
      cases looping
    · rw [aborting] at returned
      cases returned

/-- Every drain began with a `stop`. -/
theorem step_since (stepped : serve.Step before action after) (since : Since serve trace before) :
    Since serve (trace ++ [⟨before, action, after⟩]) after := by
  have passes := (step_monotone stepped).2
  cases step_turn stepped with
  | waited | signalled | spawned | closed | drained | moved | cancelled =>
    exact since.kept (by rfl) passes _
  | failed error accepting =>
    refine .opened _ (.inl ?_)
    simp only [Listener.acceptFailed]
    split <;> rfl
  | retried | ended => exact .opened _ (by simp [Stage.open_])
  | reaped accepting finished =>
    refine since.kept ?_ passes _
    unfold Listener.reapNextConnection
    split <;> rfl
  | stopped accepting shutdown =>
    constructor
    · intro deadline draining
      cases draining
      exact ⟨_, List.mem_append_right _ (List.mem_singleton_self _), rfl, rfl⟩
    · nofun
  | aborted draining due =>
    constructor
    · nofun
    · intro _
      obtain ⟨stopped, member, labelled, rfl⟩ := since.draining _ draining
      exact ⟨stopped, List.mem_append_left _ member, labelled, due⟩

/-- So it did in every run. -/
theorem run_since (run : Runs.Run serve.Step (.started maxConnections now) trace last) :
    Since serve trace last := by
  induction run with
  | start => exact ⟨nofun, nofun⟩
  | extend earlier stepped inductionHypothesis => exact step_since stepped inductionHypothesis

/-- Only an aborting server cancels connections. -/
theorem aborting_of_cancel (stepped : serve.Step before (.cancel id) after) :
    before.stage = .aborting := by
  cases step_turn stepped with
  | cancelled aborting present alive => exact aborting

/-- `serve` returns in time and aborts nothing early. Whenever the shutdown has been
signalled, whatever the connections are doing, `serve` can return within the retry delay and
the drain timeout by its own steps; and a connection is cancelled only when the drain
timeout has passed since the loop was left.

Proof: by the stage of the loop, each of which leads to the next within its own bound. -/
theorem drain_returns (run : Runs.Run serve.Step (.started maxConnections now) trace last) :
    (last.shutdown = true → Runs.Reaches serve.Step (unaided · = true)
      (ReturnedBy (last.clock + retryDelay + serve.drainTimeout)) last) ∧
      ∀ earlier taken later id, trace = earlier ++ taken :: later → taken.label = .cancel id →
        ∃ stopped ∈ earlier, stopped.label = .stop ∧
          stopped.before.clock + serve.drainTimeout ≤ taken.before.clock := by
  constructor
  · intro shutdown
    have napping : Napping last := run.invariant Napping nofun fun _ _ _ => step_napping
    have drains : Draining serve last :=
      run.invariant (Draining serve) nofun fun _ _ _ => step_draining
    cases stage : last.stage with
    | accepting => exact (returns_from_loop stage shutdown).mono (by omega)
    | backingOff wake => exact returns_from_sleep stage (napping wake stage) shutdown
    | draining deadline =>
      have bounded := drains deadline stage
      exact (returns_from_drain stage).mono (by omega)
    | aborting =>
      have leaving : Leaving last.clock last := ⟨rfl, .inr stage⟩
      exact (leaving_returns leaving).mono (by omega)
    | returned => exact .here ⟨stage, by omega⟩
  · rintro earlier ⟨before, label, after⟩ later id rfl rfl
    obtain ⟨upTo, stepped, _⟩ := run.split
    exact (run_since upTo).aborting (aborting_of_cancel stepped)

/-- The shutdown comes while one connection answers and `accept` has just failed. -/
def shutDownWhileBusy : List Action :=
  [.accept, .connection 0 .start, .connection 0 .request, .acceptFails (.other 24),
    .shutDown]

/-- The drain returns although a connection is busy. -/
theorem drain_returns_busy :
    let last := Runs.reached sampleServe.perform (.started 1 0) shutDownWhileBusy
    last.stage = .backingOff retryDelay ∧
      Runs.Reaches sampleServe.Step (unaided · = true)
        (ReturnedBy (last.clock + retryDelay + 30_000_000_000)) last := by
  have enabled : (Runs.record sampleServe.perform (.started 1 0) shutDownWhileBusy).isSome := by
    decide +kernel
  exact ⟨by decide +kernel, (drain_returns (Runs.replay_run enabled)).1 (by decide +kernel)⟩

end Serve

end Orihsus.Serving
