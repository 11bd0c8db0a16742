import Orihsus.PoolInvariant
import Orihsus.ReloadRuns

/-!
# The debounce of a reload

The reload worker sleeps for the debounce interval after an event and then drains the
bridge. What it drains came while it slept, and no new sleep follows: the emptiness that
it tests is the one it has just made. Only an event that comes between the last
`try_recv` and the test starts another window. So a load can follow an event at once.

In every run in which no event comes while the worker sleeps, drains or is about to load,
each load does have a quiet window of the debounce interval before it.
-/

namespace Orihsus.Reload

namespace Deployment

variable {Contents : Type} (deployment : Deployment Contents)

/-- The step puts an event on the bridge. -/
def delivered (taken : Runs.Transition (Service Contents) (Action Contents)) : Bool :=
  deployment.attempts taken.label && decide (taken.before.channel < eventBuffer)

/-- The instant of a delivery. -/
def delivery (taken : Runs.Transition (Service Contents) (Action Contents)) : Option Nat :=
  if deployment.delivered taken then some taken.before.clock else none

/-- Every load has a quiet window before it: an event that was delivered earlier came a
debounce interval earlier, or at the instant of the load. -/
def Quiet (trace : List (Runs.Transition (Service Contents) (Action Contents))) : Prop :=
  ∀ earlier load later, trace = earlier ++ load :: later → loads load = true →
    ∀ time ∈ earlier.filterMap deployment.delivery,
      ¬ (load.before.clock < time + deployment.debounce ∧ time < load.before.clock)

/-- The step does not deliver an event into a window: while the worker sleeps, only at
the instant it fell asleep, and not while it drains or is about to load. -/
def sparesWindow (taken : Runs.Transition (Service Contents) (Action Contents)) : Bool :=
  !deployment.delivered taken ||
    match taken.before.worker with
    | .sleeping wake => decide (taken.before.clock + deployment.debounce ≤ wake)
    | .draining | .loading => false
    | _ => true

/-- What the worker may rely on about an event that was delivered at a time. -/
def Rests (service : Service Contents) (time : Nat) : Prop :=
  match service.worker with
  | .sleeping wake => time + deployment.debounce ≤ wake
  | .draining | .loading => time + deployment.debounce ≤ service.clock
  | .checking => service.channel = 0 → time + deployment.debounce ≤ service.clock
  | _ => True

variable {deployment} {before after first last : Service Contents} {action : Action Contents}
  {trace : List (Runs.Transition (Service Contents) (Action Contents))} {time : Nat}

/-- The worker takes no time. -/
theorem works_clock (works : deployment.Works before after) : after.clock = before.clock := by
  cases works with
  | publish composed updated =>
    obtain ⟨pool, _, rfl⟩ := updateWithKeys_ok updated
    rfl
  | _ => rfl

/-- A send leaves clock and worker. -/
theorem trySend_kept (service : Service Contents) :
    service.trySend.clock = service.clock ∧ service.trySend.worker = service.worker := by
  unfold Service.trySend
  split <;> exact ⟨rfl, rfl⟩

/-- The clock never goes back. -/
theorem step_clock_le (stepped : deployment.Step before action after) :
    before.clock ≤ after.clock := by
  cases step_cases stepped with
  | write | ignore | tend | compare | update => exact Nat.le_refl _
  | send sent => exact Nat.le_of_eq (trySend_kept before).1.symm
  | work works => exact Nat.le_of_eq (works_clock works).symm
  | pool foreign moved => exact Pool.System.clock_le moved

/-- The worker's own steps keep what it relies on: a sleep is as long as the interval,
and the test for emptiness decides whether another one follows. -/
theorem works_rests (works : deployment.Works before after) (past : time ≤ before.clock)
    (rests : deployment.Rests before time) : deployment.Rests after time := by
  unfold Rests at rests
  cases works with
  | receive | again => exact Nat.add_le_add_right past _
  | wake sleeping due =>
    rw [sleeping] at rests
    exact Nat.le_trans rests due
  | drained draining empty =>
    rw [draining] at rests
    exact fun _ => rests
  | drain draining =>
    rw [draining] at rests
    unfold Rests
    dsimp only
    rw [draining]
    exact rests
  | quiet checking empty =>
    rw [checking] at rests
    exact rests empty
  | giveUp | accept | replace | compose | publish | refuse | finish | restore => trivial

/-- A step that leaves the worker and the bridge alone keeps what the worker relies on. -/
theorem rests_still (rests : deployment.Rests before time) (later : before.clock ≤ after.clock)
    (worker : after.worker = before.worker) (channel : after.channel = before.channel) :
    deployment.Rests after time := by
  unfold Rests at rests ⊢
  rw [worker, channel]
  cases phase : before.worker with
  | sleeping wake =>
    rw [phase] at rests
    exact rests
  | draining | loading =>
    rw [phase] at rests
    exact Nat.le_trans rests later
  | checking =>
    rw [phase] at rests
    exact fun empty => Nat.le_trans (rests empty) later
  | _ => trivial

/-- An event that is delivered leaves what the worker relies on about the earlier ones. -/
theorem send_rests (rests : deployment.Rests before time) :
    deployment.Rests before.trySend time := by
  obtain ⟨clock, worker⟩ := trySend_kept before
  unfold Rests at rests ⊢
  rw [worker, clock]
  cases phase : before.worker with
  | checking => exact fun empty => absurd empty (trySend_queued before)
  | sleeping | draining | loading =>
    rw [phase] at rests
    exact rests
  | _ => trivial

/-- It may rely on it after a step. -/
theorem step_rests (stepped : deployment.Step before action after) (past : time ≤ before.clock)
    (rests : deployment.Rests before time) : deployment.Rests after time := by
  have later := step_clock_le stepped
  cases step_cases stepped with
  | send sent => exact send_rests rests
  | work works => exact works_rests works past rests
  | write | ignore | tend | compare | update | pool => exact rests_still rests later rfl rfl

/-- An event that does not disturb the worker may be relied on as well. -/
theorem delivered_rests (stepped : deployment.Step before action after)
    (arrives : deployment.delivered ⟨before, action, after⟩ = true)
    (calm : deployment.sparesWindow ⟨before, action, after⟩ = true) :
    deployment.Rests after before.clock := by
  obtain ⟨clock, worker⟩ := trySend_kept before
  rw [attempts_sends stepped (Bool.and_eq_true_iff.mp arrives).1]
  rw [sparesWindow, arrives] at calm
  unfold Rests
  rw [worker, clock]
  cases phase : before.worker with
  | checking => exact fun empty => absurd empty (trySend_queued before)
  | sleeping wake => simpa [phase] using calm
  | draining | loading => simp [phase] at calm
  | _ => trivial

/-- All deliveries lie in the past, and the worker may rely on them. -/
def Rested (deployment : Deployment Contents) (times : List Nat) (service : Service Contents) :
    Prop :=
  ∀ time ∈ times, time ≤ service.clock ∧ deployment.Rests service time

/-- So it may in every calm run. -/
theorem run_rested (run : Runs.Run deployment.Step first trace last)
    (calm : ∀ taken ∈ trace, deployment.sparesWindow taken = true) :
    deployment.Rested (trace.filterMap deployment.delivery) last := by
  induction run with
  | start => exact nofun
  | @extend trace middle action last earlier stepped inductionHypothesis =>
    have rested := inductionHypothesis fun taken member =>
      calm taken (List.mem_append_left _ member)
    rw [Runs.filterMap_extend]
    intro time member
    rcases List.mem_append.mp member with before | now
    · obtain ⟨past, rests⟩ := rested time before
      exact ⟨Nat.le_trans past (step_clock_le stepped), step_rests stepped past rests⟩
    · unfold delivery at now
      split at now
      · rename_i arrives
        rw [List.mem_singleton.mp now]
        refine ⟨step_clock_le stepped, delivered_rests stepped arrives ?_⟩
        exact calm _ (List.mem_append_right _ List.mem_cons_self)
      · cases now

/-- Every load has a quiet window before it, in every run in which no event is delivered
into a window.

Proof: the worker waits a whole debounce after every delivery. -/
theorem loads_after_quiet (run : Runs.Run deployment.Step first trace last)
    (calm : ∀ taken ∈ trace, deployment.sparesWindow taken = true) : deployment.Quiet trace := by
  rintro earlier load later rfl loaded time member ⟨recent, _⟩
  obtain ⟨upTo, _, _⟩ := run.split
  have rested := run_rested upTo fun taken member => calm taken (List.mem_append_left _ member)
  obtain ⟨_, rests⟩ := rested time member
  have loading : load.before.worker = .loading := by
    unfold loads at loaded
    split at loaded
    · assumption
    · cases loaded
  rw [Rests, loading] at rests
  exact Nat.not_lt.mpr rests recent

/-- One event wakes the worker, and a second one comes 100 ms before it has slept its
second, while the file is being written. -/
def writtenTwice : List (Action Configuration.Contents) :=
  [.fire, .work, .other (.tick 900000000), .write (sampleFile "half"), .fire,
    .other (.tick 100000000), .work, .work, .work, .work, .work]

/-- The step in which it is loaded. -/
def hastyLoad : Runs.Transition (Service Configuration.Contents)
    (Action Configuration.Contents) :=
  (Runs.steps sampleDeployment.perform sampleService writtenTwice).get ⟨10, by decide +kernel⟩

/-- The file is loaded right after its second event. -/
theorem load_follows_event_at_once :
    (Runs.record sampleDeployment.perform sampleService writtenTwice).isSome ∧
      0 < sampleDeployment.debounce ∧
      (Runs.reached sampleDeployment.perform sampleService writtenTwice).status.failedReloads = 1 ∧
      ¬ sampleDeployment.Quiet
        (Runs.steps sampleDeployment.perform sampleService writtenTwice) := by
  refine ⟨by decide +kernel, by decide, by decide +kernel, ?_⟩
  intro quiet
  have split : Runs.steps sampleDeployment.perform sampleService writtenTwice =
      (Runs.steps sampleDeployment.perform sampleService writtenTwice).take 10 ++ hastyLoad ::
        (Runs.steps sampleDeployment.perform sampleService writtenTwice).drop 11 := by
    rw [hastyLoad, List.get_eq_getElem, List.getElem_cons_drop, List.take_append_drop]
  exact quiet _ hastyLoad _ split (by decide +kernel) 900000000 (by decide +kernel)
    (by decide +kernel)

/-- A single event is followed by a load when the interval is over. -/
theorem loads_after_quiet_manual :
    (Runs.steps sampleDeployment.perform sampleService
        (untilLoad "manual" ++ apply)).any loads = true ∧
      sampleDeployment.Quiet
        (Runs.steps sampleDeployment.perform sampleService (untilLoad "manual" ++ apply)) := by
  have run := Runs.replay_run (by decide +kernel :
    (Runs.record sampleDeployment.perform sampleService (untilLoad "manual" ++ apply)).isSome)
  exact ⟨by decide +kernel, loads_after_quiet run (by decide +kernel)⟩

end Deployment

end Orihsus.Reload
