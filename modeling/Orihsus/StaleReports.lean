import Orihsus.Cooldowns

/-!
# Stale successes

A success is ignored when the key's failure state is owned by a newer operation.
The owner is a single number, overwritten by every failure report that takes
effect, also by a late report of an older selection. It protects a newer change
only until such a late report hands the key to an older owner; a success between
the two ids then clears what the newer operation had set.

The law that does hold is local: from an operation on, for as long as no failure
of an older selection takes effect on the key, every older success leaves the key
exactly as it is.
-/

namespace Orihsus.Pool

namespace KeyEntry

/-- What failure reports, claims and successes write: the cooldown, the failure
count, the backoff step and the half-open marker. -/
def failureState (entry : KeyEntry) :
    (Option Nat × Option CoolingReason × Option Nat) × Nat × Nat × Bool :=
  ((entry.coolingUntil, entry.coolingReason, entry.coolingBy),
    entry.consecutiveFailures, entry.backoffStep, entry.halfOpen)

/-- The report is not absorbed. A 5xx never has an effect; a network failure is
always counted. -/
def takesEffect (policy : PoolPolicy) (jitter : Nat → Nat) (entry : KeyEntry) (failure : Failure)
    (now : Nat) : Bool :=
  match failure with
  | .usageLimit _ cooldown => !entry.absorbs (deadlineAfter now cooldown)
  | .rateLimited retryAfter | .unavailable retryAfter =>
      !entry.absorbs (deadlineAfter now (entry.retryCooldown policy jitter retryAfter).1)
  | .server => false
  | .network => true

/-- The key is owned by an operation at least as new as the given id, or nothing
has failed on it since its last reset. -/
def HeldFrom (entry : KeyEntry) (id : Nat) : Prop :=
  (∃ owner, entry.lastFailureBy = some owner ∧ id ≤ owner) ∨ entry.reset = entry

variable {policy : PoolPolicy} {jitter : Nat → Nat} {entry : KeyEntry} {id : Nat}

/-- An absorbed retry does nothing. -/
theorem recordRetry_unaffected {reason : CoolingReason} {retryAfter : Option Nat} {now : Nat}
    (absorbs : entry.absorbs
      (deadlineAfter now (entry.retryCooldown policy jitter retryAfter).1) = true) :
    (entry.recordRetry policy jitter id reason retryAfter now).1 = entry := by
  simp [recordRetry, absorbs]

/-- Any other owns the cooldown. -/
theorem recordRetry_owned {reason : CoolingReason} {retryAfter : Option Nat} {now : Nat}
    (open_ : entry.absorbs
      (deadlineAfter now (entry.retryCooldown policy jitter retryAfter).1) = false) :
    (entry.recordRetry policy jitter id reason retryAfter now).1.lastFailureBy = some id := by
  simp [recordRetry, open_]

/-- A report without effect leaves the key as it was. -/
theorem recordFailure_unaffected {failure : Failure} {now : Nat}
    (absorbed : entry.takesEffect policy jitter failure now = false) :
    (entry.recordFailure policy jitter id failure now).1 = entry := by
  cases failure with
  | usageLimit dimension cooldown =>
    have absorbs : entry.absorbs (deadlineAfter now cooldown) = true := by
      simpa [takesEffect] using absorbed
    simp [recordFailure, absorbs]
  | rateLimited | unavailable =>
    exact recordRetry_unaffected (by simpa [takesEffect] using absorbed)
  | server => rfl
  | network => simp [takesEffect] at absorbed

/-- A report with an effect makes its selection the owner of the failure state. -/
theorem recordFailure_owned {failure : Failure} {now : Nat}
    (effective : entry.takesEffect policy jitter failure now = true) :
    (entry.recordFailure policy jitter id failure now).1.lastFailureBy = some id := by
  cases failure with
  | usageLimit dimension cooldown =>
    have open_ : entry.absorbs (deadlineAfter now cooldown) = false := by
      simpa [takesEffect] using effective
    simp [recordFailure, open_]
  | rateLimited | unavailable => exact recordRetry_owned (by simpa [takesEffect] using effective)
  | server => simp [takesEffect] at effective
  | network =>
    simp only [recordFailure]
    split
    · split <;> rfl
    · rfl

/-- So does a proactive one. -/
theorem recordProactive_owned {deadline : Nat} :
    (entry.recordProactive id deadline).1 = entry ∨
      (entry.recordProactive id deadline).1.lastFailureBy = some id := by
  unfold recordProactive
  split
  · exact .inl rfl
  · exact .inr rfl

/-- So does a claim. -/
theorem claim_owned {now : Nat} :
    entry.claim policy id now = entry ∨ (entry.claim policy id now).lastFailureBy = some id := by
  unfold claim
  split
  · exact .inr rfl
  · exact .inl rfl

/-- An older success leaves a held key exactly as it is: it is ignored, or it
resets what is already reset. -/
theorem recordSuccess_held {older : Nat} (held : entry.HeldFrom id) (stale : older < id) :
    entry.recordSuccess older = entry := by
  unfold recordSuccess
  split
  · rfl
  · rename_i accepted
    rcases held with ⟨owner, owned, newer⟩ | clean
    · exact absurd (Nat.lt_of_lt_of_le stale newer)
        (by simpa [ignoresSuccess, owned] using accepted)
    · exact clean

end KeyEntry

namespace System

variable {policy : PoolPolicy} {fingerprint : String → String} {before after : System}
  {action : Action} {asked : String} {entry : KeyEntry} {id : Nat}

/-- The id a step carries and the key it is about: a report has its selection's
id, a proactive report and a selection draw one. -/
def operation (policy : PoolPolicy) (fingerprint : String → String) (before : System)
    (action : Action) : Option (String × Nat) :=
  match action with
  | .reportSuccess selection | .reportFailure selection _ _ =>
      some (selection.fingerprint, selection.id)
  | .reportProactiveCooldown target _ _ => some (target, before.pool.nextId)
  | _ =>
      match before.answer policy fingerprint action with
      | some (.selected selection) => some (selection.fingerprint, selection.id)
      | _ => none

/-- The step is an operation with this id that changed the key's failure state. -/
def Changed (policy : PoolPolicy) (fingerprint : String → String)
    (taken : Runs.Transition System Action) (asked : String) (id : Nat) : Prop :=
  taken.before.operation policy fingerprint taken.label = some (asked, id) ∧
    ∃ entry left, taken.before.pool.lookup asked = some entry ∧
      taken.after.pool.lookup asked = some left ∧ left.failureState ≠ entry.failureState

/-- A success at least as new as the id is applied to the key. -/
def SucceededFrom (before : System) (action : Action) (asked : String) (id : Nat) : Prop :=
  ∃ selection entry, action = .reportSuccess selection ∧ selection.fingerprint = asked ∧
    id ≤ selection.id ∧ before.pool.lookup asked = some entry ∧
    entry.ignoresSuccess selection.id = false

/-- A failure of a selection older than the id takes effect on the key. -/
def FailedLate (policy : PoolPolicy) (before : System) (action : Action) (asked : String)
    (id : Nat) : Prop :=
  ∃ selection failure jitter entry, action = .reportFailure selection failure jitter ∧
    selection.fingerprint = asked ∧ selection.id < id ∧ before.pool.lookup asked = some entry ∧
    entry.takesEffect policy jitter failure before.clock = true

/-- Every id that was handed out is below the counter. -/
def Numbered (system : System) : Prop :=
  ∀ selection ∈ system.issued, selection.id < system.pool.nextId

/-- At first there are none. -/
theorem initial_numbered (initial : Initial policy fingerprint before) : Numbered before := by
  obtain ⟨_, _, _, issued⟩ := initial
  intro selection member
  rw [issued] at member
  cases member

/-- A step hands out at most one selection, and with the id it has just drawn. -/
theorem step_issued (stepped : Step policy fingerprint before action after) :
    after.issued = before.issued ∨
      ∃ selection, after.issued = before.issued ++ [selection] ∧
        selection.id < after.pool.nextId := by
  have performs := step_cases stepped
  generalize given : before.answer policy fingerprint action = answer at performs
  cases performs with
  | @selected action request caller selection claimed call waiting room tried =>
    exact .inr ⟨selection, rfl, drawn_lt stepped (selected_draws stepped given)⟩
  | _ => exact .inl rfl

/-- Each is new. -/
theorem step_numbered (stepped : Step policy fingerprint before action after)
    (numbered : Numbered before) : Numbered after := by
  intro selection member
  rcases step_issued stepped with kept | ⟨fresh, extended, drawn⟩
  · rw [kept] at member
    exact Nat.lt_of_lt_of_le (numbered selection member) (step_nextId stepped)
  · rw [extended, List.mem_append, List.mem_singleton] at member
    rcases member with old | rfl
    · exact Nat.lt_of_lt_of_le (numbered selection old) (step_nextId stepped)
    · exact drawn

/-- One transition keeps a key held from an id, unless it is a newer success or a
late failure. Claims and proactive reports draw ids above every earlier one. -/
theorem touches_held {event : KeyEvent}
    (touches : Touches policy fingerprint before action asked event)
    (found : before.pool.lookup asked = some entry) (past : id < before.pool.nextId)
    (unsucceeded : ¬ SucceededFrom before action asked id)
    (ordered : ¬ FailedLate policy before action asked id) (held : entry.HeldFrom id) :
    (event.apply policy fingerprint before.clock entry).HeldFrom id := by
  have owned_by {left : KeyEntry} {owner : Nat}
      (written : left = entry ∨ left.lastFailureBy = some owner) (newer : id ≤ owner) :
      left.HeldFrom id := by
    rcases written with rfl | owned
    · exact held
    · exact .inl ⟨owner, owned, newer⟩
  cases touches with
  | kept action asked => exact held
  | succeeded selection issued =>
    by_cases stale : selection.id < id
    · simpa only [KeyEvent.apply, KeyEntry.recordSuccess_held held stale] using held
    · have ignored : entry.ignoresSuccess selection.id = true := by
        by_contra accepted
        exact unsucceeded ⟨selection, entry, rfl, rfl, Nat.le_of_not_lt stale, found,
          by simpa using accepted⟩
      simpa only [KeyEvent.apply, KeyEntry.recordSuccess, ignored, if_true] using held
  | failed selection failure jitter issued =>
    cases effect : entry.takesEffect policy jitter failure before.clock with
    | false => exact owned_by (.inl (KeyEntry.recordFailure_unaffected effect)) (Nat.le_refl id)
    | true =>
      have newer : id ≤ selection.id := by
        by_contra older
        exact ordered ⟨selection, failure, jitter, entry, rfl, rfl, Nat.lt_of_not_le older, found,
          effect⟩
      exact owned_by (.inr (KeyEntry.recordFailure_owned effect)) newer
  | cooled target cooldown read =>
    exact owned_by KeyEntry.recordProactive_owned (Nat.le_of_lt past)
  | claimed answered drawn available =>
    exact owned_by KeyEntry.claim_owned (drawn ▸ Nat.le_of_lt past)
  | slowed selection model =>
    rcases held with owned | clean
    · exact .inl owned
    · exact .inr (congrArg (fun left => left.recordLiveness model
        (deadlineAfter before.clock policy.backoffInitial)) clean)
  | @relisted keys key listed =>
    rcases held with owned | clean
    · exact .inl owned
    · exact .inr (congrArg (fun left => left.carried fingerprint key) clean)

/-- A change of the failure state leaves the key held from the id of the
operation that made it, and the counter above this id. -/
theorem changed_held {taken : Runs.Transition System Action} (numbered : Numbered taken.before)
    (stepped : Step policy fingerprint taken.before taken.label taken.after)
    (changed : Changed policy fingerprint taken asked id) :
    id < taken.after.pool.nextId ∧
      ∃ entry, taken.after.pool.lookup asked = some entry ∧ entry.HeldFrom id := by
  obtain ⟨carries, entry, left, found, present, differs⟩ := changed
  rcases step_entry stepped found with ⟨gone, _⟩ | ⟨event, touches, kept⟩
  · rw [gone] at present
    cases present
  obtain rfl : event.apply policy fingerprint taken.before.clock entry = left :=
    Option.some.inj (kept.symm.trans present)
  have reported {selection : Selection} (issued : selection ∈ taken.before.issued) :
      selection.id < taken.after.pool.nextId :=
    Nat.lt_of_lt_of_le (numbered selection issued) (step_nextId stepped)
  obtain ⟨system, action, next⟩ := taken
  dsimp only at *
  cases touches with
  | kept action asked => exact absurd rfl differs
  | succeeded selection issued =>
    obtain rfl : selection.id = id := by simpa [operation] using carries
    have accepted : entry.ignoresSuccess selection.id = false := by
      cases ignored : entry.ignoresSuccess selection.id with
      | false => rfl
      | true => simp [KeyEvent.apply, KeyEntry.recordSuccess, ignored] at differs
    refine ⟨reported issued, _, present, .inr ?_⟩
    simp [KeyEvent.apply, KeyEntry.recordSuccess, accepted, KeyEntry.reset]
  | failed selection failure jitter issued =>
    obtain rfl : selection.id = id := by simpa [operation] using carries
    have effective : entry.takesEffect policy jitter failure system.clock = true := by
      cases effect : entry.takesEffect policy jitter failure system.clock with
      | false => simp [KeyEvent.apply, KeyEntry.recordFailure_unaffected effect] at differs
      | true => rfl
    exact ⟨reported issued, _, present,
      .inl ⟨_, KeyEntry.recordFailure_owned effective, Nat.le_refl _⟩⟩
  | cooled target cooldown read =>
    obtain rfl : system.pool.nextId = id := by simpa [operation] using carries
    rcases KeyEntry.recordProactive_owned with same | owned
    · exact absurd (congrArg KeyEntry.failureState same) differs
    · exact ⟨drawn_lt stepped (by simp [drawn, found]), _, present, .inl ⟨_, owned, Nat.le_refl _⟩⟩
  | @claimed action selection answered drawn available =>
    obtain rfl : selection.id = id := by
      obtain ⟨_, _, _, rfl | rfl, _⟩ := step_selected stepped answered <;>
        simpa [operation, answered] using carries
    rcases KeyEntry.claim_owned with same | owned
    · exact absurd (congrArg KeyEntry.failureState same) differs
    · exact ⟨drawn_lt stepped (selected_draws stepped answered), _, present,
        .inl ⟨_, owned, Nat.le_refl _⟩⟩
  | slowed | relisted => exact absurd rfl differs

variable {first last : System} {trace earlier later : List (Runs.Transition System Action)}
  {taken : Runs.Transition System Action}

/-- A run keeps a key held from an id when none of its steps drops the key,
applies a newer success to it or lets a late failure take effect on it. -/
theorem run_held (run : Runs.Run (Step policy fingerprint) first trace last)
    (past : id < first.pool.nextId)
    (held : ∃ entry, first.pool.lookup asked = some entry ∧ entry.HeldFrom id)
    (listed : ∀ taken ∈ trace, ¬ Drops fingerprint taken.label asked)
    (unsucceeded : ∀ taken ∈ trace, ¬ SucceededFrom taken.before taken.label asked id)
    (ordered : ∀ taken ∈ trace, ¬ FailedLate policy taken.before taken.label asked id) :
    ∃ entry, last.pool.lookup asked = some entry ∧ entry.HeldFrom id := by
  have both : id < last.pool.nextId ∧
      ∃ entry, last.pool.lookup asked = some entry ∧ entry.HeldFrom id := by
    refine run.preserved (fun system => id < system.pool.nextId ∧
      ∃ entry, system.pool.lookup asked = some entry ∧ entry.HeldFrom id) ⟨past, held⟩ ?_
    rintro taken member stepped ⟨below, entry, found, holds⟩
    refine ⟨Nat.lt_of_lt_of_le below (step_nextId stepped), ?_⟩
    obtain ⟨event, touches, kept⟩ := step_listed stepped (listed taken member) found
    exact ⟨_, kept, touches_held touches found below (unsucceeded taken member)
      (ordered taken member) holds⟩
  exact both.2

/-- A stale success never erases newer failure state, as long as no older failure
comes late. In every run from a fresh pool, once an operation with some id has
changed a key's cooldown, failure count, backoff step or half-open marker, a
success of any older selection leaves the key's entry as it is, for as long as the
key is not dropped, no success at least as new is applied to it, and no failure of
an older selection takes effect on it.

Proof: the change leaves its id on the key, every later step keeps a mark at least as new, and an
older success stops at it. -/
theorem stale_success_ignored (initial : Initial policy fingerprint first)
    (run : Runs.Run (Step policy fingerprint) first (earlier ++ taken :: later) last)
    (changed : Changed policy fingerprint taken asked id)
    (listed : ∀ step ∈ later, ¬ Drops fingerprint step.label asked)
    (unsucceeded : ∀ step ∈ later, ¬ SucceededFrom step.before step.label asked id)
    (ordered : ∀ step ∈ later, ¬ FailedLate policy step.before step.label asked id)
    (selection : Selection) (stale : selection.id < id) :
    (last.pool.reportSuccess selection).lookup asked = last.pool.lookup asked := by
  obtain ⟨upTo, stepped, onward⟩ := run.split
  have numbered : Numbered taken.before :=
    upTo.invariant Numbered (initial_numbered initial) fun _ _ _ => step_numbered
  obtain ⟨past, owned⟩ := changed_held numbered stepped changed
  obtain ⟨entry, found, held⟩ := run_held onward past owned listed unsucceeded ordered
  rw [PoolState.reportSuccess, PoolState.lookup_adjust _ _ _ _
    fun entry => entry.recordSuccess_candidate selection.id]
  split
  · rename_i same
    rw [← same, found, Option.map_some, KeyEntry.recordSuccess_held held stale]
  · rfl

/-- Three requests lease the key, with the ids 0, 1 and 2. -/
def leaseThrice : List Action :=
  [.request none, .request none, .request none,
    .nextImmediate 0, .nextImmediate 1, .nextImmediate 2]

/-- The key is leased three times. -/
def threeLeases : System := Runs.reached sampleNext onlyA leaseThrice

/-- The newest lease is rate limited for forty units. -/
def newestFails : Action := .reportFailure (leaseOfA 2) (.rateLimited (some 40)) (fun base => base)

/-- The state the newest lease's report leaves. -/
def newestCooling : System := Runs.reached sampleNext threeLeases [newestFails]

/-- A network failure of the oldest lease. -/
def oldestFails : Action := .reportFailure (leaseOfA 0) .network (fun base => base)

/-- The leases and the newest one's failure, continued by any run. -/
theorem leases_then_failure
    (onward : Runs.Run (Step samplePolicy sampleFingerprint) newestCooling later last) :
    Runs.Run (Step samplePolicy sampleFingerprint) onlyA
      (Runs.steps sampleNext onlyA leaseThrice ++
        ⟨threeLeases, newestFails, newestCooling⟩ :: later) last := by
  have leased : (Runs.record sampleNext onlyA leaseThrice).isSome := by
    decide +kernel
  have failed : Step samplePolicy sampleFingerprint threeLeases newestFails newestCooling := by
    decide +kernel
  exact (Runs.replay_run leased).join failed onward

/-- The newest lease has changed the key. -/
theorem newestFails_changed : Changed samplePolicy sampleFingerprint
    ⟨threeLeases, newestFails, newestCooling⟩ "a" 2 :=
  ⟨rfl, KeyEntry.fresh sampleFingerprint ⟨"a"⟩,
    { (KeyEntry.fresh sampleFingerprint ⟨"a"⟩).cool 40 .rateLimited 2 with
      lastFailureBy := some 2 }, by decide +kernel⟩

/-- The newest of three leases cools the key for forty units, the oldest one
reports a network failure, and the success of the lease between them then clears
the cooldown. No newer success was applied and the key was never removed. -/
theorem stale_success_erases_newer_failure :
    ∃ (first last : System) (earlier later : List (Runs.Transition System Action))
      (taken : Runs.Transition System Action) (selection : Selection),
      Initial samplePolicy sampleFingerprint first ∧
        Runs.Run (Step samplePolicy sampleFingerprint) first (earlier ++ taken :: later) last ∧
        Changed samplePolicy sampleFingerprint taken "a" 2 ∧
        (∀ step ∈ later, ¬ Drops sampleFingerprint step.label "a") ∧
        (∀ step ∈ later, ¬ SucceededFrom step.before step.label "a" 2) ∧
        selection ∈ last.issued ∧ selection.id < 2 ∧ last.coolingUntil "a" = some 40 ∧
        (last.pool.reportSuccess selection).lookup "a" ≠ last.pool.lookup "a" := by
  have late : (Runs.record sampleNext newestCooling [oldestFails]).isSome := by
    decide +kernel
  refine ⟨onlyA, _, _, _, ⟨threeLeases, newestFails, newestCooling⟩, leaseOfA 1,
    started_initial _ _ rfl (by simp), leases_then_failure (Runs.replay_run late),
    newestFails_changed, ?_, ?_, ?_⟩
  · rintro step member ⟨keys, dropped, _⟩
    simp [List.mem_singleton.mp (Runs.steps_label member), oldestFails] at dropped
  · rintro step member ⟨selection, entry, succeeded, _⟩
    simp [List.mem_singleton.mp (Runs.steps_label member), oldestFails] at succeeded
  · decide +kernel

/-- The law at work on the same three leases: as long as the oldest lease stays
silent, the success of the middle one leaves the newest one's cooldown alone. -/
theorem stale_success_ignored_leases :
    let last := Runs.reached sampleNext newestCooling [.tick 1]
    last.coolingUntil "a" = some 40 ∧
      (last.pool.reportSuccess (leaseOfA 1)).lookup "a" = last.pool.lookup "a" := by
  have waited : (Runs.record sampleNext newestCooling [.tick 1]).isSome := by
    decide +kernel
  have idle (step : Runs.Transition System Action)
      (member : step ∈ Runs.steps sampleNext newestCooling [.tick 1]) :
      step.label = .tick 1 := List.mem_singleton.mp (Runs.steps_label member)
  refine ⟨by decide +kernel, stale_success_ignored
    (started_initial samplePolicy sampleFingerprint rfl (by simp))
    (leases_then_failure (Runs.replay_run waited)) newestFails_changed ?_ ?_ ?_ (leaseOfA 1)
    (by decide)⟩
  · rintro step member ⟨keys, dropped, _⟩
    simp [idle step member] at dropped
  · rintro step member ⟨selection, entry, succeeded, _⟩
    simp [idle step member] at succeeded
  · rintro step member ⟨selection, failure, jitter, entry, failed, _⟩
    simp [idle step member] at failed

end System

end Orihsus.Pool
