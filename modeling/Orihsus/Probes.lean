import Orihsus.PoolInvariant
import Orihsus.StaleReports

/-!
# A probe that fails

A key whose breaker has tripped is half-open: one request at a time may probe it, and
its claim cools the key for a breaker cooldown from the moment of the selection. When the
probe fails, `report_failure` counts the failure and trips the breaker again only if the
count reaches the threshold. The trip had set the count to zero, so with a threshold above
one a failed probe trips nothing. The key then keeps the deadline of the claim, which lies
a whole cooldown after the selection, not after the failure.

The module settles when a failed probe does cool the key anew.
-/

namespace Orihsus.Pool

namespace KeyEntry

/-- The key is half-open and cools for at least a whole breaker cooldown from now. -/
def Recooled (policy : PoolPolicy) (entry : KeyEntry) (now : Nat) : Prop :=
  entry.halfOpen = true ∧ ∃ deadline, entry.coolingUntil = some deadline ∧
    now + min policy.breakerCooldown maxCooldown ≤ deadline

/-- The next network failure reaches the threshold of the breaker. -/
def Trips (policy : PoolPolicy) (entry : KeyEntry) : Prop :=
  policy.breakerThreshold ≤ entry.consecutiveFailures + 1

/-- Who owns the cooldown of a key, how long it lasts and whether the key is half-open. -/
def hold (entry : KeyEntry) : Option Nat × Option Nat × Bool :=
  (entry.coolingBy, entry.coolingUntil, entry.halfOpen)

variable {policy : PoolPolicy} {jitter : Nat → Nat} {entry : KeyEntry} {id now : Nat}

/-- A failure report that does not take the cooldown over leaves it as it is. -/
theorem recordFailure_hold {failure : Failure} :
    (entry.recordFailure policy jitter id failure now).1.coolingBy = some id ∨
      (entry.recordFailure policy jitter id failure now).1.hold = entry.hold := by
  have retried (reason : CoolingReason) (retryAfter : Option Nat) :
      (entry.recordRetry policy jitter id reason retryAfter now).1.coolingBy = some id ∨
        (entry.recordRetry policy jitter id reason retryAfter now).1.hold = entry.hold := by
    unfold recordRetry
    dsimp only
    split
    · exact .inr rfl
    · exact .inl rfl
  cases failure with
  | usageLimit dimension cooldown =>
    simp only [recordFailure]
    split
    · exact .inr rfl
    · exact .inl rfl
  | rateLimited | unavailable => exact retried _ _
  | server => exact .inr rfl
  | network =>
    simp only [recordFailure]
    split
    · split
      · exact .inr rfl
      · exact .inl rfl
    · exact .inr rfl

/-- A network failure that does not trip the breaker only counts. -/
theorem recordFailure_counts (below : ¬ entry.Trips policy) :
    (entry.recordFailure policy jitter id .network now).1.hold = entry.hold := by
  have counted : ¬ policy.breakerThreshold ≤ entry.consecutiveFailures + 1 := below
  simp only [recordFailure, if_neg counted]
  rfl

/-- Such a failure cools nothing anew. -/
theorem recordFailure_recooled (below : ¬ entry.Trips policy) :
    (entry.recordFailure policy jitter id .network now).1.Recooled policy now ↔
      entry.Recooled policy now := by
  have same := @recordFailure_counts policy jitter entry id now below
  obtain ⟨_, rest⟩ := Prod.mk.inj same
  obtain ⟨deadline, halfOpen⟩ := Prod.mk.inj rest
  rw [Recooled, Recooled, deadline, halfOpen]

/-- A network failure that trips the breaker cools a half-open key for a whole breaker
cooldown at least: an existing deadline that is later stays. -/
theorem recordFailure_recools (trips : entry.Trips policy) :
    (entry.recordFailure policy jitter id .network now).1.Recooled policy now ↔
      entry.halfOpen = true ∨
        entry.absorbs (deadlineAfter now policy.breakerCooldown) = false := by
  have reached : policy.breakerThreshold ≤ entry.consecutiveFailures + 1 := trips
  simp only [recordFailure, if_pos reached]
  split
  · rename_i absorbed
    have absorbs : entry.absorbs (deadlineAfter now policy.breakerCooldown) = true := absorbed
    rw [absorbs]
    constructor
    · exact fun recooled => .inl recooled.1
    · intro recovering
      refine ⟨recovering.resolve_right (by simp), ?_⟩
      cases cooling : entry.coolingUntil with
      | none => simp [KeyEntry.absorbs, cooling] at absorbs
      | some deadline =>
        have later : deadlineAfter now policy.breakerCooldown < deadline := by
          simpa [KeyEntry.absorbs, cooling] using absorbs
        exact ⟨deadline, rfl, Nat.le_of_lt later⟩
  · rename_i open_
    constructor
    · exact fun _ => .inr (Bool.eq_false_iff.mpr open_)
    · exact fun _ => ⟨rfl, _, rfl, Nat.le_refl _⟩

end KeyEntry

namespace System

variable {policy : PoolPolicy} {fingerprint : String → String} {before after first last : System}
  {action : Action} {asked : String} {entry : KeyEntry} {selection : Selection} {id : Nat}
  {earlier between : List (Runs.Transition System Action)} {probe : Runs.Transition System Action}

/-- The action is a failure report of this selection. -/
def FailedBy (id : Nat) (action : Action) : Prop :=
  ∃ selection failure jitter, action = .reportFailure selection failure jitter ∧ selection.id = id

/-- Only its own failure reports let a selection take a cooldown over after it was made. -/
theorem touches_hold {event : KeyEvent}
    (touches : Touches policy fingerprint before action asked event)
    (drawn : id < before.pool.nextId) (silent : ¬ FailedBy id action)
    (owner : (event.apply policy fingerprint before.clock entry).coolingBy = some id) :
    (event.apply policy fingerprint before.clock entry).hold = entry.hold := by
  cases touches with
  | kept action asked => rfl
  | succeeded selection issued =>
    simp only [KeyEvent.apply, KeyEntry.recordSuccess] at owner ⊢
    split
    · rfl
    · rename_i accepted
      rw [if_neg accepted] at owner
      cases owner
  | failed selection failure jitter issued =>
    rcases KeyEntry.recordFailure_hold with owned | same
    · have own : selection.id = id := Option.some.inj (owned.symm.trans owner)
      exact absurd ⟨selection, failure, jitter, rfl, own⟩ silent
    · exact same
  | cooled target cooldown read =>
    simp only [KeyEvent.apply, KeyEntry.recordProactive] at owner ⊢
    split
    · rfl
    · rename_i open_
      rw [if_neg open_] at owner
      cases owner
      exact absurd drawn (Nat.lt_irrefl _)
  | claimed answered fresh available =>
    simp only [KeyEvent.apply, KeyEntry.claim] at owner ⊢
    split
    · rename_i recovering
      rw [if_pos recovering] at owner
      cases owner
      rw [fresh] at drawn
      exact absurd drawn (Nat.lt_irrefl _)
    · rfl
  | slowed | relisted => rfl

/-- As long as a selection owns the cooldown of a key, it is the one that was held. -/
structure Holds (id : Nat) (asked : String) (held : Option Nat × Option Nat × Bool)
    (system : System) : Prop where
  drawn : id < system.pool.nextId
  owned : ∀ entry, system.pool.lookup asked = some entry → entry.coolingBy = some id →
    entry.hold = held

/-- Nothing else changes the hold. -/
theorem step_holds {held : Option Nat × Option Nat × Bool}
    (stepped : Step policy fingerprint before action after) (silent : ¬ FailedBy id action)
    (holds : Holds id asked held before) : Holds id asked held after := by
  refine ⟨Nat.lt_of_lt_of_le holds.drawn (step_nextId stepped), ?_⟩
  intro left present owner
  rcases step_found stepped present with ⟨entry, event, found, touches, rfl⟩ | ⟨_, key, rfl⟩
  · have same := touches_hold touches holds.drawn silent owner
    rw [same]
    exact holds.owned entry found ((congrArg Prod.fst same).symm.trans owner)
  · -- A key that a reload lists afresh has no owner.
    cases owner

/-- The claim of a half-open key, right after the selection. -/
theorem probe_holds {claimed : KeyEntry} (stepped : Step policy fingerprint before action after)
    (probed : before.answer policy fingerprint action = some (.selected selection))
    (listed : before.pool.lookup selection.fingerprint = some claimed)
    (recovering : claimed.halfOpen = true) :
    Holds selection.id selection.fingerprint
      (some selection.id, some (deadlineAfter before.clock policy.breakerCooldown), true)
      after := by
  refine ⟨drawn_lt stepped (selected_draws stepped probed), ?_⟩
  intro entry found _
  obtain rfl := Option.some.inj (found.symm.trans (selected_claims stepped probed listed))
  simp [KeyEntry.claim, recovering, KeyEntry.hold, KeyEntry.cool]

/-- What the claim of a probe leaves for as long as the probe owns the cooldown and has not
failed before. -/
theorem run_holds {claimed : KeyEntry}
    (run : Runs.Run (Step policy fingerprint) first (earlier ++ probe :: between) last)
    (probed : probe.before.answer policy fingerprint probe.label = some (.selected selection))
    (listed : probe.before.pool.lookup selection.fingerprint = some claimed)
    (recovering : claimed.halfOpen = true)
    (silent : ∀ taken ∈ between, ¬ FailedBy selection.id taken.label) :
    Holds selection.id selection.fingerprint
      (some selection.id, some (deadlineAfter probe.before.clock policy.breakerCooldown), true)
      last := by
  obtain ⟨_, stepped, onward⟩ := run.split
  exact onward.preserved _ (probe_holds stepped probed listed recovering)
    fun taken member stepped => step_holds stepped (silent taken member)

/-- The clock of a run never falls behind that of one of its steps. -/
theorem probe_clock_le
    (run : Runs.Run (Step policy fingerprint) first (earlier ++ probe :: between) last) :
    probe.before.clock ≤ last.clock := by
  obtain ⟨_, stepped, onward⟩ := run.split
  exact onward.invariant (fun system => probe.before.clock ≤ system.clock) (clock_le stepped)
    fun _ _ _ stepped past => Nat.le_trans past (clock_le stepped)

/-- When a failed probe cools its key anew. In every run in which a selection claimed a
half-open key and owns its cooldown, the network failure that it reports leaves the key
half-open and cooling for a whole breaker cooldown from then on exactly when the failure
trips the breaker, on a key that is half-open or has no later deadline, or the key was so
cooled already. For a probe that has not failed before, the key does stay half-open, and
it is cooled anew exactly when the failure trips the breaker or no time has passed since
the selection.

Proof: what the claim set lasts to the report, and the report is computed. -/
theorem failed_probe_recools_iff {claimed : KeyEntry} {jitter : Nat → Nat}
    (run : Runs.Run (Step policy fingerprint) first (earlier ++ probe :: between) last)
    (probed : probe.before.answer policy fingerprint probe.label = some (.selected selection))
    (listed : probe.before.pool.lookup selection.fingerprint = some claimed)
    (recovering : claimed.halfOpen = true)
    (found : last.pool.lookup selection.fingerprint = some entry)
    (owner : entry.coolingBy = some selection.id)
    (stepped : Step policy fingerprint last (.reportFailure selection .network jitter) after) :
    ∃ left, after.pool.lookup selection.fingerprint = some left ∧
      (left.Recooled policy last.clock ↔
        (entry.Trips policy ∧ (entry.halfOpen = true ∨
          entry.absorbs (deadlineAfter last.clock policy.breakerCooldown) = false)) ∨
        (¬ entry.Trips policy ∧ entry.Recooled policy last.clock)) ∧
      ((∀ taken ∈ between, ¬ FailedBy selection.id taken.label) →
        left.halfOpen = true ∧
          (left.Recooled policy last.clock ↔
            entry.Trips policy ∨ last.clock = probe.before.clock)) := by
  refine ⟨_, step_failed stepped found, ?_, ?_⟩
  · by_cases trips : entry.Trips policy
    · rw [KeyEntry.recordFailure_recools trips]
      simp [trips]
    · rw [KeyEntry.recordFailure_recooled trips]
      simp [trips]
  · intro silent
    have held := (run_holds run probed listed recovering silent).owned entry found owner
    obtain ⟨_, rest⟩ := Prod.mk.inj held
    obtain ⟨cooling, open_⟩ := Prod.mk.inj rest
    refine ⟨KeyEntry.recordFailure_halfOpen open_, ?_⟩
    by_cases trips : entry.Trips policy
    · rw [KeyEntry.recordFailure_recools trips]
      exact iff_of_true (.inl open_) (.inl trips)
    · rw [KeyEntry.recordFailure_recooled trips]
      -- The deadline of the claim counts from the selection.
      have past := probe_clock_le run
      constructor
      · rintro ⟨_, deadline, reached, later⟩
        rw [cooling] at reached
        cases reached
        unfold deadlineAfter at later
        exact .inr (by omega)
      · intro instant
        refine ⟨open_, _, cooling, ?_⟩
        rw [instant.resolve_left trips]
        exact Nat.le_refl _

/-- The probe of the tripped key is still out ten units later. -/
def probingA : System := Runs.reached sampleNext probedA [.tick 10]

/-- The probe reports that it got no answer. -/
def probeUnanswered : Action := .reportFailure (leaseOfA 2) .network (fun base => base)

/-- A probe fails ten units after it was sent, and its key is free ten units too early. -/
theorem failed_probe_keeps_claim :
    ∃ (probe : Runs.Transition System Action) (between : List (Runs.Transition System Action))
      (claimed entry left : KeyEntry),
      Initial samplePolicy sampleFingerprint onlyA ∧ samplePolicy.validate = .ok () ∧
      Runs.Run (Step samplePolicy sampleFingerprint) onlyA
        (Runs.steps sampleNext onlyA
          [.request none, .request none, .request none, .request none,
            .nextImmediate 0, .nextImmediate 1,
            .reportFailure (leaseOfA 0) .network (fun base => base),
            .reportFailure (leaseOfA 1) .network (fun base => base), .tick 60] ++
          probe :: between) probingA ∧
      probe.before.answer samplePolicy sampleFingerprint probe.label =
        some (.selected (leaseOfA 2)) ∧
      probe.before.pool.lookup "a" = some claimed ∧ claimed.halfOpen = true ∧
      probingA.pool.lookup "a" = some entry ∧ entry.coolingBy = some 2 ∧
      Step samplePolicy sampleFingerprint probingA probeUnanswered
        (Runs.reached sampleNext probingA [probeUnanswered]) ∧
      (Runs.reached sampleNext probingA [probeUnanswered]).pool.lookup "a" =
        some left ∧ left.halfOpen = true ∧ left.coolingUntil = some 120 ∧ probingA.clock = 70 ∧
      ¬ left.Recooled samplePolicy probingA.clock := by
  have probed : Step samplePolicy sampleFingerprint trippedA (.nextImmediate 2) probedA := by
    decide +kernel
  have waited : Step samplePolicy sampleFingerprint probedA (.tick 10) probingA := by
    decide +kernel
  refine ⟨⟨trippedA, .nextImmediate 2, probedA⟩, [⟨probedA, .tick 10, probingA⟩],
    { (KeyEntry.fresh sampleFingerprint ⟨"a"⟩).cool 60 .circuitBreaker 1 with
      lastFailureBy := some 1
      halfOpen := true },
    { (KeyEntry.fresh sampleFingerprint ⟨"a"⟩).cool 120 .circuitBreaker 2 with
      lastFailureBy := some 2
      halfOpen := true },
    { (KeyEntry.fresh sampleFingerprint ⟨"a"⟩).cool 120 .circuitBreaker 2 with
      lastFailureBy := some 2
      consecutiveFailures := 1
      halfOpen := true },
    started_initial _ _ rfl (by simp), rfl,
    (Runs.replay_run (by decide +kernel)).join probed (Runs.Run.start.extend waited), ?_⟩
  refine ⟨by decide +kernel, by decide +kernel, rfl, by decide +kernel, rfl, by decide +kernel,
    by decide +kernel, rfl, rfl, by decide +kernel, ?_⟩
  rintro ⟨_, deadline, cooling, later⟩
  cases cooling
  revert later
  decide +kernel

/-- An older selection fails late while the probe is out, and time passes. -/
def lateFailure : List Action :=
  [.reportFailure (leaseOfA 1) .network (fun base => base), .tick 10]

/-- The late failure has been counted. -/
def countedA : System := Runs.reached sampleNext probedA lateFailure

/-- The failure of the probe is the second one and cools the key anew. -/
theorem failed_probe_recools_iff_counted :
    ∃ left, (Runs.reached sampleNext countedA [probeUnanswered]).pool.lookup "a" =
      some left ∧ left.Recooled samplePolicy countedA.clock := by
  have probed : Step samplePolicy sampleFingerprint trippedA (.nextImmediate 2) probedA := by
    decide +kernel
  have waited : (Runs.record sampleNext probedA lateFailure).isSome := by
    decide +kernel
  have run : Runs.Run (Step samplePolicy sampleFingerprint) trippedA
      ([] ++ ⟨trippedA, .nextImmediate 2, probedA⟩ ::
        Runs.steps sampleNext probedA lateFailure) countedA :=
    Runs.Run.start.join probed (Runs.replay_run waited)
  have listed : trippedA.pool.lookup (leaseOfA 2).fingerprint = some
      { (KeyEntry.fresh sampleFingerprint ⟨"a"⟩).cool 60 .circuitBreaker 1 with
        lastFailureBy := some 1
        halfOpen := true } := by decide +kernel
  have found : countedA.pool.lookup (leaseOfA 2).fingerprint = some
      { (KeyEntry.fresh sampleFingerprint ⟨"a"⟩).cool 120 .circuitBreaker 2 with
        lastFailureBy := some 1
        consecutiveFailures := 1
        halfOpen := true } := by decide +kernel
  have reported : Step samplePolicy sampleFingerprint countedA probeUnanswered
      (Runs.reached sampleNext countedA [probeUnanswered]) := by decide +kernel
  obtain ⟨left, present, _, unfailed⟩ :=
    failed_probe_recools_iff run (by decide +kernel) listed rfl found rfl reported
  refine ⟨left, present, (unfailed ?_).2.mpr (.inl ?_)⟩
  rotate_left
  · show samplePolicy.breakerThreshold ≤ 1 + 1
    decide
  rintro step member ⟨reporter, failure, jitter, same, own⟩
  have label := Runs.steps_label member
  rw [same] at label
  simp only [lateFailure, List.mem_cons, Action.reportFailure.injEq, reduceCtorEq, List.not_mem_nil,
    or_false] at label
  rw [label.1] at own
  cases own

end System

end Orihsus.Pool
