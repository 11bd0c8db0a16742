import Orihsus.Attempts
import Orihsus.Cooldowns

/-!
# The answer of a call that finds no key

`next` tries a selection under the lock, releases it, and takes it again to
compute the earliest recovery. When no deadline is ahead it answers that every
key is unavailable. A key that was freed between the two locks has no deadline
ahead either, so the answer can be wrong: nothing tries a selection again.

The law that does hold has the freeing steps excluded. While a call stands
between its two locks, a key that it has not used can be freed in three ways
only: by an accepted success, by the passing of its deadlines, and by a reload
that lists it again.
-/

namespace Orihsus.Pool

namespace KeyEntry

/-- The key is cooling for the request, globally or for its model. -/
def blocked (entry : KeyEntry) (model : Option String) (now : Nat) : Bool :=
  entry.isCooling now || entry.isLivenessCooling model now

variable {policy : PoolPolicy} {jitter : Nat → Nat} {entry : KeyEntry} {id now : Nat}

/-- No failure slows a model. -/
theorem recordFailure_liveness {failure : Failure} :
    (entry.recordFailure policy jitter id failure now).1.livenessCooling =
      entry.livenessCooling := by
  have retried (reason : CoolingReason) (retryAfter : Option Nat) :
      (entry.recordRetry policy jitter id reason retryAfter now).1.livenessCooling =
        entry.livenessCooling := by
    unfold recordRetry
    dsimp only
    split <;> rfl
  cases failure with
  | usageLimit dimension cooldown =>
    simp only [recordFailure]
    split <;> rfl
  | rateLimited | unavailable => exact retried _ _
  | server => rfl
  | network =>
    simp only [recordFailure]
    split
    · split <;> rfl
    · rfl

/-- The deadline a liveness failure sets for its model leaves the other models'
deadlines alone. -/
theorem recordLiveness_lookup (model other : String) (deadline : Nat) :
    (entry.recordLiveness model deadline).livenessCooling.lookup other =
      if other = model then some deadline else entry.livenessCooling.lookup other := by
  rw [recordLiveness, List.lookup_cons]
  by_cases same : other = model
  · simp [same]
  · have skipped : (other == model) = false := by simpa using same
    rw [skipped, if_neg same]
    exact FirstMatch.lookup_filter_ne same entry.livenessCooling

/-- A later liveness failure leaves a model that is cooling cooling. -/
theorem recordLiveness_cooling {model : Option String} {name : String} {deadline : Nat}
    (ahead : now < deadline) (cooling : entry.isLivenessCooling model now = true) :
    (entry.recordLiveness name deadline).isLivenessCooling model now = true := by
  cases model with
  | none => simp [isLivenessCooling] at cooling
  | some asked =>
    simp only [isLivenessCooling, Option.any_some, recordLiveness_lookup] at cooling ⊢
    split
    · simpa using ahead
    · exact cooling

/-- A deadline that only moves later leaves a cooling key cooling. -/
theorem isCooling_later {left : KeyEntry} (cooling : entry.isCooling now = true)
    (grows : ∀ existing, entry.coolingUntil = some existing →
      ∃ later, left.coolingUntil = some later ∧ existing ≤ later) :
    left.isCooling now = true := by
  cases held : entry.coolingUntil with
  | none => simp [isCooling, held] at cooling
  | some existing =>
    have ahead : now < existing := by simpa [isCooling, held] using cooling
    obtain ⟨later, extended, further⟩ := grows existing held
    have still : now < later := Nat.lt_of_lt_of_le ahead further
    simpa [isCooling, extended] using still

end KeyEntry

namespace System

variable {policy : PoolPolicy} {fingerprint : String → String} {before after : System}
  {action : Action} {asked : String} {entry : KeyEntry} {model : Option String}

/-- No entry the fingerprint finds is selectable for the model. -/
def Unselectable (system : System) (model : Option String) (asked : String) : Prop :=
  ∀ entry, system.pool.lookup asked = some entry → entry.blocked model system.clock = true

/-- A success is accepted on the key and its model is not cooling. -/
def Clears (before : System) (action : Action) (model : Option String) (asked : String) : Prop :=
  ∃ selection entry, action = .reportSuccess selection ∧ selection.fingerprint = asked ∧
    before.pool.lookup asked = some entry ∧ entry.ignoresSuccess selection.id = false ∧
    entry.isLivenessCooling model before.clock = false

/-- Time passes the last deadline of the key. -/
def Elapses (before : System) (action : Action) (model : Option String) (asked : String) : Prop :=
  ∃ elapsed entry, action = .tick elapsed ∧ before.pool.lookup asked = some entry ∧
    entry.blocked model before.clock = true ∧
    entry.blocked model (before.clock + elapsed) = false

/-- A reload lists a key that was not in the pool. -/
def Relists (fingerprint : String → String) (before : System) (action : Action)
    (asked : String) : Prop :=
  ∃ keys, action = .replaceKeys keys ∧ before.pool.lookup asked = none ∧
    ∃ key ∈ keys, fingerprint key.asStr = asked

/-- The step frees a key that the request has captured and not used. -/
def Frees (fingerprint : String → String) (attempts : RequestAttempts) (before : System)
    (action : Action) : Prop :=
  ∃ candidate ∈ attempts.candidates, candidate.fingerprint ∉ attempts.used ∧
    (Clears before action attempts.model candidate.fingerprint ∨
      Elapses before action attempts.model candidate.fingerprint ∨
      Relists fingerprint before action candidate.fingerprint)

/-- No transition ends the cooling of a model before its time. -/
theorem touches_liveness {event : KeyEvent} (valid : 0 < policy.backoffInitial)
    (touches : Touches policy fingerprint before action asked event)
    (cooling : entry.isLivenessCooling model before.clock = true) :
    (event.apply policy fingerprint before.clock entry).isLivenessCooling model before.clock =
      true := by
  have kept {left : KeyEntry} (same : left.livenessCooling = entry.livenessCooling) :
      left.isLivenessCooling model before.clock = true := by
    simpa only [KeyEntry.isLivenessCooling, same] using cooling
  cases touches with
  | kept | relisted => exact cooling
  | succeeded selection issued =>
    refine kept ?_
    simp only [KeyEvent.apply, KeyEntry.recordSuccess]
    split <;> rfl
  | failed selection failure jitter issued => exact kept KeyEntry.recordFailure_liveness
  | cooled target cooldown read =>
    refine kept ?_
    simp only [KeyEvent.apply, KeyEntry.recordProactive]
    split <;> rfl
  | claimed answered drawn available =>
    refine kept ?_
    simp only [KeyEvent.apply, KeyEntry.claim]
    split <;> rfl
  | slowed selection name =>
    refine KeyEntry.recordLiveness_cooling ?_ cooling
    have positive : 0 < maxCooldown := by decide
    simp only [deadlineAfter]
    omega

/-- No transition but a clearing success makes a blocked key selectable. -/
theorem touches_blocked {event : KeyEvent} (valid : 0 < policy.backoffInitial)
    (touches : Touches policy fingerprint before action asked event)
    (found : before.pool.lookup asked = some entry)
    (uncleared : ¬ Clears before action model asked)
    (blocked : entry.blocked model before.clock = true) :
    (event.apply policy fingerprint before.clock entry).blocked model before.clock = true := by
  rw [KeyEntry.blocked, Bool.or_eq_true] at blocked ⊢
  cases live : entry.isLivenessCooling model before.clock with
  | true => exact .inr (touches_liveness valid touches live)
  | false =>
    have cooling : entry.isCooling before.clock = true := by simpa [live] using blocked
    have rejected : ¬ AcceptedSuccess before action asked := by
      rintro ⟨selection, other, succeeded, same, looked, accepted⟩
      obtain rfl : entry = other := Option.some.inj (found.symm.trans looked)
      exact uncleared ⟨selection, entry, succeeded, same, looked, accepted, live⟩
    exact .inl (KeyEntry.isCooling_later cooling fun existing held =>
      touches_later touches found rejected held)

/-- Only a tick moves the clock. -/
theorem step_clock (stepped : Step policy fingerprint before action after) :
    after.clock = before.clock ∨
      ∃ elapsed, action = .tick elapsed ∧ after.pool = before.pool ∧
        after.clock = before.clock + elapsed := by
  have performs := step_cases stepped
  generalize before.answer policy fingerprint action = answer at performs
  cases performs with
  | tick elapsed => exact .inr ⟨elapsed, rfl, rfl, rfl⟩
  | _ => exact .inl rfl

/-- A key that is missing stays missing unless a reload lists it. -/
theorem step_missing (stepped : Step policy fingerprint before action after)
    (missing : before.pool.lookup asked = none)
    (unlisted : ¬ Relists fingerprint before action asked) :
    after.pool.lookup asked = none := by
  have found (pool : PoolState) : pool.lookup asked = none ↔
      asked ∉ pool.listing.map RequestCandidate.fingerprint := by
    rw [PoolState.listing, List.map_map]
    exact FirstMatch.lookup_none
  rw [found]
  rcases step_listing stepped with same | ⟨keys, reload, listed⟩
  · rw [same]
    exact (found before.pool).mp missing
  · rw [listed, List.map_map]
    intro member
    obtain ⟨key, inside, same⟩ := List.mem_map.mp member
    exact unlisted ⟨keys, reload, missing, key, inside, same⟩

/-- A step that does not free a key leaves it unselectable. -/
theorem step_unselectable (valid : 0 < policy.backoffInitial)
    (stepped : Step policy fingerprint before action after)
    (uncleared : ¬ Clears before action model asked)
    (cooling : ¬ Elapses before action model asked)
    (unlisted : ¬ Relists fingerprint before action asked)
    (unselectable : Unselectable before model asked) : Unselectable after model asked := by
  intro left present
  cases found : before.pool.lookup asked with
  | none =>
    rw [step_missing stepped found unlisted] at present
    cases present
  | some entry =>
    have blocked := unselectable entry found
    rcases step_clock stepped with still | ⟨elapsed, ticked, same, moved⟩
    · rcases step_entry stepped found with ⟨gone, _⟩ | ⟨event, touches, kept⟩
      · rw [gone] at present
        cases present
      · rw [kept] at present
        cases present
        rw [still]
        exact touches_blocked valid touches found uncleared blocked
    · rw [same, found] at present
      cases present
      rw [moved]
      by_contra freed
      exact cooling ⟨elapsed, _, ticked, found, blocked, by simpa using freed⟩

/-- A candidate that cannot be selected has been used or is unselectable. -/
theorem ineligible_unselectable {attempts : RequestAttempts} {candidate : RequestCandidate} :
    attempts.eligible before.pool before.clock candidate = false ↔
      (candidate.fingerprint ∉ attempts.used →
        Unselectable before attempts.model candidate.fingerprint) := by
  rw [RequestAttempts.ineligible_iff]
  simp only [Unselectable, KeyEntry.blocked, Bool.or_eq_true]

/-- A call of `next` stands between its failed try and its second lock. -/
def BetweenLocks : CallPhase → Prop
  | .missed | .recovering _ => True
  | _ => False

/-- While its call stands between the locks, a request has nothing to select. -/
def Waits (request : Nat) (system : System) : Prop :=
  ∀ caller, system.callers[request]? = some caller → BetweenLocks caller.phase →
    ∀ candidate ∈ caller.attempts.candidates,
      caller.attempts.eligible system.pool system.clock candidate = false

variable {request : Nat}

/-- A step of a call itself frees nothing. -/
theorem call_frees_nothing {attempts : RequestAttempts}
    (call : action = .next request ∨ action = .nextImmediate request ∨ action = .advance request) :
    ¬ Frees fingerprint attempts before action := by
  rintro ⟨_, _, _, ⟨_, _, same, _⟩ | ⟨_, _, same, _⟩ | ⟨_, same, _⟩⟩ <;>
    rcases call with rfl | rfl | rfl <;> cases same

/-- A step that frees none of a request's unused keys leaves it nothing to select. -/
theorem step_ineligible {attempts : RequestAttempts} (valid : 0 < policy.backoffInitial)
    (stepped : Step policy fingerprint before action after)
    (unfreed : ¬ Frees fingerprint attempts before action)
    (nothing : ∀ candidate ∈ attempts.candidates,
      attempts.eligible before.pool before.clock candidate = false) :
    ∀ candidate ∈ attempts.candidates,
      attempts.eligible after.pool after.clock candidate = false := by
  intro candidate member
  rw [ineligible_unselectable]
  intro unused
  have unselectable := ineligible_unselectable.mp (nothing candidate member) unused
  refine step_unselectable valid stepped ?_ ?_ ?_ unselectable
  · exact fun cleared => unfreed ⟨candidate, member, unused, .inl cleared⟩
  · exact fun elapsed => unfreed ⟨candidate, member, unused, .inr (.inl elapsed)⟩
  · exact fun relisted => unfreed ⟨candidate, member, unused, .inr (.inr relisted)⟩

/-- A turn that leaves a call between its locks was a failed try or found it there. -/
theorem quiet_between {state : PoolState} {now : Nat} {attempts : RequestAttempts}
    {phase next : CallPhase} {answer : Option AttemptResult}
    (step : QuietStep policy state now attempts phase next answer) (between : BetweenLocks next) :
    attempts.trySelectUnused policy state now = none ∨ BetweenLocks phase := by
  cases step with
  | missed missed => exact .inl missed
  | timed unused => exact .inr trivial
  | _ => cases between

/-- A call answers that its keys are unavailable from its second lock. -/
theorem unavailable_between {caller : Caller} {retryAfter : Nat}
    (stepped : Step policy fingerprint before (.advance request) after)
    (waiting : before.callers[request]? = some caller)
    (answered : before.answer policy fingerprint (.advance request) =
      some (.unavailable retryAfter)) : BetweenLocks caller.phase := by
  have performs := step_cases stepped
  rw [answered] at performs
  generalize given : some (AttemptResult.unavailable retryAfter) = answer at performs
  cases performs with
  | @quiet _ asked other phase _ call held step =>
    obtain rfl : request = asked := by simpa using call
    obtain rfl : caller = other := Option.some.inj (waiting.symm.trans held)
    subst given
    generalize caller.phase = current at step
    cases step with
    | late overdue => trivial
    | stranded early nothing => trivial
  | selected call waiting room tried => cases given

/-- After a step a request stands where it stood, or idle, or where a quiet turn of its own
call has brought it. -/
theorem step_phase {left : Caller} (stepped : Step policy fingerprint before action after)
    (present : after.callers[request]? = some left) :
    before.callers[request]? = some left ∨ left.phase = .idle ∨
      ∃ caller answer, before.callers[request]? = some caller ∧
        (action = .next request ∨ action = .nextImmediate request ∨ action = .advance request) ∧
        left.attempts = caller.attempts ∧
        QuietStep policy before.pool before.clock caller.attempts caller.phase left.phase
          answer := by
  have treated := step_request stepped request
  generalize handed policy fingerprint request ⟨before, action, after⟩ = given at treated
  rw [present] at treated
  generalize before.callers[request]? = held at treated ⊢
  generalize same : some left = found at treated
  cases treated with
  | kept caller => exact .inl rfl
  | created | modelled =>
    cases same
    exact .inr (.inl rfl)
  | @quiet caller phase answer call step =>
    cases same
    exact .inr (.inr ⟨caller, answer, rfl, call, rfl, step⟩)
  | selected room tried =>
    cases same
    exact .inr (.inl rfl)

/-- One step keeps a request waiting. The failed try establishes it; the turn that
reads the clock keeps it; other steps keep it when they free nothing. -/
theorem step_waits (valid : 0 < policy.backoffInitial)
    (stepped : Step policy fingerprint before action after)
    (unfreed : ∀ caller, before.callers[request]? = some caller → BetweenLocks caller.phase →
      ¬ Frees fingerprint caller.attempts before action)
    (waits : Waits request before) : Waits request after := by
  intro left present between
  rcases step_phase stepped present with held | idle | ⟨caller, answer, held, call, same, step⟩
  · exact step_ineligible valid stepped (unfreed left held between) (waits left held between)
  · rw [idle] at between
    cases between
  · rw [same]
    refine step_ineligible valid stepped (call_frees_nothing call) ?_
    rcases quiet_between step between with missed | earlier
    · exact (RequestAttempts.trySelectUnused_none policy _ _ _).mp missed
    · exact waits caller held earlier

/-- A valid backoff is positive. -/
theorem initial_backoff {first : System} (initial : Initial policy fingerprint first) :
    0 < policy.backoffInitial := by
  obtain ⟨keys, built, _⟩ := initial
  obtain ⟨_, _, _, valid⟩ := PoolState.withJitter_ok policy fingerprint built
  refine Nat.pos_of_ne_zero fun zero => ?_
  simp [PoolPolicy.validate, zero] at valid

variable {first last : System} {earlier later : List (Runs.Transition System Action)}
  {taken : Runs.Transition System Action}

/-- An unavailable answer is never spurious when nothing is freed between the
locks. In every run from a fresh pool, if no step taken while the request stands
between a failed try and its second lock frees a key that it captured and has not
used, then a call that answers that its keys are unavailable, before its deadline
or after it, computes this answer with no unused candidate selectable.

Proof: between the locks every unused key stays ineligible, by induction on the run. -/
theorem unavailable_not_spurious (initial : Initial policy fingerprint first)
    (run : Runs.Run (Step policy fingerprint) first (earlier ++ taken :: later) last)
    (unfreed : ∀ step ∈ earlier, ∀ caller, step.before.callers[request]? = some caller →
      BetweenLocks caller.phase → ¬ Frees fingerprint caller.attempts step.before step.label)
    {caller : Caller} {retryAfter : Nat} (called : taken.label = .advance request)
    (waiting : taken.before.callers[request]? = some caller)
    (answered : taken.before.answer policy fingerprint taken.label =
      some (.unavailable retryAfter)) :
    ∀ candidate ∈ caller.attempts.candidates,
      caller.attempts.eligible taken.before.pool taken.before.clock candidate = false := by
  obtain ⟨upTo, stepped, _⟩ := run.split
  have valid := initial_backoff initial
  have fresh : Waits request first := by
    obtain ⟨_, _, none, _⟩ := initial
    intro caller present
    simp [none] at present
  have waits : Waits request taken.before :=
    upTo.preserved (Waits request) fresh fun step member stepped =>
      step_waits valid stepped (unfreed step member)
  rw [called] at stepped answered
  exact waits caller waiting (unavailable_between stepped waiting answered)

/-- Two requests hold the only key, the older lease is rate limited, and a third
request has tried in vain and read the clock. -/
def betweenLocks : List Action :=
  [.request none, .request none, .request none, .nextImmediate 0, .nextImmediate 1,
    .reportFailure (leaseOfA 0) (.rateLimited (some 10)) (fun base => base),
    .next 2, .advance 2, .advance 2]

/-- The third request is about to take its second lock. -/
def unlockedA : System := Runs.reached sampleNext onlyA betweenLocks

/-- The newer lease succeeds meanwhile. -/
def clearedA : System :=
  Runs.reached sampleNext unlockedA [.reportSuccess (leaseOfA 1)]

/-- The key is cleared between the two locks of a call, and the call still answers
that it is unavailable, long before its deadline. -/
theorem cleared_key_answered_unavailable :
    ∃ (first last : System) (trace : List (Runs.Transition System Action))
      (taken : Runs.Transition System Action) (caller : Caller) (candidate : RequestCandidate),
      Initial samplePolicy sampleFingerprint first ∧
        Runs.Run (Step samplePolicy sampleFingerprint) first trace last ∧ taken ∈ trace ∧
        taken.label = .advance 2 ∧ taken.before.callers[2]? = some caller ∧
        taken.before.answer samplePolicy sampleFingerprint taken.label =
          some (.unavailable 0) ∧
        taken.before.clock < caller.attempts.deadline ∧
        candidate ∈ caller.attempts.candidates ∧
        caller.attempts.eligible taken.before.pool taken.before.clock candidate = true := by
  have tried : (Runs.record sampleNext onlyA betweenLocks).isSome := by
    decide +kernel
  have cleared : Step samplePolicy sampleFingerprint unlockedA (.reportSuccess (leaseOfA 1))
      clearedA := by decide +kernel
  have answered : Step samplePolicy sampleFingerprint clearedA (.advance 2)
      (Runs.reached sampleNext clearedA [.advance 2]) := by decide +kernel
  refine ⟨onlyA, _, _, ⟨clearedA, .advance 2, _⟩,
    ⟨onlyA.pool.requestWithModel samplePolicy none 0, .recovering 0⟩, ⟨"a", ⟨"a"⟩⟩,
    started_initial _ _ rfl (by simp), ((Runs.replay_run tried).extend cleared).extend answered,
    List.mem_append_right _ (List.mem_singleton_self _), rfl, ?_⟩
  decide +kernel

/-- The key is dropped between the two locks. -/
def droppedA : System := Runs.reached sampleNext unlockedA [.replaceKeys [⟨"b"⟩]]

/-- The key is dropped between the two locks instead, and the answer is right. -/
theorem unavailable_not_spurious_dropped :
    droppedA.answer samplePolicy sampleFingerprint (.advance 2) = some (.unavailable 0) ∧
      ∀ candidate ∈ onlyA.pool.candidates,
        (onlyA.pool.requestWithModel samplePolicy none 0).eligible droppedA.pool droppedA.clock
          candidate = false := by
  have tried : (Runs.record sampleNext onlyA betweenLocks).isSome := by
    decide +kernel
  have dropped : Step samplePolicy sampleFingerprint unlockedA (.replaceKeys [⟨"b"⟩]) droppedA := by
    decide +kernel
  have answered : Step samplePolicy sampleFingerprint droppedA (.advance 2)
      (Runs.reached sampleNext droppedA [.advance 2]) := by decide +kernel
  have asked : unlockedA.callers[2]? =
      some ⟨onlyA.pool.requestWithModel samplePolicy none 0, .recovering 0⟩ := by decide +kernel
  have waiting : droppedA.callers[2]? =
      some ⟨onlyA.pool.requestWithModel samplePolicy none 0, .recovering 0⟩ := by decide +kernel
  have unavailable : droppedA.answer samplePolicy sampleFingerprint (.advance 2) =
      some (.unavailable 0) := by decide +kernel
  refine ⟨unavailable, unavailable_not_spurious
    (started_initial samplePolicy sampleFingerprint rfl (by simp))
    (((Runs.replay_run tried).extend dropped).join answered .start) ?_ rfl waiting unavailable⟩
  intro step member caller held between
  rcases List.mem_append.mp member with before | final
  · have label := Runs.steps_label before
    rintro ⟨_, _, _, ⟨_, _, same, _⟩ | ⟨_, _, same, _⟩ | ⟨_, same, _⟩⟩ <;>
      simp [betweenLocks, same] at label
  · obtain rfl := List.mem_singleton.mp final
    obtain rfl := Option.some.inj (asked.symm.trans held)
    rintro ⟨candidate, captured, _,
      ⟨_, _, same, _⟩ | ⟨_, _, same, _⟩ | ⟨keys, same, _, key, inside, listed⟩⟩
    · cases same
    · cases same
    · cases same
      obtain rfl : candidate = ⟨"a", ⟨"a"⟩⟩ := List.mem_singleton.mp captured
      obtain rfl : key = ⟨"b"⟩ := List.mem_singleton.mp inside
      exact absurd listed (by decide)

end System

end Orihsus.Pool
