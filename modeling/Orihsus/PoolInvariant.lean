import Mathlib.Data.List.Rotate
import Orihsus.FillFirst

/-!
# What every state of the pool satisfies

The fields of a key that `src/pool.rs` updates by hand, and what holds between them in
every state that a run reaches: a cooldown has its deadline, its reason and its owner or
none of them, it is owned by the last failure report, and a key that waits for a probe has
one. No deadline lies further ahead than the ceiling on cooldowns after the last
operation. The list of keys is never empty and the cursor stands on one of them, so a
request captures every key once, around the ring.

Time is only compared with the last operation, not with the clock: ticks between
operations do not loosen the bound.
-/

namespace Orihsus.Pool

/-- A key whose fields fit together, with every deadline at most the horizon. -/
structure KeyEntry.WellFormed (entry : KeyEntry) (horizon : Nat) : Prop where
  reasoned : entry.coolingReason.isSome = entry.coolingUntil.isSome
  owned : entry.coolingBy.isSome = entry.coolingUntil.isSome
  blamed : entry.coolingUntil.isSome = true → entry.lastFailureBy.isSome = true
  recovering : entry.halfOpen = true → entry.coolingUntil.isSome = true
  deadline : ∀ deadline, entry.coolingUntil = some deadline → deadline ≤ horizon
  models : ∀ cooled ∈ entry.livenessCooling, cooled.2 ≤ horizon

/-- No deadline is further off than the longest cooldown. -/
theorem deadlineAfter_le (now cooldown : Nat) : deadlineAfter now cooldown ≤ now + maxCooldown :=
  Nat.add_le_add_left (Nat.min_le_right _ _) now

namespace KeyEntry.WellFormed

variable {policy : PoolPolicy} {jitter : Nat → Nat} {fingerprint : String → String}
  {entry next : KeyEntry} {horizon later id now limit : Nat} {reason : CoolingReason}

/-- A key that does not cool has no reason, no owner and no probe to wait for. -/
theorem rested (resting : entry.coolingUntil = none) (reasoned : entry.coolingReason = none)
    (owned : entry.coolingBy = none) (closed : entry.halfOpen = false)
    (models : ∀ cooled ∈ entry.livenessCooling, cooled.2 ≤ horizon) :
    entry.WellFormed horizon := by
  constructor
  · rw [reasoned, resting]
    rfl
  · rw [owned, resting]
  · intro cooling
    rw [resting] at cooling
    cases cooling
  · intro recovering
    rw [closed] at recovering
    cases recovering
  · intro deadline cooling
    rw [resting] at cooling
    cases cooling
  · exact models

/-- A fresh key is well formed. -/
theorem fresh (key : Secret) : (KeyEntry.fresh fingerprint key).WellFormed horizon := by
  refine rested rfl rfl rfl rfl ?_
  intro cooled member
  cases member

variable (formed : entry.WellFormed horizon)

include formed

/-- Deadlines within a horizon are within a later one. -/
theorem mono (ordered : horizon ≤ later) : entry.WellFormed later where
  reasoned := formed.reasoned
  owned := formed.owned
  blamed := formed.blamed
  recovering := formed.recovering
  deadline deadline cooling := Nat.le_trans (formed.deadline deadline cooling) ordered
  models cooled member := Nat.le_trans (formed.models cooled member) ordered

/-- A key that a report has just cooled. -/
theorem cooled (deadline : next.coolingUntil = some limit)
    (reasoned : next.coolingReason = some reason) (owned : next.coolingBy = some id)
    (blamed : next.lastFailureBy = some id)
    (models : next.livenessCooling = entry.livenessCooling) (bounded : limit ≤ horizon) :
    next.WellFormed horizon := by
  constructor
  · rw [reasoned, deadline]
    rfl
  · rw [owned, deadline]
    rfl
  · intro _
    rw [blamed]
    rfl
  · intro _
    rw [deadline]
    rfl
  · intro given cooling
    rw [deadline] at cooling
    cases cooling
    exact bounded
  · rw [models]
    exact formed.models

/-- A success keeps a key well formed. -/
theorem success (id : Nat) : (entry.recordSuccess id).WellFormed horizon := by
  unfold recordSuccess
  split
  · exact formed
  · exact rested rfl rfl rfl rfl formed.models

/-- So does a proactive cooldown. -/
theorem proactive (bounded : limit ≤ horizon) :
    (entry.recordProactive id limit).1.WellFormed horizon := by
  unfold recordProactive
  split
  · exact formed
  · exact formed.cooled rfl rfl rfl rfl rfl bounded

/-- So does a 429 or a key that is unavailable. -/
theorem retry (bounded : now + maxCooldown ≤ horizon) (retryAfter : Option Nat) :
    (entry.recordRetry policy jitter id reason retryAfter now).1.WellFormed horizon := by
  unfold recordRetry
  dsimp only
  split
  · exact formed
  · exact formed.cooled rfl rfl rfl rfl rfl (Nat.le_trans (deadlineAfter_le _ _) bounded)

/-- Counting a network failure blames it and changes nothing else that is compared. -/
theorem counted (failures id : Nat) :
    WellFormed { entry with consecutiveFailures := failures, lastFailureBy := some id }
      horizon where
  reasoned := formed.reasoned
  owned := formed.owned
  blamed _ := rfl
  recovering := formed.recovering
  deadline := formed.deadline
  models := formed.models

/-- So does any failure. -/
theorem failure (bounded : now + maxCooldown ≤ horizon) (failure : Failure) :
    (entry.recordFailure policy jitter id failure now).1.WellFormed horizon := by
  cases failure with
  | usageLimit dimension cooldown =>
    simp only [recordFailure]
    split
    · exact formed
    · exact formed.cooled rfl rfl rfl rfl rfl (Nat.le_trans (deadlineAfter_le _ _) bounded)
  | rateLimited retryAfter | unavailable retryAfter => exact formed.retry bounded retryAfter
  | server => exact formed
  | network =>
    have counted := formed.counted (entry.consecutiveFailures + 1) id
    simp only [recordFailure]
    split
    · split
      · exact counted
      · exact counted.cooled rfl rfl rfl rfl rfl (Nat.le_trans (deadlineAfter_le _ _) bounded)
    · exact counted

/-- So does a claim. -/
theorem claimed (bounded : now + maxCooldown ≤ horizon) :
    (entry.claim policy id now).WellFormed horizon := by
  unfold claim
  split
  · exact formed.cooled rfl rfl rfl rfl rfl (Nat.le_trans (deadlineAfter_le _ _) bounded)
  · exact formed

/-- So does a slow model. -/
theorem liveness (model : String) (bounded : limit ≤ horizon) :
    (entry.recordLiveness model limit).WellFormed horizon where
  reasoned := formed.reasoned
  owned := formed.owned
  blamed := formed.blamed
  recovering := formed.recovering
  deadline := formed.deadline
  models := by
    intro cooled member
    rcases List.mem_cons.mp member with rfl | inside
    · exact bounded
    · exact formed.models cooled (List.mem_filter.mp inside).1

/-- So does a reload. -/
theorem carried (key : Secret) : (entry.carried fingerprint key).WellFormed horizon where
  reasoned := formed.reasoned
  owned := formed.owned
  blamed := formed.blamed
  recovering := formed.recovering
  deadline := formed.deadline
  models := formed.models

end KeyEntry.WellFormed

namespace PoolState

/-- The keys of a pool fit together, they are pairwise distinct and there is one, and the
cursor stands on one of them. -/
structure WellFormed (state : PoolState) (horizon : Nat) : Prop where
  inside : state.cursor < state.entries.length
  distinct : (state.entries.map KeyEntry.key).Nodup
  each : ∀ entry ∈ state.entries, entry.WellFormed horizon

variable {policy : PoolPolicy} {jitter : Nat → Nat} {fingerprint : String → String}
  {state after : PoolState} {horizon later now : Nat}

/-- A later horizon only allows more. -/
theorem WellFormed.mono (formed : state.WellFormed horizon) (ordered : horizon ≤ later) :
    state.WellFormed later :=
  ⟨formed.inside, formed.distinct, fun entry member => (formed.each entry member).mono ordered⟩

/-- The counter is no part of it. -/
theorem WellFormed.counter (formed : state.WellFormed horizon) (nextId : Nat) :
    WellFormed { state with nextId := nextId } horizon :=
  ⟨formed.inside, formed.distinct, formed.each⟩

/-- A key is rewritten in place. -/
theorem WellFormed.adjust (formed : state.WellFormed horizon) (target : String)
    {change : KeyEntry → KeyEntry} (keeps : ∀ entry, (change entry).candidate = entry.candidate)
    (kept : ∀ entry : KeyEntry, entry.WellFormed horizon → (change entry).WellFormed horizon) :
    (state.adjust target change).WellFormed horizon := by
  constructor
  · change state.cursor < (FirstMatch.update _ _ _ _).length
    rw [FirstMatch.update_length]
    exact formed.inside
  · change ((FirstMatch.update _ _ _ _).map KeyEntry.key).Nodup
    have same : ∀ entry, (change entry).key = entry.key :=
      fun entry => congrArg RequestCandidate.key (keeps entry)
    rw [FirstMatch.update_map same]
    exact formed.distinct
  · exact FirstMatch.update_forall formed.each kept

/-- The search leaves the cursor on the ring. -/
theorem WellFormed.advance (formed : state.WellFormed horizon) (now : Nat) :
    (state.advanceCursor now).WellFormed horizon := by
  constructor
  · rw [advanceCursor_cursor, advanceCursor_entries]
    exact Rotation.next_lt formed.inside
  · rw [advanceCursor_entries]
    exact formed.distinct
  · rw [advanceCursor_entries]
    exact formed.each

/-- A failure report keeps the pool well formed. -/
theorem WellFormed.failure (formed : state.WellFormed horizon)
    (bounded : now + maxCooldown ≤ horizon) (selection : Selection) (failure : Failure) :
    (state.reportFailure policy jitter selection failure now).WellFormed horizon := by
  have reported := formed.adjust selection.fingerprint
    (fun entry => entry.recordFailure_candidate policy jitter selection.id failure now)
    (fun entry formed => formed.failure bounded failure)
  unfold reportFailure
  split
  · exact formed
  · dsimp only
    split
    · exact reported.advance now
    · exact reported

/-- So does a proactive report. -/
theorem WellFormed.proactive (formed : state.WellFormed horizon)
    (bounded : now + maxCooldown ≤ horizon) (target : String) (cooldown : Nat) :
    (state.reportProactiveCooldown target cooldown now).WellFormed horizon := by
  have reported := (formed.adjust target
    (fun entry => entry.recordProactive_candidate state.nextId (deadlineAfter now cooldown))
    (fun entry formed => formed.proactive (Nat.le_trans (deadlineAfter_le _ _) bounded))).counter
    (state.nextId + 1)
  unfold reportProactiveCooldown
  split
  · exact formed
  · dsimp only
    split
    · exact reported.advance now
    · exact reported

/-- A reload lists at least one key, and the cursor is clamped onto the new list. -/
theorem WellFormed.reload (formed : state.WellFormed horizon) {keys : List Secret}
    (distinct : keys.Nodup) (replaced : state.replaceKeys fingerprint keys = .ok after) :
    after.WellFormed horizon := by
  constructor
  · obtain ⟨nonempty, rfl⟩ := state.replaceKeys_ok fingerprint replaced
    have positive : 0 < keys.length := List.length_pos_iff.mpr nonempty
    change min state.cursor (keys.length - 1) < (keys.map _).length
    rw [List.length_map]
    omega
  · obtain ⟨_, rfl⟩ := state.replaceKeys_ok fingerprint replaced
    have same : (keys.map (state.replacement fingerprint)).map KeyEntry.key = keys := by
      rw [List.map_map]
      refine (List.map_congr_left fun key _ => ?_).trans (List.map_id keys)
      exact congrArg RequestCandidate.key (state.replacement_candidate fingerprint key)
    rw [same]
    exact distinct
  · exact state.replaceKeys_each fingerprint replaced
      (fun previous member key => (formed.each previous member).carried key)
      fun key => KeyEntry.WellFormed.fresh key

/-- Reading a list at each of its positions yields the list. -/
theorem filterMap_positions {Value Part : Type} (list : List Value) (part : Value → Part) :
    ((List.range list.length).filterMap fun index => (list[index]?).map part) = list.map part := by
  have read : (List.range list.length).map (fun index => (list[index]?).map part) =
      (list.map part).map some := by
    refine List.ext_getElem (by simp) ?_
    intro index bound _
    have inside : index < list.length := by simpa using bound
    simp [inside]
  calc (List.range list.length).filterMap (fun index => (list[index]?).map part)
      = ((List.range list.length).map fun index => (list[index]?).map part).filterMap id := by
        rw [List.filterMap_map]
        rfl
    _ = ((list.map part).map some).filterMap id := by rw [read]
    _ = list.map part := by simp

/-- A request captures the keys of the ring from the cursor on. -/
theorem candidates_rotate :
    state.candidates = (state.entries.rotate state.cursor).map KeyEntry.candidate := by
  rw [← filterMap_positions, List.length_rotate]
  refine List.filterMap_congr fun offset member => ?_
  rw [List.getElem?_rotate (List.mem_range.mp member), Nat.add_comm offset]
  rfl

/-- What the pool's callers can rely on: the list is not empty, every index that a ring
walk computes is on it, a request captures every key once in the order of the ring, and
the fields of every key fit together, with no deadline beyond the ceiling after the last
operation. -/
structure Represented (state : PoolState) (latest : Nat) : Prop where
  nonempty : state.entries ≠ []
  inside : state.cursor < state.entries.length
  ring : ∀ offset, (state.cursor + offset) % state.entries.length < state.entries.length
  captured : ∀ policy model now, (state.requestWithModel policy model now).candidates =
    (state.entries.rotate state.cursor).map KeyEntry.candidate
  once : ∀ entry ∈ state.entries,
    (state.candidates.map RequestCandidate.key).count entry.key = 1
  each : ∀ entry ∈ state.entries, entry.WellFormed (latest + maxCooldown)

/-- A well-formed pool is represented. -/
theorem WellFormed.represented {latest : Nat} (formed : state.WellFormed (latest + maxCooldown)) :
    state.Represented latest := by
  have positive : 0 < state.entries.length := Nat.zero_lt_of_lt formed.inside
  constructor
  · exact List.length_pos_iff.mp positive
  · exact formed.inside
  · exact fun offset => Nat.mod_lt _ positive
  · exact fun _ _ _ => candidates_rotate
  · intro entry member
    rw [candidates_rotate, List.map_map, List.map_rotate]
    have unique : ((state.entries.map KeyEntry.key).rotate state.cursor).Nodup :=
      List.nodup_rotate.mpr formed.distinct
    refine List.count_eq_one_of_mem unique ?_
    rw [List.mem_rotate]
    exact List.mem_map_of_mem member
  · exact formed.each

end PoolState

namespace System

variable {policy : PoolPolicy} {fingerprint : String → String} {before after first last : System}
  {action : Action} {trace : List (Runs.Transition System Action)}

/-- The instant of a step that operates on the pool. -/
def operated (taken : Runs.Transition System Action) : Option Nat :=
  match taken.label with
  | .tick _ => none
  | _ => some taken.before.clock

/-- The instant of the last operation of a run, or of its start. -/
def latest (first : System) (trace : List (Runs.Transition System Action)) : Nat :=
  ((trace.filterMap operated).getLast?).getD first.clock

/-- The latest operation moves to each operation, and ticks do not move it. -/
theorem latest_extend {taken : Runs.Transition System Action} :
    latest first (trace ++ [taken]) = (operated taken).getD (latest first trace) := by
  rw [latest, Runs.filterMap_extend]
  cases operated taken with
  | none => rw [Option.toList_none, List.append_nil]; rfl
  | some instant => simp

/-- An operation leaves a well-formed pool well formed, with the horizon at its own time. -/
theorem step_formed {horizon : Nat} (stepped : Step policy fingerprint before action after)
    (reloads : ∀ keys, action = .replaceKeys keys → keys.Nodup)
    (formed : before.pool.WellFormed horizon) (bounded : before.clock + maxCooldown ≤ horizon) :
    after.pool.WellFormed horizon := by
  have performs := step_cases stepped
  generalize before.answer policy fingerprint action = answer at performs
  cases performs with
  | tick | request | setModel | quiet => exact formed
  | @selected action request caller selection claimed call waiting room tried =>
    obtain ⟨_, _, _, rfl⟩ := RequestAttempts.trySelectUnused_some _ _ _ _ tried
    exact (formed.adjust selection.fingerprint
      (fun entry => entry.claim_candidate policy before.pool.nextId before.clock)
      (fun entry formed => formed.claimed bounded)).counter _
  | @succeeded selection issued =>
    exact formed.adjust _ (fun entry => entry.recordSuccess_candidate selection.id)
      (fun entry formed => formed.success selection.id)
  | failed issued => exact formed.failure bounded _ _
  | @cooled target cooldown read past =>
    exact formed.proactive (by omega) target cooldown
  | @slowed selection model issued =>
    exact formed.adjust _
      (fun entry => entry.recordLiveness_candidate model (deadlineAfter before.clock _))
      (fun entry formed => formed.liveness model (Nat.le_trans (deadlineAfter_le _ _) bounded))
  | @reloaded keys pool replaced => exact formed.reload (reloads keys rfl) replaced
  | refused rejected => exact formed

/-- Time does not run backwards. -/
theorem clock_le (stepped : Step policy fingerprint before action after) :
    before.clock ≤ after.clock := by
  have performs := step_cases stepped
  generalize before.answer policy fingerprint action = answer at performs
  cases performs with
  | tick elapsed => exact Nat.le_add_right _ _
  | _ => exact Nat.le_refl _

/-- A tick leaves the pool alone. -/
theorem tick_pool {elapsed : Nat} (stepped : Step policy fingerprint before (.tick elapsed) after) :
    after.pool = before.pool := by
  cases stepped
  rfl

/-- So is a pool with distinct keys at the start. -/
theorem initial_formed {horizon : Nat} (initial : Initial policy fingerprint first)
    (distinct : (first.pool.entries.map KeyEntry.key).Nodup) :
    first.pool.WellFormed horizon := by
  obtain ⟨keys, built, _, _⟩ := initial
  obtain ⟨entries, cursor, nonempty, _⟩ := PoolState.withJitter_ok policy fingerprint built
  constructor
  · rw [cursor, entries, List.length_map]
    exact List.length_pos_iff.mpr nonempty
  · exact distinct
  · intro entry member
    rw [entries] at member
    obtain ⟨key, _, rfl⟩ := List.mem_map.mp member
    exact KeyEntry.WellFormed.fresh key

/-- In every run whose key lists have pairwise distinct keys, every state of the pool is
represented as it should be, with the last operation as the measure of its deadlines.

Proof: by induction on the run, with the ceiling after the last operation as the horizon. -/
theorem pool_represented {policy : PoolPolicy} {fingerprint : String → String}
    {first last : System} {trace : List (Runs.Transition System Action)}
    (initial : Initial policy fingerprint first)
    (distinct : (first.pool.entries.map KeyEntry.key).Nodup)
    (run : Runs.Run (Step policy fingerprint) first trace last)
    (reloads : ∀ taken ∈ trace, ∀ keys, taken.label = .replaceKeys keys → keys.Nodup) :
    last.pool.Represented (latest first trace) := by
  suffices formed : last.pool.WellFormed (latest first trace + maxCooldown) ∧
      latest first trace ≤ last.clock from formed.1.represented
  induction run with
  | start => exact ⟨initial_formed initial distinct, Nat.le_refl _⟩
  | @extend trace current next action earlier stepped inductionHypothesis =>
    obtain ⟨formed, past⟩ := inductionHypothesis fun taken member =>
      reloads taken (List.mem_append_left _ member)
    have own : ∀ keys, action = .replaceKeys keys → keys.Nodup :=
      reloads _ (List.mem_append_right _ (List.mem_singleton_self _))
    have operation : operated ⟨current, action, next⟩ = some current.clock →
        next.pool.WellFormed (latest first (trace ++ [⟨current, action, next⟩]) + maxCooldown) ∧
          latest first (trace ++ [⟨current, action, next⟩]) ≤ next.clock := by
      intro instant
      rw [latest_extend, instant, Option.getD_some]
      refine ⟨?_, clock_le stepped⟩
      exact step_formed stepped own (formed.mono (Nat.add_le_add_right past _)) (Nat.le_refl _)
    cases action with
    | tick elapsed =>
      rw [latest_extend]
      exact ⟨by rw [tick_pool stepped]; exact formed, Nat.le_trans past (clock_le stepped)⟩
    | _ => exact operation rfl

/-- A leased key trips its breaker, and a later reload drops another key and changes the
order. -/
def trippedAndReloaded : List Action :=
  leaseTwice ++ [.reportFailure (leaseOfA 0) .network id, .reportFailure (leaseOfA 0) .network id,
    .tick 100, .replaceKeys [⟨"c"⟩, ⟨"a"⟩], .tick 7]

/-- A trip of the breaker and a reload are within the horizon. -/
theorem pool_represented_reloaded : Initial samplePolicy sampleFingerprint freshABC ∧
    (freshABC.pool.entries.map KeyEntry.key).Nodup ∧
    latest freshABC (Runs.steps sampleNext freshABC trippedAndReloaded) = 100 ∧
    (Runs.reached sampleNext freshABC trippedAndReloaded).pool.Represented
      (latest freshABC (Runs.steps sampleNext freshABC trippedAndReloaded)) := by
  have initial : Initial samplePolicy sampleFingerprint freshABC :=
    started_initial samplePolicy sampleFingerprint rfl (by decide)
  refine ⟨initial, by decide, by decide +kernel, ?_⟩
  refine pool_represented initial (by decide) (Runs.replay_run (by decide +kernel)) ?_
  intro taken member keys reload
  have label := Runs.steps_label member
  rw [reload] at label
  obtain rfl : keys = [⟨"c"⟩, ⟨"a"⟩] := by simpa [trippedAndReloaded, leaseTwice] using label
  decide

end System

end Orihsus.Pool
