import Orihsus.PoolSteps

/-!
# What one step does to one key

A fingerprint names a key for as long as the pool lists it. This module says once
what a step of the system can do to the entry a fingerprint finds: nothing, one
of the transitions of a key, or, for a reload only, its removal. The laws about
cooldowns, probes and stale reports are laws of these transitions and never look
at the pool again.
-/

namespace Orihsus.Pool

namespace KeyEntry

variable (policy : PoolPolicy) (jitter : Nat → Nat) (entry : KeyEntry)

/-- The key as a request captures it. -/
def candidate (entry : KeyEntry) : RequestCandidate where
  fingerprint := entry.fingerprint
  key := entry.key

/-- A success keeps the key. -/
theorem recordSuccess_candidate (id : Nat) :
    (entry.recordSuccess id).candidate = entry.candidate := by
  unfold recordSuccess
  split <;> rfl

/-- So does a proactive cooldown. -/
theorem recordProactive_candidate (id : Nat) (deadline : Nat) :
    (entry.recordProactive id deadline).1.candidate = entry.candidate := by
  unfold recordProactive
  split <;> rfl

/-- So does a retry. -/
theorem recordRetry_candidate (id : Nat) (reason : CoolingReason) (retryAfter : Option Nat)
    (now : Nat) :
    (entry.recordRetry policy jitter id reason retryAfter now).1.candidate = entry.candidate := by
  unfold recordRetry
  dsimp only
  split <;> rfl

/-- So does any failure. -/
theorem recordFailure_candidate (id : Nat) (failure : Failure) (now : Nat) :
    (entry.recordFailure policy jitter id failure now).1.candidate = entry.candidate := by
  cases failure with
  | usageLimit dimension cooldown =>
    simp only [recordFailure]
    split <;> rfl
  | rateLimited | unavailable => exact recordRetry_candidate policy jitter entry _ _ _ _
  | server => rfl
  | network =>
    simp only [recordFailure]
    split
    · split <;> rfl
    · rfl

/-- So does a claim. -/
theorem claim_candidate (id : Nat) (now : Nat) :
    (entry.claim policy id now).candidate = entry.candidate := by
  unfold claim
  split <;> rfl

/-- So does a slow model. -/
theorem recordLiveness_candidate (model : String) (deadline : Nat) :
    (entry.recordLiveness model deadline).candidate = entry.candidate := rfl

end KeyEntry

namespace PoolState

variable (policy : PoolPolicy) (jitter : Nat → Nat) (fingerprint : String → String)
  (state : PoolState)

/-- The listed keys, as a request would capture them, in pool order. -/
def listing (state : PoolState) : List RequestCandidate := state.entries.map KeyEntry.candidate

/-- An adjustment is seen by the adjusted fingerprint alone. -/
theorem lookup_adjust (target asked : String) (change : KeyEntry → KeyEntry)
    (keeps : ∀ entry, (change entry).candidate = entry.candidate) :
    (state.adjust target change).lookup asked =
      if asked = target then (state.lookup target).map change else state.lookup asked :=
  FirstMatch.lookup_update fun entry => congrArg RequestCandidate.fingerprint (keeps entry)

/-- An adjustment lists the same keys. -/
theorem adjust_listing (target : String) (change : KeyEntry → KeyEntry)
    (keeps : ∀ entry, (change entry).candidate = entry.candidate) :
    (state.adjust target change).listing = state.listing :=
  FirstMatch.update_map keeps

/-- The counter and the cursor are not read by a lookup. -/
theorem lookup_congr (other : PoolState) (same : state.entries = other.entries) (asked : String) :
    state.lookup asked = other.lookup asked := by
  simp only [lookup, same]

/-- The cursor is not in the entries. -/
theorem advanceCursor_entries (now : Nat) :
    (state.advanceCursor now).entries = state.entries := by
  unfold advanceCursor
  split
  · rfl
  · split <;> rfl

/-- It is not in the counter. -/
theorem advanceCursor_nextId (now : Nat) :
    (state.advanceCursor now).nextId = state.nextId := by
  unfold advanceCursor
  split
  · rfl
  · split <;> rfl

/-- A failure report records the failure in the key it finds; the cursor is not an entry. -/
theorem reportFailure_entries (selection : Selection) (failure : Failure) (now : Nat) :
    (state.reportFailure policy jitter selection failure now).entries =
      (state.adjust selection.fingerprint (fun entry =>
        (entry.recordFailure policy jitter selection.id failure now).1)).entries := by
  unfold reportFailure
  split
  · rename_i missing
    exact (FirstMatch.update_missing missing).symm
  · dsimp only
    split
    · exact advanceCursor_entries _ now
    · rfl

/-- A proactive report records the cooldown in the key it finds. -/
theorem reportProactiveCooldown_entries (target : String) (cooldown now : Nat) :
    (state.reportProactiveCooldown target cooldown now).entries =
      (state.adjust target (fun entry =>
        (entry.recordProactive state.nextId (deadlineAfter now cooldown)).1)).entries := by
  unfold reportProactiveCooldown
  split
  · rename_i missing
    exact (FirstMatch.update_missing missing).symm
  · dsimp only
    split
    · exact advanceCursor_entries _ now
    · rfl

/-- A failure report draws no id. -/
theorem reportFailure_nextId (selection : Selection) (failure : Failure) (now : Nat) :
    (state.reportFailure policy jitter selection failure now).nextId = state.nextId := by
  unfold reportFailure
  split
  · rfl
  · dsimp only
    split
    · exact advanceCursor_nextId _ now
    · rfl

/-- An accepted reload lists at least one key, and makes its entries from the old ones. -/
theorem replaceKeys_ok {keys : List Secret} {pool : PoolState}
    (replaced : state.replaceKeys fingerprint keys = .ok pool) :
    keys ≠ [] ∧ pool = { state with
      entries := keys.map (state.replacement fingerprint)
      cursor := min state.cursor (keys.length - 1) } := by
  unfold replaceKeys at replaced
  split at replaced
  · cases replaced
  · rename_i nonempty
    cases replaced
    exact ⟨fun empty => nonempty (List.isEmpty_iff.mpr empty), rfl⟩

/-- Nor does a reload. -/
theorem replaceKeys_nextId {keys : List Secret} {pool : PoolState}
    (replaced : state.replaceKeys fingerprint keys = .ok pool) : pool.nextId = state.nextId := by
  obtain ⟨_, rfl⟩ := state.replaceKeys_ok fingerprint replaced
  rfl

/-- What holds of every carried and every fresh entry holds of each entry after a reload. -/
theorem replaceKeys_each {keys : List Secret} {pool : PoolState} {property : KeyEntry → Prop}
    (replaced : state.replaceKeys fingerprint keys = .ok pool)
    (carried : ∀ previous ∈ state.entries, ∀ key, property (previous.carried fingerprint key))
    (fresh : ∀ key, property (KeyEntry.fresh fingerprint key)) :
    ∀ entry ∈ pool.entries, property entry := by
  obtain ⟨_, rfl⟩ := state.replaceKeys_ok fingerprint replaced
  intro entry member
  obtain ⟨key, _, rfl⟩ := List.mem_map.mp member
  unfold replacement
  split
  · rename_i previous found
    exact carried previous (FirstMatch.lookup_some found).1 key
  · exact fresh key

/-- A proactive report about a live key draws one id. -/
theorem reportProactiveCooldown_nextId {target : String} {entry : KeyEntry} (cooldown now : Nat)
    (found : state.lookup target = some entry) :
    (state.reportProactiveCooldown target cooldown now).nextId = state.nextId + 1 := by
  simp only [reportProactiveCooldown, found]
  split
  · exact advanceCursor_nextId _ now
  · rfl

/-- A built pool has one fresh entry for each of at least one key, and its policy
is valid. -/
theorem withJitter_ok {keys : List Secret} {pool : PoolState}
    (built : withJitter fingerprint keys policy = .ok pool) :
    pool.entries = keys.map (KeyEntry.fresh fingerprint) ∧ pool.cursor = 0 ∧ keys ≠ [] ∧
      policy.validate = .ok () := by
  unfold withJitter at built
  cases valid : policy.validate with
  | error reason => simp [valid, bind, Except.bind] at built
  | ok _ =>
    by_cases empty : keys = []
    · simp [valid, bind, Except.bind, empty] at built
    · simp only [valid, bind, Except.bind, List.isEmpty_iff, empty, if_false, pure, Except.pure,
        Except.ok.injEq] at built
      subst built
      exact ⟨rfl, rfl, empty, rfl⟩

/-- A reload lists the new key. -/
theorem replacement_candidate (key : Secret) :
    (state.replacement fingerprint key).candidate = ⟨fingerprint key.asStr, key⟩ := by
  unfold replacement
  split <;> rfl

/-- Its fingerprint is that of the key. -/
theorem replacement_fingerprint (key : Secret) :
    (state.replacement fingerprint key).fingerprint = fingerprint key.asStr :=
  congrArg RequestCandidate.fingerprint (state.replacement_candidate fingerprint key)

/-- A reload lists the new keys, in their order. -/
theorem replaceKeys_listing {keys : List Secret} {pool : PoolState}
    (replaced : state.replaceKeys fingerprint keys = .ok pool) :
    pool.listing = keys.map (fun key => ⟨fingerprint key.asStr, key⟩) := by
  obtain ⟨_, rfl⟩ := state.replaceKeys_ok fingerprint replaced
  simp only [listing, List.map_map, Function.comp_def, replacement_candidate]

/-- After a reload a fingerprint finds the entry built for the first listed key
that has it. -/
theorem lookup_replaceKeys {keys : List Secret} {pool : PoolState}
    (replaced : state.replaceKeys fingerprint keys = .ok pool) (asked : String) :
    pool.lookup asked =
      (keys.find? (fun key => fingerprint key.asStr = asked)).map
        (state.replacement fingerprint) := by
  obtain ⟨_, rfl⟩ := state.replaceKeys_ok fingerprint replaced
  simp only [lookup, FirstMatch.lookup, List.find?_map, Function.comp_def,
    replacement_fingerprint]

end PoolState

/-- The transitions of one key. -/
inductive KeyEvent where
  | kept
  | succeeded (id : Nat)
  | failed (id : Nat) (failure : Failure) (jitter : Nat → Nat)
  | cooled (id : Nat) (deadline : Nat)
  | claimed (id : Nat)
  | slowed (model : String) (deadline : Nat)
  | relisted (key : Secret)

/-- The key a transition leaves. -/
def KeyEvent.apply (policy : PoolPolicy) (fingerprint : String → String) (now : Nat)
    (entry : KeyEntry) : KeyEvent → KeyEntry
  | .kept => entry
  | .succeeded id => entry.recordSuccess id
  | .failed id failure jitter => (entry.recordFailure policy jitter id failure now).1
  | .cooled id deadline => (entry.recordProactive id deadline).1
  | .claimed id => entry.claim policy id now
  | .slowed model deadline => entry.recordLiveness model deadline
  | .relisted key => entry.carried fingerprint key

namespace System

variable (policy : PoolPolicy) (fingerprint : String → String)

/-- Which transition an action makes on the key a fingerprint names. A step that
concerns other keys, or none, keeps it. A claim comes with the selection that
made it and finds the key not cooling. -/
inductive Touches (before : System) : Action → String → KeyEvent → Prop
  | kept (action : Action) (asked : String) : Touches before action asked .kept
  | succeeded (selection : Selection) (issued : selection ∈ before.issued) :
      Touches before (.reportSuccess selection) selection.fingerprint (.succeeded selection.id)
  | failed (selection : Selection) (failure : Failure) (jitter : Nat → Nat)
      (issued : selection ∈ before.issued) :
      Touches before (.reportFailure selection failure jitter) selection.fingerprint
        (.failed selection.id failure jitter)
  | cooled (target : String) (cooldown : Nat) (read : Nat) :
      Touches before (.reportProactiveCooldown target cooldown read) target
        (.cooled before.pool.nextId (deadlineAfter read cooldown))
  | claimed {action : Action} {selection : Selection}
      (answered : before.answer policy fingerprint action = some (.selected selection))
      (drawn : selection.id = before.pool.nextId)
      (available : ∀ entry, before.pool.lookup selection.fingerprint = some entry →
        entry.isCooling before.clock = false) :
      Touches before action selection.fingerprint (.claimed selection.id)
  | slowed (selection : Selection) (model : String) :
      Touches before (.reportLivenessFailure selection model) selection.fingerprint
        (.slowed model (deadlineAfter before.clock policy.backoffInitial))
  | relisted {keys : List Secret} {key : Secret} (listed : key ∈ keys) :
      Touches before (.replaceKeys keys) (fingerprint key.asStr) (.relisted key)

variable {policy fingerprint} {before after : System} {action : Action} {asked : String}
  {entry : KeyEntry}

variable (policy fingerprint before action) in
/-- What a step does to the entries of the pool: nothing, one transition of the key
that a fingerprint finds, or a reload. -/
inductive Changes (after : PoolState) : Prop
  | kept (same : after.entries = before.pool.entries)
  | touched {target : String} {event : KeyEvent}
      (touches : Touches policy fingerprint before action target event)
      (keeps : ∀ entry,
        (event.apply policy fingerprint before.clock entry).candidate = entry.candidate)
      (adjusted : after.entries =
        (before.pool.adjust target (event.apply policy fingerprint before.clock)).entries)
  | reloaded {keys : List Secret} (reload : action = .replaceKeys keys)
      (replaced : before.pool.replaceKeys fingerprint keys = .ok after)

/-- The id a step draws: that of a selection, or of a proactive report about a
live key. -/
def drawn (policy : PoolPolicy) (fingerprint : String → String) (before : System)
    (action : Action) : Option Nat :=
  match action with
  | .reportProactiveCooldown target _ _ =>
      (before.pool.lookup target).map (fun _ => before.pool.nextId)
  | action =>
      match before.answer policy fingerprint action with
      | some (.selected selection) => some selection.id
      | _ => none

section

variable (stepped : Step policy fingerprint before action after)

include stepped

/-- Every step changes the entries in one of these ways. -/
theorem step_changes : Changes policy fingerprint before action after.pool := by
  have performs := step_cases stepped
  generalize given : before.answer policy fingerprint action = answer at performs
  cases performs with
  | tick | request | setModel | quiet | refused => exact .kept rfl
  | @selected action request caller selection claimed call waiting room tried =>
    obtain ⟨_, eligible, drawn, rfl⟩ := RequestAttempts.trySelectUnused_some _ _ _ _ tried
    obtain ⟨_, live, present, available, _⟩ := (RequestAttempts.eligible_iff _ _ _ _).mp eligible
    refine .touched (.claimed given drawn fun entry other => ?_)
      (fun entry => entry.claim_candidate policy _ before.clock) ?_
    · rw [show entry = live from Option.some.inj (other.symm.trans present)]
      exact available
    · rw [drawn]
      rfl
  | @succeeded selection issued =>
    exact .touched (.succeeded selection issued)
      (fun entry => entry.recordSuccess_candidate selection.id) rfl
  | @failed selection failure jitter issued =>
    exact .touched (.failed selection failure jitter issued)
      (fun entry => entry.recordFailure_candidate policy jitter selection.id failure _)
      (before.pool.reportFailure_entries policy jitter selection failure before.clock)
  | @cooled target cooldown read past =>
    exact .touched (.cooled target cooldown read)
      (fun entry => entry.recordProactive_candidate before.pool.nextId _)
      (before.pool.reportProactiveCooldown_entries target cooldown read)
  | @slowed selection model issued =>
    exact .touched (.slowed selection model)
      (fun entry => entry.recordLiveness_candidate model _) rfl
  | reloaded replaced => exact .reloaded rfl replaced

/-- What a step does to a key that is in the pool: one transition of it, or its
removal by a reload whose list does not name it. -/
theorem step_entry (found : before.pool.lookup asked = some entry) :
    (after.pool.lookup asked = none ∧
        ∃ keys, action = .replaceKeys keys ∧ ∀ key ∈ keys, fingerprint key.asStr ≠ asked) ∨
      ∃ event, Touches policy fingerprint before action asked event ∧
        after.pool.lookup asked = some (event.apply policy fingerprint before.clock entry) := by
  cases step_changes stepped with
  | kept same =>
    exact .inr ⟨.kept, .kept action asked, (PoolState.lookup_congr _ _ same asked).trans found⟩
  | @touched target event touches keeps adjusted =>
    have seen := (PoolState.lookup_congr _ _ adjusted asked).trans
      (before.pool.lookup_adjust target asked _ keeps)
    by_cases same : asked = target
    · subst same
      exact .inr ⟨event, touches, by simp [seen, found]⟩
    · exact .inr ⟨.kept, .kept action asked, by simp [seen, same, found, KeyEvent.apply]⟩
  | @reloaded keys reload replaced =>
    subst reload
    have seen := before.pool.lookup_replaceKeys fingerprint replaced asked
    cases listed : keys.find? (fun key => fingerprint key.asStr = asked) with
    | none =>
      refine .inl ⟨by simp [seen, listed], keys, rfl, ?_⟩
      simpa using listed
    | some key =>
      have same : fingerprint key.asStr = asked := by simpa using List.find?_some listed
      subst same
      refine .inr ⟨.relisted key, .relisted (List.mem_of_find?_eq_some listed), ?_⟩
      simp [seen, listed, PoolState.replacement, found, KeyEvent.apply]

/-- Where a key of the pool comes from: a transition of the key it was before the
step, or, if there was none, a reload that lists it afresh. -/
theorem step_found {left : KeyEntry} (present : after.pool.lookup asked = some left) :
    (∃ entry event, before.pool.lookup asked = some entry ∧
        Touches policy fingerprint before action asked event ∧
        left = event.apply policy fingerprint before.clock entry) ∨
      before.pool.lookup asked = none ∧ ∃ key, left = KeyEntry.fresh fingerprint key := by
  cases found : before.pool.lookup asked with
  | some entry =>
    rcases step_entry stepped found with ⟨gone, _⟩ | ⟨event, touches, kept⟩
    · rw [gone] at present
      cases present
    · exact .inl ⟨entry, event, rfl, touches, Option.some.inj (present.symm.trans kept)⟩
  | none =>
    refine .inr ⟨rfl, ?_⟩
    -- Only a reload makes a missing fingerprint find anything.
    cases step_changes stepped with
    | kept same =>
      rw [PoolState.lookup_congr _ _ same, found] at present
      cases present
    | @touched target event touches keeps adjusted =>
      rw [PoolState.lookup_congr _ _ adjusted, before.pool.lookup_adjust target asked _ keeps]
        at present
      by_cases same : asked = target
      · simp [← same, found] at present
      · simp [same, found] at present
    | @reloaded keys reload replaced =>
      rw [before.pool.lookup_replaceKeys fingerprint replaced asked] at present
      obtain ⟨key, listed, rfl⟩ := Option.map_eq_some_iff.mp present
      have same : fingerprint key.asStr = asked := by simpa using List.find?_some listed
      exact ⟨key, by simp [PoolState.replacement, same, found]⟩

/-- What holds of every key and is kept by the transitions of a key holds of every key after
a step, if it holds of the keys that a reload lists afresh. -/
theorem step_each {Holds : KeyEntry → Prop}
    (kept : ∀ entry (event : KeyEvent), Holds entry →
      Holds (event.apply policy fingerprint before.clock entry))
    (fresh : ∀ key, Holds (KeyEntry.fresh fingerprint key))
    (every : ∀ entry ∈ before.pool.entries, Holds entry) :
    ∀ entry ∈ after.pool.entries, Holds entry := by
  cases step_changes stepped with
  | kept same => rwa [same]
  | @touched target event touches keeps adjusted =>
    rw [adjusted]
    exact FirstMatch.update_forall every fun entry => kept entry event
  | reloaded reload replaced =>
    exact before.pool.replaceKeys_each fingerprint replaced
      (fun previous member key => kept previous (.relisted key) (every previous member)) fresh

/-- An id is drawn from the counter, which then moves past it; a step that draws
none leaves the counter alone. -/
theorem step_drawn :
    (before.drawn policy fingerprint action = none ∧ after.pool.nextId = before.pool.nextId) ∨
      (before.drawn policy fingerprint action = some before.pool.nextId ∧
        after.pool.nextId = before.pool.nextId + 1) := by
  have performs := step_cases stepped
  generalize given : before.answer policy fingerprint action = answer at performs
  cases performs with
  | tick | request | setModel => exact .inl ⟨by simp [drawn, given], rfl⟩
  | quiet call waiting step =>
    refine .inl ⟨?_, rfl⟩
    have unselected (selection : Selection) : answer ≠ some (.selected selection) :=
      step.not_selected
    rcases call with rfl | rfl | rfl <;> simp only [drawn, given]
  | selected call waiting room tried =>
    obtain ⟨_, _, fresh, rfl⟩ := RequestAttempts.trySelectUnused_some _ _ _ _ tried
    rcases call with rfl | rfl
    · exact .inr ⟨by simp [drawn, given, fresh], rfl⟩
    · exact .inr ⟨by simp [drawn, given, fresh], rfl⟩
  | succeeded | slowed | refused => exact .inl ⟨by simp [drawn, given], rfl⟩
  | @failed selection failure jitter issued =>
    exact .inl ⟨by simp [drawn, given], before.pool.reportFailure_nextId _ _ _ _ _⟩
  | @cooled target cooldown read past =>
    cases found : before.pool.lookup target with
    | none =>
      exact .inl ⟨by simp [drawn, found], by simp [PoolState.reportProactiveCooldown, found]⟩
    | some entry =>
      exact .inr ⟨by simp [drawn, found],
        before.pool.reportProactiveCooldown_nextId cooldown read found⟩
  | reloaded replaced =>
    exact .inl ⟨by simp [drawn, given], before.pool.replaceKeys_nextId fingerprint replaced⟩

/-- Ids are only ever drawn, never given back. -/
theorem step_nextId : before.pool.nextId ≤ after.pool.nextId := by
  rcases step_drawn stepped with ⟨_, kept⟩ | ⟨_, moved⟩
  · exact Nat.le_of_eq kept.symm
  · omega

/-- A step that draws an id leaves the counter above it. -/
theorem drawn_lt {id : Nat} (draws : before.drawn policy fingerprint action = some id) :
    id < after.pool.nextId := by
  rcases step_drawn stepped with ⟨none, _⟩ | ⟨fresh, moved⟩
  · rw [none] at draws
    cases draws
  · rw [fresh] at draws
    cases draws
    omega

/-- A selection draws its id. -/
theorem selected_draws {selection : Selection}
    (answered : before.answer policy fingerprint action = some (.selected selection)) :
    before.drawn policy fingerprint action = some selection.id := by
  obtain ⟨_, _, _, rfl | rfl, _⟩ := step_selected stepped answered
  · simp [drawn, answered]
  · simp [drawn, answered]

/-- A step lists the same keys in the same order, unless it is a reload. -/
theorem step_listing :
    after.pool.listing = before.pool.listing ∨
      ∃ keys, action = .replaceKeys keys ∧
        after.pool.listing = keys.map (fun key => ⟨fingerprint key.asStr, key⟩) := by
  cases step_changes stepped with
  | kept same => exact .inl (congrArg (List.map KeyEntry.candidate) same)
  | touched touches keeps adjusted =>
    exact .inl ((congrArg (List.map KeyEntry.candidate) adjusted).trans
      (before.pool.adjust_listing _ _ keeps))
  | reloaded reload replaced =>
    exact .inr ⟨_, reload, before.pool.replaceKeys_listing fingerprint replaced⟩

end

/-- What a failure report leaves of the key it finds. -/
theorem step_failed {selection : Selection} {failure : Failure} {jitter : Nat → Nat}
    (stepped : Step policy fingerprint before (.reportFailure selection failure jitter) after)
    (found : before.pool.lookup selection.fingerprint = some entry) :
    after.pool.lookup selection.fingerprint =
      some (entry.recordFailure policy jitter selection.id failure before.clock).1 := by
  have performs := step_cases stepped
  generalize before.answer policy fingerprint _ = answer at performs
  cases performs with
  | failed issued =>
    rw [PoolState.lookup_congr _ _ (PoolState.reportFailure_entries ..),
      before.pool.lookup_adjust _ _ _ fun entry => entry.recordFailure_candidate .., if_pos rfl,
      found, Option.map_some]
  | quiet call | selected call => simp at call

end System

end Orihsus.Pool
