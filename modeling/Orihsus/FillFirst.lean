import Orihsus.Rotation
import Orihsus.KeySteps

/-!
# Fill-first stability

New requests start at the cursor's key, and the design keeps using a healthy key
until it becomes unavailable. The cursor, however, is moved by every recorded
cooldown of any key, and the search for its next position starts one past the
current key without looking at it; a reload keeps the index and not the key. This
module says exactly when a step leaves a healthy current key current.
-/

namespace Orihsus.Pool

namespace KeyEntry

/-- A reported deadline, unless a later one absorbs it. -/
def accepted (entry : KeyEntry) (deadline : Nat) : Option Nat :=
  if entry.absorbs deadline then none else some deadline

/-- The deadline a failure report puts on the key, if it puts one: none when it is
absorbed, when it is a 5xx, or when it is a network failure below the threshold. -/
def newDeadline (policy : PoolPolicy) (jitter : Nat → Nat) (entry : KeyEntry) (failure : Failure)
    (now : Nat) : Option Nat :=
  match failure with
  | .usageLimit _ cooldown => entry.accepted (deadlineAfter now cooldown)
  | .rateLimited retryAfter | .unavailable retryAfter =>
      entry.accepted (deadlineAfter now (entry.retryCooldown policy jitter retryAfter).1)
  | .server => none
  | .network =>
      if policy.breakerThreshold ≤ entry.consecutiveFailures + 1 then
        entry.accepted (deadlineAfter now policy.breakerCooldown)
      else none

/-- Whether a key is cooling once a deadline has been put on a target key. -/
def coolsWith (entry : KeyEntry) (target : String) (deadline now : Nat) : Bool :=
  if entry.fingerprint = target then now < deadline else entry.isCooling now

/-- The outcome of a report agrees with the deadline it sets: the cursor advances
exactly when there is one, and then the key has it. -/
def Agrees (outcome : KeyEntry × Bool) (set : Option Nat) : Prop :=
  outcome.2 = set.isSome ∧ ∀ deadline, set = some deadline → outcome.1.coolingUntil = some deadline

variable {policy : PoolPolicy} {jitter : Nat → Nat} {entry : KeyEntry} {id now : Nat}

/-- Every report first asks whether its deadline is absorbed. -/
theorem agrees_of_accepted {deadline : Nat} {absorbed recorded : KeyEntry}
    (cools : recorded.coolingUntil = some deadline) :
    Agrees (if entry.absorbs deadline then (absorbed, false) else (recorded, true))
      (entry.accepted deadline) := by
  unfold accepted
  split
  · exact ⟨rfl, fun _ none => by cases none⟩
  · refine ⟨rfl, fun given set => ?_⟩
    cases set
    exact cools

/-- The deadline of a retry. -/
theorem recordRetry_agrees {reason : CoolingReason} {retryAfter : Option Nat} :
    Agrees (entry.recordRetry policy jitter id reason retryAfter now)
      (entry.accepted (deadlineAfter now (entry.retryCooldown policy jitter retryAfter).1)) :=
  agrees_of_accepted rfl

/-- The proactive deadline. -/
theorem recordProactive_agrees {deadline : Nat} :
    Agrees (entry.recordProactive id deadline) (entry.accepted deadline) :=
  agrees_of_accepted rfl

/-- The deadline of any failure. -/
theorem recordFailure_agrees {failure : Failure} :
    Agrees (entry.recordFailure policy jitter id failure now)
      (entry.newDeadline policy jitter failure now) := by
  cases failure with
  | usageLimit dimension cooldown => exact agrees_of_accepted rfl
  | rateLimited | unavailable => exact recordRetry_agrees
  | server => exact ⟨rfl, fun _ none => by cases none⟩
  | network =>
    simp only [recordFailure, newDeadline]
    split
    · exact agrees_of_accepted rfl
    · exact ⟨rfl, fun _ none => by cases none⟩

end KeyEntry

namespace PoolState

/-- The key new requests try first. -/
def current (state : PoolState) : Option KeyEntry := state.entries[state.cursor]?

/-- The listed fingerprints, in order. -/
def fingerprints (state : PoolState) : List String := state.entries.map KeyEntry.fingerprint

/-- The cursor is on a key and no two keys share a fingerprint. -/
structure Sound (state : PoolState) : Prop where
  inside : state.cursor < state.entries.length
  distinct : state.fingerprints.Nodup

variable {state other : PoolState} {entry : KeyEntry}

/-- The current key by name. -/
theorem current_fingerprint :
    state.current.map KeyEntry.fingerprint = state.fingerprints[state.cursor]? := by
  simp [current, fingerprints]

/-- A request's first candidate is the cursor's key. -/
theorem candidates_head (inside : state.cursor < state.entries.length) :
    state.candidates.head?.map RequestCandidate.fingerprint =
      state.current.map KeyEntry.fingerprint := by
  obtain ⟨size, sized⟩ : ∃ size, state.entries.length = size + 1 :=
    Nat.exists_eq_succ_of_ne_zero (by omega)
  have first : (state.cursor + 0) % state.entries.length = state.cursor :=
    Nat.mod_eq_of_lt inside
  have found : state.entries[state.cursor]? = some state.entries[state.cursor] :=
    List.getElem?_eq_getElem inside
  unfold candidates current
  rw [show List.range state.entries.length = 0 :: (List.range size).map Nat.succ by
    rw [sized, List.range_succ_eq_map]]
  rw [List.filterMap_cons, first, found]
  rfl

/-- With the same keys listed, the current key is the same exactly when the cursor
has not moved. -/
theorem current_same_iff (sound : state.Sound) (same : other.fingerprints = state.fingerprints) :
    other.current.map KeyEntry.fingerprint = state.current.map KeyEntry.fingerprint ↔
      other.cursor = state.cursor := by
  have bounded : state.cursor < state.fingerprints.length := by
    simpa [fingerprints] using sound.inside
  rw [current_fingerprint, current_fingerprint, same, eq_comm,
    List.getElem?_inj bounded sound.distinct, eq_comm]

/-- The cursor rotates. -/
theorem advanceCursor_cursor (now : Nat) :
    (state.advanceCursor now).cursor =
      Rotation.next (fun index => (state.entries[index]?).any (fun entry => !entry.isCooling now))
        state.entries.length state.cursor := by
  have tried : state.availableAt now = fun offset =>
      (state.entries[(state.cursor + offset) % state.entries.length]?).any
        (fun entry => !entry.isCooling now) := rfl
  unfold advanceCursor Rotation.next
  rw [tried]
  split
  · rename_i empty
    simp [empty]
  · cases (List.range' 1 state.entries.length).find? _ with
    | none | some => rfl

/-- No name is changed. -/
theorem adjust_fingerprints (target : String) (change : KeyEntry → KeyEntry)
    (keeps : ∀ entry, (change entry).candidate = entry.candidate) :
    (state.adjust target change).fingerprints = state.fingerprints :=
  FirstMatch.update_map fun entry => congrArg RequestCandidate.fingerprint (keeps entry)

/-- Once a deadline has been put on a target key, the search leaves the cursor
where it is exactly when every other key is cooling. Whether the current key is
cooling plays no part. -/
theorem cooled_cursor_iff (sound : state.Sound) (found : state.current = some entry)
    {target : String} {deadline now : Nat} {change : KeyEntry → KeyEntry}
    (sets : ∀ live, state.lookup target = some live → (change live).coolingUntil = some deadline)
    (reported : other.entries = (state.adjust target change).entries)
    (unmoved : other.cursor = state.cursor) :
    (other.advanceCursor now).cursor = state.cursor ↔
      ∀ live ∈ state.entries, live.fingerprint ≠ entry.fingerprint →
        live.coolsWith target deadline now = true := by
  have mapped : other.entries = state.entries.map
      (fun live => if live.fingerprint = target then change live else live) :=
    reported.trans (FirstMatch.update_eq_map sound.distinct)
  have cooling (live : KeyEntry) (member : live ∈ state.entries) :
      (if live.fingerprint = target then change live else live).isCooling now =
        live.coolsWith target deadline now := by
    unfold KeyEntry.coolsWith
    split
    · rename_i same
      have looked : state.lookup target = some live :=
        same ▸ FirstMatch.lookup_of_mem sound.distinct member
      simp [KeyEntry.isCooling, sets live looked]
    · rfl
  have sized : other.entries.length = state.entries.length := by simp [mapped]
  rw [advanceCursor_cursor, unmoved, sized, Rotation.next_eq_cursor sound.inside]
  constructor
  · intro others live member different
    obtain ⟨index, bounded, rfl⟩ := List.getElem_of_mem member
    have apart : index ≠ state.cursor := by
      rintro rfl
      rw [current, List.getElem?_eq_getElem bounded] at found
      exact different (congrArg KeyEntry.fingerprint (Option.some.inj found))
    have skipped := others index bounded apart
    simp only [mapped, List.getElem?_map, List.getElem?_eq_getElem bounded, Option.map_some,
      Option.any_some, Bool.not_eq_false'] at skipped
    rw [← cooling _ member]
    exact skipped
  · intro others index bounded apart
    have member : state.entries[index] ∈ state.entries := List.getElem_mem bounded
    have different : state.entries[index].fingerprint ≠ entry.fingerprint := by
      intro same
      have position : state.fingerprints[index]? = state.fingerprints[state.cursor]? := by
        rw [← current_fingerprint, found]
        simp [fingerprints, List.getElem?_eq_getElem bounded, same]
      exact apart ((List.getElem?_inj (by simpa [fingerprints] using bounded)
        sound.distinct).mp position)
    simp only [mapped, List.getElem?_map, List.getElem?_eq_getElem bounded, Option.map_some,
      Option.any_some, Bool.not_eq_false']
    rw [cooling _ member]
    exact others _ member different

end PoolState

namespace System

/-- The cooldown a report puts on a key: the key, the deadline, and the time the
report compares deadlines with. -/
def newCooldown (policy : PoolPolicy) (before : System) : Action → Option (String × Nat × Nat)
  | .reportFailure selection failure jitter =>
      (before.pool.lookup selection.fingerprint).bind fun entry =>
        (entry.newDeadline policy jitter failure before.clock).map fun deadline =>
          (selection.fingerprint, deadline, before.clock)
  | .reportProactiveCooldown target cooldown read =>
      (before.pool.lookup target).bind fun entry =>
        (entry.accepted (deadlineAfter read cooldown)).map fun deadline => (target, deadline, read)
  | _ => none

/-- A key that was current and is afterwards listed and not cooling is still
current, and a new request tries it first. -/
def KeepsCurrent (taken : Runs.Transition System Action) : Prop :=
  ∀ current left, taken.before.pool.current = some current →
    taken.after.pool.lookup current.fingerprint = some left →
    left.isCooling taken.after.clock = false →
    taken.after.pool.current.map KeyEntry.fingerprint = some current.fingerprint ∧
      taken.after.pool.candidates.head?.map RequestCandidate.fingerprint =
        some current.fingerprint

/-- The action cannot take the cursor from a healthy current key: a cooldown it
sets leaves the current key itself cooling or finds every other key cooling, and
a reload finds the current key cooling, drops it, or lists it where the clamped
cursor points. -/
def Undisturbed (policy : PoolPolicy) (fingerprint : String → String) (before : System)
    (action : Action) : Prop :=
  ∀ current, before.pool.current = some current →
    (∀ target deadline now, before.newCooldown policy action = some (target, deadline, now) →
      current.coolsWith target deadline before.clock = true ∨
        ∀ other ∈ before.pool.entries, other.fingerprint ≠ current.fingerprint →
          other.coolsWith target deadline now = true) ∧
    ∀ keys, action = .replaceKeys keys → keys ≠ [] →
      current.isCooling before.clock = true ∨
        (∀ key ∈ keys, fingerprint key.asStr ≠ current.fingerprint) ∨
        keys[min before.pool.cursor (keys.length - 1)]?.map (fun key => fingerprint key.asStr) =
          some current.fingerprint

/-- What a step does to the listed keys and the cursor: nothing, one recorded
cooldown followed by the search, or a reload. -/
inductive CursorStep (policy : PoolPolicy) (fingerprint : String → String) (before : System) :
    Action → System → Prop
  | settled {action : Action} {after : System}
      (listed : after.pool.fingerprints = before.pool.fingerprints)
      (unmoved : after.pool.cursor = before.pool.cursor)
      (uncooled : before.newCooldown policy action = none)
      (kept : ∀ keys, action = .replaceKeys keys → keys = []) :
      CursorStep policy fingerprint before action after
  | cooled {action : Action} {target : String} {deadline now : Nat} {live : KeyEntry}
      {change : KeyEntry → KeyEntry} {reported : PoolState}
      (set : before.newCooldown policy action = some (target, deadline, now))
      (kept : ∀ keys, action ≠ .replaceKeys keys)
      (found : before.pool.lookup target = some live)
      (keeps : ∀ entry, (change entry).candidate = entry.candidate)
      (sets : (change live).coolingUntil = some deadline)
      (recorded : reported.entries = (before.pool.adjust target change).entries)
      (unmoved : reported.cursor = before.pool.cursor) :
      CursorStep policy fingerprint before action
        { before with pool := reported.advanceCursor now }
  | reloaded {keys : List Secret} {pool : PoolState} (nonempty : keys ≠ [])
      (replaced : before.pool.replaceKeys fingerprint keys = .ok pool) :
      CursorStep policy fingerprint before (.replaceKeys keys) { before with pool := pool }

variable {policy : PoolPolicy} {fingerprint : String → String} {before after : System}
  {action : Action}

/-- What a step does to the cursor. -/
theorem step_cursor (stepped : Step policy fingerprint before action after) :
    CursorStep policy fingerprint before action after := by
  have performs := step_cases stepped
  generalize before.answer policy fingerprint action = answer at performs
  cases performs with
  | tick | request | setModel => exact .settled rfl rfl rfl (by simp)
  | quiet call waiting step =>
    rcases call with rfl | rfl | rfl <;> exact .settled rfl rfl rfl (by simp)
  | @selected action request caller selection claimed call waiting room tried =>
    obtain ⟨_, _, _, rfl⟩ := RequestAttempts.trySelectUnused_some _ _ _ _ tried
    have listed := before.pool.adjust_fingerprints selection.fingerprint _
      (fun entry => entry.claim_candidate policy before.pool.nextId before.clock)
    rcases call with rfl | rfl
    · exact .settled listed rfl rfl (by simp)
    · exact .settled listed rfl rfl (by simp)
  | @succeeded selection issued =>
    exact .settled (before.pool.adjust_fingerprints _ _
      (fun entry => entry.recordSuccess_candidate selection.id)) rfl rfl (by simp)
  | @failed selection failure jitter issued =>
    have keeps (entry : KeyEntry) := entry.recordFailure_candidate policy jitter selection.id
      failure before.clock
    cases found : before.pool.lookup selection.fingerprint with
    | none =>
      refine .settled ?_ ?_ ?_ (by simp)
      · simp [PoolState.reportFailure, found]
      · simp [PoolState.reportFailure, found]
      · simp [newCooldown, found]
    | some live =>
      obtain ⟨advances, sets⟩ : KeyEntry.Agrees
        (live.recordFailure policy jitter selection.id failure before.clock) _ :=
        KeyEntry.recordFailure_agrees
      simp only [PoolState.reportFailure, found, advances]
      cases set : live.newDeadline policy jitter failure before.clock with
      | none =>
        exact .settled (before.pool.adjust_fingerprints _ _ keeps) rfl
          (by simp [newCooldown, found, set]) (by simp)
      | some deadline =>
        exact .cooled (by simp [newCooldown, found, set]) (by simp) found keeps
          (sets deadline set) rfl rfl
  | @cooled target cooldown read past =>
    have keeps (entry : KeyEntry) := entry.recordProactive_candidate before.pool.nextId
      (deadlineAfter read cooldown)
    cases found : before.pool.lookup target with
    | none =>
      refine .settled ?_ ?_ ?_ (by simp)
      · simp [PoolState.reportProactiveCooldown, found]
      · simp [PoolState.reportProactiveCooldown, found]
      · simp [newCooldown, found]
    | some live =>
      obtain ⟨advances, sets⟩ : KeyEntry.Agrees
        (live.recordProactive before.pool.nextId (deadlineAfter read cooldown)) _ :=
        KeyEntry.recordProactive_agrees
      simp only [PoolState.reportProactiveCooldown, found, advances]
      cases set : live.accepted (deadlineAfter read cooldown) with
      | none =>
        exact .settled (before.pool.adjust_fingerprints _ _ keeps) rfl
          (by simp [newCooldown, found, set]) (by simp)
      | some deadline =>
        exact .cooled (by simp [newCooldown, found, set]) (by simp) found keeps
          (sets deadline set) rfl rfl
  | @slowed selection model issued =>
    exact .settled (before.pool.adjust_fingerprints _ _
      (fun entry => entry.recordLiveness_candidate model _)) rfl rfl (by simp)
  | @reloaded keys pool replaced =>
    refine .reloaded ?_ replaced
    rintro rfl
    cases replaced
  | @refused keys error rejected =>
    refine .settled rfl rfl rfl ?_
    rintro listed same
    cases same
    by_contra nonempty
    simp [PoolState.replaceKeys, nonempty] at rejected

/-- Every list of keys a run starts with or reloads has distinct fingerprints. -/
def ListsDistinct (fingerprint : String → String) (action : Action) : Prop :=
  ∀ keys, action = .replaceKeys keys → (keys.map (fun key => fingerprint key.asStr)).Nodup

/-- An advance keeps the cursor sound. -/
theorem advanced_sound {state reported : PoolState} {target : String}
    {change : KeyEntry → KeyEntry} (now : Nat) (sound : state.Sound)
    (keeps : ∀ entry, (change entry).candidate = entry.candidate)
    (recorded : reported.entries = (state.adjust target change).entries)
    (unmoved : reported.cursor = state.cursor) :
    (reported.advanceCursor now).fingerprints = state.fingerprints ∧
      (reported.advanceCursor now).Sound := by
  have listed : (reported.advanceCursor now).fingerprints = state.fingerprints := by
    unfold PoolState.fingerprints
    rw [PoolState.advanceCursor_entries, recorded]
    exact state.adjust_fingerprints target change keeps
  have sized : reported.entries.length = state.entries.length := by
    rw [recorded]
    exact FirstMatch.update_length
  refine ⟨listed, ⟨?_, listed ▸ sound.distinct⟩⟩
  rw [PoolState.advanceCursor_cursor, PoolState.advanceCursor_entries, unmoved, sized]
  exact Rotation.next_lt sound.inside

/-- A reload lists the fingerprints of its keys, in their order. -/
theorem replaceKeys_sound {state pool : PoolState} {keys : List Secret}
    (distinct : (keys.map (fun key => fingerprint key.asStr)).Nodup)
    (replaced : state.replaceKeys fingerprint keys = .ok pool) :
    pool.fingerprints = keys.map (fun key => fingerprint key.asStr) ∧
      pool.cursor = min state.cursor (keys.length - 1) ∧ pool.Sound := by
  obtain ⟨nonempty, rfl⟩ := state.replaceKeys_ok fingerprint replaced
  have positive : 0 < keys.length := List.length_pos_iff.mpr nonempty
  have listed : (keys.map (state.replacement fingerprint)).map KeyEntry.fingerprint =
      keys.map (fun key => fingerprint key.asStr) := by
    simp [PoolState.replacement_fingerprint]
  refine ⟨listed, rfl, ⟨?_, ?_⟩⟩
  · simp only [List.length_map]
    omega
  · rw [PoolState.fingerprints, listed]
    exact distinct

/-- So does every step. -/
theorem step_sound (stepped : Step policy fingerprint before action after)
    (distinct : ListsDistinct fingerprint action) (sound : before.pool.Sound) :
    after.pool.Sound := by
  cases step_cursor stepped with
  | settled listed unmoved uncooled kept =>
    refine ⟨?_, listed ▸ sound.distinct⟩
    have sized : after.pool.entries.length = before.pool.entries.length := by
      simpa [PoolState.fingerprints] using congrArg List.length listed
    rw [unmoved, sized]
    exact sound.inside
  | cooled set kept found keeps sets recorded unmoved =>
    exact (advanced_sound _ sound keeps recorded unmoved).2
  | reloaded nonempty replaced => exact (replaceKeys_sound (distinct _ rfl) replaced).2.2

/-- On a sound pool the two parts of the property are one. -/
theorem keepsCurrent_iff {taken : Runs.Transition System Action}
    (sound : taken.after.pool.Sound) :
    KeepsCurrent taken ↔
      ∀ current left, taken.before.pool.current = some current →
        taken.after.pool.lookup current.fingerprint = some left →
        left.isCooling taken.after.clock = false →
        taken.after.pool.current.map KeyEntry.fingerprint = some current.fingerprint := by
  constructor
  · intro keeps current left was found healthy
    exact (keeps current left was found healthy).1
  · intro keeps current left was found healthy
    have still := keeps current left was found healthy
    exact ⟨still, (PoolState.candidates_head sound.inside).trans still⟩

/-- The current key of a sound pool is what its own fingerprint finds. -/
theorem lookup_current {state : PoolState} {current : KeyEntry} (sound : state.Sound)
    (found : state.current = some current) :
    state.lookup current.fingerprint = some current :=
  FirstMatch.lookup_of_mem sound.distinct (List.mem_of_getElem? found)

/-- A recorded cooldown is stable exactly when it leaves the current key cooling
or finds every other key cooling. -/
theorem cooled_keeps_iff {reported : PoolState} {target : String} {deadline : Nat}
    {live current : KeyEntry} {change : KeyEntry → KeyEntry} (sound : before.pool.Sound)
    (was : before.pool.current = some current) (found : before.pool.lookup target = some live)
    (keeps : ∀ entry, (change entry).candidate = entry.candidate)
    (sets : (change live).coolingUntil = some deadline)
    (recorded : reported.entries = (before.pool.adjust target change).entries)
    (unmoved : reported.cursor = before.pool.cursor) (now clock : Nat) :
    (∀ left, (reported.advanceCursor now).lookup current.fingerprint = some left →
        left.isCooling clock = false →
        (reported.advanceCursor now).current.map KeyEntry.fingerprint =
          some current.fingerprint) ↔
      (current.coolsWith target deadline clock = true ∨
        ∀ other ∈ before.pool.entries, other.fingerprint ≠ current.fingerprint →
          other.coolsWith target deadline now = true) := by
  obtain ⟨listed, _⟩ := advanced_sound now sound keeps recorded unmoved
  have stays : (reported.advanceCursor now).current.map KeyEntry.fingerprint =
      some current.fingerprint ↔ ∀ other ∈ before.pool.entries,
        other.fingerprint ≠ current.fingerprint → other.coolsWith target deadline now = true := by
    have same := PoolState.current_same_iff sound listed
    rw [was, Option.map_some] at same
    rw [same]
    refine PoolState.cooled_cursor_iff sound was ?_ recorded unmoved
    intro other looked
    rw [Option.some.inj (looked.symm.trans found)]
    exact sets
  obtain ⟨left, looked, cools⟩ : ∃ left,
      (reported.advanceCursor now).lookup current.fingerprint = some left ∧
        left.isCooling clock = current.coolsWith target deadline clock := by
    have seen : (reported.advanceCursor now).lookup current.fingerprint =
        if current.fingerprint = target then (before.pool.lookup target).map change
        else before.pool.lookup current.fingerprint := by
      rw [← before.pool.lookup_adjust target current.fingerprint change keeps]
      exact PoolState.lookup_congr _ _
        ((PoolState.advanceCursor_entries _ now).trans recorded) _
    by_cases same : current.fingerprint = target
    · refine ⟨change live, by rw [seen, if_pos same, found, Option.map_some], ?_⟩
      simp [KeyEntry.isCooling, sets, KeyEntry.coolsWith, same]
    · refine ⟨current, by rw [seen, if_neg same, lookup_current sound was], ?_⟩
      simp [KeyEntry.coolsWith, same]
  rw [← stays, ← cools]
  constructor
  · intro stable
    cases cooling : left.isCooling clock with
    | true => exact .inl rfl
    | false => exact .inr (stable left looked cooling)
  · rintro (cooling | still) other found healthy
    · rw [Option.some.inj (found.symm.trans looked), cooling] at healthy
      cases healthy
    · exact still

/-- A reload is stable exactly when it drops the current key, finds it cooling, or
lists it where the clamped cursor points. -/
theorem reloaded_keeps_iff {pool : PoolState} {keys : List Secret} {current : KeyEntry}
    (sound : before.pool.Sound) (was : before.pool.current = some current)
    (distinct : (keys.map (fun key => fingerprint key.asStr)).Nodup)
    (replaced : before.pool.replaceKeys fingerprint keys = .ok pool) (clock : Nat) :
    (∀ left, pool.lookup current.fingerprint = some left → left.isCooling clock = false →
        pool.current.map KeyEntry.fingerprint = some current.fingerprint) ↔
      (current.isCooling clock = true ∨
        (∀ key ∈ keys, fingerprint key.asStr ≠ current.fingerprint) ∨
        keys[min before.pool.cursor (keys.length - 1)]?.map (fun key => fingerprint key.asStr) =
          some current.fingerprint) := by
  obtain ⟨listed, clamped, _⟩ := replaceKeys_sound distinct replaced
  have points : pool.current.map KeyEntry.fingerprint =
      keys[min before.pool.cursor (keys.length - 1)]?.map (fun key => fingerprint key.asStr) := by
    rw [PoolState.current_fingerprint, listed, clamped, List.getElem?_map]
  have seen := before.pool.lookup_replaceKeys fingerprint replaced current.fingerprint
  rw [points]
  cases found : keys.find? (fun key => fingerprint key.asStr = current.fingerprint) with
  | none =>
    have unlisted : ∀ key ∈ keys, fingerprint key.asStr ≠ current.fingerprint := by
      simpa using found
    refine iff_of_true (fun left looked => ?_) (.inr (.inl unlisted))
    simp [seen, found] at looked
  | some key =>
    have same : fingerprint key.asStr = current.fingerprint := by
      simpa using List.find?_some found
    have member : key ∈ keys := List.mem_of_find?_eq_some found
    have looked : pool.lookup current.fingerprint = some (current.carried fingerprint key) := by
      simp [seen, found, PoolState.replacement, same, lookup_current sound was]
    constructor
    · intro stable
      cases cooling : current.isCooling clock with
      | true => exact .inl rfl
      | false => exact .inr (.inr (stable _ looked cooling))
    · rintro (cooling | unlisted | still) left other healthy
      · rw [Option.some.inj (other.symm.trans looked)] at healthy
        exact absurd (cooling.symm.trans healthy) (by simp)
      · exact absurd same (unlisted key member)
      · exact still

/-- One step keeps a healthy current key current exactly when it is undisturbed. -/
theorem step_keepsCurrent_iff (stepped : Step policy fingerprint before action after)
    (sound : before.pool.Sound) (distinct : ListsDistinct fingerprint action) :
    KeepsCurrent ⟨before, action, after⟩ ↔ Undisturbed policy fingerprint before action := by
  rw [keepsCurrent_iff (step_sound stepped distinct sound)]
  dsimp only
  cases step_cursor stepped with
  | settled listed unmoved uncooled kept =>
    refine iff_of_true ?_ ?_
    · intro current left was found healthy
      rw [(PoolState.current_same_iff sound listed).mpr unmoved, was, Option.map_some]
    · intro current was
      refine ⟨?_, ?_⟩
      · intro target deadline now set
        rw [uncooled] at set
        cases set
      · intro keys same nonempty
        exact absurd (kept keys same) nonempty
  | @cooled action target deadline now live change reported set kept found keeps sets recorded
      unmoved =>
    have law (current : KeyEntry) (was : before.pool.current = some current) :=
      cooled_keeps_iff sound was found keeps sets recorded unmoved now before.clock
    constructor
    · intro stable current was
      refine ⟨?_, fun keys same => absurd same (kept keys)⟩
      intro given other time same
      rw [set] at same
      cases same
      exact (law current was).mp fun left => stable current left was
    · intro undisturbed current left was
      exact (law current was).mpr ((undisturbed current was).1 _ _ _ set) left
  | @reloaded keys pool nonempty replaced =>
    have law (current : KeyEntry) (was : before.pool.current = some current) :=
      reloaded_keeps_iff sound was (distinct keys rfl) replaced before.clock
    constructor
    · intro stable current was
      refine ⟨fun _ _ _ set => (by cases set), ?_⟩
      intro given same _
      cases same
      exact (law current was).mp fun left => stable current left was
    · intro undisturbed current left was
      exact (law current was).mpr ((undisturbed current was).2 keys rfl nonempty) left

variable {first last : System} {trace : List (Runs.Transition System Action)}

/-- A fresh pool with distinct fingerprints is sound. -/
theorem initial_sound (initial : Initial policy fingerprint first)
    (distinct : first.pool.fingerprints.Nodup) : first.pool.Sound := by
  obtain ⟨keys, built, _⟩ := initial
  obtain ⟨entries, start, nonempty, _⟩ := PoolState.withJitter_ok policy fingerprint built
  refine ⟨?_, distinct⟩
  rw [entries, start, List.length_map]
  exact List.length_pos_iff.mpr nonempty

/-- Exactly when fill-first holds. In every run of a pool whose key lists have
distinct fingerprints, a step leaves a healthy current key current, and first for
new requests, if and only if it is undisturbed: a cooldown it records leaves the
current key itself cooling or finds every other key cooling, and a reload finds
the current key cooling, drops it, or lists it at the clamped cursor.

Proof: the cursor stays on a listed key in every run, and for one step the equivalence is a case
split. -/
theorem current_key_kept_iff (initial : Initial policy fingerprint first)
    (distinct : first.pool.fingerprints.Nodup)
    (run : Runs.Run (Step policy fingerprint) first trace last)
    (reloads : ∀ taken ∈ trace, ListsDistinct fingerprint taken.label)
    (taken : Runs.Transition System Action) (member : taken ∈ trace) :
    KeepsCurrent taken ↔ Undisturbed policy fingerprint taken.before taken.label := by
  obtain ⟨earlier, later, rfl⟩ := List.append_of_mem member
  obtain ⟨upTo, stepped, _⟩ := run.split
  have sound : taken.before.pool.Sound := by
    refine upTo.preserved (fun system => system.pool.Sound) (initial_sound initial distinct) ?_
    intro step inside stepped
    exact step_sound stepped (reloads step (List.mem_append_left _ inside))
  exact step_keepsCurrent_iff stepped sound (reloads taken member)

/-- The first two keys are leased. -/
def leasedAB : System := Runs.reached sampleNext freshABC leaseTwice

/-- A rate limit of forty units for one of the leases. -/
def limits (name : String) (id : Nat) : Action :=
  .reportFailure ⟨name, ⟨name⟩, id⟩ (.rateLimited (some 40)) (fun base => base)

/-- The state this report leaves. -/
def limited (name : String) (id : Nat) : System :=
  Runs.reached sampleNext leasedAB [limits name id]

/-- The leases followed by one report. -/
theorem leases_then_limit {name : String} {id : Nat}
    (enabled : Step samplePolicy sampleFingerprint leasedAB (limits name id) (limited name id)) :
    Runs.Run (Step samplePolicy sampleFingerprint) freshABC
      (Runs.steps sampleNext freshABC leaseTwice ++
        [⟨leasedAB, limits name id, limited name id⟩]) (limited name id) := by
  have leased : (Runs.record sampleNext freshABC leaseTwice).isSome := by
    decide +kernel
  exact (Runs.replay_run leased).extend enabled

/-- The first key is current and healthy, the second is rate limited, and the
cursor leaves the first key for the third. -/
theorem healthy_current_key_left :
    ∃ (first last : System) (trace : List (Runs.Transition System Action))
      (taken : Runs.Transition System Action),
      Initial samplePolicy sampleFingerprint first ∧ first.pool.fingerprints.Nodup ∧
        Runs.Run (Step samplePolicy sampleFingerprint) first trace last ∧ taken ∈ trace ∧
        taken.label = limits "b" 1 ∧
        taken.before.pool.current = some (KeyEntry.fresh sampleFingerprint ⟨"a"⟩) ∧
        taken.after.pool.lookup "a" = some (KeyEntry.fresh sampleFingerprint ⟨"a"⟩) ∧
        taken.after.pool.current.map KeyEntry.fingerprint = some "c" ∧
        ¬ KeepsCurrent taken := by
  have current : leasedAB.pool.current = some (KeyEntry.fresh sampleFingerprint ⟨"a"⟩) := by
    decide +kernel
  have healthy : (limited "b" 1).pool.lookup "a" =
      some (KeyEntry.fresh sampleFingerprint ⟨"a"⟩) := by decide +kernel
  have moved : (limited "b" 1).pool.current.map KeyEntry.fingerprint = some "c" := by
    decide +kernel
  refine ⟨freshABC, limited "b" 1, _, ⟨leasedAB, limits "b" 1, limited "b" 1⟩,
    started_initial _ _ rfl (by simp), by decide +kernel, leases_then_limit (by decide +kernel),
    List.mem_append_right _ (List.mem_singleton_self _), rfl, current, healthy, moved, ?_⟩
  intro keeps
  have still := (keeps _ _ current healthy (by decide +kernel)).1
  exact absurd (moved.symm.trans still) (by decide +kernel)

/-- A rate limit of the current key itself is undisturbed: the key is cooling
afterwards, and the cursor may leave it. -/
theorem current_key_kept_iff_limited :
    KeepsCurrent ⟨leasedAB, limits "a" 0, limited "a" 0⟩ := by
  refine (current_key_kept_iff (started_initial samplePolicy sampleFingerprint rfl (by simp))
    (by decide +kernel) (leases_then_limit (by decide +kernel)) ?_ _
    (List.mem_append_right _ (List.mem_singleton_self _))).mpr ?_
  · intro taken member keys reload
    rcases List.mem_append.mp member with earlier | final
    · have label := Runs.steps_label earlier
      simp [leaseTwice, reload] at label
    · obtain rfl := List.mem_singleton.mp final
      cases reload
  · intro current was
    have known : leasedAB.pool.current = some (KeyEntry.fresh sampleFingerprint ⟨"a"⟩) := by
      decide +kernel
    have set : leasedAB.newCooldown samplePolicy (limits "a" 0) = some ("a", 40, 0) := by
      decide +kernel
    obtain rfl := Option.some.inj (known.symm.trans was)
    refine ⟨fun target deadline now same => .inl ?_, fun keys reload => (by cases reload)⟩
    rw [set] at same
    cases same
    decide +kernel

end System

end Orihsus.Pool
