import Orihsus.Admission
import Orihsus.ReloadRuns
import Orihsus.UsageMonitor

/-!
# The status endpoint

`status` of `src/gateway.rs` shows an authenticated client the health of every key, with its
last six characters in place of the key. The handler reads the runtime state twice and the
pool once, each under a lock of its own, so what it reads may be of different generations and
is passed to it piece by piece. Rendering a date belongs to a library and is a parameter; the
version of the build is left out.

The invariant of the runs is that every key of the pool is labelled with its own suffix. What
the endpoint reveals of the configured keys is then a matter of their lengths, and of the
other texts that it shows.
-/

namespace Orihsus.Pool

/-- `CoolingReason::as_str`. -/
def CoolingReason.asStr : CoolingReason → String
  | .proactiveUsage => "proactive_usage"
  | .usageLimit => "usage_limit"
  | .rateLimited => "rate_limited"
  | .unavailable => "unavailable"
  | .circuitBreaker => "circuit_breaker"

structure PoolKeyStatus where
  usageFingerprint : String
  id : String
  health : String
  coolingReason : Option String
  coolingRemaining : Option Nat
  deriving DecidableEq, Repr

/-- What `status_snapshot` says of one key. -/
def KeyEntry.status (now : Nat) (entry : KeyEntry) : PoolKeyStatus :=
  let remaining := (entry.coolingUntil.filter fun deadline => now < deadline).map (· - now)
  { usageFingerprint := entry.fingerprint
    id := entry.statusId
    health := if remaining.isSome then "cooling" else "healthy"
    coolingReason := remaining.bind fun _ => entry.coolingReason.map CoolingReason.asStr
    coolingRemaining := remaining }

/-- The order in which keys are shown: by what is shown of them, then by fingerprint. -/
def PoolKeyStatus.ordered (left right : PoolKeyStatus) : Bool :=
  left.id < right.id ||
    (left.id = right.id && !decide (right.usageFingerprint < left.usageFingerprint))

/-- `KeyPool::status_snapshot`. -/
def PoolState.statusSnapshot (state : PoolState) (now : Nat) : List PoolKeyStatus :=
  (state.entries.map fun entry => entry.status now).mergeSort PoolKeyStatus.ordered

/-- The key is labelled with its own suffix. -/
def KeyEntry.Labelled (entry : KeyEntry) : Prop := entry.statusId = keySuffix entry.key.asStr

section

variable {policy : PoolPolicy} {fingerprint : String → String} {entry : KeyEntry} {now : Nat}
  {state : PoolState}

/-- Every transition of a key keeps its label. -/
theorem KeyEvent.labelled (event : KeyEvent) (labelled : entry.Labelled) :
    (event.apply policy fingerprint now entry).Labelled := by
  have retried (jitter : Nat → Nat) (id : Nat) (reason : CoolingReason)
      (retryAfter : Option Nat) :
      (entry.recordRetry policy jitter id reason retryAfter now).1.Labelled := by
    unfold KeyEntry.recordRetry
    dsimp only
    split
    · exact labelled
    · exact labelled
  cases event with
  | kept | slowed => exact labelled
  | succeeded id =>
    simp only [apply, KeyEntry.recordSuccess]
    split
    · exact labelled
    · exact labelled
  | failed id failure jitter =>
    cases failure with
    | usageLimit dimension cooldown =>
      simp only [apply, KeyEntry.recordFailure]
      split
      · exact labelled
      · exact labelled
    | rateLimited retryAfter | unavailable retryAfter => exact retried jitter id _ retryAfter
    | server => exact labelled
    | network =>
      simp only [apply, KeyEntry.recordFailure]
      split
      · split
        · exact labelled
        · exact labelled
      · exact labelled
  | cooled id deadline =>
    simp only [apply, KeyEntry.recordProactive]
    split
    · exact labelled
    · exact labelled
  | claimed id =>
    simp only [apply, KeyEntry.claim]
    split
    · exact labelled
    · exact labelled
  | relisted key => exact rfl

/-- A reload labels every key that it lists. -/
theorem replaceKeys_labelled {pool : PoolState} {keys : List Secret}
    (replaced : state.replaceKeys fingerprint keys = .ok pool) :
    ∀ entry ∈ pool.entries, entry.Labelled :=
  state.replaceKeys_each fingerprint replaced (fun _ _ _ => rfl) fun _ => rfl

/-- The keys of the pool are all shown, and nothing else. -/
theorem mem_statusSnapshot {shown : PoolKeyStatus} :
    shown ∈ state.statusSnapshot now ↔ ∃ entry ∈ state.entries, entry.status now = shown := by
  rw [PoolState.statusSnapshot, List.mem_mergeSort, List.mem_map]

/-- A key is shown by at most six characters. -/
theorem keySuffix_length (secret : String) : (keySuffix secret).length ≤ 6 := by
  simp [keySuffix]

/-- A key that is not longer is shown whole. -/
theorem keySuffix_short {secret : String} (short : secret.length ≤ 6) :
    keySuffix secret = secret := by
  have whole : secret.toList.reverse.length ≤ 6 := by
    rw [List.length_reverse, String.length_toList]
    exact short
  rw [keySuffix, List.take_of_length_le whole, List.reverse_reverse, String.ofList_toList]

/-- What is shown in place of the keys of a labelled pool is none of them exactly if each of
them is longer than what is shown. -/
theorem ids_hide_iff {keys : List Secret}
    (listing : state.listing = keys.map fun key => ⟨fingerprint key.asStr, key⟩)
    (labelled : ∀ entry ∈ state.entries, entry.Labelled) :
    (∀ key ∈ keys, ∀ shown ∈ state.statusSnapshot now, shown.id ≠ key.asStr) ↔
      ∀ key ∈ keys, 6 < key.asStr.length := by
  have listed : state.entries.map KeyEntry.key = keys := by
    have same := congrArg (List.map RequestCandidate.key) listing
    rw [PoolState.listing, List.map_map, List.map_map] at same
    exact same.trans (List.map_id keys)
  constructor
  · intro hidden key member
    by_cases long : 6 < key.asStr.length
    · exact long
    · rw [← listed] at member
      obtain ⟨entry, present, rfl⟩ := List.mem_map.mp member
      have shown : entry.status now ∈ state.statusSnapshot now :=
        mem_statusSnapshot.mpr ⟨entry, present, rfl⟩
      refine absurd ?_ (hidden entry.key (listed ▸ member) (entry.status now) shown)
      exact (labelled entry present).trans (keySuffix_short (Nat.le_of_not_lt long))
  · intro long key member shown present same
    obtain ⟨entry, listedEntry, rfl⟩ := mem_statusSnapshot.mp present
    have short := keySuffix_length entry.key.asStr
    rw [← show (entry.status now).id = keySuffix entry.key.asStr from labelled entry listedEntry,
      same] at short
    exact absurd (long key member) (Nat.not_lt_of_le short)

end

end Orihsus.Pool

namespace Orihsus.Gateway

open Pool (KeyEntry PoolKeyStatus PoolState)
open Usage (UsageSnapshotStore UsageKeySnapshot UsageWindowSnapshot)

/-! ## The handler -/

/-- The windows of a key's cached usage. -/
structure UsageItem where
  rolling : UsageWindowSnapshot
  weekly : UsageWindowSnapshot
  monthly : UsageWindowSnapshot
  deriving DecidableEq, Repr

/-- What the status endpoint returns for a key. -/
structure StatusItem where
  id : String
  name : Option String
  health : String
  coolingReason : Option String
  coolingUntil : Option String
  usageUpdatedAt : Option String
  usage : Option UsageItem
  deriving DecidableEq, Repr

/-- The body of a status response. -/
structure StatusBody where
  items : List StatusItem
  models : List String
  uptimeSeconds : Nat
  deriving DecidableEq, Repr

/-- `TimeDelta::MAX`: a full `i64` of milliseconds. -/
def maxTimeDelta : Nat := (2 ^ 63 - 1) * 1000000

/-- `TimeDelta::from_std`. -/
def fromStd (duration : Nat) : Option Int :=
  if duration ≤ maxTimeDelta then some duration else none

section

variable (toRfc3339 : Int → String) (runtime : RuntimeState) (snapshots : UsageSnapshotStore)
  (wallNow : Int)

/-- The item of one key. -/
def statusItem (key : PoolKeyStatus) : StatusItem :=
  let usage := snapshots.get key.usageFingerprint
  { id := key.id
    name := runtime.keyAliases.lookup key.usageFingerprint
    health := key.health
    coolingReason := key.coolingReason
    coolingUntil := (key.coolingRemaining.bind fromStd).map fun duration =>
      toRfc3339 (wallNow + duration)
    usageUpdatedAt := usage.map UsageKeySnapshot.timestamp
    usage := usage.map fun value => ⟨value.rolling, value.weekly, value.monthly⟩ }

/-- `status`: nothing for a client that is not authenticated, and the body for one that is.
The check reads a runtime state of its own. -/
def status (fingerprint : String → String) (checked : RuntimeState) (headers : HeaderMap)
    (pool : PoolState) (now startedAt : Nat) : Option StatusBody :=
  (checkAuth fingerprint checked headers).map fun _ =>
    { items := (pool.statusSnapshot now).map (statusItem toRfc3339 runtime snapshots wallNow)
      models := runtime.models.mergeSort fun left right => !decide (right < left)
      uptimeSeconds := (now - startedAt) / 1000000000 }

end

/-! ## The texts that are shown -/

def UsageWindowSnapshot.texts (window : UsageWindowSnapshot) : List String :=
  window.status.toList ++ window.resetsAt.toList

def UsageItem.texts (usage : UsageItem) : List String :=
  [usage.rolling, usage.weekly, usage.monthly].flatMap UsageWindowSnapshot.texts

/-- The texts of an item beside its id. -/
def StatusItem.others (item : StatusItem) : List String :=
  item.name.toList ++ ([item.health] ++ (item.coolingReason.toList ++ (item.coolingUntil.toList ++
    (item.usageUpdatedAt.toList ++ (item.usage.map UsageItem.texts).getD []))))

def StatusItem.texts (item : StatusItem) : List String := item.id :: item.others

/-- The text is not among what is said of a key of the pool: it is not its alias, the word
for its health or for the reason of its cooldown, the date at which the cooldown ends, or a
text of its cached usage. -/
structure Unsaid (toRfc3339 : Int → String) (runtime : RuntimeState)
    (snapshots : UsageSnapshotStore) (wallNow : Int) (now : Nat) (text : String)
    (entry : KeyEntry) : Prop where
  name : runtime.keyAliases.lookup entry.fingerprint ≠ some text
  health : (if entry.isCooling now then "cooling" else "healthy") ≠ text
  reason : entry.isCooling now = true → entry.coolingReason.map Pool.CoolingReason.asStr ≠ some text
  date : ∀ deadline, entry.coolingUntil = some deadline → now < deadline →
    deadline - now ≤ maxTimeDelta → toRfc3339 (wallNow + (deadline - now : Nat)) ≠ text
  updated : ∀ usage, snapshots.get entry.fingerprint = some usage → usage.timestamp ≠ text
  usage : ∀ usage, snapshots.get entry.fingerprint = some usage →
    text ∉ UsageItem.texts ⟨usage.rolling, usage.weekly, usage.monthly⟩

section

variable {toRfc3339 : Int → String} {runtime : RuntimeState} {snapshots : UsageSnapshotStore}
  {wallNow : Int} {now : Nat} {text : String} {entry : KeyEntry}

/-- A key that cools is shown with its reason and the time that is left. -/
theorem status_cooling (cooling : entry.isCooling now = true) :
    ∃ deadline, entry.coolingUntil = some deadline ∧ now < deadline ∧
      entry.status now =
        { usageFingerprint := entry.fingerprint
          id := entry.statusId
          health := "cooling"
          coolingReason := entry.coolingReason.map Pool.CoolingReason.asStr
          coolingRemaining := some (deadline - now) } := by
  obtain ⟨deadline, stands, ahead⟩ := (Option.any_eq_true _ _).mp cooling
  refine ⟨deadline, stands, of_decide_eq_true ahead, ?_⟩
  rw [KeyEntry.status, stands, Option.filter_some, if_pos ahead]
  rfl

/-- A key that does not is healthy. -/
theorem status_healthy (healthy : entry.isCooling now = false) :
    (∀ deadline, entry.coolingUntil = some deadline → ¬ now < deadline) ∧
      entry.status now =
        { usageFingerprint := entry.fingerprint
          id := entry.statusId
          health := "healthy"
          coolingReason := none
          coolingRemaining := none } := by
  have past : ∀ deadline, entry.coolingUntil = some deadline → ¬ now < deadline := by
    intro deadline stands ahead
    rw [KeyEntry.isCooling, stands, Option.any_some, decide_eq_true ahead] at healthy
    cases healthy
  refine ⟨past, ?_⟩
  have nothing : (entry.coolingUntil.filter fun deadline => now < deadline) = none := by
    rw [Option.filter_eq_none_iff]
    intro deadline stands
    rw [decide_eq_true_eq]
    exact past deadline stands
  rw [KeyEntry.status, nothing]
  rfl

/-- A text that no field shows. -/
theorem not_mem_others {item : StatusItem} : text ∉ item.others ↔
    item.name ≠ some text ∧ item.health ≠ text ∧ item.coolingReason ≠ some text ∧
      item.coolingUntil ≠ some text ∧ item.usageUpdatedAt ≠ some text ∧
      ∀ usage, item.usage = some usage → text ∉ usage.texts := by
  have windows : text ∉ (item.usage.map UsageItem.texts).getD [] ↔
      ∀ usage, item.usage = some usage → text ∉ usage.texts := by
    cases item.usage with
    | none | some => simp
  simp only [StatusItem.others, List.mem_append, Option.mem_toList, List.mem_singleton, not_or,
    windows, ne_eq, eq_comm]

/-- The date that is shown for the time that is left. -/
theorem date_iff {remaining : Nat} :
    ((some remaining).bind fromStd).map (fun duration => toRfc3339 (wallNow + duration)) ≠
        some text ↔
      (remaining ≤ maxTimeDelta → toRfc3339 (wallNow + (remaining : Nat)) ≠ text) := by
  rw [Option.bind_some, fromStd]
  by_cases fits : remaining ≤ maxTimeDelta
  · simp [fits]
  · simp [fits]

/-- The texts of an item beside its id are what is said of its key. -/
theorem unsaid_iff : text ∉ (statusItem toRfc3339 runtime snapshots wallNow
      (entry.status now)).others ↔
    Unsaid toRfc3339 runtime snapshots wallNow now text entry := by
  have cached : (∀ usage, (snapshots.get entry.fingerprint).map
        (fun value => UsageItem.mk value.rolling value.weekly value.monthly) = some usage →
          text ∉ usage.texts) ↔
      ∀ usage, snapshots.get entry.fingerprint = some usage →
        text ∉ UsageItem.texts ⟨usage.rolling, usage.weekly, usage.monthly⟩ := by
    simp
  have stamped : (snapshots.get entry.fingerprint).map UsageKeySnapshot.timestamp ≠ some text ↔
      ∀ usage, snapshots.get entry.fingerprint = some usage → usage.timestamp ≠ text := by
    simp
  rw [not_mem_others]
  cases cooling : entry.isCooling now with
  | true =>
    obtain ⟨deadline, stands, ahead, shown⟩ := status_cooling cooling
    rw [shown]
    dsimp only [statusItem]
    rw [cached, stamped, date_iff]
    constructor
    · rintro ⟨name, health, reason, date, updated, usage⟩
      refine ⟨name, by rw [cooling]; exact health, fun _ => reason, ?_, updated, usage⟩
      intro other same _ fits
      rw [stands] at same
      cases same
      exact date fits
    · rintro ⟨name, health, reason, date, updated, usage⟩
      rw [cooling] at health
      exact ⟨name, health, reason cooling, date deadline stands ahead, updated, usage⟩
  | false =>
    obtain ⟨past, shown⟩ := status_healthy cooling
    rw [shown]
    dsimp only [statusItem]
    rw [cached, stamped]
    constructor
    · rintro ⟨name, health, _, _, updated, usage⟩
      refine ⟨name, by rw [cooling]; exact health, ?_, ?_, updated, usage⟩
      · intro cools
        rw [cooling] at cools
        cases cools
      · intro deadline stands ahead
        exact absurd ahead (past deadline stands)
    · rintro ⟨name, health, _, _, updated, usage⟩
      rw [cooling] at health
      exact ⟨name, health, nofun, nofun, updated, usage⟩

/-- A text is in no item exactly if it is shown in place of no key and said of none. -/
theorem items_hide_iff {pool : PoolState} :
    (∀ item ∈ (pool.statusSnapshot now).map (statusItem toRfc3339 runtime snapshots wallNow),
        text ∉ item.texts) ↔
      (∀ shown ∈ pool.statusSnapshot now, shown.id ≠ text) ∧ ∀ entry ∈ pool.entries,
        Unsaid toRfc3339 runtime snapshots wallNow now text entry := by
  have one (shown : PoolKeyStatus) :
      text ∉ (statusItem toRfc3339 runtime snapshots wallNow shown).texts ↔
        shown.id ≠ text ∧ text ∉ (statusItem toRfc3339 runtime snapshots wallNow shown).others := by
    rw [StatusItem.texts, List.mem_cons, not_or, ne_comm]
    rfl
  rw [List.forall_mem_map]
  constructor
  · intro hidden
    refine ⟨fun shown present => ((one shown).mp (hidden shown present)).1, ?_⟩
    intro entry member
    have shown : entry.status now ∈ pool.statusSnapshot now :=
      Pool.mem_statusSnapshot.mpr ⟨entry, member, rfl⟩
    exact unsaid_iff.mp ((one _).mp (hidden _ shown)).2
  · rintro ⟨ids, unsaid⟩ shown present
    obtain ⟨entry, member, rfl⟩ := Pool.mem_statusSnapshot.mp present
    exact (one _).mpr ⟨ids _ present, unsaid_iff.mpr (unsaid entry member)⟩

end

end Orihsus.Gateway

namespace Orihsus.Reload

open Gateway (HeaderMap RuntimeState Unsaid status)
open Usage (UsageSnapshotStore)

namespace Deployment

variable {Contents : Type} {deployment : Deployment Contents}
  {before after first last : Service Contents} {action : Action Contents} {file : Contents}
  {trace : List (Runs.Transition (Service Contents) (Action Contents))}

/-- Every key of the service's pool is labelled with its own suffix. -/
def Labels (service : Service Contents) : Prop :=
  ∀ entry ∈ service.store.system.pool.entries, entry.Labelled

/-- The worker keeps the labels. -/
theorem work_labels (works : deployment.Works before after) (labels : Labels before) :
    Labels after := by
  cases works with
  | publish composed updated =>
    obtain ⟨pool, replaced, rfl⟩ := updateWithKeys_ok updated
    exact Pool.replaceKeys_labelled replaced
  | _ => exact labels

/-- So does every step. -/
theorem step_labels (stepped : deployment.Step before action after) (labels : Labels before) :
    Labels after := by
  cases step_cases stepped with
  | write | ignore => exact labels
  | send sent =>
    unfold Service.trySend
    split
    · exact labels
    · exact labels
  | work works => exact work_labels works labels
  | tend | compare | update => exact labels
  | pool foreign poolStepped =>
    exact Pool.System.step_each poolStepped (fun _ event => event.labelled) (fun _ => rfl) labels

/-- A new service has its labels. -/
theorem assemble_labels (assembled : deployment.assemble file = .ok first) : Labels first := by
  obtain ⟨pool, built, rfl⟩ := assemble_started assembled
  obtain ⟨entries, _⟩ := Pool.PoolState.withJitter_ok _ _ built
  intro entry member
  rw [show (deployment.started file pool).store.system.pool.entries = pool.entries from rfl,
    entries] at member
  obtain ⟨key, _, rfl⟩ := List.mem_map.mp member
  rfl

/-- When the status endpoint reveals no key. In every state that a run from an assembled
service reaches, whatever was reloaded, no id of the pool's snapshot is a configured key
exactly if every configured key is longer than six characters. No text that the handler
returns for a key is a configured key exactly if, in addition, none of the other texts that
it shows is one.

Proof: in every run the pool lists the configured keys, and an id is the end of its key. -/
theorem status_hides_keys_iff (assembled : deployment.assemble file = .ok first)
    (run : Runs.Run deployment.Step first trace last) :
    let keys := (governing (.fromConfig deployment.initial) trace).keys
    let pool := last.store.system.pool
    ((∀ key ∈ keys, ∀ shown ∈ pool.statusSnapshot last.clock, shown.id ≠ key.asStr) ↔
        ∀ key ∈ keys, 6 < key.asStr.length) ∧
      ∀ toRfc3339 runtime snapshots wallNow checked headers startedAt body,
        status toRfc3339 runtime snapshots wallNow deployment.fingerprint checked headers pool
          last.clock startedAt = some body →
        ((∀ key ∈ keys, ∀ item ∈ body.items, key.asStr ∉ item.texts) ↔
          ∀ key ∈ keys, 6 < key.asStr.length ∧ ∀ entry ∈ pool.entries,
            Unsaid toRfc3339 runtime snapshots wallNow last.clock key.asStr entry) := by
  intro keys pool
  have listing := (run_governed run (assemble_governed assembled)).listing
  have labels := run.invariant Labels (assemble_labels assembled)
    fun _ _ _ stepped => step_labels stepped
  have ids := @Pool.ids_hide_iff deployment.fingerprint last.clock pool keys listing labels
  refine ⟨ids, ?_⟩
  intro toRfc3339 runtime snapshots wallNow checked headers startedAt body answered
  obtain ⟨_, _, rfl⟩ := Option.map_eq_some_iff.mp answered
  simp only [Gateway.items_hide_iff]
  constructor
  · intro hidden key member
    exact ⟨ids.mp (fun key member => (hidden key member).1) key member, (hidden key member).2⟩
  · intro unsaid key member
    exact ⟨ids.mpr (fun key member => (unsaid key member).1) key member, (unsaid key member).2⟩

/-- The result behind an option. -/
theorem ok_of_toOption {Failure Value : Type} {result : Except Failure Value} {value : Value}
    (succeeds : result.toOption = some value) : result = .ok value := by
  cases result with
  | error failure => cases succeeds
  | ok other =>
    cases succeeds
    rfl

/-- The configuration of the sample is accepted, and the endpoint shows each of its keys. -/
theorem short_key_revealed :
    Configuration.tryFrom sampleLibraries
        { gatewayToken := some "old", keys := some [.plain "a", .plain "b"] } =
      .ok sampleDeployment.initial ∧
      sampleDeployment.assemble (sampleFile "first") = .ok sampleService ∧
      ∀ key ∈ sampleDeployment.initial.keys,
        ∃ shown ∈ sampleService.store.system.pool.statusSnapshot sampleService.clock,
          shown.id = key.asStr := by
  refine ⟨ok_of_toOption (by decide +kernel), sample_assembled, ?_⟩
  intro key member
  have short : key.asStr.length ≤ 6 := by
    revert key
    decide
  refine ⟨(Pool.KeyEntry.fresh sampleDeployment.fingerprint key).status sampleService.clock, ?_,
    Pool.keySuffix_short short⟩
  exact Pool.mem_statusSnapshot.mpr ⟨_, List.mem_map_of_mem member, rfl⟩

/-- The sample after a reload that lists one key of a usual length in place of the short ones. -/
def longKeyReloaded : Service Configuration.Contents :=
  Runs.reached sampleDeployment.perform sampleService (untilLoad "long" ++ apply)

/-- The reload hides the key. -/
theorem status_hides_keys_iff_long :
    longKeyReloaded.usageKeys = [⟨"sk-upstream-1"⟩] ∧
      ∀ shown ∈ longKeyReloaded.store.system.pool.statusSnapshot longKeyReloaded.clock,
        shown.id ≠ "sk-upstream-1" := by
  have enabled : (Runs.record sampleDeployment.perform sampleService
      (untilLoad "long" ++ apply)).isSome := by decide +kernel
  have hidden := (status_hides_keys_iff sample_assembled (Runs.replay_run enabled)).1.mpr
    (by decide +kernel)
  exact ⟨by decide +kernel, hidden ⟨"sk-upstream-1"⟩ (by decide +kernel)⟩

end Deployment

end Orihsus.Reload
