import Orihsus.HotReload
import Orihsus.KeySteps

/-!
# Reload atomicity, agreement and event delivery

What one step of the service can do is said once, in `Moves`, and every law is a case
analysis on it. The cells are governed by one snapshot at a time: the one of the last
successful `update_with_keys`, or the first configuration. Inside the callback the
model-sync setting runs ahead of it and the usage monitor's keys follow behind; outside
the callback all of them agree.

An event on the bridge is never lost: as long as the file has not been read since the
last attempt to send, an event is still queued or the worker is on its way to a read.
-/

namespace Orihsus.Reload

open Orihsus.Configuration (Config ModelSync)
open Gateway (RuntimeState Store)
open Pool (KeyEntry PoolError PoolState RequestCandidate Secret System)

namespace Deployment

variable {Contents : Type} (deployment : Deployment Contents)

/-! ## What a step can do -/

/-- The steps of the reload worker, by the phase they leave. -/
inductive Works (before : Service Contents) : Service Contents → Prop
  | receive (parked : before.worker = .parked) (queued : before.channel ≠ 0) :
      Works before { before with
        channel := before.channel - 1
        worker := .sleeping (before.clock + deployment.debounce) }
  | wake {wake : Nat} (sleeping : before.worker = .sleeping wake) (due : wake ≤ before.clock) :
      Works before { before with worker := .draining }
  | drained (draining : before.worker = .draining) (empty : before.channel = 0) :
      Works before { before with worker := .checking }
  | drain (draining : before.worker = .draining) (queued : before.channel ≠ 0) :
      Works before { before with channel := before.channel - 1 }
  | quiet (checking : before.worker = .checking) (empty : before.channel = 0) :
      Works before { before with worker := .loading }
  | again (checking : before.worker = .checking) (queued : before.channel ≠ 0) :
      Works before { before with worker := .sleeping (before.clock + deployment.debounce) }
  | giveUp (loading : before.worker = .loading) (status : StatusState) :
      Works before (before.giveUp status)
  | accept {config : Config} (loading : before.worker = .loading)
      (loaded : deployment.load before.file = .ok config)
      (hot : nonHotChanged config deployment.initial = false) :
      Works before { before with worker := .applying (.fromConfig config) }
  | replace {snapshot : RuntimeConfigSnapshot} (applying : before.worker = .applying snapshot) :
      Works before { before with
        modelSync := { value := snapshot.modelSync, version := before.modelSync.version + 1 }
        worker := .replaced snapshot before.modelSync.value }
  | compose {snapshot : RuntimeConfigSnapshot} {previous : ModelSync}
      (replaced : before.worker = .replaced snapshot previous) :
      Works before { before with
        worker := .composed snapshot previous (chosenModels before snapshot) }
  | publish {snapshot : RuntimeConfigSnapshot} {previous : ModelSync} {models : List String}
      {store : Store} (composed : before.worker = .composed snapshot previous models)
      (updated : before.store.updateWithKeys deployment.fingerprint snapshot.keys
        (snapshot.runtimeState models) = .ok store) :
      Works before { before with store := store, worker := .published snapshot }
  | refuse {snapshot : RuntimeConfigSnapshot} {previous : ModelSync} {models : List String}
      (composed : before.worker = .composed snapshot previous models) :
      Works before { before with worker := .refused previous }
  | finish {snapshot : RuntimeConfigSnapshot} (published : before.worker = .published snapshot) :
      Works before { before with
        usageKeys := snapshot.keys
        status := before.status.recordSuccess before.clock
        worker := .parked }
  | restore {previous : ModelSync} (refused : before.worker = .refused previous) :
      Works before { before with
        modelSync := { value := previous, version := before.modelSync.version + 1 }
        status := before.status.recordFailure "config apply failed"
        worker := .parked }

/-- The action tries to send an event to the reload worker. -/
def attempts : Action Contents → Bool
  | .notify event => eventTargets event deployment.configPath
  | .fire => true
  | _ => false

/-- The steps of the service. `tend` is a step of the monitor that neither compares nor
publishes; what it waits for is a setting that is switched on. -/
inductive Moves (before : Service Contents) : Action Contents → Service Contents → Prop
  | write (contents : Contents) : Moves before (.write contents) { before with file := contents }
  | send {action : Action Contents} (sent : deployment.attempts action = true) :
      Moves before action before.trySend
  | ignore {event : Event} (foreign : eventTargets event deployment.configPath = false) :
      Moves before (.notify event) before
  | work {after : Service Contents} (works : deployment.Works before after) :
      Moves before .work after
  | tend {action : Action Contents} {monitor : Monitor} {seen : Nat}
      (silent : deployment.attempts action = false) (own : action ≠ .work)
      (idle : ∀ generation models, before.monitor ≠ .matched generation models)
      (kept : ∀ generation, monitor = .fetching generation → generation.enabled = true)
      (carried : ∀ generation result, monitor = .fetched generation result →
        before.monitor = .fetching generation)
      (unmatched : ∀ generation models, monitor ≠ .matched generation models) :
      Moves before action { before with monitor := monitor, seen := seen }
  | compare {generation : ModelSync} {result : Except ModelFetchError (List UInt8)}
      (fetched : before.monitor = .fetched generation result) :
      Moves before .sync
        { before with monitor := deployment.compared before generation result }
  | update {generation : ModelSync} {models : List String}
      (matched : before.monitor = .matched generation models) :
      Moves before .sync { before with
        store := before.store.updateModels models
        monitor := .resting (before.clock + generation.interval) }
  | pool {action : Pool.Action} {system : System}
      (foreign : ∀ keys, action ≠ .replaceKeys keys)
      (stepped : System.Step (poolPolicy deployment.initial) deployment.fingerprint
        before.store.system action system) :
      Moves before (.other action) { before with store := { before.store with system := system } }

variable {deployment} {before after first start finish last : Service Contents}
  {action : Action Contents}
  {trace earlier segment later : List (Runs.Transition (Service Contents) (Action Contents))}
  {taken : Runs.Transition (Service Contents) (Action Contents)}

/-- What a load leads to. -/
theorem read_cases (loading : before.worker = .loading) :
    deployment.Works before (deployment.read before) := by
  unfold read
  split
  · exact .giveUp loading _
  · rename_i config loaded
    split
    · exact .giveUp loading _
    · rename_i hot
      exact .accept loading loaded (by simpa using hot)

/-- What the callback leads to. -/
theorem publish_cases {snapshot : RuntimeConfigSnapshot} {previous : ModelSync}
    {models : List String} (composed : before.worker = .composed snapshot previous models) :
    deployment.Works before (deployment.publish before snapshot previous models) := by
  unfold publish
  split
  · rename_i store updated
    exact .publish composed updated
  · exact .refuse composed

/-- Every step of the worker. -/
theorem work_cases (worked : deployment.work before = some after) :
    deployment.Works before after := by
  unfold work at worked
  cases phase : before.worker with
  | parked =>
    simp only [phase] at worked
    split at worked
    · cases worked
    · rename_i queued
      cases worked
      exact .receive phase queued
  | sleeping wake =>
    simp only [phase] at worked
    split at worked
    · rename_i due
      cases worked
      exact .wake phase due
    · cases worked
  | draining =>
    simp only [phase] at worked
    split at worked
    · rename_i empty
      cases worked
      exact .drained phase empty
    · rename_i queued
      cases worked
      rw [← phase]
      exact .drain phase queued
  | checking =>
    simp only [phase] at worked
    split at worked
    · rename_i empty
      cases worked
      exact .quiet phase empty
    · rename_i queued
      cases worked
      exact .again phase queued
  | loading =>
    simp only [phase] at worked
    cases worked
    exact read_cases phase
  | applying snapshot =>
    simp only [phase] at worked
    cases worked
    exact .replace phase
  | replaced snapshot previous =>
    simp only [phase] at worked
    cases worked
    exact .compose phase
  | composed snapshot previous models =>
    simp only [phase] at worked
    cases worked
    exact publish_cases phase
  | published snapshot =>
    simp only [phase] at worked
    cases worked
    exact .finish phase
  | refused previous =>
    simp only [phase] at worked
    cases worked
    exact .restore phase

/-- Every step of the model monitor. -/
theorem sync_cases (synced : deployment.sync before = some after) :
    deployment.Moves before .sync after := by
  unfold sync at synced
  cases phase : before.monitor with
  | starting =>
    simp only [phase] at synced
    cases synced
    refine .tend rfl (by simp) (by simp [phase]) ?_ ?_ ?_
    · intro generation fetching
      split at fetching
      · rename_i enabled
        cases fetching
        exact enabled
      · cases fetching
    · intro generation result fetched
      split at fetched <;> cases fetched
    · intro generation models matched
      split at matched <;> cases matched
  | fetched generation result =>
    simp only [phase] at synced
    cases synced
    exact .compare phase
  | matched generation models =>
    simp only [phase] at synced
    cases synced
    exact .update phase
  | disabled | fetching | resting | stopped => simp [phase] at synced

/-- A monitor that waits is neither fetching nor about to compare or publish. -/
theorem tend_waiting {monitor : Monitor} {seen : Nat} (silent : deployment.attempts action = false)
    (own : action ≠ .work) (idle : ∀ generation models, before.monitor ≠ .matched generation models)
    (waits : monitor = .starting ∨ monitor = .stopped) :
    deployment.Moves before action { before with monitor := monitor, seen := seen } := by
  refine .tend silent own idle ?_ ?_ ?_ <;> rcases waits with rfl | rfl <;> simp

/-- The inversion of a step. -/
theorem step_cases (stepped : deployment.Step before action after) :
    deployment.Moves before action after := by
  unfold Step at stepped
  cases action with
  | write contents =>
    cases stepped
    exact .write contents
  | notify event =>
    simp only [perform, Option.some.injEq] at stepped
    split at stepped
    · rename_i targets
      cases stepped
      exact .send targets
    · rename_i foreign
      cases stepped
      exact .ignore (by simpa using foreign)
  | fire =>
    cases stepped
    exact .send rfl
  | work => exact .work (work_cases stepped)
  | sync => exact sync_cases stepped
  | fetch result =>
    simp only [perform] at stepped
    split at stepped
    · rename_i generation fetching
      cases stepped
      refine .tend rfl (by simp) (by simp [fetching]) (by simp) ?_ (by simp)
      intro other otherResult same
      cases same
      exact fetching
    · cases stepped
  | elapse =>
    simp only [perform] at stepped
    split at stepped
    · rename_i wake resting
      split at stepped
      · cases stepped
        exact tend_waiting rfl (by simp) (by simp [resting]) (.inl rfl)
      · cases stepped
    · cases stepped
  | change =>
    simp only [perform] at stepped
    split at stepped
    · cases stepped
    · split at stepped
      · rename_i disabled
        cases stepped
        exact tend_waiting rfl (by simp) (by simp [disabled]) (.inl rfl)
      · rename_i wake resting
        cases stepped
        exact tend_waiting rfl (by simp) (by simp [resting]) (.inl rfl)
      · cases stepped
  | stop =>
    simp only [perform] at stepped
    split at stepped
    · rename_i disabled
      cases stepped
      exact tend_waiting rfl (by simp) (by simp [disabled]) (.inr rfl)
    · rename_i wake resting
      cases stepped
      exact tend_waiting rfl (by simp) (by simp [resting]) (.inr rfl)
    · cases stepped
  | other action =>
    simp only [perform] at stepped
    split at stepped
    · cases stepped
    · rename_i foreign
      obtain ⟨result, performed, rfl⟩ := Option.map_eq_some_iff.mp stepped
      refine .pool foreign ?_
      unfold System.Step
      rw [performed]
      rfl

/-! ## The governing snapshot -/

/-- The snapshot that a step publishes, if it is a successful `update_with_keys`. -/
def published (taken : Runs.Transition (Service Contents) (Action Contents)) :
    Option RuntimeConfigSnapshot :=
  match taken.label, taken.before.worker, taken.after.worker with
  | .work, .composed snapshot _ _, .published _ => some snapshot
  | _, _, _ => none

/-- The snapshot of the last successful `update_with_keys`, or the one at the start. -/
def governing (start : RuntimeConfigSnapshot)
    (trace : List (Runs.Transition (Service Contents) (Action Contents))) :
    RuntimeConfigSnapshot :=
  trace.foldl (fun snapshot taken => (published taken).getD snapshot) start

variable (deployment)

/-- The configuration agrees with the first one on all that needs a restart. -/
structure SameStatic (config : Config) : Prop where
  listen : config.listen = deployment.initial.listen
  limits : config.limits = deployment.initial.limits
  keyFailureHandling : config.keyFailureHandling = deployment.initial.keyFailureHandling
  usage : config.usage = deployment.initial.usage
  usageHistoryDir : config.usageHistoryDir = deployment.initial.usageHistoryDir
  audit : config.audit = deployment.initial.audit
  server : config.server = deployment.initial.server

/-- The snapshot was taken of a file that loads and keeps the static settings. -/
def Loaded (snapshot : RuntimeConfigSnapshot) : Prop :=
  ∃ contents config, deployment.load contents = .ok config ∧ snapshot = .fromConfig config ∧
    deployment.SameStatic config

/-- What the pool lists for a list of keys. -/
def listed (keys : List Secret) : List RequestCandidate :=
  keys.map fun key => ⟨deployment.fingerprint key.asStr, key⟩

/-- What the callback has in hand, by its phase, and what the setting and the usage
monitor's keys hold meanwhile. -/
def InHand (current : RuntimeConfigSnapshot) (service : Service Contents) : Prop :=
  match service.worker with
  | .applying snapshot =>
      deployment.Loaded snapshot ∧ service.modelSync.value = current.modelSync ∧
        service.usageKeys = current.keys
  | .replaced snapshot previous =>
      deployment.Loaded snapshot ∧ previous = current.modelSync ∧
        service.modelSync.value = snapshot.modelSync ∧ service.usageKeys = current.keys
  | .composed snapshot previous models =>
      deployment.Loaded snapshot ∧ previous = current.modelSync ∧
        service.modelSync.value = snapshot.modelSync ∧ service.usageKeys = current.keys ∧
        (snapshot.modelSync.enabled = false → models = snapshot.models)
  | .published snapshot => snapshot = current ∧ service.modelSync.value = current.modelSync
  | .refused previous => previous = current.modelSync ∧ service.usageKeys = current.keys
  | _ => service.modelSync.value = current.modelSync ∧ service.usageKeys = current.keys

/-- The cells are governed by one snapshot. -/
structure Governed (current : RuntimeConfigSnapshot) (service : Service Contents) : Prop where
  listing : service.store.system.pool.listing = deployment.listed current.keys
  runtime : service.store.runtime = current.runtimeState service.store.runtime.models
  limits : current.limits = deployment.initial.limits
  inHand : deployment.InHand current service

variable {deployment} {current snapshot : RuntimeConfigSnapshot}

/-- The last published configuration governs. -/
theorem governing_extend (start : RuntimeConfigSnapshot) :
    governing start (trace ++ [taken]) = (published taken).getD (governing start trace) := by
  simp [governing]

/-- A configuration that passes the comparison keeps the static settings. -/
theorem hot_static {config : Config} (hot : nonHotChanged config deployment.initial = false) :
    deployment.SameStatic config := by
  simp only [nonHotChanged, Bool.or_eq_false_iff, bne_eq_false_iff_eq] at hot
  obtain ⟨⟨⟨⟨⟨⟨listen, limits⟩, keyFailureHandling⟩, usage⟩, usageHistoryDir⟩, audit⟩,
    server⟩ := hot
  exact ⟨listen, limits, keyFailureHandling, usage, usageHistoryDir, audit, server⟩

/-- A successful `update_with_keys` lists the new keys and publishes the new state. -/
theorem updateWithKeys_ok {store updated : Store} {keys : List Secret} {state : RuntimeState}
    (done : store.updateWithKeys deployment.fingerprint keys state = .ok updated) :
    ∃ pool, store.system.pool.replaceKeys deployment.fingerprint keys = .ok pool ∧
      updated = { runtime := state, system := { store.system with pool := pool } } := by
  unfold Store.updateWithKeys at done
  cases replaced : store.system.pool.replaceKeys deployment.fingerprint keys with
  | error error =>
    rw [replaced] at done
    cases done
  | ok pool =>
    rw [replaced] at done
    cases done
    exact ⟨pool, rfl, rfl⟩

/-- The pool lists what it listed, unless its keys are replaced. -/
theorem pool_listing {action : Pool.Action} {before after : System}
    (stepped :
      System.Step (poolPolicy deployment.initial) deployment.fingerprint before action after)
    (foreign : ∀ keys, action ≠ .replaceKeys keys) : after.pool.listing = before.pool.listing := by
  rcases System.step_listing stepped with same | ⟨keys, reload, _⟩
  · exact same
  · exact absurd reload (foreign keys)

/-- Only the publishing step of the callback is recorded as one. -/
theorem published_work (works : deployment.Works before after) :
    published ⟨before, .work, after⟩ = none ∨
      ∃ snapshot previous models store, before.worker = .composed snapshot previous models ∧
        before.store.updateWithKeys deployment.fingerprint snapshot.keys
          (snapshot.runtimeState models) = .ok store ∧
        after = { before with store := store, worker := .published snapshot } ∧
        published ⟨before, .work, after⟩ = some snapshot := by
  cases works with
  | @publish snapshot previous models store composed updated =>
    exact .inr ⟨snapshot, previous, models, store, composed, updated, rfl,
      by simp [published, composed]⟩
  | receive phase | wake phase | drained phase | drain phase | quiet phase | again phase
  | giveUp phase | accept phase | replace phase | compose phase | refuse phase | finish phase
  | restore phase => exact .inl (by simp [published, phase])

/-- Any other action publishes nothing. -/
theorem published_other (other : action ≠ .work) : published ⟨before, action, after⟩ = none := by
  cases action <;> first | rfl | exact absurd rfl other

/-- A step of the worker keeps the cells governed, by the snapshot it publishes if it
publishes one. -/
theorem work_governed (works : deployment.Works before after)
    (governed : deployment.Governed current before) :
    deployment.Governed ((published ⟨before, .work, after⟩).getD current) after := by
  obtain ⟨listing, runtime, limits, inHand⟩ := governed
  rcases published_work works with silent | ⟨snapshot, previous, models, store, composed, updated,
    rfl, publishes⟩
  · rw [silent, Option.getD_none]
    cases works with
    | receive phase | wake phase | drained phase | drain phase | quiet phase | again phase =>
      exact ⟨listing, runtime, limits, by simpa [InHand, phase] using inHand⟩
    | giveUp phase status =>
      exact ⟨listing, runtime, limits, by simpa [InHand, phase, Service.giveUp] using inHand⟩
    | @accept config phase loaded hot =>
      simp only [InHand, phase] at inHand
      exact ⟨listing, runtime, limits, ⟨_, config, loaded, rfl, hot_static hot⟩, inHand⟩
    | @replace snapshot phase =>
      simp only [InHand, phase] at inHand
      obtain ⟨loaded, setting, usage⟩ := inHand
      exact ⟨listing, runtime, limits, loaded, setting, rfl, usage⟩
    | @compose snapshot previous phase =>
      simp only [InHand, phase] at inHand
      obtain ⟨loaded, kept, setting, usage⟩ := inHand
      refine ⟨listing, runtime, limits, loaded, kept, setting, usage, ?_⟩
      intro disabled
      simp [chosenModels, disabled]
    | publish composed updated => simp [published, composed] at silent
    | refuse phase =>
      simp only [InHand, phase] at inHand
      obtain ⟨_, kept, _, usage, _⟩ := inHand
      exact ⟨listing, runtime, limits, kept, usage⟩
    | @finish snapshot phase =>
      simp only [InHand, phase] at inHand
      obtain ⟨rfl, setting⟩ := inHand
      exact ⟨listing, runtime, limits, setting, rfl⟩
    | restore phase =>
      simp only [InHand, phase] at inHand
      exact ⟨listing, runtime, limits, inHand⟩
  · rw [publishes, Option.getD_some]
    simp only [InHand, composed] at inHand
    obtain ⟨⟨contents, config, loaded, rfl, same⟩, _, setting, _⟩ := inHand
    obtain ⟨pool, replaced, rfl⟩ := updateWithKeys_ok updated
    exact ⟨PoolState.replaceKeys_listing _ _ replaced, rfl, same.limits, rfl, setting⟩

/-- Every step keeps the cells governed. -/
theorem step_governed (stepped : deployment.Step before action after)
    (governed : deployment.Governed current before) :
    deployment.Governed ((published ⟨before, action, after⟩).getD current) after := by
  have moves := step_cases stepped
  by_cases own : action = .work
  · subst own
    cases moves with
    | send sent => cases sent
    | work works => exact work_governed works governed
    | tend _ other => exact absurd rfl other
  · rw [published_other own, Option.getD_none]
    obtain ⟨listing, runtime, limits, inHand⟩ := governed
    cases moves with
    | write | ignore => exact ⟨listing, runtime, limits, inHand⟩
    | send sent =>
      unfold Service.trySend
      split <;> exact ⟨listing, runtime, limits, inHand⟩
    | work works => exact absurd rfl own
    | tend | compare => exact ⟨listing, runtime, limits, inHand⟩
    | update matched =>
      refine ⟨listing, ?_, limits, inHand⟩
      simp only [Store.updateModels]
      rw [runtime]
      rfl
    | pool foreign poolStepped =>
      exact ⟨(pool_listing poolStepped foreign).trans listing, runtime, limits, inHand⟩

/-- The service is governed by it in every run. -/
theorem run_governed (run : Runs.Run deployment.Step first trace last)
    (governed : deployment.Governed current first) :
    deployment.Governed (governing current trace) last := by
  induction run with
  | start => exact governed
  | extend earlier stepped inductionHypothesis =>
    rw [governing_extend]
    exact step_governed stepped inductionHypothesis

/-- What is assembled is a started service around a new pool. -/
theorem assemble_started {file : Contents} (assembled : deployment.assemble file = .ok first) :
    ∃ pool, PoolState.withJitter deployment.fingerprint deployment.initial.keys
        (poolPolicy deployment.initial) = .ok pool ∧ first = deployment.started file pool := by
  unfold assemble at assembled
  cases built : PoolState.withJitter deployment.fingerprint deployment.initial.keys
      (poolPolicy deployment.initial) with
  | error error =>
    rw [built] at assembled
    cases assembled
  | ok pool =>
    rw [built] at assembled
    cases assembled
    exact ⟨pool, rfl, rfl⟩

/-- The service starts governed by its first configuration. -/
theorem assemble_governed {file : Contents} (assembled : deployment.assemble file = .ok first) :
    deployment.Governed (.fromConfig deployment.initial) first := by
  obtain ⟨pool, built, rfl⟩ := assemble_started assembled
  obtain ⟨entries, _⟩ := PoolState.withJitter_ok _ _ built
  refine ⟨?_, rfl, rfl, rfl, rfl⟩
  simp only [started, PoolState.listing, entries, List.map_map, listed]
  rfl

/-! ## Atomicity and agreement -/

variable (deployment)

/-- The file does not load, or it changes a static setting. -/
def Refuses (contents : Contents) : Prop :=
  (∃ kind, deployment.load contents = .error kind) ∨
    ∃ config, deployment.load contents = .ok config ∧
      nonHotChanged config deployment.initial = true

/-- The pool's keys with their states, the runtime's fields, the model-sync setting and
the usage monitor's keys are what they were. -/
structure SameCells (before after : Service Contents) : Prop where
  store : after.store = before.store
  modelSync : after.modelSync.value = before.modelSync.value
  usageKeys : after.usageKeys = before.usageKeys

/-- Everything a reload replaces comes from one snapshot. -/
structure Agrees (snapshot : RuntimeConfigSnapshot) (service : Service Contents) : Prop where
  poolKeys : service.store.system.pool.listing = deployment.listed snapshot.keys
  usageKeys : service.usageKeys = snapshot.keys
  gatewayKeys : service.store.runtime.gatewayKeys = snapshot.gatewayKeys
  keyAliases : service.store.runtime.keyAliases = snapshot.keyAliases
  maxBodyBytes : service.store.runtime.maxBodyBytes = snapshot.limits.maxBodyBytes
  modelSync : service.modelSync.value = snapshot.modelSync

variable {deployment}

/-- A file that is refused leaves everything but the status and the worker's phase. -/
theorem read_refused (refused : deployment.Refuses before.file) :
    SameCells before (deployment.read before) ∧ (deployment.read before).worker = .parked := by
  unfold read
  rcases refused with ⟨kind, failed⟩ | ⟨config, loaded, changed⟩
  · rw [failed]
    exact ⟨⟨rfl, rfl, rfl⟩, rfl⟩
  · rw [loaded]
    simp only [changed, if_true]
    exact ⟨⟨rfl, rfl, rfl⟩, rfl⟩

/-- A step of the worker touches the store and the usage monitor's keys only to publish a
snapshot and to hand its keys over. -/
theorem work_kept (works : deployment.Works before after)
    (silent : published ⟨before, .work, after⟩ = none)
    (unpublished : ∀ snapshot, before.worker ≠ .published snapshot) :
    after.store = before.store ∧ after.usageKeys = before.usageKeys := by
  cases works with
  | publish composed => simp [published, composed] at silent
  | finish phase => exact absurd phase (unpublished _)
  | receive | wake | drained | drain | quiet | again | giveUp | accept | replace | compose | refuse
  | restore => exact ⟨rfl, rfl⟩

/-- Without a successful `update_with_keys` no callback gets to hand keys over. -/
theorem step_unpublished (stepped : deployment.Step before action after)
    (silent : published ⟨before, action, after⟩ = none)
    (unpublished : ∀ snapshot, before.worker ≠ .published snapshot) :
    ∀ snapshot, after.worker ≠ .published snapshot := by
  cases step_cases stepped with
  | send sent =>
    unfold Service.trySend
    split <;> exact unpublished
  | work works =>
    cases works with
    | publish composed => simp [published, composed] at silent
    | drain draining => exact unpublished
    | receive | wake | drained | quiet | again | giveUp | accept | replace | compose | refuse
    | finish | restore => simp [Service.giveUp]
  | write | ignore | tend | compare | update | pool => exact unpublished

/-- A stretch of a run that publishes nothing keeps the governing snapshot. -/
theorem governing_silent (silent : ∀ taken ∈ trace, published taken = none) :
    governing current trace = current := by
  unfold governing
  induction trace with
  | nil => rfl
  | cons taken rest inductionHypothesis =>
    rw [List.foldl_cons, silent taken List.mem_cons_self, Option.getD_none]
    exact inductionHypothesis fun later member => silent later (List.mem_cons_of_mem _ member)

/-- A read that ends without publishing puts the setting back, and its steps leave the
store and the usage monitor's keys alone. -/
theorem failed_read (governed : deployment.Governed current start)
    (loading : start.worker = .loading) (onward : Runs.Run deployment.Step start segment finish)
    (parked : finish.worker = .parked) (silent : ∀ taken ∈ segment, published taken = none) :
    finish.modelSync.value = start.modelSync.value ∧
      ∀ taken ∈ segment, taken.label = .work →
        taken.after.store = taken.before.store ∧
          taken.after.usageKeys = taken.before.usageKeys := by
  constructor
  · have ended := run_governed onward governed
    rw [governing_silent silent] at ended
    have began := governed.inHand
    have ends := ended.inHand
    simp only [InHand, loading] at began
    simp only [InHand, parked] at ends
    rw [ends.1, began.1]
  · intro taken member own
    obtain ⟨before, rest, rfl⟩ := List.append_of_mem member
    obtain ⟨upTo, stepped, _⟩ := onward.split
    have quiet : ∀ snapshot, taken.before.worker ≠ .published snapshot :=
      upTo.preserved (fun service => ∀ snapshot, service.worker ≠ .published snapshot)
        (by simp [loading])
        (fun step inside stepped =>
          step_unpublished stepped (silent step (List.mem_append_left _ inside)))
    obtain ⟨source, label, target⟩ := taken
    simp only at own
    subst own
    exact work_kept (work_cases stepped) (silent _ member) quiet

/-- Outside the callback the governed cells agree with their snapshot. -/
theorem governed_agrees (governed : deployment.Governed current finish)
    (outside : finish.worker.outside = true) : deployment.Agrees current finish := by
  obtain ⟨listing, runtime, _, inHand⟩ := governed
  have settled : finish.modelSync.value = current.modelSync ∧ finish.usageKeys = current.keys := by
    unfold InHand at inHand
    cases phase : finish.worker with
    | parked | sleeping | draining | checking | loading =>
      simp only [phase] at inHand
      exact inHand
    | applying | replaced | composed | published | refused =>
      simp [phase, Worker.outside] at outside
  constructor
  · exact listing
  · exact settled.2
  · rw [runtime]
    rfl
  · rw [runtime]
    rfl
  · rw [runtime]
    rfl
  · exact settled.1

/-- The whole cooldown, backoff, half-open and liveness state of a key. -/
structure SameHealth (before after : KeyEntry) : Prop where
  coolingUntil : after.coolingUntil = before.coolingUntil
  coolingReason : after.coolingReason = before.coolingReason
  coolingBy : after.coolingBy = before.coolingBy
  consecutiveFailures : after.consecutiveFailures = before.consecutiveFailures
  backoffStep : after.backoffStep = before.backoffStep
  lastFailureBy : after.lastFailureBy = before.lastFailureBy
  halfOpen : after.halfOpen = before.halfOpen
  livenessCooling : after.livenessCooling = before.livenessCooling

/-- A key that was listed keeps its health when it is listed again. -/
theorem replaceKeys_health {fingerprint : String → String} {state pool : PoolState}
    {keys : List Secret} {previous entry : KeyEntry}
    (replaced : state.replaceKeys fingerprint keys = .ok pool) (member : entry ∈ pool.entries)
    (listed : state.lookup entry.fingerprint = some previous) : SameHealth previous entry := by
  obtain ⟨_, rfl⟩ := state.replaceKeys_ok fingerprint replaced
  obtain ⟨key, _, rfl⟩ := List.mem_map.mp member
  rw [PoolState.replacement_fingerprint] at listed
  simp only [PoolState.replacement, listed]
  exact ⟨rfl, rfl, rfl, rfl, rfl, rfl, rfl, rfl⟩

/-- A publishing step takes its snapshot from a file that loaded and kept the static
settings, and carries the health of the keys it lists again. -/
theorem published_step (governed : deployment.Governed current before)
    (stepped : deployment.Step before action after)
    (publishes : published ⟨before, action, after⟩ = some snapshot) :
    deployment.Loaded snapshot ∧
      ∀ previous, ∀ entry ∈ after.store.system.pool.entries,
        before.store.system.pool.lookup entry.fingerprint = some previous →
          SameHealth previous entry := by
  by_cases own : action = .work
  · subst own
    rcases published_work (work_cases stepped) with silent | ⟨other, previous, models, store,
      composed, updated, rfl, same⟩
    · rw [silent] at publishes
      cases publishes
    · obtain rfl := Option.some.inj (same.symm.trans publishes)
      have inHand := governed.inHand
      simp only [InHand, composed] at inHand
      obtain ⟨pool, replaced, rfl⟩ := updateWithKeys_ok updated
      exact ⟨inHand.1, fun previous entry member listed =>
        replaceKeys_health replaced member listed⟩
  · rw [published_other own] at publishes
    cases publishes

/-- Reloads are atomic and everything they replace agrees. In every run of the service
from its first configuration on, with requests, the monitor and the clock interleaved
freely:

* a file that does not load or changes a static setting leaves all cells as they were;
* a read whose apply fails puts the setting back, and its steps touch nothing else;
* outside the callback the pool, the usage monitor, the runtime and the setting all come
  from the configuration of the last successful apply, or from the first one;
* an applied configuration was loaded from the file, agrees with the first one on every
  static setting, and a key that stays listed keeps its whole state.

Proof: in every state the last published configuration governs all cells; each part follows. -/
theorem reload_atomic_and_agreeing {file : Contents}
    (assembled : deployment.assemble file = .ok first)
    (upTo : Runs.Run deployment.Step first earlier start)
    (onward : Runs.Run deployment.Step start segment finish) :
    (∀ taken ∈ segment, taken.label = .work → taken.before.worker = .loading →
        deployment.Refuses taken.before.file →
        SameCells taken.before taken.after ∧ taken.after.worker = .parked) ∧
      (start.worker = .loading → finish.worker = .parked →
        (∀ taken ∈ segment, published taken = none) →
        finish.modelSync.value = start.modelSync.value ∧
          ∀ taken ∈ segment, taken.label = .work →
            taken.after.store = taken.before.store ∧
              taken.after.usageKeys = taken.before.usageKeys) ∧
      (finish.worker.outside = true →
        deployment.Agrees (governing (.fromConfig deployment.initial) (earlier ++ segment))
          finish) ∧
      ∀ taken ∈ segment, ∀ snapshot, published taken = some snapshot →
        deployment.Loaded snapshot ∧
          ∀ previous, ∀ entry ∈ taken.after.store.system.pool.entries,
            taken.before.store.system.pool.lookup entry.fingerprint = some previous →
              SameHealth previous entry := by
  have began : deployment.Governed (governing (.fromConfig deployment.initial) earlier) start :=
    run_governed upTo (assemble_governed assembled)
  refine ⟨?_, ?_, ?_, ?_⟩
  · intro taken member own loading refused
    obtain ⟨_, stepped⟩ := onward.recorded member
    unfold Step at stepped
    rw [own] at stepped
    simp only [perform, work, loading, Option.some.injEq] at stepped
    rw [← stepped]
    exact read_refused refused
  · intro loading parked silent
    exact failed_read began loading onward parked silent
  · intro outside
    exact governed_agrees (run_governed (upTo.append onward) (assemble_governed assembled)) outside
  · intro taken member snapshot publishes
    obtain ⟨⟨prior, reached⟩, stepped⟩ := onward.recorded member
    exact published_step (run_governed reached began) stepped publishes

/-- Where the worker stands when it is about to load the rotated file. -/
def beforeRotation : Service Configuration.Contents :=
  Runs.reached sampleDeployment.perform sampleService (untilLoad "rotated")

/-- The rotation is applied, and everything agrees with it. -/
theorem reload_atomic_and_agreeing_rotated :
    (Runs.reached sampleDeployment.perform beforeRotation apply).usageKeys = [⟨"b"⟩, ⟨"c"⟩] ∧
      sampleDeployment.Agrees
        (governing (.fromConfig sampleDeployment.initial)
          (Runs.steps sampleDeployment.perform sampleService (untilLoad "rotated") ++
            Runs.steps sampleDeployment.perform beforeRotation apply))
        (Runs.reached sampleDeployment.perform beforeRotation apply) := by
  have noticed : (Runs.record sampleDeployment.perform sampleService
      (untilLoad "rotated")).isSome := by decide +kernel
  have applied : (Runs.record sampleDeployment.perform beforeRotation apply).isSome := by
    decide +kernel
  constructor
  · decide +kernel
  · exact (reload_atomic_and_agreeing sample_assembled (Runs.replay_run noticed)
      (Runs.replay_run applied)).2.2.1 (by decide +kernel)

/-! ## Events -/

/-- The step starts `config::load`. -/
def loads (taken : Runs.Transition (Service Contents) (Action Contents)) : Bool :=
  match taken.label, taken.before.worker with
  | .work, .loading => true
  | _, _ => false

variable (deployment)

/-- One step's effect on whether an attempt to send still waits for a load. -/
def outstanding (pending : Bool) (taken : Runs.Transition (Service Contents) (Action Contents)) :
    Bool :=
  deployment.attempts taken.label || (pending && !loads taken)

variable {deployment}

/-- After an attempt to send an event waits. -/
theorem trySend_queued (service : Service Contents) : service.trySend.channel ≠ 0 := by
  unfold Service.trySend
  split
  · exact Nat.succ_ne_zero _
  · rename_i full
    unfold eventBuffer at full
    omega

/-- The file changes only when it is written. -/
theorem step_file (stepped : deployment.Step before action after)
    (unwritten : ∀ contents, action ≠ .write contents) : after.file = before.file := by
  cases step_cases stepped with
  | write contents => exact absurd rfl (unwritten contents)
  | send sent =>
    unfold Service.trySend
    split <;> rfl
  | work works => cases works <;> rfl
  | ignore | tend | compare | update | pool => rfl

/-- An attempt to send does nothing else. -/
theorem attempts_sends (stepped : deployment.Step before action after)
    (sent : deployment.attempts action = true) : after = before.trySend := by
  cases step_cases stepped with
  | send => rfl
  | ignore foreign =>
    simp only [attempts] at sent
    rw [foreign] at sent
    cases sent
  | tend silent =>
    rw [silent] at sent
    cases sent
  | write | work | compare | update | pool => cases sent

/-- While an attempt waits for a load, an event is queued or the worker is on its way. -/
def Delivers (pending : Bool) (service : Service Contents) : Prop :=
  pending = true → service.channel ≠ 0 ∨ service.worker.onItsWay = true

/-- The worker loses no event. -/
theorem work_delivers {pending : Bool} (works : deployment.Works before after)
    (delivers : Delivers pending before) :
    Delivers (deployment.outstanding pending ⟨before, .work, after⟩) after := by
  intro waiting
  have pending : pending = true := by
    simp only [outstanding, attempts, Bool.false_or, Bool.and_eq_true] at waiting
    exact waiting.1
  cases works with
  | receive | wake | drained | quiet | again => exact .inr rfl
  | drain draining =>
    right
    rw [draining]
    rfl
  | giveUp loading | accept loading => simp [outstanding, attempts, loads, loading] at waiting
  | replace phase | compose phase | publish phase | refuse phase | finish phase | restore phase =>
    rcases delivers pending with queued | underway
    · exact .inl queued
    · simp [phase, Worker.onItsWay] at underway

/-- Nor does any step. -/
theorem step_delivers {pending : Bool} (stepped : deployment.Step before action after)
    (delivers : Delivers pending before) :
    Delivers (deployment.outstanding pending ⟨before, action, after⟩) after := by
  by_cases sent : deployment.attempts action = true
  · intro _
    left
    rw [attempts_sends stepped sent]
    exact trySend_queued before
  · cases step_cases stepped with
    | work works => exact work_delivers works delivers
    | send found => exact absurd found sent
    | write | ignore | tend | compare | update | pool =>
      intro waiting
      simp only [outstanding, sent, Bool.false_or, Bool.and_eq_true] at waiting
      exact delivers waiting.1

/-- Nor does any run. -/
theorem run_delivers {pending : Bool} (run : Runs.Run deployment.Step first trace last)
    (delivers : Delivers pending first) :
    Delivers (trace.foldl deployment.outstanding pending) last := by
  induction run with
  | start => exact delivers
  | extend earlier stepped inductionHypothesis =>
    rw [List.foldl_append]
    exact step_delivers stepped inductionHypothesis

/-- An attempt that no longer waits was followed by a load. -/
theorem load_follows {pending : Bool} (waiting : pending = true)
    (served : trace.foldl deployment.outstanding pending = false) :
    ∃ middle load rest, trace = middle ++ load :: rest ∧ loads load = true := by
  induction trace generalizing pending with
  | nil =>
    rw [List.foldl_nil, waiting] at served
    cases served
  | cons taken rest inductionHypothesis =>
    by_cases loaded : loads taken = true
    · exact ⟨[], taken, rest, rfl, loaded⟩
    · have still : deployment.outstanding pending taken = true := by
        simp [outstanding, waiting, loaded]
      obtain ⟨middle, load, tail, rfl, found⟩ := inductionHypothesis still served
      exact ⟨taken :: middle, load, tail, rfl, found⟩

/-- No reload event is lost. Whenever the worker is parked on an empty bridge, every
attempt to send an event, also one that found the bridge full, was followed by a load;
if the file was not written in between, that load read the version that was current at
the attempt. The run may start anywhere.

Proof: every attempt to send leaves an event or a load on its way, and a parked worker has
neither. -/
theorem no_event_lost (run : Runs.Run deployment.Step first (earlier ++ taken :: later) last)
    (sent : deployment.attempts taken.label = true) (parked : last.worker = .parked)
    (empty : last.channel = 0) :
    ∃ middle load rest, later = middle ++ load :: rest ∧ loads load = true ∧
      ((∀ step ∈ middle, ∀ contents, step.label ≠ .write contents) →
        load.before.file = taken.before.file) := by
  obtain ⟨upTo, stepped, onward⟩ := run.split
  have quiet : Delivers false first := by
    intro waiting
    cases waiting
  have settled : (earlier ++ taken :: later).foldl deployment.outstanding false = false := by
    have delivers := run_delivers run quiet
    cases pending : (earlier ++ taken :: later).foldl deployment.outstanding false with
    | false => rfl
    | true =>
      rcases delivers pending with queued | underway
      · exact absurd empty queued
      · simp [parked, Worker.onItsWay] at underway
  rw [List.foldl_append, List.foldl_cons] at settled
  have waiting :
      deployment.outstanding (earlier.foldl deployment.outstanding false) taken = true := by
    simp [outstanding, sent]
  obtain ⟨middle, load, rest, rfl, loaded⟩ := load_follows waiting settled
  refine ⟨middle, load, rest, rfl, loaded, ?_⟩
  intro unwritten
  obtain ⟨between, _, _⟩ := onward.split
  have kept : load.before.file = taken.after.file :=
    between.preserved (fun service => service.file = taken.after.file) rfl
      (fun step member stepped same => (step_file stepped (unwritten step member)).trans same)
  rw [kept]
  refine step_file stepped ?_
  intro contents written
  rw [written] at sent
  cases sent

/-- The service when the rotated file is in place, and when the trigger has fired. -/
def rotationWritten : Service Configuration.Contents :=
  Runs.reached sampleDeployment.perform sampleService [.write (sampleFile "rotated")]

def rotationNoticed : Service Configuration.Contents :=
  Runs.reached sampleDeployment.perform rotationWritten [.fire]

/-- The rotated file is loaded after the trigger has fired. -/
theorem no_event_lost_rotated :
    ∃ middle load rest,
      Runs.steps sampleDeployment.perform rotationNoticed ((untilLoad "rotated").drop 2 ++ apply) =
          middle ++ load :: rest ∧
        loads load = true ∧
        ((∀ step ∈ middle, ∀ contents, step.label ≠ .write contents) →
          load.before.file = rotationWritten.file) := by
  have writes : (Runs.record sampleDeployment.perform sampleService
      [.write (sampleFile "rotated")]).isSome := by decide +kernel
  have fires : sampleDeployment.Step rotationWritten .fire rotationNoticed :=
    Runs.reached_step (by decide +kernel)
  have loads : (Runs.record sampleDeployment.perform rotationNoticed
      ((untilLoad "rotated").drop 2 ++ apply)).isSome := by decide +kernel
  exact no_event_lost ((Runs.replay_run writes).join fires (Runs.replay_run loads)) rfl
    (by decide +kernel) (by decide +kernel)

end Deployment

end Orihsus.Reload
