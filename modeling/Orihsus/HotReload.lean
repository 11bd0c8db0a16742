import Orihsus.Config
import Orihsus.Runs
import Orihsus.Usage

/-!
# Hot reloads and the model monitor

The reload worker of `src/hot_reload.rs` with the apply callback of `src/main.rs`,
the worker of `ModelMonitor` in `src/models.rs`, and the cells they share: the
runtime store with the pool, the watched model-sync setting, the usage monitor's
keys and the bounded bridge of reload events. Every access to a cell is a step of
its own, so steps of the other party, of the requests and of the clock can fall
between any two of them.

The loader is a parameter. `Configuration.load` is the one the program has; it never
accepts an empty list of keys, and with it no apply can fail. The laws hold of every
loader, so that they also cover an apply that fails.

A send on the bridge is one step. Its handle keeps the bridge open for as long as
the worker runs. The error text on standard error is left out.
-/

namespace Orihsus.Reload

open Orihsus.Configuration (Config Contents ErrorKind KeyFailureHandling Limits ModelSync RawConfig)
open Gateway (GatewayKey Json RuntimeState Store)
open Pool (PoolError PoolPolicy PoolState Secret System)

/-! ## Model lists -/

inductive ModelFetchError where
  | timeout
  | httpStatus
  | bodyTooLarge
  | transport
  deriving DecidableEq, Repr

/-- The loop of `parse_models`, with the ids it has seen. -/
def parseItems (seen : List String) : List Json → Option (List String)
  | [] => some []
  | item :: rest => do
      let id ← (item.index "id").asStr
      guard (!(Configuration.blank id || Configuration.maxModelBytes < Configuration.byteLen id ||
        seen.contains id))
      let later ← parseItems (id :: seen) rest
      pure (id :: later)

/-- `parse_models`: all of the ids or nothing. -/
def parseModels (parseJson : List UInt8 → Option Json) (body : List UInt8) :
    Option (List String) := do
  let root ← parseJson body
  match root.index "data" with
  | .array items => if items.isEmpty then none else parseItems [] items
  | _ => none

/-! ## Reload events -/

/-- `notify::EventKind`. -/
inductive EventKind where
  | any
  | access
  | create
  | modify
  | remove
  | other
  deriving DecidableEq, Repr

structure Event where
  kind : EventKind
  paths : List String
  deriving DecidableEq, Repr

/-- `is_relevant_kind`. -/
def isRelevantKind : EventKind → Bool
  | .create | .modify | .remove => true
  | _ => false

/-- `event_targets`. -/
def eventTargets (event : Event) (target : String) : Bool :=
  isRelevantKind event.kind && event.paths.contains target

/-- `EVENT_BUFFER`. -/
def eventBuffer : Nat := 16

/-! ## Snapshots and status -/

/-- `RuntimeConfigSnapshot`. -/
structure RuntimeConfigSnapshot where
  gatewayKeys : List GatewayKey
  keys : List Secret
  keyAliases : List (String × String)
  models : List String
  modelSync : ModelSync
  limits : Limits
  keyFailureHandling : KeyFailureHandling
  deriving DecidableEq, Repr

/-- `RuntimeConfigSnapshot::from_config`. -/
def RuntimeConfigSnapshot.fromConfig (config : Config) : RuntimeConfigSnapshot where
  gatewayKeys := config.gatewayKeys
  keys := config.keys
  keyAliases := config.keyAliases
  models := config.models
  modelSync := config.modelSync
  limits := config.limits
  keyFailureHandling := config.keyFailureHandling

/-- The runtime state that the callback publishes for a snapshot, and `assemble` for
the first configuration. -/
def RuntimeConfigSnapshot.runtimeState (snapshot : RuntimeConfigSnapshot) (models : List String) :
    RuntimeState where
  gatewayKeys := snapshot.gatewayKeys
  baseUrl := Configuration.opencodeGoBaseUrl
  maxBodyBytes := snapshot.limits.maxBodyBytes
  keyAliases := snapshot.keyAliases
  models := models

/-- `non_hot_changed`. -/
def nonHotChanged (config baseline : Config) : Bool :=
  config.listen != baseline.listen || config.limits != baseline.limits ||
    config.keyFailureHandling != baseline.keyFailureHandling ||
    config.usage != baseline.usage || config.usageHistoryDir != baseline.usageHistoryDir ||
    config.audit != baseline.audit || config.server != baseline.server

structure StatusState where
  successfulReloads : Nat := 0
  failedReloads : Nat := 0
  lastError : Option String := none
  lastLoadedAt : Option Nat := none
  needsRestart : Bool := false
  deriving DecidableEq, Repr

namespace StatusState

def recordSuccess (status : StatusState) (now : Nat) : StatusState :=
  { status with
    successfulReloads := status.successfulReloads + 1
    lastError := none
    lastLoadedAt := some now
    needsRestart := false }

def recordFailure (status : StatusState) (message : String) : StatusState :=
  { status with
    failedReloads := status.failedReloads + 1
    lastError := some message }

def recordNeedsRestart (status : StatusState) : StatusState :=
  { status with
    failedReloads := status.failedReloads + 1
    lastError := some "config requires a restart: static settings changed; reload refused"
    needsRestart := true }

end StatusState

/-! ## The parties and the cells -/

/-- Where the reload worker stands. From `applying` on it is inside the callback:
`replaced` has put the new model-sync setting in place, `composed` also holds the
models it will publish, `published` has yet to hand the keys to the usage monitor and
`refused` has yet to put the previous setting back. -/
inductive Worker where
  | parked
  | sleeping (wake : Nat)
  | draining
  | checking
  | loading
  | applying (snapshot : RuntimeConfigSnapshot)
  | replaced (snapshot : RuntimeConfigSnapshot) (previous : ModelSync)
  | composed (snapshot : RuntimeConfigSnapshot) (previous : ModelSync) (models : List String)
  | published (snapshot : RuntimeConfigSnapshot)
  | refused (previous : ModelSync)
  deriving DecidableEq, Repr

/-- The worker is not inside the callback. -/
def Worker.outside : Worker → Bool
  | .parked | .sleeping _ | .draining | .checking | .loading => true
  | _ => false

/-- The worker has received an event and has not started to load since. -/
def Worker.onItsWay : Worker → Bool
  | .sleeping _ | .draining | .checking | .loading => true
  | _ => false

/-- Where the model monitor stands. `matched` has compared the generation and is about
to publish the models it parsed. -/
inductive Monitor where
  | starting
  | disabled
  | fetching (generation : ModelSync)
  | fetched (generation : ModelSync) (result : Except ModelFetchError (List UInt8))
  | matched (generation : ModelSync) (models : List String)
  | resting (wake : Nat)
  | stopped

/-- A watch channel: its value and how often it has been replaced. -/
structure Watch (Value : Type) where
  value : Value
  version : Nat
  deriving DecidableEq, Repr

/-- `Sender::send_replace`, which hands back the old value. -/
def Watch.sendReplace {Value : Type} (watch : Watch Value) (value : Value) : Watch Value × Value :=
  ({ value := value, version := watch.version + 1 }, watch.value)

/-- The cells and the parties. `channel` counts the events on the bridge and `seen` is
the version of the setting that the monitor was last told of. -/
structure Service (Contents : Type) where
  store : Store
  modelSync : Watch ModelSync
  usageKeys : List Secret
  status : StatusState
  file : Contents
  channel : Nat
  worker : Worker
  monitor : Monitor
  seen : Nat

/-- A step of a party. `write` changes the file, `notify` and `fire` are the watcher and
the SIGHUP trigger, `work` is the reload worker's next step and `sync` the monitor's own;
a fetch, a timer, a change notice and a stop reach the monitor from outside. Requests,
reports and the clock act on the pool alone. -/
inductive Action (Contents : Type) where
  | write (contents : Contents)
  | notify (event : Event)
  | fire
  | work
  | sync
  | fetch (result : Except ModelFetchError (List UInt8))
  | elapse
  | change
  | stop
  | other (action : Pool.Action)

/-- What is fixed for a run. -/
structure Deployment (Contents : Type) where
  load : Contents → Except ErrorKind Config
  initial : Config
  debounce : Nat
  configPath : String
  fingerprint : String → String
  parseJson : List UInt8 → Option Json

/-- The pool policy that `assemble` derives. -/
def poolPolicy (config : Config) : PoolPolicy where
  backoffInitial := config.keyFailureHandling.backoffInitial
  backoffMax := config.keyFailureHandling.backoffMax
  breakerThreshold := config.keyFailureHandling.breakerThreshold
  breakerCooldown := config.keyFailureHandling.breakerCooldown
  waitTimeout := Pool.fromSecs 30
  maxAttempts := config.keyFailureHandling.maxAttempts

namespace Service

variable {Contents : Type} (service : Service Contents)

def clock : Nat := service.store.system.clock

/-- `try_send`: an event that finds the bridge full is dropped. -/
def trySend : Service Contents :=
  if service.channel < eventBuffer then { service with channel := service.channel + 1 }
  else service

/-- The worker after a read that is not applied. -/
def giveUp (status : StatusState) : Service Contents :=
  { service with status := status, worker := .parked }

end Service

namespace Deployment

variable {Contents : Type} (deployment : Deployment Contents)

/-- What the worker makes of the file. -/
def read (service : Service Contents) : Service Contents :=
  match deployment.load service.file with
  | .error kind =>
      service.giveUp (service.status.recordFailure ("cannot reload config: " ++ kind.display))
  | .ok config =>
      if nonHotChanged config deployment.initial then
        service.giveUp service.status.recordNeedsRestart
      else { service with worker := .applying (.fromConfig config) }

/-- The models a callback publishes: those that are current while they are synchronized,
otherwise those of the file. -/
def chosenModels (service : Service Contents) (snapshot : RuntimeConfigSnapshot) : List String :=
  if snapshot.modelSync.enabled then service.store.snapshot.models else snapshot.models

/-- `update_with_keys` as the callback calls it. -/
def publish (service : Service Contents) (snapshot : RuntimeConfigSnapshot)
    (previous : ModelSync) (models : List String) : Service Contents :=
  match service.store.updateWithKeys deployment.fingerprint snapshot.keys
      (snapshot.runtimeState models) with
  | .ok store => { service with store := store, worker := .published snapshot }
  | .error _ => { service with worker := .refused previous }

/-- The reload worker's next step, if it has one. -/
def work (service : Service Contents) : Option (Service Contents) :=
  match service.worker with
  | .parked =>
      if service.channel = 0 then none
      else some { service with
        channel := service.channel - 1
        worker := .sleeping (service.clock + deployment.debounce) }
  | .sleeping wake =>
      if wake ≤ service.clock then some { service with worker := .draining } else none
  | .draining =>
      if service.channel = 0 then some { service with worker := .checking }
      else some { service with channel := service.channel - 1 }
  | .checking =>
      if service.channel = 0 then some { service with worker := .loading }
      else some { service with worker := .sleeping (service.clock + deployment.debounce) }
  | .loading => some (deployment.read service)
  | .applying snapshot =>
      let (modelSync, previous) := service.modelSync.sendReplace snapshot.modelSync
      some { service with modelSync := modelSync, worker := .replaced snapshot previous }
  | .replaced snapshot previous =>
      some { service with
        worker := .composed snapshot previous (chosenModels service snapshot) }
  | .composed snapshot previous models =>
      some (deployment.publish service snapshot previous models)
  | .published snapshot =>
      some { service with
        usageKeys := snapshot.keys
        status := service.status.recordSuccess service.clock
        worker := .parked }
  | .refused previous =>
      some { service with
        modelSync := (service.modelSync.sendReplace previous).1
        status := service.status.recordFailure "config apply failed"
        worker := .parked }

/-- What the monitor makes of a fetch: a generation that is no longer current, a failed
fetch and a body without a model list are dropped. -/
def compared (service : Service Contents) (generation : ModelSync)
    (result : Except ModelFetchError (List UInt8)) : Monitor :=
  if service.modelSync.value = generation then
    match result with
    | .ok body =>
        match parseModels deployment.parseJson body with
        | some models => .matched generation models
        | none => .resting (service.clock + generation.interval)
    | .error _ => .resting (service.clock + generation.interval)
  else .resting (service.clock + generation.interval)

/-- The monitor's next step of its own, if it has one. -/
def sync (service : Service Contents) : Option (Service Contents) :=
  match service.monitor with
  | .starting =>
      let generation := service.modelSync.value
      some { service with
        monitor := if generation.enabled then .fetching generation else .disabled }
  | .fetched generation result =>
      some { service with monitor := deployment.compared service generation result }
  | .matched generation models =>
      some { service with
        store := service.store.updateModels models
        monitor := .resting (service.clock + generation.interval) }
  | _ => none

/-- One step, if it is enabled. Only a reload replaces the pool's keys. -/
def perform (service : Service Contents) : Action Contents → Option (Service Contents)
  | .write contents => some { service with file := contents }
  | .notify event =>
      some (if eventTargets event deployment.configPath then service.trySend else service)
  | .fire => some service.trySend
  | .work => deployment.work service
  | .sync => deployment.sync service
  | .fetch result =>
      match service.monitor with
      | .fetching generation => some { service with monitor := .fetched generation result }
      | _ => none
  | .elapse =>
      match service.monitor with
      | .resting wake =>
          if wake ≤ service.clock then some { service with monitor := .starting } else none
      | _ => none
  | .change =>
      if service.seen = service.modelSync.version then none
      else
        match service.monitor with
        | .disabled | .resting _ =>
            some { service with seen := service.modelSync.version, monitor := .starting }
        | _ => none
  | .stop =>
      match service.monitor with
      | .disabled | .resting _ => some { service with monitor := .stopped }
      | _ => none
  | .other action =>
      match action with
      | .replaceKeys _ => none
      | action =>
          (service.store.system.perform (poolPolicy deployment.initial) deployment.fingerprint
            action).map fun result =>
              { service with store := { service.store with system := result.1 } }

/-- The step relation of the runs. -/
def Step (before : Service Contents) (action : Action Contents) (after : Service Contents) : Prop :=
  deployment.perform before action = some after

/-- What `assemble` builds around a pool, with both workers started. -/
def started (file : Contents) (pool : PoolState) : Service Contents :=
  let snapshot := RuntimeConfigSnapshot.fromConfig deployment.initial
  { store :=
      { runtime := snapshot.runtimeState snapshot.models
        system := { pool := pool, clock := 0, callers := [], issued := [] } }
    modelSync := { value := snapshot.modelSync, version := 0 }
    usageKeys := snapshot.keys
    status := {}
    file := file
    channel := 0
    worker := .parked
    monitor := .starting
    seen := 0 }

/-- `assemble`; the file is whatever stands at the path. -/
def assemble (file : Contents) : Except PoolError (Service Contents) :=
  (PoolState.withJitter deployment.fingerprint deployment.initial.keys
    (poolPolicy deployment.initial)).map (deployment.started file)

end Deployment

/-! ## A sample deployment -/

/-- The documents of the sample runs, by their text. -/
def sampleYaml (text : String) : Except (Option (Nat × Nat)) RawConfig :=
  if text = "first" then
    .ok { gatewayToken := some "old", keys := some [.plain "a", .plain "b"] }
  else if text = "rotated" then
    .ok { gatewayToken := some "new", keys := some [.plain "b", .named "c" (some "spare")] }
  else if text = "manual" then
    .ok { gatewayToken := some "old", keys := some [.plain "a", .plain "b"], models := some ["m"] }
  else if text = "long" then
    .ok { gatewayToken := some "old", keys := some [.plain "sk-upstream-1"] }
  else .error none

/-- Library functions for concrete runs. -/
def sampleLibraries : Configuration.Libraries where
  parseYaml := sampleYaml
  parseIp := fun _ => some (.v4 127 0 0 1)
  fingerprint := Pool.System.sampleFingerprint

/-- What the first of these documents is accepted as. -/
def sampleConfig : Config where
  listen := { ip := .v4 127 0 0 1, port := 8080 }
  gatewayKeys := [⟨"legacy", ⟨"old"⟩⟩]
  keys := [⟨"a"⟩, ⟨"b"⟩]
  keyAliases := []
  models := ["deepseek-chat"]
  modelSync := { enabled := true, interval := Pool.fromSecs 3600 }
  limits :=
    { maxConcurrency := 200, maxQueue := 500, queueWaitTimeout := Pool.fromSecs 30
      maxBodyBytes := 10485760, maxInflightBodyBytes := 268435456 }
  keyFailureHandling :=
    { backoffInitial := Pool.fromSecs 5, backoffMax := Pool.fromSecs 60, breakerThreshold := 5
      breakerCooldown := Pool.fromSecs 60, maxAttempts := 2 }
  usage := { softThresholdPercent := .finite 80, pollInterval := Pool.fromSecs 300 }
  usageHistoryDir := "/var/log/orihsus/usage"
  audit := { path := "/var/log/orihsus/audit.jsonl", queueCapacity := 4096 }
  server :=
    { readHeaderTimeout := Pool.fromSecs 5, maxHeaderBytes := 32768
      bodyReadTimeout := Pool.fromSecs 30, upstreamResponseHeaderTimeout := Pool.fromSecs 60
      firstEventTimeout := Pool.fromSecs 60, interEventTimeout := Pool.fromSecs 90
      modelEventTimeouts := [], upstreamErrorBodyTimeout := Pool.fromSecs 5
      responseWriteTimeout := Pool.fromSecs 30, maxConnections := 1024 }

/-- A config file with the right owner and mode. -/
def sampleFile (text : String) : Contents :=
  .ok { isFile := true, mode := 0o600, owner := 1000, text := .ok text }

/-- One document lists a model, and no other body parses. -/
def sampleJson (body : List UInt8) : Option Json :=
  if body = [1] then some (.object [("data", .array [.object [("id", .string "synced")]])])
  else none

/-- A deployment of the first document, with the loader the program has. -/
def sampleDeployment : Deployment Contents where
  load := Configuration.load sampleLibraries "config.yaml" 1000
  initial := sampleConfig
  debounce := Pool.fromSecs 1
  configPath := "config.yaml"
  fingerprint := Pool.System.sampleFingerprint
  parseJson := sampleJson

/-- The service that is assembled from it. -/
def sampleService : Service Contents :=
  sampleDeployment.started (sampleFile "first")
    (Pool.System.started Pool.System.sampleFingerprint sampleConfig.keys).pool

/-- The sample is assembled. -/
theorem sample_assembled :
    sampleDeployment.assemble (sampleFile "first") = .ok sampleService := by
  rfl

/-- The file is rewritten and the worker gets as far as loading it. -/
def untilLoad (text : String) : List (Action Contents) :=
  [.write (sampleFile text), .fire, .work, .other (.tick (Pool.fromSecs 1)), .work, .work, .work]

/-- The worker loads the file and applies it. -/
def apply : List (Action Contents) := [.work, .work, .work, .work, .work]

end Orihsus.Reload
