import Orihsus.Runtime
import Orihsus.Text
import Orihsus.Upstream

/-!
# The configuration file

`src/config.rs`: the raw document, the validated configuration and `Config::try_from`
between them, with its checks in source order and the first failure reported.

The YAML parser, the parser of IP addresses and the fingerprint digest are library
code and stay parameters. An ordered map is the list of its entries in key order. A
percentage is exact where the file gives a finite one. Machine words have 64 bits.
-/

namespace Orihsus.Configuration

open Gateway (EventTimeouts GatewayKey)
open Pool (Secret fromSecs maxCooldown)

/-! ## The raw document -/

/-- A floating-point number of the file. -/
inductive Percent where
  | finite (value : Rat)
  | notFinite
  deriving DecidableEq

structure RawGatewayKey where
  name : String
  token : String

inductive RawKey where
  | plain (key : String)
  | named (key : String) (name : Option String)

structure RawListen where
  host : Option String := none
  port : Option Nat := none

structure RawModelSync where
  enabled : Option Bool := none
  intervalSeconds : Option Nat := none

structure RawLimits where
  maxConcurrency : Option Nat := none
  maxQueue : Option Nat := none
  queueWaitTimeoutSeconds : Option Nat := none
  maxBodyBytes : Option Nat := none
  maxInflightBodyBytes : Option Nat := none

/-- `softThreshold` only says whether the retired field is present. -/
structure RawKeyFailureHandling where
  softThreshold : Bool := false
  backoffInitialSeconds : Option Nat := none
  backoffMaxSeconds : Option Nat := none
  breakerThreshold : Option Nat := none
  breakerCooldownSeconds : Option Nat := none
  maxAttempts : Option Nat := none

structure RawUsage where
  softThresholdPercent : Option Percent := none
  pollIntervalSeconds : Option Nat := none

structure RawAudit where
  path : Option String := none
  queueCapacity : Option Nat := none

structure RawEventTimeouts where
  firstEventTimeoutSeconds : Option Nat := none
  interEventTimeoutSeconds : Option Nat := none

structure RawServer where
  readHeaderTimeoutSeconds : Option Nat := none
  maxHeaderBytes : Option Nat := none
  bodyReadTimeoutSeconds : Option Nat := none
  upstreamResponseHeaderTimeoutSeconds : Option Nat := none
  firstEventTimeoutSeconds : Option Nat := none
  interEventTimeoutSeconds : Option Nat := none
  modelEventTimeouts : List (String × RawEventTimeouts) := []
  upstreamErrorBodyTimeoutSeconds : Option Nat := none
  responseWriteTimeoutSeconds : Option Nat := none
  maxConnections : Option Nat := none

structure RawConfig where
  gatewayToken : Option String := none
  gatewayKeys : Option (List RawGatewayKey) := none
  listen : Option RawListen := none
  keys : Option (List RawKey) := none
  models : Option (List String) := none
  modelSync : Option RawModelSync := none
  limits : Option RawLimits := none
  keyFailureHandling : Option RawKeyFailureHandling := none
  usage : Option RawUsage := none
  usageHistoryDir : Option String := none
  audit : Option RawAudit := none
  server : Option RawServer := none

/-! ## The validated configuration -/

inductive IpAddr where
  | v4 (a b c d : UInt8)
  | v6 (address : Nat)
  deriving DecidableEq

/-- `IpAddr::is_loopback`. -/
def IpAddr.isLoopback : IpAddr → Bool
  | .v4 a _ _ _ => a = 127
  | .v6 address => address = 1

structure SocketAddr where
  ip : IpAddr
  port : Nat
  deriving DecidableEq

structure ModelSync where
  enabled : Bool
  interval : Nat
  deriving DecidableEq, Repr

structure Limits where
  maxConcurrency : Nat
  maxQueue : Nat
  queueWaitTimeout : Nat
  maxBodyBytes : Nat
  maxInflightBodyBytes : Nat
  deriving DecidableEq, Repr

structure KeyFailureHandling where
  backoffInitial : Nat
  backoffMax : Nat
  breakerThreshold : Nat
  breakerCooldown : Nat
  maxAttempts : Nat
  deriving DecidableEq, Repr

structure Usage where
  softThresholdPercent : Percent
  pollInterval : Nat
  deriving DecidableEq

structure Audit where
  path : String
  queueCapacity : Nat
  deriving DecidableEq, Repr

structure Server where
  readHeaderTimeout : Nat
  maxHeaderBytes : Nat
  bodyReadTimeout : Nat
  upstreamResponseHeaderTimeout : Nat
  firstEventTimeout : Nat
  interEventTimeout : Nat
  modelEventTimeouts : List (String × EventTimeouts)
  upstreamErrorBodyTimeout : Nat
  responseWriteTimeout : Nat
  maxConnections : Nat
  deriving DecidableEq, Repr

structure Config where
  listen : SocketAddr
  gatewayKeys : List GatewayKey
  keys : List Secret
  keyAliases : List (String × String)
  models : List String
  modelSync : ModelSync
  limits : Limits
  keyFailureHandling : KeyFailureHandling
  usage : Usage
  usageHistoryDir : String
  audit : Audit
  server : Server
  deriving DecidableEq

inductive ErrorKind where
  | io (path : String) (source : String)
  | parse (path : String) (line column : Nat)
  | permission (path : String)
  | validation (message : String)
  deriving DecidableEq, Repr

/-- The `Display` of a `ConfigError`. -/
def ErrorKind.display : ErrorKind → String
  | .io path source => "cannot read config " ++ path ++ ": " ++ source
  | .parse path line column =>
      "invalid YAML in " ++ path ++ " at line " ++ toString line ++ ", column " ++ toString column
  | .permission path =>
      "config file " ++ path ++
        " must be a regular file owned by the process user with Unix permissions 0600"
  | .validation message => "invalid config: " ++ message

/-! ## Constants -/

/-- `OPENCODE_GO_BASE_URL`. -/
def opencodeGoBaseUrl : String := "https://opencode.ai/zen/go/"

def maxModelBytes : Nat := 256

/-- `u32::MAX`. -/
def u32Max : Nat := 2 ^ 32 - 1

/-- `Semaphore::MAX_PERMITS`: the permit counter gives up three bits. -/
def maxPermits : Nat := 2 ^ 61 - 1

def defaultListenHost : String := "127.0.0.1"
def defaultListenPort : Nat := 8080
def defaultMaxConcurrency : Nat := 200
def defaultMaxQueue : Nat := 500
def defaultQueueWaitTimeout : Nat := fromSecs 30
def defaultMaxBodyBytes : Nat := 10 * 1024 * 1024
def defaultMaxInflightBodyBytes : Nat := 256 * 1024 * 1024
def defaultBackoffInitial : Nat := fromSecs 5
def defaultBackoffMax : Nat := fromSecs 60
def defaultModels : List String := ["deepseek-chat"]
def defaultModelSyncIntervalSeconds : Nat := 60 * 60
def defaultBreakerThreshold : Nat := 5
def defaultBreakerCooldown : Nat := fromSecs 60
def defaultMaxAttempts : Nat := 2
def defaultUsageSoftThresholdPercent : Percent := .finite 80
def defaultUsagePollInterval : Nat := fromSecs (5 * 60)
def defaultUsageHistoryDir : String := "/var/log/orihsus/usage"
def defaultAuditPath : String := "/var/log/orihsus/audit.jsonl"
def defaultAuditQueueCapacity : Nat := 4096
def defaultReadHeaderTimeout : Nat := fromSecs 5
def defaultMaxHeaderBytes : Nat := 32 * 1024
def defaultMaxConnections : Nat := 1024
def maxConnectionsCeiling : Nat := 65536
def defaultBodyReadTimeout : Nat := fromSecs 30
def defaultUpstreamResponseHeaderTimeout : Nat := fromSecs 60
def defaultFirstEventTimeoutSeconds : Nat := 60
def defaultInterEventTimeoutSeconds : Nat := 90
def defaultUpstreamErrorBodyTimeout : Nat := fromSecs 5
def defaultResponseWriteTimeout : Nat := fromSecs 30

/-! ## Validation -/

/-- Report a failed check. -/
def reject (failed : Bool) (message : String) : Except ErrorKind Unit :=
  if failed then .error (.validation message) else .ok ()

/-- The text is empty after `str::trim`. -/
def blank (text : String) : Bool := (Text.trim text.toList).isEmpty

/-- `str::len`: the length in bytes. -/
def byteLen (text : String) : Nat := (Text.asBytes text.toList).length

/-- `BTreeMap::insert`. -/
def insertEntry {Value : Type} (name : String) (value : Value) :
    List (String × Value) → List (String × Value)
  | [] => [(name, value)]
  | (other, current) :: rest =>
      if name = other then (name, value) :: rest
      else if name < other then (name, value) :: (other, current) :: rest
      else (other, current) :: insertEntry name value rest

/-- A duration given in whole seconds, or its default. -/
def seconds (given : Option Nat) (default : Nat) : Nat := (given.map fromSecs).getD default

/-- A duration that must not be zero. -/
def positiveSeconds (given : Option Nat) (default : Nat) (field : String) :
    Except ErrorKind Nat := do
  reject (seconds given default = 0) (field ++ " must be greater than zero")
  pure (seconds given default)

/-- The loop over `gateway_keys`, with the names and tokens it has seen. -/
def gatewayKeysFrom (names tokens : List String) :
    List RawGatewayKey → Except ErrorKind (List GatewayKey)
  | [] => pure []
  | entry :: rest => do
      reject (blank entry.name || 128 < byteLen entry.name)
        "gateway key names must be non-blank and at most 128 bytes"
      reject (blank entry.token) "gateway key tokens must be non-empty"
      reject (names.contains entry.name) "gateway key names must be unique"
      reject (tokens.contains entry.token) "gateway key tokens must be unique"
      let later ← gatewayKeysFrom (entry.name :: names) (entry.token :: tokens) rest
      pure ({ name := entry.name, token := ⟨entry.token⟩ } :: later)

/-- The client credentials: one token of the old form, or a list of named ones. -/
def gatewayKeysOf (raw : RawConfig) : Except ErrorKind (List GatewayKey) := do
  reject (raw.gatewayToken.isSome && raw.gatewayKeys.isSome)
    "set either gateway_token or gateway_keys, not both"
  match raw.gatewayToken, raw.gatewayKeys with
  | some token, _ =>
      reject (blank token) "gateway token must be non-empty"
      pure [{ name := "legacy", token := ⟨token⟩ }]
  | none, some entries =>
      reject entries.isEmpty "at least one gateway key is required"
      gatewayKeysFrom [] [] entries
  | none, none => .error (.validation "gateway_token or gateway_keys must be set")

/-- The listening address, which must be a loopback one. -/
def listenOf (parseIp : String → Option IpAddr) (raw : RawConfig) :
    Except ErrorKind SocketAddr := do
  let listen := raw.listen.getD {}
  match parseIp (listen.host.getD defaultListenHost) with
  | none => .error (.validation "listen.host must be a valid IP address")
  | some ip =>
      reject (!ip.isLoopback)
        "listen.host must be a loopback address; expose the service through nginx"
      pure { ip := ip, port := listen.port.getD defaultListenPort }

/-- The loop over `keys`: the secrets in order, and the aliases of the named ones. -/
def keysFrom (fingerprint : String → String) (aliases : List (String × String)) :
    List RawKey → Except ErrorKind (List String × List (String × String))
  | [] => pure ([], aliases)
  | rawKey :: rest => do
      let (key, name) := match rawKey with
        | .plain key => (key, none)
        | .named key name => (key, name)
      reject (blank key) "upstream keys must be non-empty"
      reject (name.any fun name => blank name || 128 < byteLen name)
        "upstream key names must be non-blank and at most 128 bytes"
      let aliases := match name with
        | some name => insertEntry (fingerprint key) name aliases
        | none => aliases
      let (later, aliases) ← keysFrom fingerprint aliases rest
      pure (key :: later, aliases)

/-- The upstream keys and their aliases. -/
def keysOf (fingerprint : String → String) (raw : RawConfig) :
    Except ErrorKind (List Secret × List (String × String)) := do
  let rawKeys := raw.keys.getD []
  reject rawKeys.isEmpty "at least one upstream key is required"
  let (keys, aliases) ← keysFrom fingerprint [] rawKeys
  reject (!decide keys.Nodup) "upstream keys must not contain duplicates"
  pure (keys.map Secret.mk, aliases)

/-- The loop over `models`, with the names it has seen. -/
def checkModels (seen : List String) : List String → Except ErrorKind Unit
  | [] => pure ()
  | model :: rest => do
      reject (blank model) "models must contain only non-blank model names"
      reject (maxModelBytes < byteLen model) "models must not exceed 256 bytes per value"
      reject (seen.contains model) "models must not contain duplicates"
      checkModels (model :: seen) rest

/-- The model list: an explicit one, or the default. -/
def modelsOf (raw : RawConfig) : Except ErrorKind (List String) :=
  match raw.models with
  | some models => do
      reject models.isEmpty "models must not be empty"
      checkModels [] models
      pure models
  | none => pure defaultModels

/-- The synchronization policy. An explicit model list turns it off. -/
def modelSyncOf (raw : RawConfig) : Except ErrorKind ModelSync := do
  let modelSync := raw.modelSync.getD {}
  let interval := fromSecs (modelSync.intervalSeconds.getD defaultModelSyncIntervalSeconds)
  reject (interval < fromSecs 30) "model_sync.interval_seconds must be at least 30"
  pure { enabled := !raw.models.isSome && modelSync.enabled.getD true, interval := interval }

def limitsOf (raw : RawConfig) : Except ErrorKind Limits := do
  let limits := raw.limits.getD {}
  let maxConcurrency := limits.maxConcurrency.getD defaultMaxConcurrency
  reject (maxConcurrency = 0) "limits.max_concurrency must be at least 1"
  reject (maxPermits < maxConcurrency)
    ("limits.max_concurrency must be at most " ++ toString maxPermits ++
      " (tokio semaphore permits)")
  let maxQueue := limits.maxQueue.getD defaultMaxQueue
  reject (maxPermits < maxQueue)
    ("limits.max_queue must be at most " ++ toString maxPermits ++ " (tokio semaphore permits)")
  let queueWaitTimeout ← positiveSeconds limits.queueWaitTimeoutSeconds defaultQueueWaitTimeout
    "limits.queue_wait_timeout_seconds"
  let maxBodyBytes := limits.maxBodyBytes.getD defaultMaxBodyBytes
  reject (maxBodyBytes = 0) "limits.max_body_bytes must be at least 1 byte"
  reject (u32Max < maxBodyBytes)
    "limits.max_body_bytes must fit u32 (body reservations are u32 semaphore permits)"
  let maxInflightBodyBytes := limits.maxInflightBodyBytes.getD defaultMaxInflightBodyBytes
  reject (maxInflightBodyBytes = 0) "limits.max_inflight_body_bytes must be at least 1 byte"
  reject (u32Max < maxInflightBodyBytes)
    "limits.max_inflight_body_bytes must fit u32 (semaphore permits are u32)"
  reject (maxInflightBodyBytes < maxBodyBytes)
    "limits.max_inflight_body_bytes must be >= limits.max_body_bytes"
  pure { maxConcurrency, maxQueue, queueWaitTimeout, maxBodyBytes, maxInflightBodyBytes }

def keyFailureHandlingOf (raw : RawConfig) : Except ErrorKind KeyFailureHandling := do
  let keyFailure := raw.keyFailureHandling.getD {}
  reject keyFailure.softThreshold
    ("key_failure_handling.soft_threshold is no longer supported; " ++
      "remove it from the config")
  let backoffInitial ← positiveSeconds keyFailure.backoffInitialSeconds defaultBackoffInitial
    "key_failure_handling.backoff_initial_seconds"
  let backoffMax ← positiveSeconds keyFailure.backoffMaxSeconds defaultBackoffMax
    "key_failure_handling.backoff_max_seconds"
  reject (backoffMax < backoffInitial)
    ("key_failure_handling.backoff_max_seconds must be >= " ++
      "key_failure_handling.backoff_initial_seconds")
  reject (maxCooldown < backoffMax)
    ("key_failure_handling.backoff_max_seconds must be at most the ops cooldown ceiling " ++
      "(7776000 seconds)")
  let breakerThreshold := keyFailure.breakerThreshold.getD defaultBreakerThreshold
  reject (breakerThreshold = 0) "key_failure_handling.breaker_threshold must be at least 1"
  reject (u32Max < breakerThreshold)
    ("key_failure_handling.breaker_threshold must fit u32 " ++
      "(the key pool breaker counts failures in u32)")
  let breakerCooldown ← positiveSeconds keyFailure.breakerCooldownSeconds defaultBreakerCooldown
    "key_failure_handling.breaker_cooldown_seconds"
  let maxAttempts := keyFailure.maxAttempts.getD defaultMaxAttempts
  reject (maxAttempts = 0 || 2 < maxAttempts)
    "key_failure_handling.max_attempts must be between 1 and 2"
  pure { backoffInitial, backoffMax, breakerThreshold, breakerCooldown, maxAttempts }

/-- A finite percentage above zero and at most a hundred. -/
def Percent.inRange : Percent → Bool
  | .finite value => 0 < value && value ≤ 100
  | .notFinite => false

def usageOf (raw : RawConfig) : Except ErrorKind Usage := do
  let usage := raw.usage.getD {}
  let softThresholdPercent := usage.softThresholdPercent.getD defaultUsageSoftThresholdPercent
  reject (!softThresholdPercent.inRange)
    "usage.soft_threshold_percent must be finite and in (0, 100]"
  let pollInterval := seconds usage.pollIntervalSeconds defaultUsagePollInterval
  reject (pollInterval < fromSecs 30) "usage.poll_interval_seconds must be at least 30"
  pure { softThresholdPercent, pollInterval }

def usageHistoryDirOf (raw : RawConfig) : Except ErrorKind String := do
  let dir := raw.usageHistoryDir.getD defaultUsageHistoryDir
  reject (dir.toList.isEmpty) "usage_history_dir must not be empty"
  pure dir

def auditOf (raw : RawConfig) : Except ErrorKind Audit := do
  let audit := raw.audit.getD {}
  let path := match audit.path with
    | some path => if blank path then defaultAuditPath else path
    | none => defaultAuditPath
  let queueCapacity := audit.queueCapacity.getD defaultAuditQueueCapacity
  reject (queueCapacity = 0) "audit.queue_capacity must be at least 1"
  pure { path, queueCapacity }

/-- The loop over `model_event_timeouts`; an omitted bound is the global one. -/
def modelEventTimeoutsFrom (first inter : Nat) :
    List (String × RawEventTimeouts) → Except ErrorKind (List (String × EventTimeouts))
  | [] => pure []
  | (model, policy) :: rest => do
      reject (blank model || maxModelBytes < byteLen model)
        ("server.model_event_timeouts model names must be non-blank and " ++
          "at most 256 bytes")
      let modelFirst := fromSecs (policy.firstEventTimeoutSeconds.getD first)
      let modelInter := fromSecs (policy.interEventTimeoutSeconds.getD inter)
      reject (modelFirst = 0 || modelInter = 0)
        "server.model_event_timeouts values must be greater than zero"
      let later ← modelEventTimeoutsFrom first inter rest
      pure ((model, { firstEventTimeout := modelFirst, interEventTimeout := modelInter }) :: later)

def serverOf (raw : RawConfig) : Except ErrorKind Server := do
  let server := raw.server.getD {}
  let readHeaderTimeout ← positiveSeconds server.readHeaderTimeoutSeconds
    defaultReadHeaderTimeout "server.read_header_timeout_seconds"
  let maxHeaderBytes := server.maxHeaderBytes.getD defaultMaxHeaderBytes
  reject (maxHeaderBytes < 8192)
    "server.max_header_bytes must be at least 8192 bytes (HTTP/1 minimum)"
  reject (u32Max < maxHeaderBytes)
    "server.max_header_bytes must fit u32 (hyper's HTTP/2 header-list cap is u32)"
  let bodyReadTimeout ← positiveSeconds server.bodyReadTimeoutSeconds defaultBodyReadTimeout
    "server.body_read_timeout_seconds"
  let upstreamResponseHeaderTimeout ← positiveSeconds
    server.upstreamResponseHeaderTimeoutSeconds defaultUpstreamResponseHeaderTimeout
    "server.upstream_response_header_timeout_seconds"
  let first := server.firstEventTimeoutSeconds.getD defaultFirstEventTimeoutSeconds
  let firstEventTimeout ← positiveSeconds (some first) 0 "server.first_event_timeout_seconds"
  let inter := server.interEventTimeoutSeconds.getD defaultInterEventTimeoutSeconds
  let interEventTimeout ← positiveSeconds (some inter) 0 "server.inter_event_timeout_seconds"
  let modelEventTimeouts ← modelEventTimeoutsFrom first inter server.modelEventTimeouts
  let upstreamErrorBodyTimeout ← positiveSeconds server.upstreamErrorBodyTimeoutSeconds
    defaultUpstreamErrorBodyTimeout "server.upstream_error_body_timeout_seconds"
  let responseWriteTimeout ← positiveSeconds server.responseWriteTimeoutSeconds
    defaultResponseWriteTimeout "server.response_write_timeout_seconds"
  let maxConnections := server.maxConnections.getD defaultMaxConnections
  reject (maxConnections = 0) "server.max_connections must be at least 1"
  reject (maxConnectionsCeiling < maxConnections)
    ("server.max_connections must be at most " ++ toString maxConnectionsCeiling ++
      " (the systemd LimitNOFILE FD budget)")
  pure { readHeaderTimeout, maxHeaderBytes, bodyReadTimeout, upstreamResponseHeaderTimeout,
         firstEventTimeout, interEventTimeout, modelEventTimeouts, upstreamErrorBodyTimeout,
         responseWriteTimeout, maxConnections }

/-- The library functions that loading calls. -/
structure Libraries where
  parseYaml : String → Except (Option (Nat × Nat)) RawConfig
  parseIp : String → Option IpAddr
  fingerprint : String → String

/-- `Config::try_from`. -/
def tryFrom (libraries : Libraries) (raw : RawConfig) : Except ErrorKind Config := do
  let gatewayKeys ← gatewayKeysOf raw
  let listen ← listenOf libraries.parseIp raw
  let (keys, keyAliases) ← keysOf libraries.fingerprint raw
  let models ← modelsOf raw
  let modelSync ← modelSyncOf raw
  let limits ← limitsOf raw
  let keyFailureHandling ← keyFailureHandlingOf raw
  let usage ← usageOf raw
  let usageHistoryDir ← usageHistoryDirOf raw
  let audit ← auditOf raw
  let server ← serverOf raw
  pure { listen, gatewayKeys, keys, keyAliases, models, modelSync, limits, keyFailureHandling,
         usage, usageHistoryDir, audit, server }

/-! ## Loading -/

/-- A file as it is opened: its metadata, and its text or the error of reading it. -/
structure File where
  isFile : Bool
  mode : Nat
  owner : Nat
  text : Except String String

/-- What stands at the path: a file, or the error of opening it. -/
abbrev Contents := Except String File

/-- `secure_config_metadata`. -/
def secureConfigMetadata (isFile : Bool) (mode owner effectiveUid : Nat) : Bool :=
  isFile && mode = 0o600 && owner = effectiveUid

/-- `open_config`. -/
def openConfig (path : String) (effectiveUid : Nat) (contents : Contents) :
    Except ErrorKind File :=
  match contents with
  | .error source => .error (.io path source)
  | .ok file =>
      if secureConfigMetadata file.isFile (file.mode &&& 0o777) file.owner effectiveUid then
        .ok file
      else .error (.permission path)

/-- `config::load`. -/
def load (libraries : Libraries) (path : String) (effectiveUid : Nat) (contents : Contents) :
    Except ErrorKind Config := do
  let file ← openConfig path effectiveUid contents
  match file.text with
  | .error source => .error (.io path source)
  | .ok text =>
      match libraries.parseYaml text with
      | .error location =>
          let (line, column) := location.getD (0, 0)
          .error (.parse path line column)
      | .ok raw => tryFrom libraries raw

/-! ## What acceptance implies -/

/-- A step of a chain of checks that ended well ended well itself. -/
theorem bind_ok {Error Value Result : Type} {first : Except Error Value}
    {next : Value → Except Error Result} {result : Result}
    (accepted : first >>= next = .ok result) :
    ∃ value, first = .ok value ∧ next value = .ok result := by
  cases first with
  | error kind => cases accepted
  | ok value => exact ⟨value, rfl, accepted⟩

/-- A check that passed did not fail. -/
theorem reject_ok {failed : Bool} {message : String} {done : Unit}
    (passed : reject failed message = .ok done) : failed = false := by
  cases failed with
  | false => rfl
  | true => cases passed

/-- A time that was accepted is positive. -/
theorem positiveSeconds_ok {given : Option Nat} {default value : Nat} {field : String}
    (accepted : positiveSeconds given default field = .ok value) : 0 < value := by
  unfold positiveSeconds at accepted
  obtain ⟨_, nonzero, accepted⟩ := bind_ok accepted
  have nonzero := reject_ok nonzero
  simp only [decide_eq_false_iff_not] at nonzero
  cases accepted
  exact Nat.pos_of_ne_zero nonzero

/-- The bounds on concurrency that validation guarantees. -/
structure Limits.AdmissionBounds (limits : Limits) : Prop where
  concurrency : 0 < limits.maxConcurrency
  concurrencyPermits : limits.maxConcurrency ≤ maxPermits
  queuePermits : limits.maxQueue ≤ maxPermits
  waits : 0 < limits.queueWaitTimeout

/-- The bounds on bodies that validation guarantees. -/
structure Limits.BodyBounds (limits : Limits) : Prop where
  positive : 0 < limits.maxBodyBytes
  fits : limits.maxBodyBytes ≤ limits.maxInflightBodyBytes
  narrow : limits.maxInflightBodyBytes ≤ u32Max

/-- Accepted limits are bounded. -/
theorem limitsOf_bounds {raw : RawConfig} {limits : Limits} (accepted : limitsOf raw = .ok limits) :
    limits.AdmissionBounds ∧ limits.BodyBounds := by
  unfold limitsOf at accepted
  obtain ⟨_, concurrent, accepted⟩ := bind_ok accepted
  obtain ⟨_, concurrency, accepted⟩ := bind_ok accepted
  obtain ⟨_, queued, accepted⟩ := bind_ok accepted
  obtain ⟨queueWaitTimeout, waits, accepted⟩ := bind_ok accepted
  obtain ⟨_, nonzero, accepted⟩ := bind_ok accepted
  obtain ⟨_, _, accepted⟩ := bind_ok accepted
  obtain ⟨_, _, accepted⟩ := bind_ok accepted
  obtain ⟨_, narrow, accepted⟩ := bind_ok accepted
  obtain ⟨_, ordered, accepted⟩ := bind_ok accepted
  have concurrent := reject_ok concurrent
  have concurrency := reject_ok concurrency
  have queued := reject_ok queued
  have nonzero := reject_ok nonzero
  have narrow := reject_ok narrow
  have ordered := reject_ok ordered
  simp only [decide_eq_false_iff_not] at concurrent concurrency queued nonzero narrow ordered
  have waits := positiveSeconds_ok waits
  cases accepted
  refine ⟨⟨?_, ?_, ?_, waits⟩, ⟨?_, ?_, ?_⟩⟩ <;> dsimp only <;> omega

/-- Where each part of an accepted configuration comes from. -/
structure Parts (libraries : Libraries) (raw : RawConfig) (config : Config) : Prop where
  gatewayKeys : gatewayKeysOf raw = .ok config.gatewayKeys
  listen : listenOf libraries.parseIp raw = .ok config.listen
  keys : keysOf libraries.fingerprint raw = .ok (config.keys, config.keyAliases)
  models : modelsOf raw = .ok config.models
  modelSync : modelSyncOf raw = .ok config.modelSync
  limits : limitsOf raw = .ok config.limits
  keyFailureHandling : keyFailureHandlingOf raw = .ok config.keyFailureHandling
  audit : auditOf raw = .ok config.audit
  server : serverOf raw = .ok config.server

/-- What an accepted file is made of. -/
theorem tryFrom_parts {libraries : Libraries} {raw : RawConfig} {config : Config}
    (accepted : tryFrom libraries raw = .ok config) : Parts libraries raw config := by
  unfold tryFrom at accepted
  obtain ⟨gatewayKeys, gatewayKeyed, accepted⟩ := bind_ok accepted
  obtain ⟨listen, listened, accepted⟩ := bind_ok accepted
  obtain ⟨⟨keys, keyAliases⟩, keyed, accepted⟩ := bind_ok accepted
  obtain ⟨models, modelled, accepted⟩ := bind_ok accepted
  obtain ⟨modelSync, synchronized, accepted⟩ := bind_ok accepted
  obtain ⟨limits, limited, accepted⟩ := bind_ok accepted
  obtain ⟨keyFailureHandling, handled, accepted⟩ := bind_ok accepted
  obtain ⟨usage, _, accepted⟩ := bind_ok accepted
  obtain ⟨usageHistoryDir, _, accepted⟩ := bind_ok accepted
  obtain ⟨audit, audited, accepted⟩ := bind_ok accepted
  obtain ⟨server, served, accepted⟩ := bind_ok accepted
  cases accepted
  exact ⟨gatewayKeyed, listened, keyed, modelled, synchronized, limited, handled, audited, served⟩

/-- The limits of an accepted configuration keep the bounds on bodies. -/
theorem tryFrom_bounds {libraries : Libraries} {raw : RawConfig} {config : Config}
    (accepted : tryFrom libraries raw = .ok config) : config.limits.BodyBounds :=
  (limitsOf_bounds (tryFrom_parts accepted).limits).2

end Orihsus.Configuration
