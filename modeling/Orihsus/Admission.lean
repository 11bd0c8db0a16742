import Orihsus.Headers
import Orihsus.Runs
import Orihsus.Runtime

/-!
# Authentication around admission

`proxy_request` of `src/gateway.rs` checks the client's credential, waits for
admission, checks it again and then takes the snapshot it serves the request with.
A check reads a snapshot of its own, and a second one for the other header of the
messages endpoint, so reloads can fall between any two of these steps. One request
is followed through any interleaving with reloads and with other uses of the pool.

The second check guards against a rotation during the wait. It does not guard
against one that is published after it and before the snapshot is taken.
-/

namespace Orihsus.Gateway

open Pool (PoolPolicy RequestAttempts Secret System)

/-- The upstream APIs that a client request may be proxied to. -/
inductive UpstreamApi where
  | chatCompletions
  | messages
  | responses
  deriving DecidableEq, Repr

structure GatewayIdentity where
  name : String
  fallbackSessionId : String
  deriving DecidableEq, Repr

/-- Credentials are compared byte by byte. -/
def GatewayKey.accepts (key : GatewayKey) (given : List Char) : Bool :=
  Text.asBytes given == Text.asBytes key.token.asStr.toList

/-- `authenticate_gateway_key`: every key is compared, and the last match counts. -/
def authenticateGatewayKey (fingerprint : String → String) (keys : List GatewayKey)
    (given : List Char) : Option GatewayIdentity :=
  keys.foldl (fun matched key =>
    if key.accepts given then
      some {
        name := key.name
        fallbackSessionId := "orihsus-" ++ fingerprint (String.ofList given) }
    else matched) none

/-- The credential in the Authorization header, or an empty one. -/
def bearerToken (headers : HeaderMap) : List Char :=
  (((headers.get "authorization").bind toStr).bind (Text.stripStart "Bearer ".toList)).getD []

/-- The credential in the x-api-key header, or an empty one. -/
def apiKeyToken (headers : HeaderMap) : List Char :=
  ((headers.get "x-api-key").bind toStr).getD []

/-- `check_auth`, on the snapshot it reads. -/
def checkAuth (fingerprint : String → String) (snapshot : RuntimeState) (headers : HeaderMap) :
    Option GatewayIdentity :=
  authenticateGatewayKey fingerprint snapshot.gatewayKeys (bearerToken headers)

/-- The second half of `check_proxy_auth`, on the snapshot it reads. -/
def checkApiKey (fingerprint : String → String) (snapshot : RuntimeState) (headers : HeaderMap) :
    Option GatewayIdentity :=
  authenticateGatewayKey fingerprint snapshot.gatewayKeys (apiKeyToken headers)

/-- The check before admission or the one after it. -/
inductive Pass where
  | first
  | second
  deriving DecidableEq, Repr

/-- Where the request stands. `checking` and `rechecking` are about to read the
snapshot for the one header or the other. -/
inductive Progress where
  | checking (pass : Pass)
  | rechecking (pass : Pass)
  | queued
  | revalidated (identity : GatewayIdentity)
  | serving (snapshot : RuntimeState) (attempts : RequestAttempts) (identity : GatewayIdentity)
  | rejected (status : Nat)
  deriving DecidableEq, Repr

/-- The store and the followed request. -/
structure Front where
  store : Store
  progress : Progress
  deriving DecidableEq, Repr

/-- A step of the request, of a reload or of another user of the pool. -/
inductive FrontAction where
  | check
  | recheck
  | acquire
  | refuse
  | serve
  | update (state : RuntimeState)
  | updateModels (models : List String)
  | updateWithKeys (keys : List Secret) (state : RuntimeState)
  | other (action : Pool.Action)

/-- What is fixed for a run: the pool's policy and fingerprint, and the request. -/
structure Client where
  policy : PoolPolicy
  fingerprint : String → String
  headers : HeaderMap
  api : UpstreamApi

namespace Client

variable (client : Client)

/-- Where a check that succeeded leads. -/
def passed (identity : GatewayIdentity) : Pass → Progress
  | .first => .queued
  | .second => .revalidated identity

/-- The Authorization half of `check_proxy_auth`. -/
def checked (snapshot : RuntimeState) (pass : Pass) : Progress :=
  match checkAuth client.fingerprint snapshot client.headers with
  | some identity => passed identity pass
  | none => if client.api = .messages then .rechecking pass else .rejected 401

/-- The x-api-key half of `check_proxy_auth`. -/
def rechecked (snapshot : RuntimeState) (pass : Pass) : Progress :=
  match checkApiKey client.fingerprint snapshot client.headers with
  | some identity => passed identity pass
  | none => .rejected 401

/-- One step, if it is enabled. A refused reload changes nothing, and only a reload
replaces the pool's keys. -/
def perform (front : Front) : FrontAction → Option Front
  | .check =>
      match front.progress with
      | .checking pass => some { front with progress := client.checked front.store.snapshot pass }
      | _ => none
  | .recheck =>
      match front.progress with
      | .rechecking pass =>
          some { front with progress := client.rechecked front.store.snapshot pass }
      | _ => none
  | .acquire =>
      match front.progress with
      | .queued => some { front with progress := .checking .second }
      | _ => none
  | .refuse =>
      match front.progress with
      | .queued => some { front with progress := .rejected 503 }
      | _ => none
  | .serve =>
      match front.progress with
      | .revalidated identity =>
          let taken := front.store.snapshotAndRequest client.policy
          some { front with progress := .serving taken.1 taken.2 identity }
      | _ => none
  | .update state => some { front with store := front.store.update state }
  | .updateModels models => some { front with store := front.store.updateModels models }
  | .updateWithKeys keys state =>
      match front.store.updateWithKeys client.fingerprint keys state with
      | .ok store => some { front with store := store }
      | .error _ => some front
  | .other action =>
      match action with
      | .replaceKeys _ => none
      | action =>
          (front.store.system.perform client.policy client.fingerprint action).map fun result =>
            { front with store := { front.store with system := result.1 } }

/-- The step relation of the runs. -/
def Step (before : Front) (action : FrontAction) (after : Front) : Prop :=
  client.perform before action = some after

/-! ## Served under an authenticating snapshot -/

/-- The credentials the request presents to its endpoint. -/
def presented : List (List Char) :=
  bearerToken client.headers :: if client.api = .messages then [apiKeyToken client.headers] else []

/-- Some of these keys has a token equal to a credential that the request presents. -/
def authenticatedBy (keys : List GatewayKey) : Bool :=
  keys.any fun key => client.presented.any key.accepts

/-- The state that a step publishes, if it is a reload that is accepted. A new model
list leaves the gateway keys as they are. -/
def published (before : Front) : FrontAction → Option RuntimeState
  | .update state => some state
  | .updateWithKeys keys state =>
      match before.store.updateWithKeys client.fingerprint keys state with
      | .ok _ => some state
      | .error _ => none
  | _ => none

/-- A reload that lands between the second check and the snapshot keeps a credential
that the request presents. -/
def KeepsCredential (taken : Runs.Transition Front FrontAction) : Prop :=
  ∀ identity state, taken.before.progress = .revalidated identity →
    client.published taken.before taken.label = some state →
    client.authenticatedBy state.gatewayKeys = true

/-- The request is validated by the keys that are published, or is served under a
snapshot whose keys validate it. Only the messages endpoint reads the second header. -/
def Validated (front : Front) : Prop :=
  match front.progress with
  | .rechecking _ => client.api = .messages
  | .revalidated _ => client.authenticatedBy front.store.runtime.gatewayKeys = true
  | .serving snapshot _ _ => client.authenticatedBy snapshot.gatewayKeys = true
  | _ => True

variable {client} {before after first last : Front} {action : FrontAction}
  {trace : List (Runs.Transition Front FrontAction)}

/-- A credential that is accepted is the token of one of the keys. -/
theorem authenticate_accepts {fingerprint : String → String} {keys : List GatewayKey}
    {given : List Char} {identity : GatewayIdentity}
    (accepted : authenticateGatewayKey fingerprint keys given = some identity) :
    ∃ key ∈ keys, key.accepts given = true := by
  by_contra none
  have refused : ∀ key ∈ keys, key.accepts given = false := by
    intro key member
    by_contra accepts
    exact none ⟨key, member, by simpa using accepts⟩
  have nothing : authenticateGatewayKey fingerprint keys given = Option.none := by
    unfold authenticateGatewayKey
    clear none accepted
    induction keys with
    | nil => rfl
    | cons key rest inductionHypothesis =>
      rw [List.foldl_cons, refused key List.mem_cons_self, if_neg Bool.false_ne_true]
      exact inductionHypothesis fun other member => refused other (List.mem_cons_of_mem _ member)
  rw [nothing] at accepted
  cases accepted

/-- One accepted credential is enough. -/
theorem authenticatedBy_accepts {keys : List GatewayKey} {given : List Char}
    (shown : given ∈ client.presented) (accepted : ∃ key ∈ keys, key.accepts given = true) :
    client.authenticatedBy keys = true := by
  obtain ⟨key, member, accepts⟩ := accepted
  exact List.any_eq_true.mpr ⟨key, member, List.any_eq_true.mpr ⟨given, shown, accepts⟩⟩

/-- A check validates the request by the snapshot it reads. -/
theorem checked_validated (store : Store) (pass : Pass) :
    client.Validated ⟨store, client.checked store.snapshot pass⟩ := by
  unfold checked
  split
  · rename_i identity accepted
    cases pass with
    | first => trivial
    | second =>
      exact authenticatedBy_accepts List.mem_cons_self (authenticate_accepts accepted)
  · split
    · rename_i messages
      exact messages
    · trivial

/-- The same for the x-api-key header, which only the messages endpoint gets to. -/
theorem rechecked_validated (messages : client.api = .messages) (store : Store) (pass : Pass) :
    client.Validated ⟨store, client.rechecked store.snapshot pass⟩ := by
  unfold rechecked
  split
  · rename_i identity accepted
    cases pass with
    | first => trivial
    | second =>
      refine authenticatedBy_accepts ?_ (authenticate_accepts accepted)
      simp [presented, messages]
  · trivial

/-- A step that keeps the gateway keys keeps a validated request validated. -/
theorem validated_store {store : Store} (validated : client.Validated before)
    (same : store.runtime.gatewayKeys = before.store.runtime.gatewayKeys) :
    client.Validated { before with store := store } := by
  unfold Validated at validated ⊢
  dsimp only
  rw [same]
  exact validated

/-- A reload keeps a validated request validated if it keeps its credential. -/
theorem validated_published {store : Store}
    (validated : client.Validated before)
    (kept : ∀ identity, before.progress = .revalidated identity →
      client.authenticatedBy store.runtime.gatewayKeys = true) :
    client.Validated { before with store := store } := by
  unfold Validated at validated ⊢
  dsimp only
  cases progress : before.progress with
  | revalidated identity => exact kept identity progress
  | serving | rechecking =>
    rw [progress] at validated
    exact validated
  | checking pass => trivial
  | queued => trivial
  | rejected status => trivial

/-- One step keeps a validated request validated, unless it is a reload between the
second check and the snapshot that drops its credential. -/
theorem step_validated (stepped : client.Step before action after)
    (keeps : client.KeepsCredential ⟨before, action, after⟩)
    (validated : client.Validated before) : client.Validated after := by
  unfold Step at stepped
  cases action with
  | check =>
    simp only [perform] at stepped
    split at stepped
    · cases stepped
      exact checked_validated before.store _
    · cases stepped
  | recheck =>
    simp only [perform] at stepped
    split at stepped
    · rename_i pass rechecking
      cases stepped
      unfold Validated at validated
      rw [rechecking] at validated
      exact rechecked_validated validated before.store pass
    · cases stepped
  | acquire | refuse =>
    simp only [perform] at stepped
    split at stepped
    · cases stepped
      trivial
    · cases stepped
  | serve =>
    simp only [perform] at stepped
    split at stepped
    · rename_i identity revalidated
      cases stepped
      unfold Validated at validated
      rw [revalidated] at validated
      exact validated
    · cases stepped
  | update state =>
    cases stepped
    exact validated_published validated fun identity revalidated =>
      keeps identity state revalidated rfl
  | updateModels models =>
    cases stepped
    exact validated_store validated rfl
  | updateWithKeys keys state =>
    simp only [perform] at stepped
    split at stepped
    · rename_i store accepted
      cases stepped
      have publishes : store.runtime = state := by
        unfold Store.updateWithKeys at accepted
        cases replaced : before.store.system.pool.replaceKeys client.fingerprint keys with
        | error error =>
          rw [replaced] at accepted
          cases accepted
        | ok pool =>
          rw [replaced] at accepted
          cases accepted
          rfl
      refine validated_published validated fun identity revalidated => ?_
      rw [publishes]
      refine keeps identity state revalidated ?_
      simp only [published, accepted]
    · cases stepped
      exact validated
  | other action =>
    simp only [perform] at stepped
    split at stepped
    · cases stepped
    · obtain ⟨result, _, rfl⟩ := Option.map_eq_some_iff.mp stepped
      exact validated_store validated rfl

/-- In every run of a request from its first check on, in which each reload that
lands between a successful second check and the snapshot keeps a credential that
the request presents, the request is served only under a snapshot whose keys have a
token equal to such a credential. Reloads at any other instant are free.

Proof: every step of the run keeps the validation. -/
theorem served_under_authenticating_snapshot
    (arrives : first.progress = .checking .first)
    (run : Runs.Run client.Step first trace last)
    (keeps : ∀ taken ∈ trace, client.KeepsCredential taken) {snapshot : RuntimeState}
    {attempts : RequestAttempts} {identity : GatewayIdentity}
    (serving : last.progress = .serving snapshot attempts identity) :
    client.authenticatedBy snapshot.gatewayKeys = true := by
  have begins : client.Validated first := by
    unfold Validated
    rw [arrives]
    trivial
  have validated : client.Validated last :=
    run.preserved client.Validated begins fun taken member stepped =>
      step_validated stepped (keeps taken member)
  unfold Validated at validated
  rw [serving] at validated
  exact validated

/-! ## A rotation after the second check -/

/-- A runtime state with one gateway key. -/
def runtimeOf (token : String) : RuntimeState where
  gatewayKeys := [⟨"client", ⟨token⟩⟩]
  baseUrl := "https://upstream"
  maxBodyBytes := 1024
  keyAliases := []
  models := ["m"]

/-- A request that presents the token `old`. -/
def sampleClient : Client where
  policy := System.samplePolicy
  fingerprint := System.sampleFingerprint
  headers := [("authorization".toList, Text.asBytes "Bearer old".toList)]
  api := .chatCompletions

/-- The gateway before the rotation, with the upstream key `a`. -/
def sampleFront : Front where
  store := ⟨runtimeOf "old", System.onlyA⟩
  progress := .checking .first

/-- A rotation to the token `new` and the upstream key `b`. -/
def rotation : FrontAction := .updateWithKeys [⟨"b"⟩] (runtimeOf "new")

/-- The rotation is published between the second check and the snapshot. -/
def rotatedAfterCheck : List FrontAction := [.check, .acquire, .check, rotation, .serve]

/-- The request is then served with the new upstream key, under a snapshot whose
gateway keys do not have its token. -/
theorem rotated_token_served :
    Runs.Run sampleClient.Step sampleFront
        (Runs.steps sampleClient.perform sampleFront rotatedAfterCheck)
        (Runs.reached sampleClient.perform sampleFront rotatedAfterCheck) ∧
      ∃ attempts identity,
        (Runs.reached sampleClient.perform sampleFront rotatedAfterCheck).progress =
            .serving (runtimeOf "new") attempts identity ∧
          attempts.candidates = [⟨"b", ⟨"b"⟩⟩] ∧
          sampleClient.authenticatedBy (runtimeOf "new").gatewayKeys = false := by
  have enabled : (Runs.record sampleClient.perform sampleFront rotatedAfterCheck).isSome := by
    decide +kernel
  refine ⟨Runs.replay_run enabled, ⟨[⟨"b", ⟨"b"⟩⟩], [], 2, 30, none⟩,
    ⟨"client", "orihsus-old"⟩, ?_, rfl, ?_⟩
  · decide +kernel
  · decide +kernel

/-- A reload of the upstream keys that keeps the token, at the same instant. -/
def reloadedAfterCheck : List FrontAction :=
  [.check, .acquire, .check, .updateWithKeys [⟨"b"⟩] (runtimeOf "old"), .serve]

/-- The request is served with the new upstream key, under a snapshot that has its
token. -/
theorem served_under_authenticating_snapshot_reloaded :
    (Runs.reached sampleClient.perform sampleFront reloadedAfterCheck).progress =
        .serving (runtimeOf "old") ⟨[⟨"b", ⟨"b"⟩⟩], [], 2, 30, none⟩
          ⟨"client", "orihsus-old"⟩ ∧
      sampleClient.authenticatedBy (runtimeOf "old").gatewayKeys = true := by
  have enabled : (Runs.record sampleClient.perform sampleFront reloadedAfterCheck).isSome := by
    decide +kernel
  have serving : (Runs.reached sampleClient.perform sampleFront reloadedAfterCheck).progress =
      .serving (runtimeOf "old") ⟨[⟨"b", ⟨"b"⟩⟩], [], 2, 30, none⟩
        ⟨"client", "orihsus-old"⟩ := by decide +kernel
  have keeps : ∀ taken ∈ Runs.steps sampleClient.perform sampleFront reloadedAfterCheck,
      sampleClient.KeepsCredential taken := by
    intro taken member identity state revalidated publishes
    have label := Runs.steps_label member
    simp only [reloadedAfterCheck, List.mem_cons, List.not_mem_nil, or_false] at label
    rcases label with check | acquire | check | reload | serve
    · rw [check] at publishes
      cases publishes
    · rw [acquire] at publishes
      cases publishes
    · rw [check] at publishes
      cases publishes
    · rw [reload] at publishes
      simp only [published] at publishes
      split at publishes
      · cases publishes
        decide +kernel
      · cases publishes
    · rw [serve] at publishes
      cases publishes
  exact ⟨serving, served_under_authenticating_snapshot rfl (Runs.replay_run enabled) keeps serving⟩

end Client

end Orihsus.Gateway
