import Orihsus.PoolRuns

/-!
# The runtime store

`RuntimeStore` of `src/gateway.rs` holds the hot-reloadable fields behind one lock,
which also covers the replacement of the pool's keys. Each of its methods takes the
lock once and is one atomic function of the store and the pool.
-/

namespace Orihsus.Gateway

open Pool (PoolError PoolPolicy RequestAttempts Secret System)

/-- A client credential and its audit name. -/
structure GatewayKey where
  name : String
  token : Secret
  deriving DecidableEq, Repr

/-- `RuntimeState`: the fields a request captures as one snapshot. -/
structure RuntimeState where
  gatewayKeys : List GatewayKey
  baseUrl : String
  maxBodyBytes : Nat
  keyAliases : List (String × String)
  models : List String
  deriving DecidableEq, Repr

/-- The published state and the pool that is replaced together with it. -/
structure Store where
  runtime : RuntimeState
  system : System
  deriving DecidableEq, Repr

namespace Store

/-- `RuntimeStore::snapshot`. -/
def snapshot (store : Store) : RuntimeState := store.runtime

/-- `RuntimeStore::snapshot_and_request`: the snapshot and the tracker of the same
generation. -/
def snapshotAndRequest (policy : PoolPolicy) (store : Store) : RuntimeState × RequestAttempts :=
  (store.runtime, store.system.pool.requestWithModel policy none store.system.clock)

/-- `RuntimeStore::update`. -/
def update (store : Store) (state : RuntimeState) : Store := { store with runtime := state }

/-- `RuntimeStore::update_models`. -/
def updateModels (store : Store) (models : List String) : Store :=
  { store with runtime := { store.runtime with models := models } }

/-- `RuntimeStore::update_with_keys`: a refused key list leaves everything as it was. -/
def updateWithKeys (fingerprint : String → String) (store : Store) (keys : List Secret)
    (state : RuntimeState) : Except PoolError Store :=
  (store.system.pool.replaceKeys fingerprint keys).map fun pool =>
    { runtime := state, system := { store.system with pool := pool } }

end Store

end Orihsus.Gateway
