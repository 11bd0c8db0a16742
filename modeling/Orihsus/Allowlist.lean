import Orihsus.ModelSync

/-!
# The published model list

A model list comes from a configuration file or from a fetched document, and two loops
check it: `checkModels` and `parseItems`. They let the same lists pass, so whichever task
publishes last, the published list can serve as an allowlist. The callback of a reload
only ever chooses between the list of the file and the one that is published.

A fetched document is taken as a whole or not at all. The monitor writes to the store
only what it parsed out of its latest fetch, and writes nothing but the models.
-/

namespace Orihsus.Reload

open Orihsus.Configuration (Config ErrorKind Libraries ModelSync RawConfig blank byteLen
  maxModelBytes bind_ok reject_ok)
open Gateway (Json Store)

/-! ## What the two loops check -/

/-- The models that a loop accepts after those it has seen. -/
structure Fresh (seen models : List String) : Prop where
  distinct : models.Nodup
  unseen : ∀ model ∈ models, model ∉ seen
  named : ∀ model ∈ models, blank model = false ∧ byteLen model ≤ maxModelBytes

/-- What a published model list satisfies. -/
structure Allowlist (models : List String) : Prop where
  nonempty : models ≠ []
  distinct : models.Nodup
  named : ∀ model ∈ models, blank model = false ∧ byteLen model ≤ maxModelBytes

variable {seen models : List String} {model : String}

/-- No models are fresh. -/
theorem fresh_nil : Fresh seen [] := ⟨List.nodup_nil, nofun, nofun⟩

/-- One round of either loop. -/
theorem fresh_cons : Fresh seen (model :: models) ↔
    (blank model = false ∧ byteLen model ≤ maxModelBytes) ∧ model ∉ seen ∧
      Fresh (model :: seen) models := by
  constructor
  · intro fresh
    obtain ⟨absent, distinct⟩ := List.nodup_cons.mp fresh.distinct
    refine ⟨fresh.named _ List.mem_cons_self, fresh.unseen _ List.mem_cons_self, distinct, ?_, ?_⟩
    · intro other member listed
      rcases List.mem_cons.mp listed with rfl | earlier
      · exact absent member
      · exact fresh.unseen other (List.mem_cons_of_mem _ member) earlier
    · intro other member
      exact fresh.named other (List.mem_cons_of_mem _ member)
  · rintro ⟨named, unseen, fresh⟩
    refine ⟨List.nodup_cons.mpr ⟨?_, fresh.distinct⟩, ?_, ?_⟩
    · intro member
      exact fresh.unseen model member List.mem_cons_self
    · intro other member
      rcases List.mem_cons.mp member with rfl | later
      · exact unseen
      · exact fun earlier => fresh.unseen other later (List.mem_cons_of_mem _ earlier)
    · intro other member
      rcases List.mem_cons.mp member with rfl | later
      · exact named
      · exact fresh.named other later

/-- Fresh models are an allowlist. -/
theorem Fresh.allowlist (fresh : Fresh [] models) (nonempty : models ≠ []) : Allowlist models :=
  ⟨nonempty, fresh.distinct, fresh.named⟩

/-- Models that pass are fresh. -/
theorem checkModels_ok {done : Unit} (passed : Configuration.checkModels seen models = .ok done) :
    Fresh seen models := by
  induction models generalizing seen with
  | nil => exact fresh_nil
  | cons model rest inductionHypothesis =>
    unfold Configuration.checkModels at passed
    obtain ⟨_, given, passed⟩ := bind_ok passed
    obtain ⟨_, short, passed⟩ := bind_ok passed
    obtain ⟨_, new, passed⟩ := bind_ok passed
    have short := reject_ok short
    have new := reject_ok new
    refine fresh_cons.mpr ⟨⟨reject_ok given, ?_⟩, ?_, inductionHypothesis passed⟩
    · simpa using short
    · simpa using new

/-- An accepted list is an allowlist. -/
theorem modelsOf_ok {raw : RawConfig} (accepted : Configuration.modelsOf raw = .ok models) :
    Allowlist models := by
  unfold Configuration.modelsOf at accepted
  split at accepted
  · obtain ⟨_, nonempty, accepted⟩ := bind_ok accepted
    obtain ⟨_, checked, accepted⟩ := bind_ok accepted
    have nonempty := reject_ok nonempty
    cases accepted
    refine (checkModels_ok checked).allowlist ?_
    intro empty
    rw [empty] at nonempty
    cases nonempty
  · cases accepted
    exact ⟨by decide, by decide, by decide⟩

/-- The loader of the program accepts only what validation accepts. -/
theorem load_ok {libraries : Libraries} {path : String} {effectiveUid : Nat}
    {contents : Configuration.Contents} {config : Config}
    (loaded : Configuration.load libraries path effectiveUid contents = .ok config) :
    ∃ raw, Configuration.tryFrom libraries raw = .ok config := by
  unfold Configuration.load at loaded
  obtain ⟨file, _, loaded⟩ := bind_ok loaded
  split at loaded
  · cases loaded
  · split at loaded
    · cases loaded
    · exact ⟨_, loaded⟩

/-- So is that of an accepted file. -/
theorem tryFrom_models {libraries : Libraries} {raw : RawConfig} {config : Config}
    (accepted : Configuration.tryFrom libraries raw = .ok config) : Allowlist config.models :=
  modelsOf_ok (Configuration.tryFrom_parts accepted).models

/-- The id of an element of a model document. -/
def itemId (item : Json) : Option String := (item.index "id").asStr

/-- One round of the loop. -/
theorem parseItems_cons {item : Json} {rest : List Json} :
    parseItems seen (item :: rest) = some models ↔
      ∃ id later, itemId item = some id ∧ (blank id = false ∧ byteLen id ≤ maxModelBytes) ∧
        id ∉ seen ∧ parseItems (id :: seen) rest = some later ∧ id :: later = models := by
  constructor
  · intro parsed
    obtain ⟨id, identified, rest⟩ := Option.bind_eq_some_iff.mp parsed
    obtain ⟨valid, rest⟩ := Runs.guard_bind.mp rest
    obtain ⟨later, parsed, same⟩ := Option.bind_eq_some_iff.mp rest
    simp only [Bool.not_eq_true', Bool.or_eq_false_iff, decide_eq_false_iff_not,
      Nat.not_lt] at valid
    exact ⟨id, later, identified, valid.1, by simpa using valid.2, parsed, Option.some.inj same⟩
  · rintro ⟨id, later, identified, ⟨given, short⟩, unseen, parsed, same⟩
    refine Option.bind_eq_some_iff.mpr ⟨id, identified, Runs.guard_bind.mpr ⟨?_,
      Option.bind_eq_some_iff.mpr ⟨later, parsed, congrArg some same⟩⟩⟩
    simp [given, unseen, Nat.not_lt.mpr short]

/-- The loop accepts a list exactly if every element has an id and the ids are fresh. -/
theorem parseItems_iff {items : List Json} : parseItems seen items = some models ↔
    items.map itemId = models.map some ∧ Fresh seen models := by
  induction items generalizing seen models with
  | nil =>
    constructor
    · intro parsed
      cases parsed
      exact ⟨rfl, fresh_nil⟩
    · rintro ⟨same, _⟩
      rw [List.map_eq_nil_iff.mp same.symm]
      rfl
  | cons item rest inductionHypothesis =>
    rw [parseItems_cons]
    constructor
    · rintro ⟨id, later, identified, named, unseen, parsed, rfl⟩
      obtain ⟨same, fresh⟩ := inductionHypothesis.mp parsed
      refine ⟨?_, fresh_cons.mpr ⟨named, unseen, fresh⟩⟩
      rw [List.map_cons, List.map_cons, identified, same]
    · rintro ⟨same, fresh⟩
      cases models with
      | nil => cases same
      | cons id later =>
        obtain ⟨identified, same⟩ := List.cons.inj same
        obtain ⟨named, unseen, fresh⟩ := fresh_cons.mp fresh
        exact ⟨id, later, identified, named, unseen, inductionHypothesis.mpr ⟨same, fresh⟩, rfl⟩

/-- A document that lists exactly these models. -/
def Lists (parseJson : List UInt8 → Option Json) (body : List UInt8) (models : List String) :
    Prop :=
  ∃ root items, parseJson body = some root ∧ root.index "data" = .array items ∧
    items.map itemId = models.map some ∧ Allowlist models

/-- A document is parsed exactly if all of it is good, so one bad element refuses it. -/
theorem parseModels_iff {parseJson : List UInt8 → Option Json} {body : List UInt8} :
    parseModels parseJson body = some models ↔ Lists parseJson body models := by
  simp only [parseModels, bind, Option.bind_eq_some_iff]
  constructor
  · rintro ⟨root, parsed, listed⟩
    split at listed
    · rename_i items array
      split at listed
      · cases listed
      · rename_i nonempty
        obtain ⟨same, fresh⟩ := parseItems_iff.mp listed
        refine ⟨root, items, parsed, array, same, fresh.allowlist ?_⟩
        intro empty
        rw [empty, List.map_nil, List.map_eq_nil_iff] at same
        exact nonempty (by rw [same]; rfl)
    · cases listed
  · rintro ⟨root, items, parsed, array, same, allowlist⟩
    refine ⟨root, parsed, ?_⟩
    have nonempty : items.isEmpty = false := by
      cases items with
      | nil => exact absurd (List.map_eq_nil_iff.mp same.symm) allowlist.nonempty
      | cons item rest => rfl
    simp only [array, nonempty]
    exact parseItems_iff.mpr ⟨same, allowlist.distinct, nofun, allowlist.named⟩

/-! ## What the tasks hold and publish -/

/-- The lists that the worker carries towards a publication. -/
def Worker.lists : Worker → List (List String)
  | .applying snapshot | .replaced snapshot _ => [snapshot.models]
  | .composed _ _ models => [models]
  | _ => []

/-- The list that the monitor is about to publish. -/
def Monitor.lists : Monitor → List (List String)
  | .matched _ models => [models]
  | _ => []

/-- The monitor holds neither a response nor a list. -/
def Monitor.holdsNothing : Monitor → Bool
  | .fetched _ _ | .matched _ _ => false
  | .starting | .disabled | .fetching _ | .resting _ | .stopped => true

/-- The published list and every list on its way there are allowlists. -/
structure Service.Listed {Contents : Type} (service : Service Contents) : Prop where
  published : Allowlist service.store.snapshot.models
  carried : ∀ models ∈ service.worker.lists, Allowlist models
  parsed : ∀ models ∈ service.monitor.lists, Allowlist models

namespace Deployment

variable {Contents : Type} {deployment : Deployment Contents}
  {before after first last : Service Contents} {action : Action Contents}
  {trace : List (Runs.Transition (Service Contents) (Action Contents))}

/-- Every configuration that the loader accepts has an allowlist. -/
def Validates (deployment : Deployment Contents) : Prop :=
  ∀ file config, deployment.load file = .ok config → Allowlist config.models

/-- A step of the reload worker publishes an allowlist, if it publishes. -/
theorem work_listed (validates : deployment.Validates) (works : deployment.Works before after)
    (listed : before.Listed) : after.Listed := by
  cases works with
  | drain => exact ⟨listed.published, listed.carried, listed.parsed⟩
  | accept loading loaded hot =>
    refine ⟨listed.published, ?_, listed.parsed⟩
    rintro models (member : models ∈ [_])
    rw [List.mem_singleton.mp member]
    exact validates _ _ loaded
  | replace applying =>
    refine ⟨listed.published, ?_, listed.parsed⟩
    have carried := listed.carried
    rw [applying] at carried
    exact carried
  | @compose snapshot previous replaced =>
    refine ⟨listed.published, ?_, listed.parsed⟩
    rintro models (member : models ∈ [_])
    rw [List.mem_singleton.mp member, chosenModels]
    split
    · exact listed.published
    · refine listed.carried _ ?_
      rw [replaced]
      exact List.mem_singleton.mpr rfl
  | @publish snapshot previous models store composed updated =>
    obtain ⟨pool, _, rfl⟩ := updateWithKeys_ok updated
    refine ⟨listed.carried models ?_, fun _ member => absurd member List.not_mem_nil,
      listed.parsed⟩
    rw [composed]
    exact List.mem_singleton.mpr rfl
  | receive | wake | drained | quiet | again | giveUp | refuse | finish | restore =>
    exact ⟨listed.published, fun _ member => absurd member List.not_mem_nil, listed.parsed⟩

/-- A comparison that succeeds holds what was parsed out of the fetched body. -/
theorem compared_lists {generation : ModelSync} {result : Except ModelFetchError (List UInt8)}
    (member : models ∈ (deployment.compared before generation result).lists) :
    ∃ body, result = .ok body ∧ parseModels deployment.parseJson body = some models := by
  unfold compared at member
  split at member
  · split at member
    · split at member
      · rename_i body _ parsed parses
        rw [List.mem_singleton.mp member]
        exact ⟨body, rfl, parses⟩
      · cases member
    · cases member
  · cases member

/-- No step of either task leaves the published list or one on its way other than an
allowlist. -/
theorem step_listed (validates : deployment.Validates)
    (stepped : deployment.Step before action after) (listed : before.Listed) : after.Listed := by
  cases step_cases stepped with
  | write | ignore | pool => exact ⟨listed.published, listed.carried, listed.parsed⟩
  | send sent =>
    unfold Service.trySend
    split <;> exact ⟨listed.published, listed.carried, listed.parsed⟩
  | work works => exact work_listed validates works listed
  | @tend _ monitor seen _ _ _ _ _ unmatched =>
    refine ⟨listed.published, listed.carried, ?_⟩
    intro models member
    cases monitor with
    | matched generation parsed => exact absurd rfl (unmatched generation parsed)
    | _ => cases member
  | compare fetched =>
    refine ⟨listed.published, listed.carried, ?_⟩
    intro models member
    obtain ⟨body, _, parsed⟩ := compared_lists member
    obtain ⟨_, _, _, _, _, allowlist⟩ := parseModels_iff.mp parsed
    exact allowlist
  | @update generation models matched =>
    refine ⟨listed.parsed models ?_, listed.carried, nofun⟩
    rw [matched]
    exact List.mem_singleton.mpr rfl

/-- Every run publishes allowlists. -/
theorem run_listed (validates : deployment.Validates)
    (run : Runs.Run deployment.Step first trace last) (listed : first.Listed) : last.Listed :=
  run.invariant Service.Listed listed fun _ _ _ => step_listed validates

/-! ## What the monitor writes -/

/-- The latest fetch after an action. -/
def fetchedBy (latest : Option (Except ModelFetchError (List UInt8))) :
    Action Contents → Option (Except ModelFetchError (List UInt8))
  | .fetch result => some result
  | _ => latest

/-- The result of the latest fetch of a run. -/
def lastFetch (trace : List (Runs.Transition (Service Contents) (Action Contents))) :
    Option (Except ModelFetchError (List UInt8)) :=
  trace.foldl (fun latest taken => fetchedBy latest taken.label) none

/-- What the monitor holds comes from the latest fetch. -/
structure Informed (deployment : Deployment Contents)
    (latest : Option (Except ModelFetchError (List UInt8))) (service : Service Contents) :
    Prop where
  fetched : ∀ generation result, service.monitor = .fetched generation result →
    latest = some result
  parsed : ∀ models ∈ service.monitor.lists, ∃ body, latest = some (.ok body) ∧
    parseModels deployment.parseJson body = some models

variable {latest : Option (Except ModelFetchError (List UInt8))}

/-- A monitor that holds neither a response nor a list has nothing to account for. -/
theorem informed_idle (idle : after.monitor.holdsNothing = true) :
    Informed deployment latest after := by
  constructor
  · intro generation result fetched
    rw [fetched] at idle
    cases idle
  · intro models member
    cases phase : after.monitor with
    | matched generation parsed =>
      rw [phase] at idle
      cases idle
    | starting | disabled | fetching | fetched | resting | stopped =>
      rw [phase] at member
      cases member

/-- A step of the monitor's own accounts for what it holds. -/
theorem sync_informed (synced : deployment.sync before = some after)
    (informed : Informed deployment latest before) : Informed deployment latest after := by
  unfold sync at synced
  cases phase : before.monitor with
  | starting =>
    simp only [phase] at synced
    cases synced
    by_cases enabled : before.modelSync.value.enabled = true
    · rw [if_pos enabled]
      exact informed_idle rfl
    · rw [if_neg enabled]
      exact informed_idle rfl
  | fetched generation result =>
    simp only [phase] at synced
    cases synced
    constructor
    · intro other otherResult fetched
      rcases @compared_cases _ deployment before generation result with ⟨_, matched, _⟩ | ⟨_, rests⟩
      · rw [matched] at fetched
        cases fetched
      · rw [rests] at fetched
        cases fetched
    · intro models member
      obtain ⟨body, rfl, parses⟩ := compared_lists member
      exact ⟨body, informed.fetched generation _ phase, parses⟩
  | matched generation models =>
    simp only [phase] at synced
    cases synced
    exact informed_idle rfl
  | disabled | fetching | resting | stopped =>
    simp only [phase] at synced
    cases synced

/-- The monitor knows its last fetch. -/
theorem step_informed (stepped : deployment.Step before action after)
    (informed : Informed deployment latest before) :
    Informed deployment (fetchedBy latest action) after := by
  -- A step that leaves the monitor alone.
  have still : after.monitor = before.monitor → Informed deployment latest after := by
    intro same
    constructor
    · rw [same]
      exact informed.fetched
    · rw [same]
      exact informed.parsed
  have sent : before.trySend.monitor = before.monitor := by
    unfold Service.trySend
    split <;> rfl
  unfold Step at stepped
  cases action with
  | write contents =>
    cases stepped
    exact still rfl
  | notify event =>
    cases stepped
    refine still ?_
    split
    · exact sent
    · rfl
  | fire =>
    cases stepped
    exact still sent
  | work => exact still (work_monitor (work_cases stepped))
  | sync => exact sync_informed stepped informed
  | fetch result =>
    simp only [perform] at stepped
    split at stepped
    · cases stepped
      constructor
      · intro generation other fetched
        cases fetched
        rfl
      · intro models member
        cases member
    · cases stepped
  | elapse =>
    simp only [perform] at stepped
    split at stepped
    · split at stepped
      · cases stepped
        exact informed_idle rfl
      · cases stepped
    · cases stepped
  | change =>
    simp only [perform] at stepped
    split at stepped
    · cases stepped
    · split at stepped
      · cases stepped
        exact informed_idle rfl
      · cases stepped
        exact informed_idle rfl
      · cases stepped
  | stop =>
    simp only [perform] at stepped
    split at stepped
    · cases stepped
      exact informed_idle rfl
    · cases stepped
      exact informed_idle rfl
    · cases stepped
  | other action =>
    simp only [perform] at stepped
    split at stepped
    · cases stepped
    · obtain ⟨result, _, rfl⟩ := Option.map_eq_some_iff.mp stepped
      exact still rfl

/-- So it does in every run. -/
theorem run_informed (run : Runs.Run deployment.Step first trace last)
    (begins : first.monitor = .starting) : Informed deployment (lastFetch trace) last := by
  induction run with
  | start => exact informed_idle (by rw [begins]; rfl)
  | extend earlier stepped inductionHypothesis =>
    rw [lastFetch, List.foldl_append]
    exact step_informed stepped inductionHypothesis

/-- Apart from the reload worker, only the monitor writes to the published state, and
only models that it parsed out of its latest fetch. -/
theorem step_writes (informed : Informed deployment latest before)
    (stepped : deployment.Step before action after) (foreign : action ≠ .work) :
    after.store.runtime = before.store.runtime ∨
      ∃ body models, latest = some (.ok body) ∧
        parseModels deployment.parseJson body = some models ∧
        after.store =
          { before.store with runtime := { before.store.runtime with models := models } } := by
  cases step_cases stepped with
  | write | ignore | tend | compare | pool => exact .inl rfl
  | send sent =>
    unfold Service.trySend
    split <;> exact .inl rfl
  | work works => exact absurd rfl foreign
  | @update generation models matched =>
    obtain ⟨body, fetched, parsed⟩ := informed.parsed models (by
      rw [matched]
      exact List.mem_singleton.mpr rfl)
    exact .inr ⟨body, models, fetched, parsed, rfl⟩

/-- In every run of the program from a validated configuration, the published models are
an allowlist. A step that is not the reload worker's changes the published state only if
the latest fetch returned a document that is good as a whole, and then only the models.

Proof: in every state the lists in the cells and in hand are allowlists, and the monitor knows
its last fetch. -/
theorem published_models_allowlist {libraries : Libraries} {path : String} {effectiveUid : Nat}
    {deployment : Deployment Configuration.Contents} {raw : RawConfig}
    {file : Configuration.Contents} {first last : Service Configuration.Contents}
    {trace : List (Runs.Transition (Service Configuration.Contents)
      (Action Configuration.Contents))}
    (program : deployment.load = Configuration.load libraries path effectiveUid)
    (accepted : Configuration.tryFrom libraries raw = .ok deployment.initial)
    (assembled : deployment.assemble file = .ok first)
    (run : Runs.Run deployment.Step first trace last) :
    Allowlist last.store.snapshot.models ∧
      (∀ action after, deployment.Step last action after → action ≠ .work →
        after.store.runtime = last.store.runtime ∨
          ∃ body models, lastFetch trace = some (.ok body) ∧
            parseModels deployment.parseJson body = some models ∧
            after.store =
              { last.store with runtime := { last.store.runtime with models := models } }) ∧
      ∀ body models, parseModels deployment.parseJson body = some models ↔
        Lists deployment.parseJson body models := by
  have validates : deployment.Validates := by
    intro file config loaded
    rw [program] at loaded
    obtain ⟨raw, accepted⟩ := load_ok loaded
    exact tryFrom_models accepted
  obtain ⟨pool, _, rfl⟩ := assemble_started assembled
  have begins : (deployment.started file pool).Listed := ⟨tryFrom_models accepted, nofun, nofun⟩
  refine ⟨(run_listed validates run begins).published, ?_, fun _ _ => parseModels_iff⟩
  intro action after stepped foreign
  exact step_writes (run_informed run rfl) stepped foreign

/-- The monitor publishes a list, and an hour later it fetches a body that does not
parse. -/
def refreshedThenRefused : List (Action Configuration.Contents) :=
  [.sync, .fetch (.ok [1]), .sync, .sync, .other (.tick (Pool.fromSecs 3600)), .elapse, .sync,
    .fetch (.ok [2]), .sync]

/-- A refused document leaves the models that an earlier one set. -/
theorem published_models_allowlist_refused :
    (Runs.reached sampleDeployment.perform sampleService
        refreshedThenRefused).store.snapshot.models = ["synced"] ∧
      Allowlist
        (Runs.reached sampleDeployment.perform sampleService
          refreshedThenRefused).store.snapshot.models ∧
      ∀ action after, sampleDeployment.Step
        (Runs.reached sampleDeployment.perform sampleService refreshedThenRefused) action after →
        action ≠ .work → after.store.runtime =
          (Runs.reached sampleDeployment.perform sampleService
            refreshedThenRefused).store.runtime := by
  have validated : Configuration.tryFrom sampleLibraries
      { gatewayToken := some "old", keys := some [.plain "a", .plain "b"] } =
        .ok sampleDeployment.initial := by decide +kernel
  have run := Runs.replay_run (by decide +kernel :
    (Runs.record sampleDeployment.perform sampleService refreshedThenRefused).isSome)
  obtain ⟨allowlist, writes, _⟩ :=
    published_models_allowlist rfl validated sample_assembled run
  refine ⟨by decide +kernel, allowlist, ?_⟩
  intro action after stepped foreign
  rcases writes action after stepped foreign with same | ⟨body, models, fetched, parsed, _⟩
  · exact same
  · have refused : lastFetch (Runs.steps sampleDeployment.perform sampleService
        refreshedThenRefused) = some (.ok [2]) := by rfl
    rw [refused] at fetched
    cases fetched
    revert parsed
    exact nofun

end Deployment

end Orihsus.Reload
