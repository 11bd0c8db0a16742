import Orihsus.ReloadRuns

/-!
# Synchronized and manual model lists

Two tasks write the published model list: the monitor after a fetch, and a reload. The
monitor compares its generation with the watched setting and then publishes; the
callback replaces the setting, reads the current list and then publishes. Neither holds
a lock across its steps.

A manual list wins, and no synchronized list is lost, in every run in which the steps in
question do not fall into each other. Where they do, a list that the monitor had already
compared overwrites a manual one for good, and a reload publishes a list that the monitor
has replaced in the meantime.
-/

namespace Orihsus.Reload

open Orihsus.Configuration (ModelSync)

/-- The watched setting is the one of the published configuration: the callback has not
put another one in place, or has put it back. -/
def Worker.settled : Worker → Bool
  | .replaced _ _ | .composed _ _ _ | .refused _ => false
  | _ => true

/-- The generation that the monitor is working under. -/
def Monitor.generation : Monitor → Option ModelSync
  | .fetching generation | .fetched generation _ | .matched generation _ => some generation
  | _ => none

namespace Deployment

variable {Contents : Type} {deployment : Deployment Contents}
  {before after first last : Service Contents} {action : Action Contents}
  {trace earlier later : List (Runs.Transition (Service Contents) (Action Contents))}
  {taken : Runs.Transition (Service Contents) (Action Contents)}
  {current snapshot : RuntimeConfigSnapshot}

/-! ## A manual list wins -/

/-- The snapshot of a reload that completes in this step. -/
def applied (taken : Runs.Transition (Service Contents) (Action Contents)) :
    Option RuntimeConfigSnapshot :=
  match taken.label, taken.before.worker with
  | .work, .published snapshot => some snapshot
  | _, _ => none

/-- The two tasks do not fall into each other at this step: no callback replaces the
setting while the monitor stands between its comparison and its publication, and the
monitor does not compare with a setting that is not published. -/
def exclusive (taken : Runs.Transition (Service Contents) (Action Contents)) : Bool :=
  match taken.label, taken.before.worker, taken.before.monitor with
  | .work, .applying _, .matched _ _ => false
  | .sync, worker, .fetched _ _ => worker.settled
  | _, _, _ => true

/-- The monitor works under a setting that is switched on, publishes only under the
published setting, and a manual list stands. -/
structure Synced (current : RuntimeConfigSnapshot) (service : Service Contents) : Prop where
  enabled : ∀ generation, service.monitor.generation = some generation → generation.enabled = true
  settled : ∀ generation models, service.monitor = .matched generation models →
    service.worker.settled = true ∧ service.modelSync.value = generation
  manual : current.modelSync.enabled = false → service.store.runtime.models = current.models

/-- A settled setting is the governing one. -/
theorem governed_settled (governed : deployment.Governed current before)
    (settled : before.worker.settled = true) : before.modelSync.value = current.modelSync := by
  have inHand := governed.inHand
  unfold InHand at inHand
  cases phase : before.worker with
  | parked | sleeping | draining | checking | loading =>
    simp only [phase] at inHand
    exact inHand.1
  | applying snapshot =>
    simp only [phase] at inHand
    exact inHand.2.1
  | published snapshot =>
    simp only [phase] at inHand
    exact inHand.2
  | replaced | composed | refused => simp [phase, Worker.settled] at settled

/-- A comparison that succeeds found its generation in place. -/
theorem compared_cases (generation : ModelSync)
    (result : Except ModelFetchError (List UInt8)) :
    (∃ models, deployment.compared before generation result = .matched generation models ∧
        before.modelSync.value = generation) ∨
      ∃ wake, deployment.compared before generation result = .resting wake := by
  unfold compared
  split
  · rename_i same
    split
    · split
      · exact .inl ⟨_, rfl, same⟩
      · exact .inr ⟨_, rfl⟩
    · exact .inr ⟨_, rfl⟩
  · exact .inr ⟨_, rfl⟩

/-- A step of the worker leaves a monitor that is about to publish under the published
setting, unless it replaces that setting. -/
theorem work_settled (works : deployment.Works before after)
    (apart : exclusive ⟨before, .work, after⟩ = true) (synced : Synced current before) :
    ∀ generation models, after.monitor = .matched generation models →
      after.worker.settled = true ∧ after.modelSync.value = generation := by
  intro generation models matched
  cases works with
  | receive phase | wake phase | drained phase | quiet phase | again phase | accept phase
  | finish | giveUp => exact ⟨rfl, (synced.settled generation models matched).2⟩
  | drain phase => exact synced.settled generation models matched
  | @replace snapshot phase =>
    simp only at matched
    simp [exclusive, phase, matched] at apart
  | compose phase | publish phase | refuse phase | restore phase =>
    have unsettled := (synced.settled generation models matched).1
    rw [phase] at unsettled
    cases unsettled

/-- A step of the worker writes the models only to publish a snapshot, and then the
snapshot's own if it is a manual list. -/
theorem work_models (works : deployment.Works before after)
    (governed : deployment.Governed current before)
    (manual : current.modelSync.enabled = false → before.store.runtime.models = current.models) :
    ((published ⟨before, .work, after⟩).getD current).modelSync.enabled = false →
      after.store.runtime.models = ((published ⟨before, .work, after⟩).getD current).models := by
  rcases published_work works with silent | ⟨snapshot, previous, models, store, composed, updated,
    rfl, publishes⟩
  · rw [silent, Option.getD_none]
    cases works with
    | publish composed => simp [published, composed] at silent
    | receive | wake | drained | drain | quiet | again | giveUp | accept | replace | compose
    | refuse | finish | restore => exact manual
  · rw [publishes, Option.getD_some]
    intro disabled
    have inHand := governed.inHand
    simp only [InHand, composed] at inHand
    obtain ⟨pool, _, rfl⟩ := updateWithKeys_ok updated
    exact inHand.2.2.2.2 disabled

/-- The worker leaves the monitor. -/
theorem work_monitor (works : deployment.Works before after) : after.monitor = before.monitor := by
  cases works <;> rfl

/-- One step of either task keeps a manual list in place, unless the two fall into each
other at it. -/
theorem step_synced (stepped : deployment.Step before action after)
    (apart : exclusive ⟨before, action, after⟩ = true)
    (governed : deployment.Governed current before) (synced : Synced current before) :
    Synced ((published ⟨before, action, after⟩).getD current) after := by
  have moves := step_cases stepped
  by_cases own : action = .work
  · subst own
    have works : deployment.Works before after := work_cases stepped
    refine ⟨?_, work_settled works apart synced, work_models works governed synced.manual⟩
    rw [work_monitor works]
    exact synced.enabled
  · rw [published_other own, Option.getD_none]
    cases moves with
    | write | ignore | pool => exact ⟨synced.enabled, synced.settled, synced.manual⟩
    | work => exact absurd rfl own
    | send sent =>
      unfold Service.trySend
      split <;> exact ⟨synced.enabled, synced.settled, synced.manual⟩
    | @tend _ monitor seen _ _ _ kept carried unmatched =>
      refine ⟨?_, ?_, synced.manual⟩
      · intro generation works
        simp only at works
        cases monitor with
        | fetching found =>
          cases works
          exact kept generation rfl
        | fetched found result =>
          cases works
          refine synced.enabled generation ?_
          rw [carried generation result rfl]
          rfl
        | matched found models => exact absurd rfl (unmatched found models)
        | starting | disabled | resting | stopped => cases works
      · intro generation models matched
        exact absurd matched (unmatched generation models)
    | @compare generation result fetched =>
      have settled : before.worker.settled = true := by simpa [exclusive, fetched] using apart
      have enabled : generation.enabled = true := by
        refine synced.enabled generation ?_
        rw [fetched]
        rfl
      rcases compared_cases generation result with ⟨models, matches_, same⟩ | ⟨wake, rests⟩
      · rw [matches_]
        refine ⟨?_, ?_, synced.manual⟩
        · intro other works
          cases works
          exact enabled
        · intro other others matched
          cases matched
          exact ⟨settled, same⟩
      · rw [rests]
        exact ⟨nofun, nofun, synced.manual⟩
    | @update generation models matched =>
      refine ⟨nofun, nofun, ?_⟩
      intro disabled
      obtain ⟨settled, same⟩ := synced.settled generation models matched
      have enabled : generation.enabled = true := by
        refine synced.enabled generation ?_
        rw [matched]
        rfl
      rw [← governed_settled governed settled, same, enabled] at disabled
      cases disabled

/-- Every run keeps it so. -/
theorem run_synced (run : Runs.Run deployment.Step first trace last)
    (apart : ∀ taken ∈ trace, exclusive taken = true)
    (governed : deployment.Governed current first) (synced : Synced current first) :
    Synced (governing current trace) last := by
  induction run with
  | start => exact synced
  | extend earlier stepped inductionHypothesis =>
    rw [governing_extend]
    refine step_synced stepped (apart _ (by simp)) (run_governed earlier governed) ?_
    exact inductionHypothesis fun taken member => apart taken (List.mem_append_left _ member)

/-- A manual list wins over synchronization in every run in which the two tasks do not
fall into each other: once a reload that switches synchronization off has completed, the
published models are its own, until another reload publishes.

Proof: the monitor works under the published setting, and the last published configuration
governs it. -/
theorem manual_list_wins {file : Contents} (assembled : deployment.assemble file = .ok first)
    (run : Runs.Run deployment.Step first (earlier ++ taken :: later) last)
    (apart : ∀ step ∈ earlier ++ taken :: later, exclusive step = true)
    (completes : applied taken = some snapshot) (manual : snapshot.modelSync.enabled = false)
    (latest : ∀ step ∈ later, published step = none) :
    last.store.runtime.models = snapshot.models := by
  have governed := assemble_governed assembled
  have begins : Synced (.fromConfig deployment.initial) first := by
    obtain ⟨pool, _, rfl⟩ := assemble_started assembled
    exact ⟨nofun, nofun, fun _ => rfl⟩
  have synced := run_synced run apart governed begins
  obtain ⟨upTo, stepped, _⟩ := run.split
  obtain ⟨source, label, target⟩ := taken
  have published : label = .work ∧ source.worker = .published snapshot := by
    unfold applied at completes
    split at completes
    · rename_i found own phase
      cases completes
      exact ⟨own, phase⟩
    · cases completes
  obtain ⟨rfl, phase⟩ := published
  have inHand := (run_governed upTo governed).inHand
  simp only [InHand, phase] at inHand
  have governs : governing (.fromConfig deployment.initial)
      (earlier ++ ⟨source, .work, target⟩ :: later) = snapshot := by
    have silent : Deployment.published ⟨source, .work, target⟩ = none := by
      simp [Deployment.published, phase]
    have onward : ∀ step ∈ ⟨source, .work, target⟩ :: later, Deployment.published step = none := by
      intro step member
      rcases List.mem_cons.mp member with rfl | inside
      · exact silent
      · exact latest step inside
    rw [governing, List.foldl_append]
    exact (governing_silent onward).trans inHand.1.symm
  rw [governs] at synced
  exact synced.manual manual

/-- The manual list of the sample reload. -/
def manualSnapshot : RuntimeConfigSnapshot :=
  .fromConfig { sampleConfig with
    models := ["m"]
    modelSync := { sampleConfig.modelSync with enabled := false } }

/-- The monitor fetches under the first configuration and finds it still in place. -/
def fetchThenCompare : List (Action Configuration.Contents) :=
  [.sync, .fetch (.ok [1]), .sync]

/-- A reload that has published the manual list, up to its last step, after some steps of
the monitor. -/
def manualPublished (monitored : List (Action Configuration.Contents)) :
    Service Configuration.Contents :=
  Runs.reached sampleDeployment.perform sampleService
    (monitored ++ untilLoad "manual" ++ apply.dropLast)

/-- The same reload, completed. -/
def manualCompleted (monitored : List (Action Configuration.Contents)) :
    Service Configuration.Contents :=
  Runs.reached sampleDeployment.perform (manualPublished monitored) [.work]

/-- A manual list is overwritten. The monitor has compared its generation when the reload
that switches synchronization off begins; after the reload has completed, the monitor
publishes what it had fetched. -/
theorem manual_list_overwritten :
    ∃ (earlier later : List (Runs.Transition (Service Configuration.Contents)
          (Action Configuration.Contents)))
        (taken : Runs.Transition (Service Configuration.Contents) (Action Configuration.Contents))
        (last : Service Configuration.Contents),
      sampleDeployment.assemble (sampleFile "first") = .ok sampleService ∧
        Runs.Run sampleDeployment.Step sampleService (earlier ++ taken :: later) last ∧
        applied taken = some manualSnapshot ∧ manualSnapshot.modelSync.enabled = false ∧
        (∀ step ∈ later, published step = none) ∧
        manualSnapshot.models = ["m"] ∧ last.store.runtime.models = ["synced"] := by
  have reloads : (Runs.record sampleDeployment.perform sampleService
      (fetchThenCompare ++ untilLoad "manual" ++ apply.dropLast)).isSome := by decide +kernel
  have completes : sampleDeployment.Step (manualPublished fetchThenCompare) .work
      (manualCompleted fetchThenCompare) := Runs.reached_step (by decide +kernel)
  have publishes : (Runs.record sampleDeployment.perform (manualCompleted fetchThenCompare)
      [.sync]).isSome := by decide +kernel
  exact ⟨_, _, _, _, sample_assembled,
    (Runs.replay_run reloads).join completes (Runs.replay_run publishes),
    by decide +kernel, rfl, by decide +kernel, rfl, by decide +kernel⟩

/-- A fetch that is in flight when the manual list is published is dropped. -/
theorem manual_list_wins_dropped :
    (Runs.reached sampleDeployment.perform (manualCompleted [.sync])
        [.fetch (.ok [1]), .sync]).store.runtime.models =
      manualSnapshot.models := by
  have reloads : (Runs.record sampleDeployment.perform sampleService
      ([.sync] ++ untilLoad "manual" ++ apply.dropLast)).isSome := by decide +kernel
  have completes : sampleDeployment.Step (manualPublished [.sync]) .work
      (manualCompleted [.sync]) := Runs.reached_step (by decide +kernel)
  have drops : (Runs.record sampleDeployment.perform (manualCompleted [.sync])
      [.fetch (.ok [1]), .sync]).isSome := by decide +kernel
  exact manual_list_wins sample_assembled
    ((Runs.replay_run reloads).join completes (Runs.replay_run drops)) (by decide +kernel)
    (by decide +kernel) rfl (by decide +kernel)

/-! ## No synchronized list is lost -/

/-- The list that a step of the monitor publishes. -/
def written (taken : Runs.Transition (Service Contents) (Action Contents)) :
    Option (List String) :=
  match taken.label, taken.before.monitor with
  | .sync, .matched _ models => some models
  | _, _ => none

/-- The list of the last `update_models`, or the one at the start. -/
def synchronized (start : List String)
    (trace : List (Runs.Transition (Service Contents) (Action Contents))) : List String :=
  trace.foldl (fun models taken => (written taken).getD models) start

/-- The monitor does not publish while a callback holds the models it has read. -/
def undisturbed (taken : Runs.Transition (Service Contents) (Action Contents)) : Bool :=
  match taken.label, taken.before.worker, taken.before.monitor with
  | .sync, .composed _ _ _, .matched _ _ => false
  | _, _, _ => true

/-- The list is published, and a callback that keeps synchronization on holds the same. -/
structure Holds (models : List String) (service : Service Contents) : Prop where
  published : service.store.runtime.models = models
  held : ∀ snapshot previous copied, service.worker = .composed snapshot previous copied →
    snapshot.modelSync.enabled = true → copied = models

/-- The models with one more step. -/
theorem synchronized_extend (start : List String) :
    synchronized start (trace ++ [taken]) = (written taken).getD (synchronized start trace) := by
  simp [synchronized]

/-- Only the monitor's own step publishes a list. -/
theorem written_other (other : action ≠ .sync) : written ⟨before, action, after⟩ = none := by
  cases action <;> first | rfl | exact absurd rfl other

/-- It does so only after a comparison that succeeded. -/
theorem written_idle (idle : ∀ generation models, before.monitor ≠ .matched generation models) :
    written ⟨before, action, after⟩ = none := by
  unfold written
  split
  · rename_i own matched
    exact absurd matched (idle _ _)
  · rfl

/-- A worker that has composed nothing holds no list. -/
theorem Holds.uncomposed {models : List String} {service : Service Contents}
    (published : service.store.runtime.models = models)
    (uncomposed : ∀ snapshot previous copied,
      service.worker ≠ .composed snapshot previous copied) : Holds models service := by
  refine ⟨published, ?_⟩
  intro snapshot previous copied composed
  exact absurd composed (uncomposed snapshot previous copied)

/-- A callback that keeps synchronization on publishes the list it read. -/
theorem work_holds {models : List String} (works : deployment.Works before after)
    (enabled : ∀ snapshot, published ⟨before, .work, after⟩ = some snapshot →
      snapshot.modelSync.enabled = true)
    (holds : Holds models before) : Holds models after := by
  cases works with
  | receive | wake | drained | quiet | again | giveUp | accept | replace | refuse | finish
  | restore =>
    refine .uncomposed holds.published ?_
    intro snapshot previous copied composed
    cases composed
  | drain => exact ⟨holds.published, holds.held⟩
  | compose phase =>
    refine ⟨holds.published, ?_⟩
    intro snapshot previous copied composed on
    cases composed
    simp only [chosenModels, on, if_true]
    exact holds.published
  | @publish snapshot previous copied store composed updated =>
    obtain ⟨pool, _, rfl⟩ := updateWithKeys_ok updated
    refine .uncomposed ?_ ?_
    · exact holds.held snapshot previous copied composed
        (enabled snapshot (by simp [published, composed]))
    · intro other earlier held finished
      cases finished

/-- Only the monitor sets the models. -/
theorem step_holds {models : List String} (stepped : deployment.Step before action after)
    (enabled : ∀ snapshot, published ⟨before, action, after⟩ = some snapshot →
      snapshot.modelSync.enabled = true)
    (apart : undisturbed ⟨before, action, after⟩ = true) (holds : Holds models before) :
    Holds ((written ⟨before, action, after⟩).getD models) after := by
  cases step_cases stepped with
  | write | ignore | pool => exact ⟨holds.published, holds.held⟩
  | work works => exact work_holds works enabled holds
  | send sent =>
    have silent : action ≠ .sync := by
      rintro rfl
      cases sent
    rw [written_other silent, Option.getD_none]
    unfold Service.trySend
    split <;> exact ⟨holds.published, holds.held⟩
  | tend silent own idle =>
    rw [written_idle idle, Option.getD_none]
    exact ⟨holds.published, holds.held⟩
  | compare fetched =>
    simp only [written, fetched, Option.getD_none]
    exact ⟨holds.published, holds.held⟩
  | @update generation models' matched =>
    simp only [written, matched, Option.getD_some]
    refine ⟨rfl, ?_⟩
    intro snapshot previous copied composed
    simp only at composed
    simp [undisturbed, composed, matched] at apart

/-- So it is in every run. -/
theorem run_holds {models : List String} (run : Runs.Run deployment.Step first trace last)
    (enabled : ∀ taken ∈ trace, ∀ snapshot, published taken = some snapshot →
      snapshot.modelSync.enabled = true)
    (apart : ∀ taken ∈ trace, undisturbed taken = true) (holds : Holds models first) :
    Holds (synchronized models trace) last := by
  induction run with
  | start => exact holds
  | extend earlier stepped inductionHypothesis =>
    rw [synchronized_extend]
    refine step_holds stepped (enabled _ (by simp)) (apart _ (by simp)) ?_
    exact inductionHypothesis
      (fun taken member => enabled taken (List.mem_append_left _ member))
      (fun taken member => apart taken (List.mem_append_left _ member))

/-- No synchronized list is lost to reloads that keep synchronization on, in every run in
which the monitor does not publish between a callback's reading of the models and its
publication: the published models are those of the last `update_models`, or the first
ones.

Proof: every step keeps the published models those of the last update. -/
theorem no_synchronized_list_lost {file : Contents}
    (assembled : deployment.assemble file = .ok first)
    (run : Runs.Run deployment.Step first trace last)
    (enabled : ∀ taken ∈ trace, ∀ snapshot, published taken = some snapshot →
      snapshot.modelSync.enabled = true)
    (apart : ∀ taken ∈ trace, undisturbed taken = true) :
    last.store.runtime.models = synchronized deployment.initial.models trace := by
  have begins : Holds deployment.initial.models first := by
    obtain ⟨pool, _, rfl⟩ := assemble_started assembled
    refine .uncomposed rfl ?_
    intro snapshot previous copied composed
    cases composed
  exact (run_holds run enabled apart begins).published

/-- The reload, if the step publishes one, keeps synchronization on. -/
def keepsSync (taken : Runs.Transition (Service Contents) (Action Contents)) : Bool :=
  (published taken).all fun snapshot => snapshot.modelSync.enabled

/-- The test of a step in words. -/
theorem keepsSync_enabled (kept : keepsSync taken = true) (snapshot : RuntimeConfigSnapshot)
    (publishes : published taken = some snapshot) : snapshot.modelSync.enabled = true := by
  simpa [keepsSync, publishes] using kept

/-- The worker applies the rotated file up to its copy of the models, the monitor publishes
between the two, and the worker publishes its copy. -/
def publishedBetween : List (Action Configuration.Contents) :=
  fetchThenCompare ++ untilLoad "rotated" ++ apply.take 3 ++ [.sync] ++ apply.drop 3

/-- A synchronized list is lost. A reload that only rotates keys and tokens has copied the
models when the monitor publishes a new list, and then publishes its copy. -/
theorem synchronized_list_lost :
    sampleDeployment.assemble (sampleFile "first") = .ok sampleService ∧
      Runs.Run sampleDeployment.Step sampleService
        (Runs.steps sampleDeployment.perform sampleService publishedBetween)
        (Runs.reached sampleDeployment.perform sampleService publishedBetween) ∧
      (∀ taken ∈ Runs.steps sampleDeployment.perform sampleService publishedBetween, ∀ snapshot,
        published taken = some snapshot → snapshot.modelSync.enabled = true) ∧
      (Runs.reached sampleDeployment.perform sampleService publishedBetween).worker = .parked ∧
      synchronized sampleConfig.models
        (Runs.steps sampleDeployment.perform sampleService publishedBetween) = ["synced"] ∧
      (Runs.reached sampleDeployment.perform sampleService publishedBetween).store.runtime.models =
        ["deepseek-chat"] := by
  have enabled : (Runs.record sampleDeployment.perform sampleService publishedBetween).isSome := by
    decide +kernel
  refine ⟨sample_assembled, Runs.replay_run enabled, ?_, ?_, ?_, ?_⟩
  · have kept : ∀ taken ∈ Runs.steps sampleDeployment.perform sampleService publishedBetween,
        keepsSync taken = true := by decide +kernel
    exact fun taken member => keepsSync_enabled (kept taken member)
  · decide +kernel
  · decide +kernel
  · decide +kernel

/-- The monitor publishes and then the rotated file is applied. -/
def publishedBefore : List (Action Configuration.Contents) :=
  fetchThenCompare ++ [.sync] ++ untilLoad "rotated" ++ apply

/-- A list that is published before the reload reads the models survives it. -/
theorem no_synchronized_list_lost_before :
    (Runs.reached sampleDeployment.perform sampleService publishedBefore).store.runtime.models =
      synchronized sampleDeployment.initial.models
        (Runs.steps sampleDeployment.perform sampleService publishedBefore) := by
  have enabled : (Runs.record sampleDeployment.perform sampleService publishedBefore).isSome := by
    decide +kernel
  have kept : ∀ taken ∈ Runs.steps sampleDeployment.perform sampleService publishedBefore,
      keepsSync taken = true := by decide +kernel
  exact no_synchronized_list_lost sample_assembled (Runs.replay_run enabled)
    (fun taken member => keepsSync_enabled (kept taken member)) (by decide +kernel)

end Deployment

end Orihsus.Reload
