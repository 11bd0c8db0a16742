import Orihsus.Forward
import Orihsus.ReloadRuns
import Orihsus.Semaphore

/-!
# The body budget

`BodyBudget` of `src/gateway.rs` and the body phase of `proxy_request`: every request
reserves a fixed number of bytes, reads its body under one deadline and keeps both until
its last attempt is over. Any number of requests share the budget, interleaved with each
other and with the reload worker and the model monitor of `HotReload`, which publish the
limit that a request reads its body under.

`http_body_util::Limited` refuses the frame that would pass the limit. What the loop of
attempts does to the body is nothing, so the loop is one phase here and its outcome is
arbitrary. A request that leaves drops its reservation in a step of its own; the body it
may still have at that point is counted until then.
-/

namespace Orihsus.Bodies

open Orihsus.Configuration (Limits u32Max)
open Gateway (FinalOutcome Json RuntimeState extractModel modelAllowed)
open Reload (Deployment RuntimeConfigSnapshot Service)
open Semaphores (Books Semaphore Shift total)

structure BodyBudget where
  sem : Semaphore Nat
  permitsPerRequest : Nat
  capacity : Nat
  deriving DecidableEq, Repr

/-- `BodyBudget::new`, with its two assertions. -/
def BodyBudget.new (capacity permitsPerRequest : Nat) : Option BodyBudget :=
  if 0 < capacity ∧ permitsPerRequest ≤ capacity then
    some { sem := .new capacity, permitsPerRequest := permitsPerRequest, capacity := capacity }
  else none

/-- The budget that `assemble` builds, where the limit on bodies fits a permit count. -/
def BodyBudget.assemble (limits : Limits) : Option BodyBudget :=
  if limits.maxBodyBytes ≤ u32Max then
    BodyBudget.new limits.maxInflightBodyBytes limits.maxBodyBytes
  else none

/-- How a request leaves the body and attempt phase. -/
inductive Exit where
  | tooLarge
  | invalid
  | readTimeout
  | invalidModel
  | concluded (outcome : FinalOutcome)
  | cancelled
  deriving DecidableEq, Repr

/-- Where a request stands. `buffered` has its body and no model yet, `forwarding` is in
the loop of attempts, `abandoning` has yet to drop its place in line and `returning` its
reservation. -/
inductive Upload where
  | reserving (snapshot : RuntimeState) (deadline : Nat)
  | waiting (snapshot : RuntimeState) (deadline : Nat)
  | reading (snapshot : RuntimeState) (deadline : Nat) (collected : List UInt8)
  | buffered (snapshot : RuntimeState) (body : List UInt8)
  | forwarding (model : String) (body : List UInt8)
  | abandoning (exit : Exit)
  | returning (exit : Exit) (body : List UInt8)
  | left (exit : Exit)
  deriving DecidableEq, Repr

namespace Upload

/-- The bytes that a request has reserved, of a budget that hands out so many at a time. -/
def reserved (permitsPerRequest : Nat) : Upload → Nat
  | .reading .. | .buffered .. | .forwarding .. | .returning .. => permitsPerRequest
  | _ => 0

/-- The bytes that a request stands in line for. -/
def asked (permitsPerRequest : Nat) : Upload → Option Nat
  | .waiting .. | .abandoning _ => some permitsPerRequest
  | _ => none

/-- The body that a request holds. -/
def body : Upload → List UInt8
  | .reading _ _ collected => collected
  | .buffered _ body | .forwarding _ body | .returning _ body => body
  | _ => []

/-- The snapshot that a request was given. -/
def snapshot? : Upload → Option RuntimeState
  | .reserving snapshot _ | .waiting snapshot _ | .reading snapshot _ _ | .buffered snapshot _ =>
      some snapshot
  | _ => none

end Upload

/-- What reaches a request: a poll of its own, a frame, the end or an error of its body,
the deadline, the end of its attempts, or the drop of its handler. -/
inductive Event where
  | poll
  | frame (data : List UInt8)
  | finish
  | fail
  | expire
  | conclude (outcome : FinalOutcome)
  | cancel
  deriving DecidableEq, Repr

/-- The next phase of a request, with the budget, if the event can reach it. -/
def Upload.advance (parseJson : List UInt8 → Option Json) (budget : BodyBudget) (now id : Nat) :
    Upload → Event → Option (BodyBudget × Upload)
  | .reserving snapshot deadline, .poll =>
      let polled := budget.sem.acquire id budget.permitsPerRequest
      match polled.1 with
      | .granted => some ({ budget with sem := polled.2 }, .reading snapshot deadline [])
      | .pending => some ({ budget with sem := polled.2 }, .waiting snapshot deadline)
      | .closed => none
  | .waiting snapshot deadline, .poll =>
      let polled := budget.sem.poll id
      match polled.1 with
      | .granted => some ({ budget with sem := polled.2 }, .reading snapshot deadline [])
      | _ => none
  | .waiting _ deadline, .expire =>
      -- The timeout polls the acquire first.
      if deadline ≤ now ∧ (budget.sem.poll id).1 ≠ .granted then
        some (budget, .abandoning .readTimeout)
      else none
  | .waiting .., .cancel => some (budget, .abandoning .cancelled)
  | .reading snapshot deadline collected, .frame data =>
      if snapshot.maxBodyBytes - collected.length < data.length then
        some (budget, .returning .tooLarge [])
      else some (budget, .reading snapshot deadline (collected ++ data))
  | .reading snapshot _ collected, .finish => some (budget, .buffered snapshot collected)
  | .reading .., .fail => some (budget, .returning .invalid [])
  | .reading _ deadline _, .expire =>
      if deadline ≤ now then some (budget, .returning .readTimeout []) else none
  | .reading .., .cancel => some (budget, .returning .cancelled [])
  | .buffered snapshot body, .poll =>
      match extractModel parseJson body with
      | some model =>
          if modelAllowed snapshot model then some (budget, .forwarding model body)
          else some (budget, .returning .invalidModel body)
      | none => some (budget, .returning .invalidModel body)
  | .forwarding _ body, .conclude outcome => some (budget, .returning (.concluded outcome) body)
  | .forwarding _ body, .cancel => some (budget, .returning .cancelled body)
  | .abandoning exit, .poll => some ({ budget with sem := budget.sem.abandon id }, .left exit)
  | .returning exit _, .poll =>
      some ({ budget with sem := budget.sem.release budget.permitsPerRequest }, .left exit)
  | _, _ => none

/-- The service with its budget and the requests, each named by its position. -/
structure Intake (Contents : Type) where
  service : Service Contents
  budget : BodyBudget
  uploads : List Upload

/-- A step of the service, a request that takes its snapshot, or a step of one request. -/
inductive Action (Contents : Type) where
  | serve (action : Reload.Action Contents)
  | arrive
  | proceed (id : Nat) (event : Event)

variable {Contents : Type}

/-- One step, if it is enabled. -/
def perform (deployment : Deployment Contents) (intake : Intake Contents) :
    Action Contents → Option (Intake Contents)
  | .serve action =>
      (deployment.perform intake.service action).map fun service =>
        { intake with service := service }
  | .arrive =>
      let taken := intake.service.store.snapshotAndRequest (Reload.poolPolicy deployment.initial)
      some { intake with
        uploads := intake.uploads ++
          [.reserving taken.1
            (intake.service.clock + deployment.initial.server.bodyReadTimeout)] }
  | .proceed id event =>
      match intake.uploads[id]? with
      | some upload =>
          (upload.advance deployment.parseJson intake.budget intake.service.clock id event).map
            fun (budget, next) =>
              { intake with budget := budget, uploads := intake.uploads.set id next }
      | none => none

/-- The step relation of the runs. -/
def Step (deployment : Deployment Contents) (before : Intake Contents) (action : Action Contents)
    (after : Intake Contents) : Prop :=
  perform deployment before action = some after

/-! ## One request moves -/

/-- The request reads under this limit and its body keeps to it. -/
def Upload.Fits (limit : Nat) (upload : Upload) : Prop :=
  (∀ snapshot, upload.snapshot? = some snapshot → snapshot.maxBodyBytes = limit) ∧
    upload.body.length ≤ limit

/-- What a step of one request does to the budget and to its body. -/
structure Moved (id : Nat) (before after : BodyBudget) (upload next : Upload) : Prop where
  shift : Shift (Upload.reserved before.permitsPerRequest) (Upload.asked before.permitsPerRequest)
    id before.sem after.sem upload next
  permitsPerRequest : after.permitsPerRequest = before.permitsPerRequest
  fits : ∀ limit, upload.Fits limit → next.Fits limit

variable {parseJson : List UInt8 → Option Json} {budget after : BodyBudget} {now id capacity : Nat}
  {upload next : Upload} {uploads : List Upload} {event : Event}

/-- A request without a reservation holds no body. -/
theorem Upload.Fits.body_le {limit : Nat} (fits : upload.Fits limit) :
    upload.body.length ≤ upload.reserved limit := by
  cases upload with
  | reading | buffered | forwarding | returning => exact fits.2
  | reserving | waiting | abandoning | left => exact Nat.le_refl 0

/-- A step of a request that leaves the budget alone. -/
theorem moved_kept
    (books : Books (Upload.reserved budget.permitsPerRequest)
      (Upload.asked budget.permitsPerRequest) capacity budget.sem uploads)
    (present : uploads[id]? = some upload)
    (reserved : next.reserved budget.permitsPerRequest = upload.reserved budget.permitsPerRequest)
    (asked : next.asked budget.permitsPerRequest = upload.asked budget.permitsPerRequest)
    (fits : ∀ limit, upload.Fits limit → next.Fits limit) : Moved id budget budget upload next :=
  ⟨books.keep present reserved (.inr asked), rfl, fits⟩

/-- What one upload does. -/
theorem advance_moved
    (books : Books (Upload.reserved budget.permitsPerRequest)
      (Upload.asked budget.permitsPerRequest) capacity budget.sem uploads)
    (present : uploads[id]? = some upload)
    (advanced : upload.advance parseJson budget now id event = some (after, next)) :
    Moved id budget after upload next := by
  unfold Upload.advance at advanced
  split at advanced
  · -- the first poll of the acquire
    dsimp only at advanced
    split at advanced
    · rename_i granted
      cases advanced
      obtain ⟨unheld, line, _⟩ := Semaphore.acquire_granted granted
      exact ⟨books.take present unheld line (Nat.zero_add _).symm rfl, rfl,
        fun limit fits => ⟨fits.1, Nat.zero_le _⟩⟩
    · rename_i pending
      cases advanced
      exact ⟨books.queue present pending rfl rfl rfl, rfl, fun limit fits => fits⟩
    · cases advanced
  · -- a later poll
    dsimp only at advanced
    split at advanced
    · rename_i granted
      cases advanced
      exact ⟨books.serve present granted rfl (Nat.zero_add _).symm, rfl,
        fun limit fits => ⟨fits.1, Nat.zero_le _⟩⟩
    · cases advanced
  · -- the deadline passes in line
    split at advanced
    · cases advanced
      exact moved_kept books present rfl rfl fun _ fits => ⟨nofun, fits.2⟩
    · cases advanced
  · cases advanced
    exact moved_kept books present rfl rfl fun _ fits => ⟨nofun, fits.2⟩
  · -- a frame: the limit is that of the snapshot
    rename_i snapshot deadline collected data
    split at advanced
    · cases advanced
      exact moved_kept books present rfl rfl fun _ _ => ⟨nofun, Nat.zero_le _⟩
    · rename_i room
      cases advanced
      refine moved_kept books present rfl rfl ?_
      intro limit fits
      refine ⟨fits.1, ?_⟩
      have within : collected.length ≤ limit := fits.2
      have same : snapshot.maxBodyBytes = limit := fits.1 snapshot rfl
      simp only [Upload.body, List.length_append]
      omega
  · cases advanced
    exact moved_kept books present rfl rfl fun _ fits => fits
  · cases advanced
    exact moved_kept books present rfl rfl fun _ _ => ⟨nofun, Nat.zero_le _⟩
  · -- the deadline passes during the read
    split at advanced
    · cases advanced
      exact moved_kept books present rfl rfl fun _ _ => ⟨nofun, Nat.zero_le _⟩
    · cases advanced
  · cases advanced
    exact moved_kept books present rfl rfl fun _ _ => ⟨nofun, Nat.zero_le _⟩
  · -- the model is looked up
    split at advanced
    · split at advanced
      · cases advanced
        exact moved_kept books present rfl rfl fun _ fits => ⟨nofun, fits.2⟩
      · cases advanced
        exact moved_kept books present rfl rfl fun _ fits => ⟨nofun, fits.2⟩
    · cases advanced
      exact moved_kept books present rfl rfl fun _ fits => ⟨nofun, fits.2⟩
  · cases advanced
    exact moved_kept books present rfl rfl fun _ fits => ⟨nofun, fits.2⟩
  · cases advanced
    exact moved_kept books present rfl rfl fun _ fits => ⟨nofun, fits.2⟩
  · -- a place in line is dropped
    cases advanced
    exact ⟨books.leave rfl, rfl, fun _ _ => ⟨nofun, Nat.zero_le _⟩⟩
  · -- a reservation is dropped
    cases advanced
    exact ⟨books.give present (Nat.zero_add _).symm rfl, rfl, fun _ _ => ⟨nofun, Nat.zero_le _⟩⟩
  · cases advanced

/-! ## Runs -/

namespace Intake

variable (deployment : Deployment Contents)

/-- The bytes that a request of this deployment reserves, and the limit on its body. -/
def reservation : Nat := deployment.initial.limits.maxBodyBytes

/-- The service is governed by some configuration, the budget is the one it was assembled
with, and every request keeps to its reservation. -/
structure Kept (intake : Intake Contents) : Prop where
  governed : ∃ current, deployment.Governed current intake.service
  permitsPerRequest : intake.budget.permitsPerRequest = reservation deployment
  books : Books (Upload.reserved intake.budget.permitsPerRequest)
    (Upload.asked intake.budget.permitsPerRequest) deployment.initial.limits.maxInflightBodyBytes
    intake.budget.sem intake.uploads
  fits : ∀ upload ∈ intake.uploads, upload.Fits (reservation deployment)

variable {deployment} {before after first last : Intake Contents} {action : Action Contents}
  {trace : List (Runs.Transition (Intake Contents) (Action Contents))}

/-- Whatever has been published since the start has the first limit on bodies. -/
theorem Kept.limit {intake : Intake Contents} (kept : Kept deployment intake) :
    intake.service.store.runtime.maxBodyBytes = reservation deployment := by
  obtain ⟨current, governed⟩ := kept.governed
  rw [governed.runtime]
  exact congrArg Limits.maxBodyBytes governed.limits

/-- A step of a request, taken apart. -/
theorem proceed_moved {id : Nat} {event : Event} (kept : Kept deployment before)
    (stepped : Step deployment before (.proceed id event) after) :
    ∃ upload budget next, before.uploads[id]? = some upload ∧
      Moved id before.budget budget upload next ∧
      after = { before with budget := budget, uploads := before.uploads.set id next } := by
  simp only [Step, perform] at stepped
  split at stepped
  · rename_i upload present
    obtain ⟨⟨budget, next⟩, advanced, rfl⟩ := Option.map_eq_some_iff.mp stepped
    exact ⟨upload, budget, next, present, advance_moved kept.books present advanced, rfl⟩
  · cases stepped

/-- Every step keeps the budget. -/
theorem step_kept (kept : Kept deployment before) (stepped : Step deployment before action after) :
    Kept deployment after := by
  cases action with
  | serve action =>
    obtain ⟨service, served, rfl⟩ := Option.map_eq_some_iff.mp stepped
    obtain ⟨current, governed⟩ := kept.governed
    exact ⟨⟨_, Deployment.step_governed served governed⟩, kept.permitsPerRequest, kept.books,
      kept.fits⟩
  | arrive =>
    cases stepped
    refine ⟨kept.governed, kept.permitsPerRequest, kept.books.arrive rfl, ?_⟩
    intro upload member
    rcases List.mem_append.mp member with present | arrives
    · exact kept.fits upload present
    · rw [List.mem_singleton.mp arrives]
      refine ⟨?_, Nat.zero_le _⟩
      intro snapshot captured
      cases captured
      exact kept.limit
  | proceed id event =>
    obtain ⟨upload, budget, next, present, moved, rfl⟩ := proceed_moved kept stepped
    refine ⟨kept.governed, moved.permitsPerRequest.trans kept.permitsPerRequest, ?_, ?_⟩
    · simp only [moved.permitsPerRequest]
      exact kept.books.move present moved.shift
    · intro other member
      rcases List.mem_or_eq_of_mem_set member with stays | rfl
      · exact kept.fits other stays
      · exact moved.fits _ (kept.fits upload (List.mem_of_getElem? present))

/-- So does every run. -/
theorem run_kept (run : Runs.Run (Step deployment) first trace last)
    (kept : Kept deployment first) : Kept deployment last :=
  run.invariant (Kept deployment) kept fun _ _ _ stepped holds => step_kept holds stepped

variable (deployment)

/-- What holds of a state: the published limit is the reservation of one request, the
bodies of the requests stay within the budget, the books balance without the requests that
have left, and a request that is on its way out can always give its reservation back. -/
structure Within (intake : Intake Contents) : Prop where
  limit : intake.service.store.runtime.maxBodyBytes = intake.budget.permitsPerRequest
  resident : total (fun upload => upload.body.length) intake.uploads ≤
    deployment.initial.limits.maxInflightBodyBytes
  nothingLeft : ∀ id exit, intake.uploads[id]? = some (.left exit) →
    intake.budget.sem.unheld +
        total (Upload.reserved intake.budget.permitsPerRequest) (intake.uploads.eraseIdx id) =
      deployment.initial.limits.maxInflightBodyBytes ∧
    ∀ request ∈ intake.budget.sem.requests, request.1 ≠ id
  drops : ∀ id exit body, intake.uploads[id]? = some (.returning exit body) →
    ∃ after, Step deployment intake (.proceed id .poll) after ∧
      after.uploads[id]? = some (.left exit)

/-- A step by which a request leaves gives back exactly what the request had reserved. -/
def Returned (taken : Runs.Transition (Intake Contents) (Action Contents)) : Prop :=
  ∀ id event upload exit, taken.label = .proceed id event →
    taken.before.uploads[id]? = some upload → taken.after.uploads[id]? = some (.left exit) →
      taken.after.budget.sem.unheld = taken.before.budget.sem.unheld +
        upload.reserved taken.before.budget.permitsPerRequest

variable {deployment}

/-- The bodies are within the budget. -/
theorem Kept.within {intake : Intake Contents} (kept : Kept deployment intake) :
    Within deployment intake := by
  constructor
  case limit => rw [kept.limit, kept.permitsPerRequest]
  case resident =>
    refine Nat.le_trans (Semaphores.total_le ?_) kept.books.held_le
    intro upload member
    rw [kept.permitsPerRequest]
    exact (kept.fits upload member).body_le
  case nothingLeft =>
    intro id exit present
    exact kept.books.without present rfl rfl
  case drops =>
    intro id exit body present
    refine ⟨_, by simp only [Step, perform, present]; rfl, ?_⟩
    have bound : id < intake.uploads.length := (List.getElem?_eq_some_iff.mp present).1
    exact List.getElem?_set_self bound

/-- What an upload held is returned. -/
theorem Kept.returned (kept : Kept deployment before)
    (stepped : Step deployment before action after) : Returned ⟨before, action, after⟩ := by
  intro id event upload exit labelled present left
  cases labelled
  obtain ⟨moving, budget, next, found, moved, rfl⟩ := proceed_moved kept stepped
  simp only [present, Option.some.injEq] at found
  subst found
  have bound : id < before.uploads.length := (List.getElem?_eq_some_iff.mp present).1
  rw [List.getElem?_set_self bound, Option.some.injEq] at left
  subst left
  exact moved.shift.permits

/-- The budget of a validated configuration passes its assertions and has the limits of
that configuration. -/
theorem assembled_budget {limits : Limits} (bounds : limits.BodyBounds) :
    ∃ budget, BodyBudget.assemble limits = some budget ∧
      budget.permitsPerRequest = limits.maxBodyBytes ∧
      budget.sem = .new limits.maxInflightBodyBytes := by
  have positive := bounds.positive
  have fits := bounds.fits
  have narrow := bounds.narrow
  have counted : limits.maxBodyBytes ≤ u32Max := by omega
  have sized : 0 < limits.maxInflightBodyBytes ∧
      limits.maxBodyBytes ≤ limits.maxInflightBodyBytes := by omega
  refine ⟨⟨.new limits.maxInflightBodyBytes, limits.maxBodyBytes, limits.maxInflightBodyBytes⟩,
    ?_, rfl, rfl⟩
  rw [BodyBudget.assemble, if_pos counted, BodyBudget.new, if_pos sized]

/-- Resident bodies stay within the budget. For a validated configuration the budget can be
built, and in every interleaving of requests, reloads and model updates every state keeps
to it, and every request that leaves gives back exactly its reservation.

Proof: every step keeps the books of the semaphore and the size of each body. -/
theorem bodies_within_budget {libraries : Configuration.Libraries}
    {raw : Configuration.RawConfig} {file : Contents} {service : Service Contents}
    (validated : Configuration.tryFrom libraries raw = .ok deployment.initial)
    (assembled : deployment.assemble file = .ok service) :
    ∃ budget, BodyBudget.assemble deployment.initial.limits = some budget ∧
      ∀ trace last, Runs.Run (Step deployment) ⟨service, budget, []⟩ trace last →
        Within deployment last ∧ ∀ taken ∈ trace, Returned taken := by
  obtain ⟨budget, built, permits, fresh⟩ :=
    assembled_budget (Configuration.tryFrom_bounds validated)
  refine ⟨budget, built, ?_⟩
  intro trace last run
  have start : Kept deployment ⟨service, budget, []⟩ := by
    constructor
    case governed => exact ⟨_, Deployment.assemble_governed assembled⟩
    case permitsPerRequest => exact permits
    case books => exact fresh ▸ Books.start
    case fits => nofun
  refine ⟨(run_kept run start).within, ?_⟩
  intro taken member
  obtain ⟨⟨prior, upTo⟩, stepped⟩ := run.recorded member
  exact (run_kept upTo start).returned stepped

/-- The budget of the sample deployment. -/
def sampleBudget : BodyBudget where
  sem := .new 268435456
  permitsPerRequest := 10485760
  capacity := 268435456

/-- A request whose body names no model, with a reload of the rotated file under way. -/
def sampleUpload : List (Action Configuration.Contents) :=
  [.arrive, .serve (.write (Reload.sampleFile "rotated")), .proceed 0 .poll, .serve .fire,
    .proceed 0 (.frame [1]), .serve .work, .proceed 0 .finish, .proceed 0 .poll, .proceed 0 .poll]

/-- The sample service before any request. -/
def sampleIntake : Intake Configuration.Contents := ⟨Reload.sampleService, sampleBudget, []⟩

/-- The body is refused during the reload and gives back what it held. -/
theorem bodies_within_budget_reload :
    let last := Runs.reached (perform Reload.sampleDeployment) sampleIntake sampleUpload
    last.uploads = [.left .invalidModel] ∧ last.budget = sampleBudget ∧
      Within Reload.sampleDeployment last ∧
      ∀ taken ∈ Runs.steps (perform Reload.sampleDeployment) sampleIntake sampleUpload,
        Returned taken := by
  have validated : Configuration.tryFrom Reload.sampleLibraries
      { gatewayToken := some "old", keys := some [.plain "a", .plain "b"] } =
        .ok Reload.sampleDeployment.initial := by decide +kernel
  obtain ⟨budget, built, law⟩ := bodies_within_budget validated Reload.sample_assembled
  have known : BodyBudget.assemble Reload.sampleDeployment.initial.limits = some sampleBudget := by
    decide +kernel
  rw [built, Option.some.injEq] at known
  subst known
  have enabled : (Runs.record (perform Reload.sampleDeployment) sampleIntake
      sampleUpload).isSome := by decide +kernel
  obtain ⟨within, returned⟩ := law _ _ (Runs.replay_run enabled)
  exact ⟨by decide +kernel, by decide +kernel, within, returned⟩

end Intake

end Orihsus.Bodies
