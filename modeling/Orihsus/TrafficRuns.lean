import Orihsus.AuditJson
import Orihsus.TrafficSteps

/-!
# Each request among all of them

In every run of the gateway, whatever the other requests, the reloads and the log do, each
request has made a run of the handler of `Handler` from its arrival at the gateway as it was
assembled. What is proved of one handler therefore holds of every request of every
interleaving.

The handler of `Handler` knows the position of its tracker from the start. A request gets it
when it is served, and until then any position that is not yet taken will do.
-/

namespace Orihsus.Gateway

open Queue (Hall)
open Pool (System)
open Semaphores (Semaphore)

namespace Traffic

variable {house : House} {guest : Guest} {shared : Shared} {asker : Option Nat}
  {position : Nat} {handling after : Handling} {action : HandlerAction}
  {before after_ first last : Traffic} {label : TrafficAction} {id : Nat} {visit : Visit}
  {trace : List (Runs.Transition Traffic TrafficAction)}

/-! ## The run of one request -/

/-- Where a request stands, or would stand before it has come. -/
def standing (traffic : Traffic) (id : Nat) (guest : Guest) : Handling :=
  match traffic.visits[id]? with
  | some visit => visit.view traffic.shared
  | none => guest.arriving traffic.shared

/-- The tracker of a request has this position, or can still get it. -/
def At (traffic : Traffic) (id position : Nat) : Prop :=
  match (traffic.visits[id]?).bind Visit.tracker with
  | some mine => mine = position
  | none => traffic.shared.system.callers.length ≤ position

/-- What a step beside a request leaves alone. -/
def essence (traffic : Traffic) (id : Nat) : Option (Guest × Handling × Option Nat) :=
  (traffic.visits[id]?).map fun visit => (visit.guest, visit.own, visit.tracker)

/-- All of a request that matters to its run, traced back over one step. -/
structure Traced (house : House) (before after : Traffic) (id : Nat) (guest : Guest)
    (position : Nat) : Prop where
  mine : ∀ visit, before.visits[id]? = some visit → visit.guest = guest
  at_ : before.At id position
  steps : after.standing id guest = before.standing id guest ∨ ∃ label,
    (guest.handler house position).Step (before.standing id guest) label (after.standing id guest)

/-- The standing of a request has the shared state in it. -/
theorem standing_under (traffic : Traffic) (id : Nat) (guest : Guest) :
    (traffic.standing id guest).under traffic.shared = traffic.standing id guest := by
  unfold standing
  split
  · rfl
  · rfl

/-- A step beside a request changes only what it shares. -/
theorem standing_beside (same : after_.essence id = before.essence id) (guest : Guest) :
    after_.standing id guest = (before.standing id guest).under after_.shared := by
  unfold essence at same
  unfold standing
  cases earlier : before.visits[id]? with
  | none =>
    rw [earlier, Option.map_none, Option.map_eq_none_iff] at same
    rw [same]
    rfl
  | some visit =>
    rw [earlier, Option.map_some, Option.map_eq_some_iff] at same
    obtain ⟨found, seen, equal⟩ := same
    have own : found.own = visit.own := congrArg (fun essential => essential.2.1) equal
    rw [seen]
    dsimp only [Visit.view]
    rw [own]
    rfl

/-- It leaves the tracker of the request. -/
theorem tracker_beside (same : after_.essence id = before.essence id) :
    (after_.visits[id]?).bind Visit.tracker = (before.visits[id]?).bind Visit.tracker := by
  have projected := congrArg (fun essential => essential.bind fun parts => parts.2.2) same
  simpa only [essence, Option.bind_map, Function.comp_def] using projected

/-- A step beside a request. -/
theorem traced_beside (same : after_.essence id = before.essence id)
    (shares : Shares house asker before.shared after_.shared)
    (apart : asker ≠ some position)
    (mine : ∀ visit, after_.visits[id]? = some visit → visit.guest = guest)
    (at_ : after_.At id position) : Traced house before after_ id guest position := by
  constructor
  · intro visit present
    unfold essence at same
    rw [present, Option.map_some, Option.map_eq_some_iff] at same
    obtain ⟨found, seen, equal⟩ := same
    have guests : found.guest = visit.guest := congrArg Prod.fst equal
    exact guests.symm.trans (mine found seen)
  · unfold At at at_ ⊢
    rw [tracker_beside same] at at_
    split
    · rename_i tracker holds
      rw [holds] at at_
      exact at_
    · rename_i none
      rw [none] at at_
      exact Nat.le_trans (callers_le shares) at_
  · have steps := foreign_step shares apart guest (before.standing id guest)
    rw [standing_under, ← standing_beside same] at steps
    exact steps

/-- A request whose handler does not ask for a tracker may have any position. -/
theorem position_free (stepped : (guest.handler house position).Step handling action after)
    (own : action.own = true) (unserved : handling.station.unserved = true)
    (unasked : action ≠ .serve) (free : Nat) :
    (guest.handler house free).Step handling action after := by
  obtain ⟨passes, _, _⟩ := Handler.own_passes stepped own
  have idle {station reached : Station} (passes : Passes action station reached)
      (unserved : station.unserved = true) (unasked : action ≠ .serve) :
      action = .check ∨ action = .recheck ∨ (∃ result, action = .admission result) ∨
        action = .cancel := by
    cases passes with
    | checked => exact .inl rfl
    | rechecked => exact .inr (.inl rfl)
    | admitted | refused => exact .inr (.inr (.inl ⟨_, rfl⟩))
    | left => exact .inr (.inr (.inr rfl))
    | served => exact absurd rfl unasked
    | read | unread | looked | unlisted | attempted | answered | streams | pumped => cases unserved
  rcases idle passes unserved unasked with rfl | rfl | ⟨result, rfl⟩ | rfl
  · exact stepped
  · exact stepped
  · exact stepped
  · exact stepped

/-- A step of the request itself. -/
theorem traced_own {action : HandlerAction} {next : Handling} {hall : Hall}
    {slots : Semaphore Nat} {taken : Bool} (tracked : Tracked before)
    (present : before.visits[id]? = some visit) (own : action.own = true)
    (stepped : (visit.guest.handler house (before.position visit)).Step
      (visit.view before.shared) action next)
    (mine : visit.guest = guest)
    (at_ : (before.visited id visit action next hall slots taken).At id position) :
    Traced house before (before.visited id visit action next hall slots taken) id guest
      position := by
  subst mine
  have bound : id < before.visits.length := (List.getElem?_eq_some_iff.mp present).1
  have here : (before.visited id visit action next hall slots taken).standing id visit.guest =
      next := by
    unfold standing visited
    dsimp only
    rw [List.getElem?_set_self bound]
    rfl
  have there : before.standing id visit.guest = visit.view before.shared := by
    unfold standing
    rw [present]
  unfold At visited at at_
  dsimp only at at_
  rw [List.getElem?_set_self bound, Option.bind_some] at at_
  dsimp only at at_
  -- The position is known, or any free one will do.
  have placed : before.At id position ∧
      (visit.guest.handler house position).Step (visit.view before.shared) action next := by
    unfold At
    rw [present, Option.bind_some]
    rcases trackerAfter_cases before visit action with ⟨rfl, fresh⟩ | ⟨unasked, same⟩
    · rw [fresh] at at_
      dsimp only at at_
      subst at_
      have asked : before.position visit = before.shared.system.callers.length :=
        (serve_callers stepped).1.symm
      rw [asked] at stepped
      refine ⟨?_, stepped⟩
      cases holds : visit.tracker with
      | none => exact Nat.le_refl _
      | some earlier =>
        have below := tracked.bound id visit earlier present holds
        rw [Traffic.position, holds, Option.getD_some] at asked
        omega
    · rw [same] at at_
      cases holds : visit.tracker with
      | none =>
        rw [holds] at at_
        have grows := callers_le (own_shares stepped own (tracked.asks present)).1
        exact ⟨Nat.le_trans grows at_,
          position_free stepped own (tracked.unserved id visit present holds) unasked position⟩
      | some earlier =>
        rw [holds] at at_
        dsimp only at at_
        subst at_
        have placed : before.position visit = earlier := by
          rw [Traffic.position, holds, Option.getD_some]
        rw [placed] at stepped
        exact ⟨rfl, stepped⟩
  refine ⟨?_, placed.1, ?_⟩
  · intro found seen
    rw [present, Option.some.injEq] at seen
    rw [seen]
  · rw [here, there]
    exact .inr ⟨action, placed.2⟩

/-- Every step of the gateway is for each request a step of its handler, or none at all. -/
theorem step_traced (stepped : Step house before label after_) (tracked : Tracked before)
    (mine : ∀ visit, after_.visits[id]? = some visit → visit.guest = guest)
    (at_ : after_.At id position) : Traced house before after_ id guest position := by
  have beside (same : after_.essence id = before.essence id)
      (shares : Shares house none before.shared after_.shared) :
      Traced house before after_ id guest position :=
    traced_beside same shares (Option.some_ne_none position).symm mine at_
  have adjusted {moved : Nat} {visit replaced : Visit}
      (present : before.visits[moved]? = some visit)
      (visits : after_.visits = before.visits.set moved replaced)
      (same : (replaced.guest, replaced.own, replaced.tracker) =
        (visit.guest, visit.own, visit.tracker)) : after_.essence id = before.essence id := by
    unfold essence
    rw [visits, visits_set present]
    split
    · rename_i equal
      rw [← equal, present, Option.map_some, Option.map_some, same]
    · rfl
  cases step_turn stepped with
  | ticked shares | shared quiet shares => exact beside rfl shares
  | unpermitted | queued | aside | logged => exact beside rfl .nothing
  | acquired present | unslotted present => exact beside (adjusted present rfl rfl) .nothing
  | arrived headers api generatedId came =>
    rcases Nat.lt_trichotomy id before.visits.length with below | same | above
    · refine beside ?_ .nothing
      unfold essence
      dsimp only
      rw [List.getElem?_append_left below]
    · subst same
      have absent : before.visits[before.visits.length]? = none :=
        List.getElem?_eq_none (Nat.le_refl _)
      have equal : came = guest :=
        mine ⟨came, came.arriving before.shared, none, none, false⟩ List.getElem?_concat_length
      unfold At at at_
      dsimp only at at_
      rw [List.getElem?_concat_length] at at_
      refine ⟨?_, ?_, .inl ?_⟩
      · intro visit present
        rw [absent] at present
        cases present
      · unfold At
        rw [absent]
        exact at_
      · unfold standing
        dsimp only
        rw [List.getElem?_concat_length, absent, equal]
        rfl
    · refine beside ?_ .nothing
      unfold essence
      dsimp only
      have beyond (visit : Visit) : (before.visits ++ [visit]).length ≤ id := by
        rw [List.length_append, List.length_singleton]
        omega
      rw [List.getElem?_eq_none (Nat.le_of_lt above), List.getElem?_eq_none (beyond _)]
  | @visited moved visit action next hall slots taken present halls steps slotted =>
    have own := hallAfter_own halls
    by_cases same : moved = id
    · subst same
      have bound : moved < before.visits.length := (List.getElem?_eq_some_iff.mp present).1
      have guests : visit.guest = guest := mine
        { visit with
          own := next
          tracker := before.trackerAfter visit action
          slot := visit.slot || taken } (List.getElem?_set_self bound)
      exact traced_own tracked present own steps guests at_
    · have kept : (before.visited moved visit action next hall slots taken).essence id =
          before.essence id := by
        unfold essence visited
        dsimp only
        rw [List.getElem?_set_ne same]
      have shares : Shares house visit.tracker before.shared (.of next) :=
        (own_shares steps own (tracked.asks present)).1
      refine traced_beside kept shares ?_ mine at_
      -- The tracker of the request that moves is not that of the request we follow.
      intro holds
      have below := tracked.bound moved visit position present holds
      unfold At at at_
      rw [tracker_beside kept] at at_
      split at at_
      · rename_i tracker found
        obtain ⟨followed, seen, mine⟩ := Option.bind_eq_some_iff.mp found
        subst at_
        exact same (tracked.distinct moved id visit followed tracker present seen holds mine)
      · have grows : before.shared.system.callers.length ≤ position :=
          Nat.le_trans (callers_le shares) at_
        omega

/-- No request has a tracker at the start. -/
theorem opened_tracked (shared : Shared) (maxConcurrency maxQueue waitTimeout : Nat)
    (log : Audit.Service AuditRecord) :
    Tracked (opened shared maxConcurrency maxQueue waitTimeout log) := by
  constructor
  · intro id visit position present
    cases present
  · intro id other visit another position present
    cases present
  · intro id visit present
    cases present

/-- The run of one request among all of them. -/
theorem run_traced (tracked : Tracked first)
    (run : Runs.Run (Step house) first trace last)
    (mine : ∀ visit, last.visits[id]? = some visit → visit.guest = guest)
    (at_ : last.At id position) :
    ∃ steps, Runs.Run (guest.handler house position).Step (first.standing id guest) steps
      (last.standing id guest) := by
  induction run with
  | start => exact ⟨[], .start⟩
  | @extend trace current next label earlier stepped inductionHypothesis =>
    have known := earlier.invariant Tracked tracked fun _ _ _ => step_tracked
    obtain ⟨guests, placed, steps⟩ := step_traced stepped known mine at_
    obtain ⟨taken, reached⟩ := inductionHypothesis guests placed
    rcases steps with same | ⟨action, moved⟩
    · rw [same]
      exact ⟨taken, reached⟩
    · exact ⟨_, reached.extend moved⟩

/-- The run of a request that is there. -/
theorem run_visit {maxConcurrency maxQueue waitTimeout : Nat} {log : Audit.Service AuditRecord}
    (run : Runs.Run (Step house) (opened shared maxConcurrency maxQueue waitTimeout log) trace last)
    (present : last.visits[id]? = some visit) :
    ∃ steps, Runs.Run (visit.guest.handler house (last.position visit)).Step
      (visit.guest.arriving shared) steps (visit.view last.shared) := by
  have mine (found : Visit) (seen : last.visits[id]? = some found) :
      found.guest = visit.guest := by
    rw [present, Option.some.injEq] at seen
    rw [seen]
  have placed : last.At id (last.position visit) := by
    unfold At Traffic.position
    rw [present, Option.bind_some]
    cases visit.tracker with
    | none => exact Nat.le_refl _
    | some mine => rfl
  have here : last.standing id visit.guest = visit.view last.shared := by
    unfold standing
    rw [present]
  obtain ⟨steps, reached⟩ := run_traced (opened_tracked _ _ _ _ _) run mine placed
  rw [here] at reached
  exact ⟨steps, reached⟩

/-- Every request arrives as a handler does. -/
theorem visit_arrives (initial : System.Initial house.policy house.fingerprint shared.system)
    (visit : Visit) (position : Nat) :
    Handler.Arrives (visit.guest.handler house position) (visit.guest.arriving shared) :=
  ⟨initial, ⟨rfl, rfl⟩, rfl, rfl, rfl⟩

/-- Every request of every run of the gateway has made a run of the handler, from its arrival
at the gateway as it was assembled to where it stands now.

Proof: a step of the gateway is one of the request's own handler, or what it sees of the others. -/
theorem requests_refine {maxConcurrency maxQueue waitTimeout : Nat}
    {log : Audit.Service AuditRecord}
    (initial : System.Initial house.policy house.fingerprint shared.system)
    (run : Runs.Run (Step house) (opened shared maxConcurrency maxQueue waitTimeout log) trace last)
    (present : last.visits[id]? = some visit) :
    ∃ position steps, (∀ mine, visit.tracker = some mine → mine = position) ∧
      Handler.Arrives (visit.guest.handler house position) (visit.guest.arriving shared) ∧
      Runs.Run (visit.guest.handler house position).Step (visit.guest.arriving shared) steps
        (visit.view last.shared) := by
  obtain ⟨steps, reached⟩ := run_visit run present
  refine ⟨last.position visit, steps, ?_, visit_arrives initial visit _, reached⟩
  intro mine holds
  rw [Traffic.position, holds, Option.getD_some]

/-- An encoder that writes an empty object for every record. -/
def sampleEncoder : Audit.Encoder AuditRecord where
  encode _ := .ok [123, 125]
  plain := by
    rintro _ line ⟨⟩
    decide

/-- A gateway with the libraries of `sampleHandler`. -/
def sampleHouse : House where
  gateway := Handler.sampleHandler.setup.gateway
  libraries := Handler.sampleHandler.setup.libraries
  policy := Handler.sampleHandler.setup.policy
  fingerprint := Handler.sampleHandler.setup.fingerprint
  render := Handler.sampleHandler.render
  encoder := sampleEncoder

/-- A log with room for four records. -/
def sampleLog : Audit.Service AuditRecord where
  writer := ⟨0, 0, false, false, true⟩
  channel := .new 4
  thread := ⟨.receiving, ⟨none, 0⟩, none, false⟩
  files := [[]]
  offers := []
  reopens := []
  closing := .serving
  clock := 0
  stderr := []

/-- The gateway as it opens. -/
def sampleTraffic : Traffic :=
  opened ⟨Setup.sampleProxy.system, Client.runtimeOf "old", 0⟩ 4 1 5 sampleLog

/-- A request is failed over and streamed; one without a credential comes and goes in
between, and another route is asked. -/
def sampleDay : List TrafficAction :=
  [.arrive Handler.sampleHandler.headers .chatCompletions "r", .visit 0 .check, .acquire 0,
    .queue (.proceed 0), .visit 0 (.admission (.ok ())), .arrive [] .chatCompletions "s",
    .visit 0 .check, .visit 1 .check, .visit 0 .serve,
    .visit 0 (.read (.complete (Text.asBytes ['m']))), .visit 0 .look, .visit 0 (.attempt .choose),
    .visit 0 (.attempt .advance), .tick 2,
    .visit 0 (.attempt (.conclude (.responded 1 ⟨503, [], [⟨2, .ended⟩]⟩) 0 fun cap => cap)),
    .visit 0 (.attempt .choose), .tick 5,
    .visit 0 (.attempt (.conclude (.responded 3 Setup.sampleStream) 0 fun cap => cap)),
    .visit 0 (.finalize true), .tick 9, .visit 0 (.pump [] fun cap => cap), .dropSlot 0,
    .dropPermit 0]

/-- The sample starts with a fresh pool. -/
theorem sampleTraffic_initial : System.Initial sampleHouse.policy sampleHouse.fingerprint
    Setup.sampleProxy.system :=
  System.started_initial System.samplePolicy System.sampleFingerprint rfl (by simp)

/-- Two requests of one day. -/
theorem requests_refine_two :
    let last := Runs.reached (perform sampleHouse) sampleTraffic sampleDay
    ∃ visit, last.visits[0]? = some visit ∧ visit.tracker = some 0 ∧
      ∃ position steps, (∀ mine, visit.tracker = some mine → mine = position) ∧
        Handler.Arrives (visit.guest.handler sampleHouse position)
          (visit.guest.arriving ⟨Setup.sampleProxy.system, Client.runtimeOf "old", 0⟩) ∧
        Runs.Run (visit.guest.handler sampleHouse position).Step
          (visit.guest.arriving ⟨Setup.sampleProxy.system, Client.runtimeOf "old", 0⟩) steps
          (visit.view last.shared) := by
  have enabled : (Runs.record (perform sampleHouse) sampleTraffic sampleDay).isSome := by
    decide +kernel
  have served : (((Runs.reached (perform sampleHouse) sampleTraffic sampleDay).visits[0]?).bind
      Visit.tracker) = some 0 := by decide +kernel
  obtain ⟨visit, present, tracker⟩ := Option.bind_eq_some_iff.mp served
  exact ⟨visit, present, tracker,
    requests_refine sampleTraffic_initial (Runs.replay_run enabled) present⟩

/-! ## The records of all requests -/

/-- The record that a request of another route makes. -/
def besides : TrafficAction → Option AuditRecord
  | .aside record => some record
  | _ => none

/-- The records of the requests of the other routes. -/
def asides (trace : List (Runs.Transition Traffic TrafficAction)) : List AuditRecord :=
  trace.filterMap fun taken => besides taken.label

/-- Only a record on the side is besides. -/
theorem besides_none (quiet : ∀ record, label ≠ .aside record) : besides label = none := by
  cases label with
  | aside record => exact absurd rfl (quiet record)
  | _ => rfl

/-- The records that the requests under way have made. -/
def recorded (traffic : Traffic) : List AuditRecord :=
  traffic.visits.flatMap fun visit => visit.own.records

/-- A step of a handler writes at most one record. -/
theorem own_records {handler : Handler} {before : Handling}
    (stepped : handler.Step before action after) :
    after.records = before.records ∨ ∃ record, after.records = before.records ++ [record] := by
  cases Handler.step_moves stepped with
  | walks _ _ unrecorded | calls _ _ unrecorded => exact .inl unrecorded
  | rejects | serves | pumps => exact .inr ⟨_, rfl⟩

/-- The records of the requests, when one of them makes some more. -/
theorem recorded_set {replaced : Visit} {more : List AuditRecord}
    (present : before.visits[id]? = some visit)
    (visits : after_.visits = before.visits.set id replaced)
    (records : replaced.own.records = visit.own.records ++ more) :
    after_.recorded.Perm (before.recorded ++ more) := by
  obtain ⟨front, back, whole, set⟩ := Audit.Service.set_split present replaced
  unfold recorded
  rw [visits, set, whole, List.flatMap_append, List.flatMap_append, List.flatMap_cons,
    List.flatMap_cons, records, List.append_assoc, List.append_assoc, List.append_assoc]
  refine List.Perm.append_left _ (List.Perm.append_left _ ?_)
  exact List.perm_append_comm

/-- The log has made a run of its own, and what was offered to it are the records of the
requests and those of the other routes. -/
structure Offers (house : House) (log : Audit.Service AuditRecord)
    (trace : List (Runs.Transition Traffic TrafficAction)) (traffic : Traffic)
    (steps : List (Runs.Transition (Audit.Service AuditRecord) (Audit.Action AuditRecord))) :
    Prop where
  run : Runs.Run (Audit.Service.Step house.encoder) log steps traffic.log
  offered : (Audit.Service.offered steps).Perm (traffic.recorded ++ asides trace)

section

open Audit (Service)

variable {log : Service AuditRecord}
  {steps : List (Runs.Transition (Service AuditRecord) (Audit.Action AuditRecord))}

/-- A step that offers nothing. -/
theorem Offers.still (offers : Offers house log trace before steps)
    (quiet : besides label = none) (same : after_.log = before.log)
    (records : after_.recorded.Perm before.recorded) :
    Offers house log (trace ++ [⟨before, label, after_⟩]) after_ steps := by
  constructor
  · rw [same]
    exact offers.run
  · rw [asides, Runs.filterMap_extend, quiet, Option.toList_none, List.append_nil]
    exact offers.offered.trans (records.symm.append_right _)

/-- A step that the log takes as well. -/
theorem Offers.logged {act : Audit.Action AuditRecord}
    (offers : Offers house log trace before steps) (more : List AuditRecord)
    (stepped : Service.Step house.encoder before.log act after_.log)
    (records : after_.recorded.Perm (before.recorded ++ more))
    (both : more ++ (besides label).toList = (Service.offer act).toList) :
    Offers house log (trace ++ [⟨before, label, after_⟩]) after_
      (steps ++ [⟨before.log, act, after_.log⟩]) := by
  refine ⟨offers.run.extend stepped, ?_⟩
  rw [Service.offered, Runs.filterMap_extend, asides, Runs.filterMap_extend]
  dsimp only
  rw [← both]
  have moved : (before.recorded ++ asides trace ++ (more ++ (besides label).toList)).Perm
      (before.recorded ++ more ++ (asides trace ++ (besides label).toList)) := by
    rw [List.append_assoc, List.append_assoc, ← List.append_assoc (asides trace),
      ← List.append_assoc more]
    exact List.Perm.append_left _ (List.perm_append_comm.append_right _)
  exact ((offers.offered.append_right _).trans moved).trans (records.symm.append_right _)

/-- Every record of a handler is offered to the log. -/
theorem step_offers (stepped : Step house before label after_)
    (offers : Offers house log trace before steps) :
    ∃ more, Offers house log (trace ++ [⟨before, label, after_⟩]) after_ more := by
  have adjusted {moved : Nat} {visit replaced : Visit}
      (present : before.visits[moved]? = some visit)
      (visits : after_.visits = before.visits.set moved replaced)
      (same : replaced.own.records = visit.own.records) :
      after_.recorded.Perm before.recorded := by
    have records := recorded_set present visits (same.trans (List.append_nil _).symm)
    rwa [List.append_nil] at records
  cases step_turn stepped with
  | @ticked elapsed shared shares =>
    have ticks : Service.Step house.encoder before.log (.tick elapsed)
        { before.log with clock := before.log.clock + elapsed } := rfl
    exact ⟨_, offers.logged [] ticks (List.Perm.of_eq (List.append_nil _).symm) rfl⟩
  | shared quiet shares => exact ⟨_, offers.still (besides_none quiet) rfl (List.Perm.refl _)⟩
  | unpermitted | queued => exact ⟨_, offers.still rfl rfl (List.Perm.refl _)⟩
  | arrived headers api generatedId guest =>
    refine ⟨_, offers.still rfl rfl (List.Perm.of_eq ?_)⟩
    exact List.flatMap_append.trans (List.append_nil _)
  | acquired present | unslotted present =>
    exact ⟨_, offers.still rfl rfl (adjusted present rfl rfl)⟩
  | aside record =>
    have offered : Service.Step house.encoder before.log (.tryRecord record)
        (before.log.tryRecord record) := rfl
    exact ⟨_, offers.logged [] offered (List.Perm.of_eq (List.append_nil _).symm) rfl⟩
  | @logged act log free taken =>
    have silent : Service.offer act = none := by
      cases act with
      | tryRecord record => cases free
      | _ => rfl
    refine ⟨_, offers.logged [] taken (List.Perm.of_eq (List.append_nil _).symm) ?_⟩
    rw [silent]
    rfl
  | @visited moved visit action next hall slots taken present halls steps slotted =>
    rcases own_records steps with same | ⟨record, one⟩
    · have records : next.records = visit.own.records := same
      refine ⟨_, offers.still rfl ?_ (adjusted present rfl records)⟩
      unfold visited
      dsimp only
      rw [records, List.drop_length]
      rfl
    · have records : next.records = visit.own.records ++ [record] := one
      have offered : Service.Step house.encoder before.log (.tryRecord record)
          (before.visited moved visit action next hall slots taken).log := by
        unfold visited
        dsimp only
        rw [records, List.drop_left]
        rfl
      exact ⟨_, offers.logged [record] offered (recorded_set present rfl records) rfl⟩

/-- So it is in every run. -/
theorem run_offers (fresh : first.visits = [])
    (run : Runs.Run (Step house) first trace last) :
    ∃ steps, Offers house first.log trace last steps := by
  induction run with
  | start =>
    refine ⟨[], .start, ?_⟩
    rw [recorded, fresh]
    exact List.Perm.refl _
  | extend earlier stepped inductionHypothesis =>
    obtain ⟨steps, offers⟩ := inductionHypothesis
    exact step_offers stepped offers

/-- A request has a record exactly if it is settled. -/
theorem visit_records (initial : System.Initial house.policy house.fingerprint shared.system)
    {maxConcurrency maxQueue waitTimeout : Nat}
    (run : Runs.Run (Step house) (opened shared maxConcurrency maxQueue waitTimeout log) trace last)
    (present : last.visits[id]? = some visit) :
    visit.own.records.length = if visit.own.station.settled then 1 else 0 := by
  obtain ⟨steps, reached⟩ := run_visit run present
  have kept := Handler.run_kept (visit_arrives initial visit _) reached
  split
  · rename_i settled
    obtain ⟨record, alone, _⟩ := kept.answered settled
    exact congrArg List.length alone
  · rename_i unsettled
    exact congrArg List.length (kept.unanswered (Bool.eq_false_iff.mpr unsettled))

/-- There are as many records as settled requests. -/
theorem recorded_length {visits : List Visit}
    (each : ∀ visit ∈ visits,
      visit.own.records.length = if visit.own.station.settled then 1 else 0) :
    (visits.flatMap fun visit => visit.own.records).length =
      visits.countP fun visit => visit.own.station.settled := by
  induction visits with
  | nil => rfl
  | cons visit rest inductionHypothesis =>
    rw [List.flatMap_cons, List.length_append, each visit List.mem_cons_self,
      inductionHypothesis fun other member => each other (List.mem_cons_of_mem _ member),
      List.countP_cons, Nat.add_comm]

/-- Every offer is accepted or not. -/
theorem accepted_count (offers : List (Audit.Offer AuditRecord)) :
    (offers.filterMap Audit.Offer.accepted).length +
        offers.countP (fun offer => offer.state ≠ .accepted) = offers.length := by
  induction offers with
  | nil => rfl
  | cons offer rest inductionHypothesis =>
    obtain ⟨record, state⟩ := offer
    cases state with
    | accepted =>
      rw [List.filterMap_cons_some (rfl : Audit.Offer.accepted _ = some record),
        List.countP_cons_of_neg (by simp)]
      simp only [List.length_cons]
      omega
    | refused | dropped =>
      rw [List.filterMap_cons_none rfl, List.countP_cons_of_pos (by simp)]
      simp only [List.length_cons]
      omega

/-- Over every interleaving of requests, a request has one record once it has been answered in
full and none before; what is offered to the log are these records and those of the other
routes, each once; and if the log is shut down well, then as many lines were written as
requests were answered, but for the offers that were not accepted.

Proof: the log's part of the run is a run of the writer, whose books count the offers. -/
theorem answers_logged_once {maxConcurrency maxQueue waitTimeout capacity : Nat}
    {contents : List UInt8}
    (encodes : ∀ record, ∃ line, house.encoder.encode record = .ok line)
    (initial : System.Initial house.policy house.fingerprint shared.system)
    (started : Service.spawn contents capacity = .ok log)
    (run : Runs.Run (Step house) (opened shared maxConcurrency maxQueue waitTimeout log) trace
      last) :
    (∀ (id : Nat) visit, last.visits[id]? = some visit →
        visit.own.records.length = if visit.own.station.settled then 1 else 0) ∧
      (last.log.offers.map Audit.Offer.record).Perm (last.recorded ++ asides trace) ∧
      (last.log.closing = .returned (.ok ()) →
        ∃ steps, Runs.Run (Service.Step house.encoder) log steps last.log ∧
          (Service.writes steps).map Prod.fst = last.log.accepted ∧
          (Service.writes steps).length +
              last.log.offers.countP (fun offer => offer.state ≠ .accepted) =
            (last.visits.countP fun visit => visit.own.station.settled) +
              (asides trace).length) := by
  obtain ⟨steps, offers⟩ := run_offers rfl run
  have books := Service.run_books encodes started offers.run
  have each (id : Nat) (visit : Visit) (present : last.visits[id]? = some visit) :=
    visit_records initial run present
  have offered : (last.log.offers.map Audit.Offer.record).Perm (last.recorded ++ asides trace) :=
    (List.Perm.of_eq books.offered).trans offers.offered
  refine ⟨each, offered, ?_⟩
  intro returned
  obtain ⟨_, written⟩ := Service.returned_well encodes started offers.run returned
  refine ⟨steps, offers.run, written, ?_⟩
  have total : last.log.offers.length = last.recorded.length + (asides trace).length := by
    rw [← List.length_map Audit.Offer.record, offered.length_eq, List.length_append]
  have settled : last.recorded.length =
      last.visits.countP fun visit => visit.own.station.settled := by
    refine recorded_length ?_
    intro visit member
    obtain ⟨id, present⟩ := List.mem_iff_getElem?.mp member
    exact each id visit present
  rw [← settled, ← total, ← List.length_map Prod.fst, written]
  exact accepted_count last.log.offers

/-- A record of another route, for a concrete run. -/
def sampleAside : AuditRecord :=
  recordAuditRejectedWithContext 0 "x" 404 0 (RequestAudit.fromHeaders [])

/-- The log is closed after the requests. -/
def sampleNight : List TrafficAction :=
  [.aside sampleAside] ++ sampleDay ++
    [.log .receive, .log (.writeAll .done), .log .receive, .log (.writeAll .done),
      .log .receive, .log (.writeAll .done), .log .shutdown, .log .receive, .log (.flush none),
      .log .join]

/-- A night with a full log. -/
theorem answers_logged_once_night :
    let trace := Runs.steps (perform sampleHouse) sampleTraffic sampleNight
    let last := Runs.reached (perform sampleHouse) sampleTraffic sampleNight
    (last.visits.countP fun visit => visit.own.station.settled) = 2 ∧
      (∀ (id : Nat) visit, last.visits[id]? = some visit →
        visit.own.records.length = if visit.own.station.settled then 1 else 0) ∧
      (last.log.offers.map Audit.Offer.record).Perm (last.recorded ++ asides trace) ∧
      ∃ steps, Runs.Run (Service.Step sampleHouse.encoder) sampleLog steps last.log ∧
        (Service.writes steps).map Prod.fst = last.log.accepted ∧
        (Service.writes steps).length +
            last.log.offers.countP (fun offer => offer.state ≠ .accepted) =
          (last.visits.countP fun visit => visit.own.station.settled) +
            (asides trace).length := by
  have enabled : (Runs.record (perform sampleHouse) sampleTraffic sampleNight).isSome := by
    decide +kernel
  have returned : (Runs.reached (perform sampleHouse) sampleTraffic sampleNight).log.closing =
      .returned (.ok ()) := by decide +kernel
  have encodes (record : AuditRecord) : ∃ line, sampleHouse.encoder.encode record = .ok line :=
    ⟨_, rfl⟩
  have started : Service.spawn [] 4 = .ok sampleLog := rfl
  have run : Runs.Run (Step sampleHouse) sampleTraffic
      (Runs.steps (perform sampleHouse) sampleTraffic sampleNight)
      (Runs.reached (perform sampleHouse) sampleTraffic sampleNight) := Runs.replay_run enabled
  obtain ⟨each, offered, logged⟩ :=
    answers_logged_once encodes sampleTraffic_initial started run
  have settled : ((Runs.reached (perform sampleHouse) sampleTraffic
      sampleNight).visits.countP fun visit => visit.own.station.settled) = 2 := by
    decide +kernel
  exact ⟨settled, each, offered, logged returned⟩

end

end Traffic

end Orihsus.Gateway
