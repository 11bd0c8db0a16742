import Orihsus.LoopProgress
import Orihsus.TrafficBounds

/-!
# No request depends on another

A request waits in the queue, for its body, in the pool and for an upstream. Whatever the
others hold, it can always go on by itself: each of its waits has an end of its own, and between
two waits every step of its handler is enabled. So from every state of every interleaving each
request can come to its answer by its own steps and the clock alone, however its body comes and
whatever its upstreams do, within the sum of the bounds on the queue, on the body or the wait
for a key, and on each attempt.
-/

namespace Orihsus.Gateway

open Pool (Caller Selection System)
open Queue (Call Hall)
open Semaphores (Semaphore)
open Setup (ahead ahead_le ahead_past ahead_early)

/-! ## The call of a waiting request -/

/-- Nobody has given up the call or its permit. -/
def patient : Call → Bool
  | .leaving (.refused _) | .releasing (.refused _) | .ended (.refused _) => true
  | .leaving _ | .releasing _ | .ended _ => false
  | _ => true

/-- The deadline of a call that waits is within the bound. -/
def Timely (now waitTimeout : Nat) : Call → Prop
  | .waiting deadline => deadline ≤ now + waitTimeout
  | _ => True

/-- A deadline within the bound stays so. -/
theorem Timely.later {now later waitTimeout : Nat} {call : Call}
    (timely : Timely now waitTimeout call) (past : now ≤ later) :
    Timely later waitTimeout call := by
  cases call with
  | waiting deadline => exact Nat.le_trans timely (Nat.add_le_add_right past _)
  | _ => trivial

/-- The own step of a call sets it a deadline within the bound, and does not give it up. -/
theorem advance_orderly {queue moved : Queue.AdmissionQueue} {now number : Nat} {call next : Call}
    (advanced : call.advance queue now number = some (moved, next)) :
    Timely now queue.waitTimeout next ∧ (patient call = true → patient next = true) := by
  cases call with
  | trying | enqueuing =>
    simp only [Call.advance] at advanced
    split at advanced <;> cases advanced <;> exact ⟨trivial, fun _ => rfl⟩
  | slotted =>
    simp only [Call.advance] at advanced
    split at advanced
    · cases advanced
      exact ⟨trivial, fun _ => rfl⟩
    · cases advanced
      exact ⟨Nat.le_refl _, fun _ => rfl⟩
    · cases advanced
      exact ⟨trivial, fun _ => rfl⟩
  | waiting deadline =>
    simp only [Call.advance] at advanced
    split at advanced
    · cases advanced
      exact ⟨trivial, fun _ => rfl⟩
    · cases advanced
      exact ⟨trivial, fun _ => rfl⟩
    · split at advanced
      · cases advanced
        exact ⟨trivial, fun _ => rfl⟩
      · cases advanced
  | admitted =>
    cases advanced
    exact ⟨trivial, fun _ => rfl⟩
  | leaving ending | releasing ending =>
    cases advanced
    refine ⟨trivial, ?_⟩
    cases ending with
    | refused => exact fun _ => rfl
    | cancelled | dropped => exact id
  | permitted | ended => cases advanced

/-- The bound of the queue does not move, and no call waits beyond it. -/
structure Punctual (waitTimeout : Nat) (hall : Hall) : Prop where
  bound : hall.queue.waitTimeout = waitTimeout
  timely : ∀ (call : Nat) state, hall.calls[call]? = some state →
    Timely hall.clock waitTimeout state

/-- No call is given a deadline beyond the bound. -/
theorem step_punctual {before after : Hall} {action : Queue.Action} {waitTimeout : Nat}
    (stepped : Hall.Step before action after) (punctual : Punctual waitTimeout before) :
    Punctual waitTimeout after := by
  have onward := step_onward stepped
  refine ⟨onward.bound.trans punctual.bound, ?_⟩
  intro call state found
  rcases onward.calls call state found with kept | ⟨_, rfl⟩ | ⟨old, present, becomes⟩
  · exact (punctual.timely call state kept).later onward.later
  · trivial
  · cases becomes with
    | advanced advanced =>
      have timely := (advance_orderly advanced).1
      rw [punctual.bound] at timely
      exact timely.later onward.later
    | cancelled | dropped => trivial

/-- A call that nobody gives up stays so. -/
theorem step_patient {before after : Hall} {action : Queue.Action} {call : Nat} {state : Call}
    (stepped : Hall.Step before action after) (present : before.calls[call]? = some state)
    (waits : patient state = true) (uncancelled : action ≠ .cancel call)
    (undropped : action ≠ .drop call) :
    ∃ next, after.calls[call]? = some next ∧ patient next = true := by
  obtain ⟨next, standing, rfl | becomes⟩ := (step_onward stepped).kept present
  · exact ⟨_, standing, waits⟩
  · refine ⟨next, standing, ?_⟩
    cases becomes with
    | advanced advanced => exact (advance_orderly advanced).2 waits
    | cancelled => exact absurd rfl uncancelled
    | dropped => exact absurd rfl undropped

/-! ## What the requests know -/

/-- A station that a handler comes to. -/
def Station.sound : Station → Bool
  | .arriving (.serving _ _ _) | .arriving (.rejected _) => false
  | _ => true

/-- The request has its answer, or the head of it. -/
def Station.replied : Station → Bool
  | .answered _ | .streaming _ _ _ _ _ | .streamed _ => true
  | _ => false

/-- A handler comes to sound stations only. -/
theorem Passes.sound {action : HandlerAction} {station reached : Station}
    (passes : Passes action station reached) : reached.sound = true := by
  cases passes with
  | checked leads | rechecked leads => cases leads <;> rfl
  | _ => rfl

/-- Only a client that goes away drops a handler. -/
theorem Passes.dropped {action : HandlerAction} {station : Station}
    (passes : Passes action station .dropped) : action = .cancel := by
  cases passes with
  | checked leads | rechecked leads => cases leads
  | left => rfl

/-- The tracker is created by the step to the body. -/
theorem Passes.arriving {action : HandlerAction} {station : Station} {progress : Progress}
    (passes : Passes action station (.arriving progress)) :
    action ≠ .serve ∧ ∃ earlier, station = .arriving earlier := by
  generalize at_ : Station.arriving progress = reached at passes
  cases passes with
  | checked | rechecked | admitted => exact ⟨HandlerAction.noConfusion, _, rfl⟩
  | _ => cases at_

/-- Only a request outside the queue comes to it. -/
theorem Passes.queued {action : HandlerAction} {station : Station}
    (passes : Passes action station (.arriving .queued)) : station.outside = true := by
  generalize at_ : Station.arriving .queued = reached at passes
  cases passes with
  | checked leads | rechecked leads =>
    cases leads with
    | queued first =>
      subst first
      rfl
    | _ => cases at_
  | _ => cases at_

namespace Traffic

variable {house : House} {before after first last : Traffic} {label : TrafficAction}
  {trace : List (Runs.Transition Traffic TrafficAction)}
  {maxConcurrency maxQueue waitTimeout id : Nat} {visit replaced : Visit} {hall : Hall}
  {slots : Semaphore Nat}

/-- The requests with their calls and trackers: none has a tracker before it is served, and
nobody gives up the call of a request that waits for it. -/
structure Orderly (waitTimeout : Nat) (traffic : Traffic) : Prop where
  punctual : Punctual waitTimeout traffic.hall
  sound : ∀ (id : Nat) visit, traffic.visits[id]? = some visit → visit.own.station.sound = true
  untracked : ∀ (id : Nat) visit progress, traffic.visits[id]? = some visit →
    visit.own.station = .arriving progress → visit.tracker = none
  waiting : ∀ (id : Nat) visit call, traffic.visits[id]? = some visit →
    visit.own.station = .arriving .queued → visit.call = some call →
      ∃ state, traffic.hall.calls[call]? = some state ∧ patient state = true

/-- There is no request at the start. -/
theorem opened_orderly (shared : Shared) (maxConcurrency maxQueue waitTimeout : Nat)
    (log : Audit.Service AuditRecord) :
    Orderly waitTimeout (opened shared maxConcurrency maxQueue waitTimeout log) := by
  refine ⟨⟨rfl, ?_⟩, ?_, ?_, ?_⟩
  · intro call state found
    cases found
  · intro id visit present
    cases present
  · intro id visit progress present
    cases present
  · intro id visit call present
    cases present

/-- The queue moves on without giving up the call of a request that waits. -/
theorem Orderly.move {action : Queue.Action} (orderly : Orderly waitTimeout before)
    (stepped : Hall.Step before.hall action hall)
    (kept : ∀ (id : Nat) visit call, before.visits[id]? = some visit →
      visit.own.station = .arriving .queued → visit.call = some call →
        action ≠ .cancel call ∧ action ≠ .drop call) :
    Orderly waitTimeout { before with hall := hall } := by
  refine ⟨step_punctual stepped orderly.punctual, orderly.sound, orderly.untracked, ?_⟩
  intro id visit call present queued called
  obtain ⟨state, standing, waits⟩ := orderly.waiting id visit call present queued called
  obtain ⟨uncancelled, undropped⟩ := kept id visit call present queued called
  exact step_patient stepped standing waits uncancelled undropped

/-- One request moves on. -/
theorem Orderly.set (orderly : Orderly waitTimeout before)
    (present : before.visits[id]? = some visit) (replaced : Visit)
    (visits : after.visits = before.visits.set id replaced) (halls : after.hall = before.hall)
    (sound : replaced.own.station.sound = true)
    (untracked : ∀ progress, replaced.own.station = .arriving progress → replaced.tracker = none)
    (patiently : replaced.own.station = .arriving .queued → ∀ call, replaced.call = some call →
      ∃ state, before.hall.calls[call]? = some state ∧ patient state = true) :
    Orderly waitTimeout after := by
  have seen {other : Nat} {found : Visit} (there : after.visits[other]? = some found) :
      other = id ∧ found = replaced ∨ other ≠ id ∧ before.visits[other]? = some found :=
    visits_known present (visits ▸ there)
  constructor
  · rw [halls]
    exact orderly.punctual
  · intro other found there
    rcases seen there with ⟨_, rfl⟩ | ⟨_, kept⟩
    · exact sound
    · exact orderly.sound other found kept
  · intro other found progress there arriving
    rcases seen there with ⟨_, rfl⟩ | ⟨_, kept⟩
    · exact untracked progress arriving
    · exact orderly.untracked other found progress kept arriving
  · rw [halls]
    intro other found call there queued called
    rcases seen there with ⟨_, rfl⟩ | ⟨_, kept⟩
    · exact patiently queued call called
    · exact orderly.waiting other found call kept queued called

/-- A handler leaves the queue alone, or drops the call it waits for. -/
theorem hallAfter_cases {action : HandlerAction}
    (halls : before.hallAfter visit action = some hall) :
    hall = before.hall ∨ action = .cancel ∧ ∃ call progress,
      visit.own.station = .arriving progress ∧ visit.call = some call ∧
        Hall.Step before.hall (.cancel call) hall := by
  cases action with
  | admission result =>
    cases result with
    | ok entered =>
      simp only [hallAfter] at halls
      split at halls
      · cases halls
        exact .inl rfl
      · cases halls
    | error error =>
      simp only [hallAfter] at halls
      split at halls
      · split at halls
        · cases halls
          exact .inl rfl
        · cases halls
      · cases halls
  | cancel =>
    simp only [hallAfter] at halls
    split at halls
    · rename_i progress arriving
      obtain ⟨call, called, cancelled⟩ := Option.bind_eq_some_iff.mp halls
      exact .inr ⟨rfl, call, progress, arriving, called, cancelled⟩
    · cases halls
      exact .inl rfl
  | other | update | updateWithKeys | setWall => cases halls
  | _ =>
    cases halls
    exact .inl rfl

/-- Every step keeps the order of the requests. -/
theorem step_orderly (stepped : Step house before label after)
    (held : Held maxConcurrency maxQueue before) (orderly : Orderly waitTimeout before) :
    Orderly waitTimeout after := by
  have beside (halls : after.hall = before.hall) (visits : after.visits = before.visits) :
      Orderly waitTimeout after := by
    obtain ⟨punctual, sound, untracked, patiently⟩ := orderly
    rw [← halls] at punctual patiently
    rw [← visits] at sound untracked patiently
    exact ⟨punctual, sound, untracked, patiently⟩
  cases step_turn stepped with
  | @ticked elapsed shared shares =>
    have ticked : Hall.Step before.hall (.tick elapsed)
        { before.hall with clock := before.hall.clock + elapsed } := rfl
    have moved := orderly.move ticked fun _ _ _ _ _ _ =>
      ⟨Queue.Action.noConfusion, Queue.Action.noConfusion⟩
    exact ⟨moved.punctual, moved.sound, moved.untracked, moved.waiting⟩
  | arrived headers api generatedId guest =>
    refine ⟨orderly.punctual, ?_, ?_, ?_⟩
    · intro id found seen
      rcases arrived_known seen with kept | rfl
      · exact orderly.sound id found kept
      · rfl
    · intro id found progress seen arriving
      rcases arrived_known seen with kept | rfl
      · exact orderly.untracked id found progress kept arriving
      · rfl
    · intro id found call seen queued called
      rcases arrived_known seen with kept | rfl
      · exact orderly.waiting id found call kept queued called
      · cases called
  | @acquired id visit present queued uncalled =>
    have arrived : Hall.Step before.hall .acquire
        { before.hall with calls := before.hall.calls ++ [.trying] } := rfl
    have moved := orderly.move arrived fun _ _ _ _ _ _ =>
      ⟨Queue.Action.noConfusion, Queue.Action.noConfusion⟩
    refine moved.set present { visit with call := some before.hall.calls.length } rfl rfl
      (orderly.sound id visit present) (orderly.untracked id visit · present) ?_
    intro _ call called
    cases called
    exact ⟨.trying, List.getElem?_concat_length, rfl⟩
  | @visited id visit action next hall slots taken present halls steps slotted =>
    obtain ⟨passes, _, _⟩ := Handler.own_passes steps (hallAfter_own halls)
    have stays : Orderly waitTimeout
        (before.visited id visit action next before.hall slots taken) := by
      refine orderly.set present
        { visit with
          own := next
          tracker := before.trackerAfter visit action
          slot := visit.slot || taken } rfl rfl passes.sound ?_ ?_
      · intro progress arriving
        dsimp only at arriving
        rw [arriving] at passes
        obtain ⟨unserved, earlier, was⟩ := passes.arriving
        rcases trackerAfter_cases before visit action with ⟨served, _⟩ | ⟨_, same⟩
        · exact absurd served unserved
        · exact same.trans (orderly.untracked id visit earlier present was)
      · intro queued call called
        dsimp only at queued called
        rw [queued] at passes
        rw [held.outside id visit present passes.queued] at called
        cases called
    rcases hallAfter_cases halls with rfl | ⟨rfl, call, progress, arriving, called, cancelled⟩
    · exact stays
    · refine stays.move cancelled ?_
      intro other found mine seen waits holds
      refine ⟨?_, Queue.Action.noConfusion⟩
      rintro same
      cases same
      rcases visits_known present seen with ⟨_, rfl⟩ | ⟨apart, kept⟩
      · rw [waits] at passes
        cases passes
      · exact apart (held.distinct id other visit found call present kept called holds).symm
  | @unslotted id visit present finished slot =>
    exact orderly.set present { visit with slot := false } rfl rfl (orderly.sound id visit present)
      (orderly.untracked id visit · present) fun queued call =>
        orderly.waiting id visit call present queued
  | @unpermitted id call visit hall present finished free called dropped =>
    refine orderly.move dropped ?_
    intro other found mine seen queued held_
    refine ⟨Queue.Action.noConfusion, ?_⟩
    rintro same
    cases same
    have equal := held.distinct id other visit found call present seen called held_
    subst equal
    rw [present, Option.some.injEq] at seen
    subst seen
    rw [queued] at finished
    cases finished
  | queued moved undropped unopened uncancelled =>
    exact orderly.move moved fun _ _ call _ _ _ => ⟨uncancelled call, undropped call⟩
  | shared | aside | logged => exact beside rfl rfl

/-- So does every run. -/
theorem run_orderly {shared : Shared} {log : Audit.Service AuditRecord}
    (run : Runs.Run (Step house) (opened shared maxConcurrency maxQueue waitTimeout log) trace
      last) : Held maxConcurrency maxQueue last ∧ Orderly waitTimeout last :=
  run.invariant (fun traffic => Held maxConcurrency maxQueue traffic ∧ Orderly waitTimeout traffic)
    ⟨opened_held _ _ _ _ _, opened_orderly _ _ _ _ _⟩ fun _ _ _ stepped holds =>
      ⟨step_held stepped holds.1, step_orderly stepped holds.1 holds.2⟩

/-- What is known of every request in a state that is reached. -/
structure Known (house : House) (maxConcurrency maxQueue waitTimeout : Nat) (traffic : Traffic) :
    Prop where
  held : Held maxConcurrency maxQueue traffic
  orderly : Orderly waitTimeout traffic
  tracked : Tracked traffic
  guided : ∀ (id : Nat) visit, traffic.visits[id]? = some visit →
    Handler.Guided (visit.guest.handler house (traffic.position visit))
      (visit.view traffic.shared)

/-- All of this is known in every state that is reached. -/
theorem run_known {shared : Shared} {log : Audit.Service AuditRecord}
    (initial : System.Initial house.policy house.fingerprint shared.system)
    (run : Runs.Run (Step house) (opened shared maxConcurrency maxQueue waitTimeout log) trace
      last) : Known house maxConcurrency maxQueue waitTimeout last := by
  obtain ⟨held, orderly⟩ := run_orderly run
  refine ⟨held, orderly, run.invariant Tracked (opened_tracked _ _ _ _ _) fun _ _ _ => step_tracked,
    ?_⟩
  intro id visit present
  obtain ⟨steps, reached⟩ := run_visit run present
  exact Handler.run_guided (visit_arrives initial visit _) reached

/-- A request that has not come to the loop has made no attempt. -/
theorem Known.preparing (known : Known house maxConcurrency maxQueue waitTimeout before)
    (present : before.visits[id]? = some visit) (early : visit.own.station.early = true) :
    (visit.view before.shared).proxy.stage = .preparing :=
  (known.guided id visit present).early early

/-! ## Outside the gateway -/

/-- What a request meets outside the gateway: its body, with the instant at which it is there,
and what the upstreams do, attempt by attempt. A body that never comes is `timedOut`. -/
structure Outside where
  body : BodyRead
  comes : Nat
  answers : Selection → Nat → Exchange

/-- What a read under a deadline returns. -/
def Outside.read (outside : Outside) (deadline : Nat) : BodyRead :=
  if outside.comes ≤ deadline then outside.body else .timedOut

/-- The instant at which it returns. -/
def Outside.readBy (outside : Outside) (deadline : Nat) : Nat :=
  if outside.read deadline = .timedOut then deadline else outside.comes

/-- No read takes longer than its deadline. -/
theorem Outside.readBy_le (outside : Outside) (deadline : Nat) :
    outside.readBy deadline ≤ deadline := by
  unfold readBy
  split
  · exact Nat.le_refl _
  · rename_i inTime
    by_contra late
    exact inTime (if_neg late)

/-- What the attempts of a request meet. One whose request cannot be built fails at once. -/
def Outside.met (outside : Outside) (guest : Guest) (snapshot : RuntimeState)
    (identity : GatewayIdentity) (body : List UInt8) (selection : Selection)
    (attemptStart : Nat) : Exchange :=
  if (forwardRequest selection guest.headers identity.fallbackSessionId body snapshot.baseUrl
      guest.api).isSome then outside.answers selection attemptStart
  else .failed attemptStart

/-- A step in which a request meets this outside: its body is read when it is there, and an
attempt meets its upstream. -/
structure Meets (house : House) (outside : Outside) (id : Nat) (before : Traffic)
    (label : TrafficAction) (after : Traffic) : Prop where
  step : Step house before label after
  reads : ∀ visit snapshot identity deadline result, before.visits[id]? = some visit →
    visit.own.station = .reading snapshot identity deadline → label = .visit id (.read result) →
      result = outside.read deadline ∧ outside.readBy deadline ≤ before.shared.system.clock
  concludes : ∀ visit snapshot identity body selection attemptStart exchange wall jitter,
    before.visits[id]? = some visit → visit.own.station = .attempting snapshot identity body →
      visit.own.proxy.stage = .sending selection attemptStart →
        label = .visit id (.attempt (.conclude exchange wall jitter)) →
          exchange = outside.met visit.guest snapshot identity body selection attemptStart

/-! ## How far a request has to go -/

/-- The steps that are left to a loop and its tracker. -/
def loopSteps (setup : Setup) (answers : Selection → Nat → Exchange) (proxy : Proxy) : Nat :=
  (proxy.system.callers[setup.request]?).elim 0 fun caller => setup.stepsLeft answers proxy caller

/-- The instant before which a loop is over, left to itself. -/
def loopOver (setup : Setup) (proxy : Proxy) : Nat :=
  (proxy.system.callers[setup.request]?).elim proxy.system.clock fun caller =>
    setup.overBy proxy caller

/-- The steps that are left to a call on the queue. -/
def callSteps (hall : Hall) : Option Call → Nat
  | none => 12
  | some .trying => 11
  | some .enqueuing => 10
  | some .slotted => 9
  | some (.waiting deadline) => 7 + ahead hall.clock deadline
  | some .admitted => 6
  | some (.leaving _) => 5
  | some (.releasing _) => 4
  | some .permitted => 3
  | some (.ended _) => 2

/-- How long a call can still wait. -/
def callWait (hall : Hall) : Option Call → Nat
  | none | some .trying | some .enqueuing | some .slotted => hall.queue.waitTimeout
  | some (.waiting deadline) => deadline - hall.clock
  | _ => 0

/-- The call of a request, where it stands. -/
def callOf (traffic : Traffic) (visit : Visit) : Option Call :=
  visit.call.bind fun call => traffic.hall.calls[call]?

/-- The steps that are left to a request up to its answer or its stream. -/
def stepsLeft (house : House) (outside : Outside) (traffic : Traffic) (visit : Visit) : Nat :=
  let most := 10 * house.policy.maxAttempts
  match visit.own.station with
  | .arriving (.checking .first) => most + 42
  | .arriving (.rechecking .first) => most + 41
  | .arriving .queued => most + 20 + callSteps traffic.hall (traffic.callOf visit)
  | .arriving (.checking .second) => most + 19
  | .arriving (.rechecking .second) => most + 18
  | .arriving (.revalidated _) => most + 17
  | .reading _ _ deadline =>
      most + 15 + ahead traffic.shared.system.clock (outside.readBy deadline)
  | .buffered _ _ _ => most + 14
  | .attempting snapshot identity body =>
      1 + loopSteps (house.setup (traffic.position visit))
        (outside.met visit.guest snapshot identity body) (visit.view traffic.shared).proxy
  | _ => 0

/-- How long a request takes from the start of its body on: the bounds on the body and on the
wait for a key run together, and then come the attempts. -/
def servedWithin (house : House) : Nat :=
  max house.gateway.timeouts.bodyRead house.policy.waitTimeout +
    house.policy.maxAttempts * house.gateway.attemptBound

/-- A loop at a later instant. -/
def atLeast (proxy : Proxy) (instant : Nat) : Proxy :=
  { proxy with system := { proxy.system with clock := max proxy.system.clock instant } }

/-- The instant before which a request has its answer or its stream, left to itself. -/
def overBy (house : House) (traffic : Traffic) (visit : Visit) : Nat :=
  match visit.own.station with
  | .arriving (.checking .first) | .arriving (.rechecking .first) =>
      traffic.shared.system.clock + traffic.hall.queue.waitTimeout + servedWithin house
  | .arriving .queued =>
      traffic.shared.system.clock + callWait traffic.hall (traffic.callOf visit) +
        servedWithin house
  | .arriving _ => traffic.shared.system.clock + servedWithin house
  | .reading _ _ deadline =>
      loopOver (house.setup (traffic.position visit))
        (atLeast (visit.view traffic.shared).proxy deadline)
  | .buffered _ _ _ | .attempting _ _ _ =>
      loopOver (house.setup (traffic.position visit)) (visit.view traffic.shared).proxy
  | _ => traffic.shared.system.clock

/-- The number of the call that a request has, or will have if it is the next to ask. -/
def callNumber (traffic : Traffic) (visit : Visit) : Nat :=
  visit.call.getD traffic.hall.calls.length

/-- A step has brought a request nearer to its answer. -/
def Closer (house : House) (outside : Outside) (before : Traffic) (visit : Visit)
    (after : Traffic) (id : Nat) : Prop :=
  ∃ next, after.visits[id]? = some next ∧
    after.stepsLeft house outside next < before.stepsLeft house outside visit ∧
      after.overBy house next ≤ before.overBy house visit ∧
        after.callNumber next = before.callNumber visit

/-- A step that is enabled brings a request nearer to its answer. -/
def Advances (house : House) (outside : Outside) (before : Traffic) (visit : Visit) (id : Nat)
    (label : TrafficAction) : Prop :=
  ∃ after, Step house before label after ∧ Closer house outside before visit after id

variable {outside : Outside} {snapshot : RuntimeState} {identity : GatewayIdentity}
  {body : List UInt8} {position : Nat} {caller : Caller} {action : HandlerAction}
  {next : Handling}

/-! ## The measures -/

/-- No call has more than twelve steps left. -/
theorem callSteps_le (hall : Hall) (call : Option Call) : callSteps hall call ≤ 12 := by
  cases call with
  | none => exact Nat.le_refl _
  | some state =>
    cases state with
    | waiting deadline =>
      have flag := ahead_le hall.clock deadline
      simp only [callSteps]
      omega
    | _ => simp [callSteps]

/-- Every step of a call is one less to come, and it waits no longer for it. -/
theorem advance_falls {hall : Hall} {moved : Queue.AdmissionQueue} {number : Nat}
    {call next : Call} (calls : List Call)
    (advanced : call.advance hall.queue hall.clock number = some (moved, next)) :
    callSteps { hall with queue := moved, calls := calls } (some next) <
        callSteps hall (some call) ∧
      callWait { hall with queue := moved, calls := calls } (some next) ≤
        callWait hall (some call) := by
  have bound : moved.waitTimeout = hall.queue.waitTimeout := advance_waitTimeout advanced
  cases call with
  | trying | enqueuing =>
    simp only [Call.advance] at advanced
    split at advanced <;> cases advanced <;> simp [callSteps, callWait]
  | slotted =>
    have flag := ahead_le hall.clock (hall.clock + hall.queue.waitTimeout)
    simp only [Call.advance] at advanced
    split at advanced
    · cases advanced
      simp [callSteps, callWait]
    · cases advanced
      simp only [callSteps, callWait]
      omega
    · cases advanced
      simp [callSteps, callWait]
  | waiting deadline =>
    simp only [Call.advance] at advanced
    split at advanced
    · cases advanced
      simp only [callSteps, callWait]
      omega
    · cases advanced
      simp only [callSteps, callWait]
      omega
    · split at advanced
      · cases advanced
        simp only [callSteps, callWait]
        omega
      · cases advanced
  | admitted | leaving | releasing =>
    cases advanced
    simp [callSteps, callWait]
  | permitted | ended => cases advanced

/-- The steps that are left to a loop whose tracker is known. -/
theorem loopSteps_of {setup : Setup} {answers : Selection → Nat → Exchange} {proxy : Proxy}
    (waiting : proxy.system.callers[setup.request]? = some caller) :
    loopSteps setup answers proxy = setup.stepsLeft answers proxy caller := by
  rw [loopSteps, waiting]
  rfl

/-- The instant before which a loop whose tracker is known is over. -/
theorem loopOver_of {setup : Setup} {proxy : Proxy}
    (waiting : proxy.system.callers[setup.request]? = some caller) :
    loopOver setup proxy = setup.overBy proxy caller := by
  rw [loopOver, waiting]
  rfl

/-- No loop is over in the past. -/
theorem clock_loopOver (setup : Setup) (proxy : Proxy) :
    proxy.system.clock ≤ loopOver setup proxy := by
  unfold loopOver
  cases proxy.system.callers[setup.request]? with
  | none => exact Nat.le_refl _
  | some caller =>
    simp only [Option.elim_some, Setup.overBy]
    omega

/-- A loop that has not been entered is over no later than after a wait. -/
theorem loopOver_atLeast (setup : Setup) {proxy : Proxy} (preparing : proxy.stage = .preparing)
    (instant : Nat) : loopOver setup proxy ≤ loopOver setup (atLeast proxy instant) := by
  have same : (atLeast proxy instant).system.callers = proxy.system.callers := rfl
  unfold loopOver
  rw [same]
  cases proxy.system.callers[setup.request]? with
  | none => exact Nat.le_max_left _ _
  | some caller =>
    simp only [Option.elim_some, Setup.overBy, Setup.flightLeft, atLeast, preparing]
    omega

/-- Nothing is left to a request that has its answer. -/
theorem replied_left {traffic : Traffic} (replied : visit.own.station.replied = true) :
    traffic.stepsLeft house outside visit = 0 := by
  unfold stepsLeft
  cases at_ : visit.own.station with
  | answered | streaming | streamed | dropped => rfl
  | arriving | reading | buffered | attempting =>
    rw [at_] at replied
    cases replied

/-- It is over at once. -/
theorem replied_over {traffic : Traffic} (replied : visit.own.station.replied = true) :
    traffic.overBy house visit = traffic.shared.system.clock := by
  unfold overBy
  cases at_ : visit.own.station with
  | answered | streaming | streamed | dropped => rfl
  | arriving | reading | buffered | attempting =>
    rw [at_] at replied
    cases replied

/-- The measures of a request whose tracker is known, in the loop. -/
theorem attempting_left {traffic : Traffic}
    (attempting : visit.own.station = .attempting snapshot identity body)
    (sits : traffic.position visit = position)
    (waiting : traffic.shared.system.callers[position]? = some caller) :
    traffic.stepsLeft house outside visit =
        1 + (house.setup position).stepsLeft (outside.met visit.guest snapshot identity body)
          (visit.view traffic.shared).proxy caller := by
  have found : (visit.view traffic.shared).proxy.system.callers[(house.setup position).request]? =
      some caller := waiting
  simp only [stepsLeft, attempting, sits, loopSteps_of found]

/-- A request in the loop is over when the loop is. -/
theorem attempting_over {traffic : Traffic}
    (attempting : visit.own.station = .attempting snapshot identity body)
    (sits : traffic.position visit = position)
    (waiting : traffic.shared.system.callers[position]? = some caller) :
    traffic.overBy house visit =
      (house.setup position).overBy (visit.view traffic.shared).proxy caller := by
  have found : (visit.view traffic.shared).proxy.system.callers[(house.setup position).request]? =
      some caller := waiting
  simp only [overBy, attempting, sits, loopOver_of found]

/-! ## What is enabled, and by whom -/

/-- A check leaves the loop alone. -/
theorem checked_proxy (handler : Handler) (handling : Handling) (progress : Progress) :
    (handler.checked handling progress).proxy = handling.proxy := by
  cases progress <;> rfl

/-- A call that nobody has given up goes on, has its outcome or waits for its deadline. -/
theorem call_acts (queue : Queue.AdmissionQueue) (now number : Nat) {call : Call}
    (waits : patient call = true) :
    (∃ moved next, call.advance queue now number = some (moved, next)) ∨ call = .permitted ∨
      (∃ error, call = .ended (.refused error)) ∨
        ∃ deadline, call = .waiting deadline ∧ now < deadline := by
  cases call with
  | trying | enqueuing | slotted =>
    simp only [Call.advance]
    split <;> exact .inl ⟨_, _, rfl⟩
  | waiting deadline =>
    simp only [Call.advance]
    split
    · exact .inl ⟨_, _, rfl⟩
    · exact .inl ⟨_, _, rfl⟩
    · split
      · exact .inl ⟨_, _, rfl⟩
      · exact .inr (.inr (.inr ⟨deadline, rfl, by omega⟩))
  | admitted | leaving | releasing => exact .inl ⟨_, _, rfl⟩
  | permitted => exact .inr (.inl rfl)
  | ended ending =>
    cases ending with
    | refused error => exact .inr (.inr (.inl ⟨error, rfl⟩))
    | cancelled | dropped => cases waits

/-- The gateway after some time in which nothing else happens. -/
def elapse (traffic : Traffic) (elapsed : Nat) : Traffic :=
  { traffic with
    shared := { traffic.shared with
      system := { traffic.shared.system with clock := traffic.shared.system.clock + elapsed } }
    hall := { traffic.hall with clock := traffic.hall.clock + elapsed }
    log := { traffic.log with clock := traffic.log.clock + elapsed } }

/-- Time may pass at any state. -/
theorem elapse_step (elapsed : Nat) :
    Step house before (.tick elapsed) (before.elapse elapsed) := rfl

/-- The handler lets an attempt meet what the outside has for it. -/
theorem met_sendable {guest : Guest} {proxy : Proxy} {action : ProxyAction} {wall : Int}
    {jitter : Nat → Nat}
    (acts : action = .choose ∨ action = .advance ∨ ∃ selection attemptStart,
      proxy.stage = .sending selection attemptStart ∧ action = .conclude
        (outside.met guest snapshot identity body selection attemptStart) wall jitter) :
    (guest.handler house position).sendable snapshot identity body proxy action = true := by
  rcases acts with rfl | rfl | ⟨selection, attemptStart, sending, rfl⟩
  · rfl
  · rfl
  · simp only [Handler.sendable, sending, Outside.met, Guest.handler]
    split
    · rename_i built
      rw [built]
      rfl
    · simp

/-- The end of the loop is the answer of the handler or its stream. -/
theorem finalized_replied (handler : Handler) (handling : Handling) (slotFree : Bool)
    (outcome : FinalOutcome) :
    (handler.finalized handling slotFree outcome).station.replied = true ∧
      (handler.finalized handling slotFree outcome).proxy = handling.proxy := by
  cases outcome with
  | unavailable retryAfter => exact ⟨rfl, rfl⟩
  | lastResponse saved =>
    cases saved with
    | none | some => exact ⟨rfl, rfl⟩
  | forward prepared fingerprint selection attemptStart =>
    simp only [Handler.finalized, Handler.finalizeResponse]
    split <;> exact ⟨rfl, rfl⟩

/-- What a request does by itself. -/
def ownAction : HandlerAction → Bool
  | .check | .recheck | .admission _ | .serve | .read _ | .look | .finalize _
  | .attempt .choose | .attempt .advance | .attempt (.conclude _ _ _) => true
  | _ => false

/-- A step that needs nobody but a request and its call on the queue. -/
def unaided (id call : Nat) : TrafficAction → Bool
  | .tick _ => true
  | .acquire other => other = id
  | .queue (.proceed number) => number = call
  | .visit other action => other = id && ownAction action
  | _ => false

/-- A step in which a request meets something outside. -/
def meeting (id : Nat) : TrafficAction → Bool
  | .visit other (.read _) | .visit other (.attempt (.conclude _ _ _)) => other = id
  | _ => false

/-- Any other step meets any outside. -/
theorem Meets.plain (stepped : Step house before label after)
    (plain : meeting id label = false) : Meets house outside id before label after := by
  refine ⟨stepped, ?_, ?_⟩
  · rintro _ _ _ _ result _ _ rfl
    simp [meeting] at plain
  · rintro _ _ _ _ _ _ exchange wall jitter _ _ _ rfl
    simp [meeting] at plain

/-- No unaided step drops a handler. -/
theorem step_undropped {call : Nat} {next : Visit} (stepped : Step house before label after)
    (alone : unaided id call label = true) (present : before.visits[id]? = some visit)
    (undropped : visit.own.station ≠ .dropped) (seen : after.visits[id]? = some next) :
    next.own.station ≠ .dropped := by
  have same (kept : before.visits[id]? = some next) : next.own.station ≠ .dropped := by
    rw [present, Option.some.injEq] at kept
    exact kept ▸ undropped
  cases step_turn stepped with
  | ticked | queued => exact same seen
  | @acquired other asking found queued uncalled =>
    rcases visits_known found seen with ⟨_, rfl⟩ | ⟨_, kept⟩
    · rw [queued]
      exact Station.noConfusion
    · exact same kept
  | @visited other mine action handling hall slots taken found halls steps slotted =>
    obtain ⟨passes, _, _⟩ := Handler.own_passes steps (hallAfter_own halls)
    rcases visits_known found seen with ⟨_, rfl⟩ | ⟨_, kept⟩
    · intro dropped
      dsimp only at dropped
      rw [dropped] at passes
      rw [passes.dropped] at alone
      simp [unaided, ownAction] at alone
    · exact same kept
  | unslotted | unpermitted | arrived | aside | logged => simp [unaided] at alone
  | shared quiet shares => exact same seen

/-! ## The steps of one request -/

section

variable (known : Known house maxConcurrency maxQueue waitTimeout before)
  (present : before.visits[id]? = some visit)

include present

/-- A step of a handler is a step of the gateway. -/
theorem visit_taken {taken : Bool} (halls : before.hallAfter visit action = some hall)
    (stepped : (visit.guest.handler house (before.position visit)).Step
      (visit.view before.shared) action next)
    (slotted : before.slotsAfter next action = some (slots, taken)) :
    Step house before (.visit id action)
      (before.visited id visit action next hall slots taken) := by
  unfold Handler.Step at stepped
  simp only [Step, perform, present, halls, stepped, slotted, Option.bind_some, Option.map_some]

section

variable (stepped : (visit.guest.handler house (before.position visit)).Step
    (visit.view before.shared) action next)
  (halls : before.hallAfter visit action = some before.hall)

include stepped halls

/-- A step of the handler that leaves the queue and the slots alone. -/
theorem visit_closer (taken : Bool)
    (slotted : before.slotsAfter next action = some (slots, taken))
    (fewer : (before.visited id visit action next before.hall slots taken).stepsLeft house outside
      { visit with
        own := next
        tracker := before.trackerAfter visit action
        slot := visit.slot || taken } < before.stepsLeft house outside visit)
    (sooner : (before.visited id visit action next before.hall slots taken).overBy house
      { visit with
        own := next
        tracker := before.trackerAfter visit action
        slot := visit.slot || taken } ≤ before.overBy house visit) :
    Advances house outside before visit id (.visit id action) := by
  have bound : id < before.visits.length := (List.getElem?_eq_some_iff.mp present).1
  exact ⟨_, visit_taken present halls stepped slotted, _, List.getElem?_set_self bound, fewer,
    sooner, rfl⟩

/-- A step that answers the request. -/
theorem answer_closer (unanswered : 0 < before.stepsLeft house outside visit)
    (replied : next.station.replied = true)
    (soon : next.proxy.system.clock ≤ before.overBy house visit) (taken : Bool)
    (slotted : before.slotsAfter next action = some (slots, taken)) :
    Advances house outside before visit id (.visit id action) := by
  refine visit_closer present stepped halls taken slotted ?_ ?_
  · rw [replied_left replied]
    exact unanswered
  · rw [replied_over replied]
    exact soon

/-- A step into the loop or inside it, with the request nearer to the end of the loop. -/
theorem loop_closer {left : Caller} (tracks : visit.tracker = some position)
    (attempting : next.station = .attempting snapshot identity body)
    (remains : next.proxy.system.callers[position]? = some left)
    (slotted : before.slotsAfter next action = some (before.streamSlots, false))
    (still : before.trackerAfter visit action = visit.tracker)
    (fewer : 1 + (house.setup position).stepsLeft (outside.met visit.guest snapshot identity body)
      next.proxy left < before.stepsLeft house outside visit)
    (sooner : (house.setup position).overBy next.proxy left ≤ before.overBy house visit) :
    Advances house outside before visit id (.visit id action) := by
  let moved : Visit := { visit with
    own := next
    tracker := before.trackerAfter visit action
    slot := visit.slot || false }
  have same : (before.visited id visit action next before.hall before.streamSlots false).position
      moved = position := by
    rw [Traffic.position, show moved.tracker = some position from still.trans tracks]
    rfl
  have reached : moved.own.station = .attempting snapshot identity body := attempting
  refine visit_closer present stepped halls false slotted ?_ ?_
  · rw [attempting_left reached same remains]
    exact fewer
  · rw [attempting_over reached same remains]
    exact sooner

include known

/-- A half of a credential check brings the request onward. -/
theorem checks_closer {pass : Pass}
    (at_ : visit.own.station = .arriving (.checking pass) ∨
      visit.own.station = .arriving (.rechecking pass) ∧
        next.station ≠ .arriving (.rechecking pass)) (leads : Checked pass next.station)
    (same : next.proxy = (visit.view before.shared).proxy)
    (slotted : before.slotsAfter next action = some (before.streamSlots, false)) :
    Advances house outside before visit id (.visit id action) := by
  have clock : (Shared.of next).system.clock = before.shared.system.clock :=
    congrArg (fun proxy => proxy.system.clock) same
  have uncalled (first : pass = .first) : visit.call = none := by
    refine known.held.outside id visit present ?_
    subst first
    rcases at_ with at_ | ⟨at_, _⟩
    · rw [at_]
      rfl
    · rw [at_]
      rfl
  refine visit_closer present stepped halls false slotted ?_ ?_
  · have few := callSteps_le before.hall
    generalize reached : next.station = station at leads at_
    cases leads with
    | again =>
      rcases at_ with at_ | ⟨at_, moves⟩
      · cases pass <;> simp [stepsLeft, at_, reached]
      · exact absurd rfl moves
    | queued first =>
      subst first
      rcases at_ with at_ | ⟨at_, moves⟩
      · simp only [stepsLeft, at_, reached, visited]
        exact Nat.lt_of_le_of_lt (Nat.add_le_add_left (few _) _) (by omega)
      · simp only [stepsLeft, at_, reached, visited]
        exact Nat.lt_of_le_of_lt (Nat.add_le_add_left (few _) _) (by omega)
    | revalidated identity second =>
      subst second
      rcases at_ with at_ | ⟨at_, moves⟩ <;> simp [stepsLeft, at_, reached]
    | rejected response =>
      rcases at_ with at_ | ⟨at_, moves⟩ <;> cases pass <;> simp [stepsLeft, at_, reached]
  · generalize reached : next.station = station at leads at_
    cases leads with
    | again =>
      rcases at_ with at_ | ⟨at_, moves⟩
      · cases pass <;> simp [overBy, at_, reached, visited, clock]
      · exact absurd rfl moves
    | queued first =>
      have none := uncalled first
      subst first
      rcases at_ with at_ | ⟨at_, moves⟩ <;>
        simp [overBy, at_, reached, visited, clock, callOf, none, callWait]
    | revalidated identity second =>
      subst second
      rcases at_ with at_ | ⟨at_, moves⟩ <;> simp [overBy, at_, reached, visited, clock]
    | rejected response =>
      have soon : before.shared.system.clock ≤ before.overBy house visit := by
        rcases at_ with at_ | ⟨at_, moves⟩ <;> cases pass <;> simp only [overBy, at_] <;> omega
      rw [← clock] at soon
      simp only [overBy, reached]
      exact soon

end

/-- A request asks for a permit. -/
theorem acquire_closer (at_ : visit.own.station = .arriving .queued)
    (uncalled : visit.call = none) :
    Advances house outside before visit id (.acquire id) := by
  have bound : id < before.visits.length := (List.getElem?_eq_some_iff.mp present).1
  let asked : Traffic := { before with
    hall := { before.hall with calls := before.hall.calls ++ [.trying] }
    visits := before.visits.set id { visit with call := some before.hall.calls.length } }
  have stepped : Step house before (.acquire id) asked := by
    simp [Step, perform, present, at_, uncalled, asked]
  refine ⟨asked, stepped, { visit with call := some before.hall.calls.length },
    List.getElem?_set_self bound, ?_, ?_, ?_⟩
  · simp [stepsLeft, at_, callOf, uncalled, callSteps, asked]
  · simp [overBy, at_, callOf, uncalled, callWait, asked]
  · simp [callNumber, uncalled]

/-- The call of a request goes on. -/
theorem proceed_closer {number : Nat} {call next : Call} {moved : Queue.AdmissionQueue}
    (at_ : visit.own.station = .arriving .queued) (called : visit.call = some number)
    (standing : before.hall.calls[number]? = some call)
    (advanced : call.advance before.hall.queue before.hall.clock number = some (moved, next)) :
    Advances house outside before visit id (.queue (.proceed number)) := by
  have bound : number < before.hall.calls.length := (List.getElem?_eq_some_iff.mp standing).1
  let turned : Traffic := { before with
    hall := { before.hall with queue := moved, calls := before.hall.calls.set number next } }
  have stepped : Step house before (.queue (.proceed number)) turned := by
    simp [Step, perform, Hall.perform, standing, advanced, turned]
  obtain ⟨fewer, sooner⟩ := advance_falls (before.hall.calls.set number next) advanced
  have earlier : before.callOf visit = some call := by
    rw [callOf, called]
    exact standing
  have later : turned.callOf visit = some next := by
    rw [callOf, called]
    exact List.getElem?_set_self bound
  refine ⟨turned, stepped, visit, present, ?_, ?_, ?_⟩
  · simp only [stepsLeft, at_, earlier, later]
    exact Nat.add_lt_add_left fewer _
  · simp only [overBy, at_, earlier, later]
    exact Nat.add_le_add_right (Nat.add_le_add_left sooner _) _
  · simp [callNumber, called]

/-- The outcome of the call is the outcome of admission. -/
theorem admission_closer {number : Nat} {call : Call} {result : Except Queue.AdmissionError Unit}
    (at_ : visit.own.station = .arriving .queued) (called : visit.call = some number)
    (standing : before.hall.calls[number]? = some call)
    (outcome : call = .permitted ∧ result = .ok () ∨
      ∃ error, call = .ended (.refused error) ∧ result = .error error) :
    Advances house outside before visit id (.visit id (.admission result)) := by
  let handler := visit.guest.handler house (before.position visit)
  let view := visit.view before.shared
  have stepped : handler.Step view (.admission result) (handler.admitted view result) := by
    have standing : view.station = .arriving .queued := at_
    simp only [Handler.Step, Handler.perform, standing]
  have mine : before.callOf visit = some call := by
    rw [callOf, called]
    exact standing
  have halls : before.hallAfter visit (.admission result) = some before.hall := by
    rcases outcome with ⟨rfl, rfl⟩ | ⟨error, rfl, rfl⟩
    · simp [hallAfter, called, standing]
    · simp [hallAfter, called, standing]
  refine visit_closer present stepped halls false rfl ?_ ?_
  · rcases outcome with ⟨rfl, rfl⟩ | ⟨error, rfl, rfl⟩
    · simp [stepsLeft, at_, mine, callSteps, Handler.admitted]
    · simp [stepsLeft, at_, mine, callSteps, Handler.admitted, Handling.answer]
  · rcases outcome with ⟨rfl, rfl⟩ | ⟨error, rfl, rfl⟩
    · simp only [overBy, at_, mine, callWait, Handler.admitted]
      exact Nat.le_refl _
    · simp only [overBy, at_, mine, callWait, Handler.admitted, Handling.answer]
      exact Nat.le_add_right _ _

/-- In the queue, time brings the deadline. -/
theorem queue_waits {number deadline : Nat} (at_ : visit.own.station = .arriving .queued)
    (called : visit.call = some number)
    (standing : before.hall.calls[number]? = some (.waiting deadline))
    (early : before.hall.clock < deadline) :
    Closer house outside before visit (before.elapse (deadline - before.hall.clock)) id := by
  have earlier : before.callOf visit = some (.waiting deadline) := by
    rw [callOf, called]
    exact standing
  have later : (before.elapse (deadline - before.hall.clock)).callOf visit =
      some (.waiting deadline) := earlier
  refine ⟨visit, present, ?_, ?_, rfl⟩
  · simp only [stepsLeft, at_, earlier, later, callSteps, ahead_early early]
    rw [ahead_past]
    · omega
    · simp only [elapse]
      omega
  · simp only [overBy, at_, earlier, later, callWait]
    simp only [elapse]
    omega

/-- Time brings the body, or the deadline of its read. -/
theorem read_waits {deadline : Nat}
    (at_ : visit.own.station = .reading snapshot identity deadline)
    (early : before.shared.system.clock < outside.readBy deadline) :
    Closer house outside before visit
      (before.elapse (outside.readBy deadline - before.shared.system.clock)) id := by
  have short := outside.readBy_le deadline
  let elapsed := outside.readBy deadline - before.shared.system.clock
  have clock : (before.elapse elapsed).shared.system.clock = outside.readBy deadline := by
    simp only [elapse, elapsed]
    omega
  refine ⟨visit, present, ?_, ?_, rfl⟩
  · simp only [stepsLeft, at_]
    rw [clock, ahead_past (Nat.le_refl _), ahead_early early]
    exact Nat.lt_succ_self _
  · have same : atLeast (visit.view (before.elapse elapsed).shared).proxy deadline =
        atLeast (visit.view before.shared).proxy deadline := by
      have instants : max (before.shared.system.clock + elapsed) deadline =
          max before.shared.system.clock deadline := by
        simp only [elapsed]
        omega
      unfold atLeast
      rw [show (visit.view (before.elapse elapsed).shared).proxy.system.clock =
        before.shared.system.clock + elapsed from rfl, instants]
      rfl
    simp only [overBy, at_]
    rw [same]
    exact Nat.le_refl _

/-- The end of the loop is the answer. -/
theorem finalize_closer {outcome : FinalOutcome}
    (at_ : visit.own.station = .attempting snapshot identity body)
    (finished : visit.own.proxy.stage = .finished outcome) :
    ∃ slotFree, Advances house outside before visit id (.visit id (.finalize slotFree)) := by
  let handler := visit.guest.handler house (before.position visit)
  let view := visit.view before.shared
  have standing : view.station = .attempting snapshot identity body := at_
  have ended : view.proxy.stage = .finished outcome := finished
  have ends (slotFree : Bool) (slots : Semaphore Nat) (taken : Bool)
      (slotted : before.slotsAfter (handler.finalized view slotFree outcome) (.finalize slotFree) =
        some (slots, taken)) :
      Advances house outside before visit id (.visit id (.finalize slotFree)) := by
    obtain ⟨replied, same⟩ := finalized_replied handler view slotFree outcome
    have stepped : handler.Step view (.finalize slotFree)
        (handler.finalized view slotFree outcome) := by
      simp only [Handler.Step, Handler.perform, standing, ended]
    refine answer_closer present stepped rfl ?_ replied ?_ taken slotted
    · simp only [stepsLeft, at_]
      omega
    · rw [same]
      simp only [overBy, at_]
      exact clock_loopOver handler.setup view.proxy
  cases free : before.streamSlots.tryAcquire 1 with
  | ok acquired =>
    refine ⟨true, ?_⟩
    cases streams : (handler.finalized view true outcome).station.streams with
    | true => exact ends true acquired true (by simp [slotsAfter, free, streams])
    | false => exact ends true before.streamSlots false (by simp [slotsAfter, free, streams])
  | error refusal => exact ⟨false, ends false before.streamSlots false (by simp [slotsAfter, free])⟩

/-- In the loop, time brings the deadline of the request or the end of the attempt. -/
theorem loop_waits (at_ : visit.own.station = .attempting snapshot identity body)
    (tracks : visit.tracker = some position)
    (waiting : before.shared.system.callers[position]? = some caller)
    (early : before.shared.system.clock <
      (house.setup position).due (outside.met visit.guest snapshot identity body)
        (visit.view before.shared).proxy caller) :
    ∃ elapsed, Closer house outside before visit (before.elapse elapsed) id := by
  have sits (traffic : Traffic) : traffic.position visit = position := by
    rw [Traffic.position, tracks]
    rfl
  let elapsed := (house.setup position).due (outside.met visit.guest snapshot identity body)
        (visit.view before.shared).proxy caller -
    before.shared.system.clock
  have remains : (before.elapse elapsed).shared.system.callers[position]? = some caller := waiting
  have ahead : (visit.view before.shared).proxy.system.clock <
      (house.setup position).due (outside.met visit.guest snapshot identity body)
        (visit.view before.shared).proxy caller := early
  obtain ⟨fewer, sooner⟩ := Setup.waited_progress ahead
  refine ⟨elapsed, visit, present, ?_, ?_, rfl⟩
  · rw [attempting_left at_ (sits _) remains, attempting_left at_ (sits _) waiting]
    exact Nat.add_lt_add_left fewer 1
  · rw [attempting_over at_ (sits _) remains, attempting_over at_ (sits _) waiting]
    exact sooner

include known

/-- The first half of a check brings the request onward. -/
theorem check_closer {pass : Pass} (at_ : visit.own.station = .arriving (.checking pass)) :
    Advances house outside before visit id (.visit id .check) := by
  let handler := visit.guest.handler house (before.position visit)
  let view := visit.view before.shared
  have stepped : handler.Step view .check
      (handler.checked view (handler.client.checked view.runtime pass)) := by
    have standing : view.station = .arriving (.checking pass) := at_
    simp only [Handler.Step, Handler.perform, standing]
  have leads : Checked pass
      (handler.checked view (handler.client.checked view.runtime pass)).station := by
    have passes := (Handler.own_passes stepped rfl).1
    have standing : view.station = .arriving (.checking pass) := at_
    rw [standing] at passes
    cases passes with
    | checked leads => exact leads
  exact checks_closer known present stepped rfl (.inl at_) leads (checked_proxy _ _ _) rfl

/-- So does the second. -/
theorem recheck_closer {pass : Pass} (at_ : visit.own.station = .arriving (.rechecking pass)) :
    Advances house outside before visit id (.visit id .recheck) := by
  let handler := visit.guest.handler house (before.position visit)
  let view := visit.view before.shared
  have standing : view.station = .arriving (.rechecking pass) := at_
  have stepped : handler.Step view .recheck
      (handler.checked view (handler.client.rechecked view.runtime pass)) := by
    simp only [Handler.Step, Handler.perform, standing]
  have passes := (Handler.own_passes stepped rfl).1
  rw [standing] at passes
  cases passes with
  | rechecked leads moves =>
    exact checks_closer known present stepped rfl (.inr ⟨at_, moves⟩) leads
      (checked_proxy _ _ _) rfl

/-- An admitted request gets its tracker and the deadline of its body. -/
theorem serve_closer (at_ : visit.own.station = .arriving (.revalidated identity)) :
    Advances house outside before visit id (.visit id .serve) := by
  let handler := visit.guest.handler house (before.position visit)
  let view := visit.view before.shared
  have untracked := known.orderly.untracked id visit _ present at_
  have last : view.proxy.system.callers.length = handler.setup.request := by
    change before.shared.system.callers.length = before.position visit
    rw [position, untracked]
    rfl
  let tracker : Caller :=
    ⟨view.proxy.system.pool.requestWithModel house.policy none view.proxy.system.clock, .idle⟩
  let proxy : Proxy := { view.proxy with
    system := { view.proxy.system with callers := view.proxy.system.callers ++ [tracker] } }
  have performed : handler.setup.perform view.proxy (.other (.request none)) = some proxy := rfl
  let deadline := view.proxy.system.clock + house.gateway.timeouts.bodyRead
  let next : Handling :=
    { view with proxy := proxy, station := .reading view.runtime identity deadline }
  have stepped : handler.Step view .serve next := by
    have standing : view.station = .arriving (.revalidated identity) := at_
    simp only [Handler.Step, Handler.perform, standing, last, if_true, performed, Option.map_some]
    rfl
  have preparing : view.proxy.stage = .preparing := known.preparing present (by rw [at_]; rfl)
  have found : (atLeast proxy deadline).system.callers[
      (house.setup before.shared.system.callers.length).request]? = some tracker :=
    List.getElem?_concat_length
  refine visit_closer present stepped rfl false rfl ?_ ?_
  · have flag := ahead_le (Shared.of next).system.clock (outside.readBy deadline)
    simp only [stepsLeft, at_, visited, next]
    simp only [next] at flag
    omega
  · have later : (before.visited id visit .serve next before.hall before.streamSlots false).overBy
        house { visit with
          own := next
          tracker := before.trackerAfter visit .serve
          slot := visit.slot || false } =
        (house.setup before.shared.system.callers.length).overBy (atLeast proxy deadline)
          tracker := loopOver_of found
    have waits : tracker.attempts.deadline ≤ view.proxy.system.clock + house.policy.waitTimeout :=
      Nat.add_le_add_left (Nat.min_le_left _ _) _
    have fresh : Setup.attemptsLeft tracker = house.policy.maxAttempts := rfl
    have grounded : (house.setup before.shared.system.callers.length).flightLeft
        (atLeast proxy deadline) = 0 := by
      simp only [Setup.flightLeft, atLeast, proxy, preparing]
    rw [later, Setup.overBy, fresh, grounded]
    simp only [overBy, at_, servedWithin]
    change max (max view.proxy.system.clock deadline) tracker.attempts.deadline +
      house.policy.maxAttempts * house.gateway.attemptBound + 0 ≤ view.proxy.system.clock + _
    simp only [deadline]
    omega

/-- A request past its body has a tracker. -/
theorem served_tracker (served : visit.own.station.unserved = false) :
    ∃ position caller, visit.tracker = some position ∧ before.position visit = position ∧
      before.shared.system.callers[position]? = some caller := by
  cases tracks : visit.tracker with
  | none =>
    rw [known.tracked.unserved id visit present tracks] at served
    cases served
  | some position =>
    have bound := known.tracked.bound id visit position present tracks
    exact ⟨position, _, rfl, by rw [Traffic.position, tracks]; rfl,
      List.getElem?_eq_getElem bound⟩

/-- The body is read when it is there. -/
theorem read_closer {deadline : Nat}
    (at_ : visit.own.station = .reading snapshot identity deadline)
    (there : outside.readBy deadline ≤ before.shared.system.clock) :
    Advances house outside before visit id (.visit id (.read (outside.read deadline))) := by
  let handler := visit.guest.handler house (before.position visit)
  let view := visit.view before.shared
  have preparing : view.proxy.stage = .preparing := known.preparing present (by rw [at_]; rfl)
  have stepped : handler.Step view (.read (outside.read deadline))
      (handler.bodyRead view snapshot identity (outside.read deadline)) := by
    have standing : view.station = .reading snapshot identity deadline := at_
    simp only [Handler.Step, Handler.perform, standing]
    refine if_neg ?_
    rintro ⟨timedOut, early⟩
    rw [Outside.readBy, if_pos timedOut] at there
    exact Nat.not_lt_of_le there early
  have steps : before.stepsLeft house outside visit = 10 * house.policy.maxAttempts + 15 := by
    simp only [stepsLeft, at_, ahead_past there]
  have instant : before.overBy house visit =
      loopOver handler.setup (atLeast view.proxy deadline) := by
    simp only [overBy, at_]
    rfl
  have later := loopOver_atLeast handler.setup preparing deadline
  have refuses (replied : (handler.bodyRead view snapshot identity
        (outside.read deadline)).station.replied = true)
      (same : (handler.bodyRead view snapshot identity (outside.read deadline)).proxy =
        view.proxy) :
      Advances house outside before visit id (.visit id (.read (outside.read deadline))) := by
    refine answer_closer present stepped rfl (by omega) replied ?_ false rfl
    rw [same, instant]
    exact Nat.le_trans (clock_loopOver handler.setup view.proxy) later
  cases comes : outside.read deadline with
  | complete body =>
    rw [comes] at stepped
    refine visit_closer present stepped rfl false rfl ?_ ?_
    · rw [steps]
      simp only [stepsLeft, Handler.bodyRead]
      omega
    · rw [instant]
      exact later
  | tooLarge | invalid | timedOut =>
    rw [comes] at refuses
    exact refuses rfl rfl

/-- A body that was read is answered or attempted. -/
theorem look_closer (at_ : visit.own.station = .buffered snapshot identity body) :
    Advances house outside before visit id (.visit id .look) := by
  obtain ⟨position, caller, tracks, sits, waiting⟩ :=
    served_tracker known present (by rw [at_]; rfl)
  let handler := visit.guest.handler house (before.position visit)
  let view := visit.view before.shared
  have guided : Handler.Guided handler view := known.guided id visit present
  have preparing : view.proxy.stage = .preparing := known.preparing present (by rw [at_]; rfl)
  have found : view.proxy.system.callers[handler.setup.request]? = some caller := by
    change before.shared.system.callers[before.position visit]? = _
    rw [sits]
    exact waiting
  have idle : caller.phase = .idle := by
    refine (guided.steered.engaged caller found).idle ?_
    rw [preparing]
    exact Stage.noConfusion
  have limit := guided.limit caller found
  have steps : before.stepsLeft house outside visit = 10 * house.policy.maxAttempts + 14 := by
    simp only [stepsLeft, at_]
  have instant : before.overBy house visit = loopOver handler.setup view.proxy := by
    simp only [overBy, at_]
    rfl
  have standing : view.station = .buffered snapshot identity body := at_
  have refuses (looked : handler.looked view snapshot identity body =
      some ((handler.recordRejected view 400).answer (invalidModel handler.render))) :
      Advances house outside before visit id (.visit id .look) := by
    have stepped : handler.Step view .look
        ((handler.recordRejected view 400).answer (invalidModel handler.render)) := by
      simp only [Handler.Step, Handler.perform, standing, looked]
    refine answer_closer present stepped rfl (by omega) rfl ?_ false rfl
    rw [instant]
    exact clock_loopOver handler.setup view.proxy
  cases looks : extractModel handler.setup.libraries.reading.parseJson body with
  | none => exact refuses (by simp only [Handler.looked, looks])
  | some model =>
    by_cases allowed : modelAllowed snapshot model = true
    · let left : Caller := ⟨caller.attempts.setModel model, .idle⟩
      let proxy : Proxy := { view.proxy with
        system :=
          (view.proxy.system.called handler.setup.request left view.proxy.system.pool none).1
        stage := .choosing
        model := model }
      have performed : handler.setup.perform view.proxy (.enter model) = some proxy := by
        simp [Setup.perform, Setup.enabled, preparing, Setup.poolAction, System.perform, found,
          idle, Setup.follow, proxy, left]
      have remains : proxy.system.callers[position]? = some left := by
        have bound : position < before.shared.system.callers.length :=
          (List.getElem?_eq_some_iff.mp waiting).1
        change (before.shared.system.callers.set (before.position visit) left)[position]? = _
        rw [sits]
        exact List.getElem?_set_self bound
      let next : Handling := { view with
        proxy := proxy
        audit := view.audit.withSession handler.headers identity.fallbackSessionId
        station := .attempting snapshot identity body }
      have stepped : handler.Step view .look next := by
        simp only [Handler.Step, Handler.perform, standing, Handler.looked, looks, allowed,
          if_true, performed, Option.map_some, next]
      refine loop_closer present stepped rfl tracks rfl remains rfl rfl ?_ ?_
      · have few : Setup.attemptsLeft left ≤ house.policy.maxAttempts :=
          Nat.le_trans (Nat.sub_le _ _) (Nat.le_of_eq limit)
        rw [steps, Setup.stepsLeft_choosing rfl]
        omega
      · rw [instant, loopOver_of found]
        simp only [Setup.overBy, Setup.flightLeft, preparing]
        exact Nat.le_refl _
    · refine refuses ?_
      simp only [Handler.looked, looks]
      exact if_neg allowed

/-- The loop takes its next step, unless it has to wait. -/
theorem attempt_closer (at_ : visit.own.station = .attempting snapshot identity body)
    (tracks : visit.tracker = some position) (sits : before.position visit = position)
    (waiting : before.shared.system.callers[position]? = some caller)
    (going : ∀ outcome, visit.own.proxy.stage ≠ .finished outcome)
    (overdue : (house.setup position).due (outside.met visit.guest snapshot identity body)
      (visit.view before.shared).proxy caller ≤ before.shared.system.clock) :
    ∃ action after, Meets house outside id before (.visit id (.attempt action)) after ∧
      Closer house outside before visit after id ∧
        (action = .choose ∨ action = .advance ∨ ∃ exchange wall jitter,
          action = .conclude exchange wall jitter) := by
  let handler := visit.guest.handler house (before.position visit)
  let view := visit.view before.shared
  have standing : view.station = .attempting snapshot identity body := at_
  have guided : Handler.Guided handler view := known.guided id visit present
  have found : view.proxy.system.callers[handler.setup.request]? = some caller := by
    change before.shared.system.callers[before.position visit]? = _
    rw [sits]
    exact waiting
  have setup : handler.setup = house.setup position := congrArg house.setup sits
  obtain ⟨trace, ledger⟩ := guided.ledger
  obtain ⟨action, proxy, stepped, nearer, acts⟩ := Setup.loop_acts ledger guided.steered found
    (guided.room caller found) (guided.entered _ _ _ standing) going
    (by rw [setup]; exact overdue) fun _ => 0
  obtain ⟨left, remains, fewer, sooner⟩ := nearer
  rw [setup] at remains fewer sooner
  let next : Handling := { view with proxy := proxy }
  have inLoop : next.station = .attempting snapshot identity body := at_
  have tracked : next.proxy.system.callers[position]? = some left := remains
  have taken : handler.Step view (.attempt action) next := by
    unfold Setup.Step at stepped
    have sends : handler.sendable snapshot identity body view.proxy action = true :=
      met_sendable acts
    simp only [Handler.Step, Handler.perform, standing, sends, if_true, stepped, Option.map_some,
      next]
  obtain ⟨after, onward, closer⟩ := loop_closer present taken rfl tracks inLoop tracked rfl rfl
    (by rw [attempting_left at_ sits waiting]; exact Nat.add_lt_add_left fewer 1)
    (by rw [attempting_over at_ sits waiting]; exact sooner)
  refine ⟨action, after, ⟨onward, fun _ _ _ _ _ _ _ same => (by cases same), ?_⟩, closer,
    acts.imp_right (.imp_right ?_)⟩
  · rintro other _ _ _ selection attemptStart exchange wall jitter seen inside sending ⟨⟩
    rw [present, Option.some.injEq] at seen
    subst seen
    rw [at_] at inside
    cases inside
    rcases acts with chosen | advanced | ⟨chosen, start, flies, same⟩
    · cases chosen
    · cases advanced
    · cases same
      rw [show view.proxy.stage = .sending selection attemptStart from sending] at flies
      cases flies
      rfl
  · rintro ⟨selection, attemptStart, _, rfl⟩
    exact ⟨_, _, _, rfl⟩

/-! ## Nobody else is needed -/

/-- A request without an answer always gets nearer to it by itself.

Proof: by its station. Its own step is enabled, unless the queue, the body, the pool or an
upstream keeps it waiting; then time passes to the end of that wait. -/
theorem request_progress (unanswered : visit.own.station.replied = false)
    (undropped : visit.own.station ≠ .dropped) :
    ∃ label after, Meets house outside id before label after ∧
      unaided id (before.callNumber visit) label = true ∧
        Closer house outside before visit after id := by
  have byVisit (action : HandlerAction) (own : ownAction action = true)
      (plain : meeting id (.visit id action) = false)
      (steps : Advances house outside before visit id (.visit id action)) :
      ∃ label after, Meets house outside id before label after ∧
        unaided id (before.callNumber visit) label = true ∧
          Closer house outside before visit after id := by
    obtain ⟨after, stepped, closer⟩ := steps
    exact ⟨_, after, .plain stepped plain, by simp [unaided, own], closer⟩
  have sound := known.orderly.sound id visit present
  cases at_ : visit.own.station with
  | arriving progress =>
    cases progress with
    | checking pass => exact byVisit .check rfl rfl (check_closer known present at_)
    | rechecking pass => exact byVisit .recheck rfl rfl (recheck_closer known present at_)
    | queued =>
      cases called : visit.call with
      | none =>
        obtain ⟨after, stepped, closer⟩ := acquire_closer present at_ called
        exact ⟨_, after, .plain stepped rfl, by simp [unaided], closer⟩
      | some number =>
        have numbered : before.callNumber visit = number := by simp [callNumber, called]
        obtain ⟨call, standing, waits⟩ := known.orderly.waiting id visit number present at_ called
        rcases call_acts before.hall.queue before.hall.clock number waits with
          ⟨moved, next, advanced⟩ | rfl | ⟨error, rfl⟩ | ⟨deadline, rfl, early⟩
        · obtain ⟨after, stepped, closer⟩ := proceed_closer present at_ called standing advanced
          exact ⟨_, after, .plain stepped rfl, by simp [unaided, numbered], closer⟩
        · exact byVisit (.admission (.ok ())) rfl rfl
            (admission_closer present at_ called standing (.inl ⟨rfl, rfl⟩))
        · exact byVisit (.admission (.error error)) rfl rfl
            (admission_closer present at_ called standing (.inr ⟨error, rfl, rfl⟩))
        · exact ⟨_, _, .plain (elapse_step _) rfl, rfl,
            queue_waits present at_ called standing early⟩
    | revalidated identity => exact byVisit .serve rfl rfl (serve_closer known present at_)
    | serving | rejected =>
      rw [at_] at sound
      cases sound
  | reading snapshot identity deadline =>
    rcases Nat.lt_or_ge before.shared.system.clock (outside.readBy deadline) with early | there
    · exact ⟨_, _, .plain (elapse_step _) rfl, rfl, read_waits present at_ early⟩
    · obtain ⟨after, stepped, closer⟩ := read_closer known present at_ there
      refine ⟨_, after, ⟨stepped, ?_, fun _ _ _ _ _ _ _ _ _ _ _ _ same => by cases same⟩,
        by simp [unaided, ownAction], closer⟩
      rintro other _ _ bound result seen reads ⟨⟩
      rw [present, Option.some.injEq] at seen
      subst seen
      rw [at_] at reads
      cases reads
      exact ⟨rfl, there⟩
  | buffered snapshot identity body =>
    exact byVisit .look rfl rfl (look_closer known present at_)
  | attempting snapshot identity body =>
    obtain ⟨position, caller, tracks, sits, waiting⟩ :=
      served_tracker known present (by rw [at_]; rfl)
    by_cases finished : ∃ outcome, visit.own.proxy.stage = .finished outcome
    · obtain ⟨outcome, ended⟩ := finished
      obtain ⟨slotFree, steps⟩ := finalize_closer present at_ ended
      exact byVisit (.finalize slotFree) rfl rfl steps
    · rcases Nat.lt_or_ge before.shared.system.clock
          ((house.setup position).due (outside.met visit.guest snapshot identity body)
            (visit.view before.shared).proxy caller) with early | overdue
      · obtain ⟨elapsed, closer⟩ := loop_waits present at_ tracks waiting early
        exact ⟨_, _, .plain (elapse_step elapsed) rfl, rfl, closer⟩
      · obtain ⟨action, after, meets, closer, acts⟩ := attempt_closer known present at_ tracks
          sits waiting (fun outcome ended => finished ⟨outcome, ended⟩) overdue
        refine ⟨_, after, meets, ?_, closer⟩
        rcases acts with rfl | rfl | ⟨exchange, wall, jitter, rfl⟩ <;> simp [unaided, ownAction]
  | answered | streaming | streamed =>
    rw [at_] at unanswered
    cases unanswered
  | dropped => exact absurd at_ undropped

/-- A request whose body is read is over within the bounds that are left to it. -/
theorem reading_over {deadline : Nat}
    (at_ : visit.own.station = .reading snapshot identity deadline) :
    loopOver (house.setup (before.position visit))
        (atLeast (visit.view before.shared).proxy deadline) ≤
      before.shared.system.clock + servedWithin house := by
  have guided := known.guided id visit present
  have near : deadline ≤ before.shared.system.clock + house.gateway.timeouts.bodyRead :=
    guided.reads _ _ _ at_
  have preparing := known.preparing present (by rw [at_]; rfl)
  unfold loopOver servedWithin
  cases waiting : (atLeast (visit.view before.shared).proxy deadline).system.callers[
      (house.setup (before.position visit)).request]? with
  | none =>
    change max before.shared.system.clock deadline ≤ _
    omega
  | some caller =>
    have waits : caller.attempts.deadline ≤
        before.shared.system.clock + house.policy.waitTimeout :=
      (guided.steered.engaged caller waiting).deadline
    have few : Setup.attemptsLeft caller ≤ house.policy.maxAttempts :=
      Nat.le_trans (Nat.sub_le _ _) (Nat.le_of_eq (guided.limit caller waiting))
    have attempts := Nat.mul_le_mul_right house.gateway.attemptBound few
    simp only [Option.elim_some, Setup.overBy, Setup.flightLeft, atLeast, preparing]
    change max (max before.shared.system.clock deadline) caller.attempts.deadline +
      Setup.attemptsLeft caller * house.gateway.attemptBound + 0 ≤ _
    omega

/-- So is a request in the loop. -/
theorem loop_over :
    loopOver (house.setup (before.position visit)) (visit.view before.shared).proxy ≤
      before.shared.system.clock + servedWithin house := by
  cases waiting : (visit.view before.shared).proxy.system.callers[
      (house.setup (before.position visit)).request]? with
  | none =>
    rw [loopOver, waiting]
    exact Nat.le_add_right _ _
  | some caller =>
    rw [loopOver_of waiting]
    refine Nat.le_trans ((known.guided id visit present).overBy_le waiting)
      (Nat.add_le_add_left ?_ _)
    exact Nat.add_le_add_right (Nat.le_max_right _ _) _

/-- How long a request that nobody helps can still take. -/
theorem overBy_le :
    before.overBy house visit ≤
      before.shared.system.clock + (waitTimeout + servedWithin house) := by
  have queue := known.orderly.punctual.bound
  unfold overBy
  split
  · omega
  · omega
  · have waits : callWait before.hall (before.callOf visit) ≤ waitTimeout := by
      cases asked : before.callOf visit with
      | none => exact Nat.le_of_eq queue
      | some call =>
        obtain ⟨number, _, standing⟩ := Option.bind_eq_some_iff.mp asked
        have timely := known.orderly.punctual.timely number call standing
        cases call with
        | trying | enqueuing | slotted => exact Nat.le_of_eq queue
        | waiting deadline =>
          simp only [Timely, callWait] at timely ⊢
          omega
        | _ => exact Nat.zero_le _
    omega
  · omega
  · rename_i reading
    have looped := reading_over known present reading
    omega
  · have looped := loop_over known present
    omega
  · have looped := loop_over known present
    omega
  · exact Nat.le_add_right _ _

end

/-- No request depends on another: from every state of every interleaving, a request that has
not been dropped comes to its answer or its stream by its own steps and the clock alone, however
its body comes and whatever its upstreams do. The clock needs at most the bound of the queue, the
longer of the bounds on the body and on the wait for a key, and one bound for each attempt.

Proof: each step by itself lowers a measure and leaves the instant by which the request is over.
The measure counts the steps that are left, with one for every wait. -/
theorem answered_in_time {shared : Shared} {log : Audit.Service AuditRecord}
    (initial : System.Initial house.policy house.fingerprint shared.system)
    (run : Runs.Run (Step house) (opened shared maxConcurrency maxQueue waitTimeout log) trace
      last)
    (present : last.visits[id]? = some visit) (undropped : visit.own.station ≠ .dropped)
    (outside : Outside) :
    Runs.Reaches (Meets house outside id) (unaided id (last.callNumber visit) · = true)
      (fun final => final.shared.system.clock ≤ last.shared.system.clock + (waitTimeout +
          (max house.gateway.timeouts.bodyRead house.policy.waitTimeout +
            house.policy.maxAttempts * house.gateway.attemptBound)) ∧
        ∃ found, final.visits[id]? = some found ∧ found.own.station.replied = true) last := by
  let time := last.overBy house visit
  let call := last.callNumber visit
  have bound := overBy_le (run_known initial run) present
  refine Runs.Reaches.descend
    (fun traffic => (∃ trace, Runs.Run (Step house)
        (opened shared maxConcurrency maxQueue waitTimeout log) trace traffic) ∧
      ∃ found, traffic.visits[id]? = some found ∧ found.own.station ≠ .dropped ∧
        traffic.overBy house found ≤ time ∧ traffic.callNumber found = call)
    (fun traffic => (traffic.visits[id]?).elim 0 (traffic.stepsLeft house outside)) ?_
    ⟨⟨trace, run⟩, visit, present, undropped, Nat.le_refl _, rfl⟩
  rintro traffic ⟨⟨steps, reached⟩, found, standing, alive, soon, called⟩
  cases replied : found.own.station.replied with
  | true =>
    rw [replied_over replied] at soon
    exact .inl ⟨Nat.le_trans soon bound, found, standing, replied⟩
  | false =>
    obtain ⟨label, after, meets, alone, next, seen, fewer, sooner, numbered⟩ :=
      @request_progress house _ _ _ _ _ _ outside (run_known initial reached) standing replied alive
    rw [called] at alone
    refine .inr ⟨label, after, meets, alone,
      ⟨⟨_, reached.extend meets.step⟩, next, seen, ?_, ?_, ?_⟩, ?_⟩
    · exact step_undropped meets.step alone standing alive seen
    · exact Nat.le_trans sooner soon
    · exact numbered.trans called
    · rw [seen, standing]
      exact fewer

/-- Every upstream answers with an error at once. -/
def sampleOutside : Outside := ⟨.complete [], 0, fun _ sent => .responded sent ⟨503, [], []⟩⟩

/-- A request whose first attempt is in flight comes to its answer. -/
theorem answered_in_time_sent :
    let last := Runs.reached (perform sampleHouse) sampleTraffic (sampleDay.take 13)
    (last.visits[0]?).map (fun visit => visit.own.station.replied) = some false ∧
      ∃ call, Runs.Reaches (Meets sampleHouse sampleOutside 0) (unaided 0 call · = true)
        (fun final => final.shared.system.clock ≤ last.shared.system.clock + (5 +
            (max sampleHouse.gateway.timeouts.bodyRead sampleHouse.policy.waitTimeout +
              sampleHouse.policy.maxAttempts * sampleHouse.gateway.attemptBound)) ∧
          ∃ found, final.visits[0]? = some found ∧ found.own.station.replied = true) last := by
  have enabled : (Runs.record (perform sampleHouse) sampleTraffic (sampleDay.take 13)).isSome := by
    decide +kernel
  have waits : ((Runs.reached (perform sampleHouse) sampleTraffic
      (sampleDay.take 13)).visits[0]?).map
        (fun visit => visit.own.station.replied) = some false := by
    decide +kernel
  have alive : ((Runs.reached (perform sampleHouse) sampleTraffic
      (sampleDay.take 13)).visits[0]?).map
        (fun visit => decide (visit.own.station ≠ .dropped)) = some true := by
    decide +kernel
  obtain ⟨visit, present, undropped⟩ := Option.map_eq_some_iff.mp alive
  exact ⟨waits, _, answered_in_time sampleTraffic_initial (Runs.replay_run enabled) present
    (of_decide_eq_true undropped) sampleOutside⟩

end Traffic

end Orihsus.Gateway
