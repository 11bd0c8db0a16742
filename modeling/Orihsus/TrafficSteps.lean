import Orihsus.Traffic

/-!
# Steps of a request and steps beside it

A handler's own step leads it onward in one of a few ways, makes at most one call of the
pool, and asks for no tracker but its own. A step of anyone else is for it a step of the
handler of `Handler` that someone else takes, or none at all. Every tracker belongs to one
request.
-/

namespace Orihsus.Gateway

open Pool (AttemptResult System)
open Queue (Hall)
open Semaphores (Semaphore)

/-! ## One step of a handler -/

/-- The handler or its task takes this step. -/
def HandlerAction.own : HandlerAction → Bool
  | .other _ | .update _ | .updateWithKeys _ _ | .setWall _ => false
  | _ => true

/-- The request has no tracker there. -/
def Station.unserved : Station → Bool
  | .arriving _ | .answered _ | .dropped => true
  | _ => false

/-- Where a credential check leads. -/
inductive Checked (pass : Pass) : Station → Prop
  | again : Checked pass (.arriving (.rechecking pass))
  | queued (first : pass = .first) : Checked pass (.arriving .queued)
  | revalidated (identity : GatewayIdentity) (second : pass = .second) :
      Checked pass (.arriving (.revalidated identity))
  | rejected (response : ClientResponse) : Checked pass (.answered response)

/-- Where the steps of a handler lead it. -/
inductive Passes : HandlerAction → Station → Station → Prop
  | checked {pass : Pass} {station : Station} (leads : Checked pass station) :
      Passes .check (.arriving (.checking pass)) station
  | rechecked {pass : Pass} {station : Station} (leads : Checked pass station)
      (moves : station ≠ .arriving (.rechecking pass)) :
      Passes .recheck (.arriving (.rechecking pass)) station
  | admitted : Passes (.admission (.ok ())) (.arriving .queued) (.arriving (.checking .second))
  | refused (error : Queue.AdmissionError) (response : ClientResponse) :
      Passes (.admission (.error error)) (.arriving .queued) (.answered response)
  | served (snapshot : RuntimeState) (identity : GatewayIdentity) (deadline : Nat) :
      Passes .serve (.arriving (.revalidated identity)) (.reading snapshot identity deadline)
  | read (snapshot : RuntimeState) (identity : GatewayIdentity) (deadline : Nat)
      (body : List UInt8) :
      Passes (.read (.complete body)) (.reading snapshot identity deadline)
        (.buffered snapshot identity body)
  | unread (snapshot : RuntimeState) (identity : GatewayIdentity) (deadline : Nat)
      (result : BodyRead) (response : ClientResponse) :
      Passes (.read result) (.reading snapshot identity deadline) (.answered response)
  | looked (snapshot : RuntimeState) (identity : GatewayIdentity) (body : List UInt8) :
      Passes .look (.buffered snapshot identity body) (.attempting snapshot identity body)
  | unlisted (snapshot : RuntimeState) (identity : GatewayIdentity) (body : List UInt8)
      (response : ClientResponse) :
      Passes .look (.buffered snapshot identity body) (.answered response)
  | attempted (snapshot : RuntimeState) (identity : GatewayIdentity) (body : List UInt8)
      (call : ProxyAction) (own : ∀ other, call ≠ .other other) :
      Passes (.attempt call) (.attempting snapshot identity body)
        (.attempting snapshot identity body)
  | answered (snapshot : RuntimeState) (identity : GatewayIdentity) (body : List UInt8)
      (slotFree : Bool) (response : ClientResponse) :
      Passes (.finalize slotFree) (.attempting snapshot identity body) (.answered response)
  | streams {slotFree : Bool} (snapshot : RuntimeState) (identity : GatewayIdentity)
      (body : List UInt8) (prepared : PreparedResponse) (fingerprint : String)
      (selection : Pool.Selection) (attemptStart spawned : Nat)
      (slotted : prepared.streaming = true → slotFree = true) :
      Passes (.finalize slotFree) (.attempting snapshot identity body)
        (.streaming prepared fingerprint selection attemptStart spawned)
  | pumped (prepared : PreparedResponse) (fingerprint : String) (selection : Pool.Selection)
      (attemptStart spawned : Nat) (client : List ClientTurn) (jitter : Nat → Nat)
      (response : ClientResponse) :
      Passes (.pump client jitter)
        (.streaming prepared fingerprint selection attemptStart spawned) (.streamed response)
  | left {station : Station}
      (waits : station = .arriving .queued ∨ (∃ snapshot identity deadline,
        station = .reading snapshot identity deadline) ∨ ∃ snapshot identity body,
          station = .attempting snapshot identity body) : Passes .cancel station .dropped

namespace Handler

variable {handler : Handler} {before after : Handling} {action : HandlerAction}

/-- The station after a half of a check is one that a check leads to. -/
theorem checked_passes {progress : Progress} {pass : Pass}
    (leads : progress = .queued ∧ pass = .first ∨ progress = .rechecking pass ∨
      (∃ identity, progress = .revalidated identity ∧ pass = .second) ∨
        ∃ status, progress = .rejected status) :
    Checked pass (handler.checked before progress).station := by
  rcases leads with ⟨rfl, first⟩ | rfl | ⟨identity, rfl, second⟩ | ⟨status, rfl⟩
  · exact .queued first
  · exact .again
  · exact .revalidated identity second
  · exact .rejected _

/-- A check that passes leads to the queue or to the body. -/
theorem passed_leads (identity : GatewayIdentity) (pass : Pass) :
    Client.passed identity pass = .queued ∧ pass = .first ∨
      ∃ known, Client.passed identity pass = .revalidated known ∧ pass = .second := by
  cases pass with
  | first => exact .inl ⟨rfl, rfl⟩
  | second => exact .inr ⟨identity, rfl, rfl⟩

/-- A body with a model is attempted, any other is answered. -/
theorem looked_passes {snapshot : RuntimeState} {identity : GatewayIdentity} {body : List UInt8}
    (stepped : handler.looked before snapshot identity body = some after) :
    Passes .look (.buffered snapshot identity body) after.station ∧
      after.runtime = before.runtime ∧ after.wall = before.wall := by
  unfold looked at stepped
  split at stepped
  · cases stepped
    exact ⟨.unlisted _ _ _ _, rfl, rfl⟩
  · split at stepped
    · obtain ⟨proxy, performed, rfl⟩ := Option.map_eq_some_iff.mp stepped
      exact ⟨.looked _ _ _, rfl, rfl⟩
    · cases stepped
      exact ⟨.unlisted _ _ _ _, rfl, rfl⟩

/-- The end of the loop is answered or streamed. -/
theorem finalized_passes (snapshot : RuntimeState) (identity : GatewayIdentity)
    (body : List UInt8) (slotFree : Bool) (outcome : FinalOutcome) :
    Passes (.finalize slotFree) (.attempting snapshot identity body)
        (handler.finalized before slotFree outcome).station ∧
      (handler.finalized before slotFree outcome).runtime = before.runtime ∧
      (handler.finalized before slotFree outcome).wall = before.wall := by
  unfold finalized
  split
  · exact ⟨.answered _ _ _ _ _, rfl, rfl⟩
  · exact ⟨.answered _ _ _ _ _, rfl, rfl⟩
  · exact ⟨.answered _ _ _ _ _, rfl, rfl⟩
  · unfold finalizeResponse
    split
    · exact ⟨.answered _ _ _ _ _, rfl, rfl⟩
    · rename_i slotted
      refine ⟨.streams _ _ _ _ _ _ _ _ ?_, rfl, rfl⟩
      intro streaming
      simpa [streaming] using slotted

/-- A pump ends its stream. -/
theorem streamedTo_passes {prepared : PreparedResponse} {fingerprint : String}
    {selection : Pool.Selection} {attemptStart spawned : Nat} {client : List ClientTurn}
    {jitter : Nat → Nat}
    (stepped : handler.streamedTo before prepared fingerprint selection attemptStart spawned client
      jitter = some after) :
    Passes (.pump client jitter) (.streaming prepared fingerprint selection attemptStart spawned)
        after.station ∧
      after.runtime = before.runtime ∧ after.wall = before.wall := by
  unfold streamedTo at stepped
  split at stepped
  · cases stepped
  · split at stepped
    · split at stepped
      · cases stepped
        exact ⟨.pumped _ _ _ _ _ _ _ _, rfl, rfl⟩
      · obtain ⟨proxy, performed, rfl⟩ := Option.map_eq_some_iff.mp stepped
        exact ⟨.pumped _ _ _ _ _ _ _ _, rfl, rfl⟩
    · cases stepped

/-- A handler waits in the queue, for its body or in the loop. -/
theorem awaits_waits (awaiting : awaits before = true) :
    before.station = .arriving .queued ∨ (∃ snapshot identity deadline,
      before.station = .reading snapshot identity deadline) ∨ ∃ snapshot identity body,
        before.station = .attempting snapshot identity body := by
  unfold awaits at awaiting
  split at awaiting
  · rename_i queued
    exact .inl queued
  · rename_i snapshot identity deadline reading
    exact .inr (.inl ⟨snapshot, identity, deadline, reading⟩)
  · rename_i snapshot identity body attempting
    exact .inr (.inr ⟨snapshot, identity, body, attempting⟩)
  · cases awaiting

/-- A step of the handler itself leads it onward and leaves the store and the wall clock
alone. -/
theorem own_passes (stepped : handler.Step before action after) (own : action.own = true) :
    Passes action before.station after.station ∧
      after.runtime = before.runtime ∧ after.wall = before.wall := by
  have walls (progress : Progress) : (handler.checked before progress).runtime = before.runtime ∧
      (handler.checked before progress).wall = before.wall := by
    cases progress with
    | _ => exact ⟨rfl, rfl⟩
  unfold Step perform at stepped
  cases action with
  | check =>
    dsimp only at stepped
    split at stepped
    · rename_i pass arriving
      cases stepped
      rw [arriving]
      refine ⟨.checked (checked_passes ?_), walls _⟩
      unfold Client.checked
      split
      · rename_i identity _
        exact (passed_leads identity pass).imp_right fun revalidated => .inr (.inl revalidated)
      · split
        · exact .inr (.inl rfl)
        · exact .inr (.inr (.inr ⟨_, rfl⟩))
    · cases stepped
  | recheck =>
    dsimp only at stepped
    split at stepped
    · rename_i pass arriving
      cases stepped
      rw [arriving]
      refine ⟨.rechecked (checked_passes ?_) ?_, walls _⟩
      · unfold Client.rechecked
        split
        · rename_i identity _
          exact (passed_leads identity pass).imp_right fun revalidated => .inr (.inl revalidated)
        · exact .inr (.inr (.inr ⟨_, rfl⟩))
      · unfold Client.rechecked
        split
        · cases pass with
          | first | second =>
            intro same
            cases same
        · intro same
          cases same
    · cases stepped
  | admission result =>
    dsimp only at stepped
    split at stepped
    · rename_i queued
      cases stepped
      rw [queued]
      cases result with
      | ok entered => exact ⟨.admitted, rfl, rfl⟩
      | error refused => exact ⟨.refused _ _, rfl, rfl⟩
    · cases stepped
  | serve =>
    dsimp only at stepped
    split at stepped
    · rename_i identity arriving
      split at stepped
      · obtain ⟨proxy, performed, rfl⟩ := Option.map_eq_some_iff.mp stepped
        rw [arriving]
        exact ⟨.served _ _ _, rfl, rfl⟩
      · cases stepped
    · cases stepped
  | read result =>
    dsimp only at stepped
    split at stepped
    · rename_i reading
      split at stepped
      · cases stepped
      · cases stepped
        rw [reading]
        cases result with
        | complete body => exact ⟨.read _ _ _ _, rfl, rfl⟩
        | tooLarge | invalid | timedOut => exact ⟨.unread _ _ _ _ _, rfl, rfl⟩
    · cases stepped
  | look =>
    dsimp only at stepped
    split at stepped
    · rename_i buffered
      rw [buffered]
      exact looked_passes stepped
    · cases stepped
  | attempt call =>
    dsimp only at stepped
    split at stepped
    · rename_i attempting
      split at stepped
      · rename_i sendable
        obtain ⟨proxy, performed, rfl⟩ := Option.map_eq_some_iff.mp stepped
        refine ⟨?_, rfl, rfl⟩
        dsimp only
        rw [attempting]
        refine .attempted _ _ _ _ ?_
        rintro other rfl
        cases sendable
      · cases stepped
    · cases stepped
  | finalize slotFree =>
    dsimp only at stepped
    split at stepped
    · rename_i attempting finished
      cases stepped
      rw [attempting]
      exact finalized_passes _ _ _ _ _
    · cases stepped
  | pump client jitter =>
    dsimp only at stepped
    split at stepped
    · rename_i streaming
      rw [streaming]
      exact streamedTo_passes stepped
    · cases stepped
  | cancel =>
    dsimp only at stepped
    split at stepped
    · rename_i awaiting
      cases stepped
      exact ⟨.left (awaits_waits awaiting), rfl, rfl⟩
    · cases stepped
  | other | update | updateWithKeys | setWall => cases own

/-- A handler without a tracker asks the pool for nothing but its tracker. -/
theorem unserved_loop (passes : Passes action before.station after.station)
    (unserved : before.station.unserved = true) :
    handler.loopAction before action = none ∨
      handler.loopAction before action = some (.other (.request none)) := by
  generalize before.station = station, after.station = reached at passes unserved
  cases passes with
  | checked | rechecked | admitted | refused => exact .inl rfl
  | served => exact .inr rfl
  | left => exact .inl rfl
  | read | unread | looked | unlisted | attempted | answered | streams | pumped => cases unserved

/-- What a handler calls for anyone is a new tracker or a report. -/
theorem other_unasked {call : Pool.Action} (passes : Passes action before.station after.station)
    (loops : handler.loopAction before action = some (.other call)) :
    calledRequest call = none := by
  generalize before.station = station, after.station = reached at passes
  cases passes with
  | served =>
    cases loops
    rfl
  | looked | unlisted =>
    simp only [loopAction] at loops
    split at loops
    · obtain ⟨model, _, same⟩ := Option.map_eq_some_iff.mp loops
      cases same
    · cases loops
  | attempted _ _ _ _ own =>
    cases loops
    exact absurd rfl (own call)
  | pumped =>
    simp only [loopAction] at loops
    split at loops
    · obtain ⟨report, reports, same⟩ := Option.map_eq_some_iff.mp loops
      cases same
      obtain ⟨result, _, made⟩ := Option.bind_eq_some_iff.mp reports
      unfold pumpReport at made
      split at made
      · cases made
        rfl
      · cases made
        rfl
      · cases made
      · cases made
        rfl
    · cases loops
  | _ => cases loops

end Handler

/-- A step of the loop leaves the pool or performs one action on it, of its own or of others. -/
theorem Setup.step_system {setup : Setup} {before after : Proxy} {action : ProxyAction}
    (stepped : setup.Step before action after) :
    after.requestStart = before.requestStart ∧
      (after.system = before.system ∨ ∃ call system answer,
        before.system.perform setup.policy setup.fingerprint call = some (system, answer) ∧
          after.system = system ∧ ∀ request, calledRequest call = some request →
            action = .other call ∨ request = setup.request ∧ ∀ other, action ≠ .other other) := by
  have answered (system : System) (answer : Option AttemptResult) :
      (before.answered system answer).requestStart = before.requestStart ∧
        (before.answered system answer).system = system := by
    rcases answer with _ | answer
    · exact ⟨rfl, rfl⟩
    · cases answer with
      | selected | unavailable | exhausted => exact ⟨rfl, rfl⟩
  have settled (system : System) (selection : Pool.Selection) (attemptStart : Nat)
      (concluded : Concluded) :
      (before.settled system selection attemptStart concluded).requestStart =
          before.requestStart ∧
        (before.settled system selection attemptStart concluded).system = system := by
    unfold Proxy.settled
    split
    · exact ⟨rfl, rfl⟩
    · exact ⟨rfl, rfl⟩
  cases step_turns stepped with
  | other foreign performed =>
    exact ⟨rfl, .inr ⟨_, _, _, performed, rfl, fun _ _ => .inl rfl⟩⟩
  | entered preparing performed =>
    refine ⟨rfl, .inr ⟨_, _, _, performed, rfl, ?_⟩⟩
    intro request asked
    exact .inr ⟨(Option.some.inj asked).symm, fun _ => ProxyAction.noConfusion⟩
  | chosen choosing performed =>
    refine ⟨(answered _ _).1, .inr ⟨_, _, _, performed, (answered _ _).2, ?_⟩⟩
    intro request asked
    refine .inr ⟨?_, fun _ => ProxyAction.noConfusion⟩
    unfold choice at asked
    split at asked
    · exact (Option.some.inj asked).symm
    · exact (Option.some.inj asked).symm
  | advanced calling performed =>
    refine ⟨(answered _ _).1, .inr ⟨_, _, _, performed, (answered _ _).2, ?_⟩⟩
    intro request asked
    exact .inr ⟨(Option.some.inj asked).symm, fun _ => ProxyAction.noConfusion⟩
  | @retried _ _ _ _ _ report _ _ _ sending verdict performed =>
    refine ⟨(settled _ _ _ _).1, .inr ⟨_, _, _, performed, (settled _ _ _ _).2, ?_⟩⟩
    intro request asked
    cases report with
    | failure | livenessFailure => cases asked
  | forwarded sending verdict => exact ⟨(settled _ _ _ _).1, .inl (settled _ _ _ _).2⟩

/-- Before the body no step but `serve` leads to it. -/
theorem Passes.unserved {action : HandlerAction} {station reached : Station}
    (passes : Passes action station reached) (unserved : station.unserved = true)
    (unasked : action ≠ .serve) : reached.unserved = true := by
  cases passes with
  | checked leads | rechecked leads =>
    cases leads with
    | _ => rfl
  | served => exact absurd rfl unasked
  | admitted | refused | left | unread | unlisted | answered => rfl
  | read | looked | attempted | streams | pumped => cases unserved

/-! ## Steps of a request and steps beside it -/

namespace Traffic

variable {house : House} {guest : Guest} {shared next : Shared} {asker : Option Nat}
  {position : Nat} {handling after : Handling} {action : HandlerAction}

/-- What a handler's own step does to the shared parts. Only a request that has a tracker asks
for one. -/
theorem own_shares (stepped : (guest.handler house position).Step handling action after)
    (own : action.own = true)
    (asks : asker = some position ∨ handling.station.unserved = true) :
    Shares house asker (.of handling) (.of after) ∧
      after.proxy.requestStart = handling.proxy.requestStart := by
  obtain ⟨passes, runtime, wall⟩ := Handler.own_passes stepped own
  have still (same : after.proxy.system = handling.proxy.system) :
      Shares house asker (.of handling) (.of after) := by
    unfold Shared.of
    rw [runtime, wall, same]
    exact .nothing
  rcases Handler.step_loop stepped with ⟨looped, loops, steps⟩ | ⟨_, same⟩
  · obtain ⟨started, same | ⟨call, system, answer, performed, left, asked⟩⟩ :=
      Setup.step_system steps
    · exact ⟨still same, started⟩
    · refine ⟨?_, started⟩
      unfold Shared.of
      rw [runtime, wall, left]
      refine .pool ?_ performed
      intro request called
      rcases asked request called with rfl | ⟨rfl, nobody⟩
      · rw [Handler.other_unasked passes loops] at called
        cases called
      · rcases asks with mine | unserved
        · exact mine
        · rcases Handler.unserved_loop passes unserved with quiet | first
          · rw [quiet] at loops
            cases loops
          · rw [first] at loops
            cases loops
            exact absurd rfl (nobody _)
  · exact ⟨still (congrArg Proxy.system same), congrArg Proxy.requestStart same⟩

/-- For a request, a step beside it is a step of someone else, or none at all. -/
theorem foreign_step (shares : Shares house asker shared next) (apart : asker ≠ some position)
    (guest : Guest) (handling : Handling) :
    handling.under next = handling.under shared ∨ ∃ label,
      (guest.handler house position).Step (handling.under shared) label (handling.under next) := by
  have calls {call : Pool.Action} {system : System} {answer : Option AttemptResult}
      (free : calledRequest call ≠ some position)
      (performed : shared.system.perform house.policy house.fingerprint call =
        some (system, answer)) :
      (house.setup position).perform (handling.under shared).proxy (.other call) =
        some { (handling.under shared).proxy with system := system } := by
    have performs : (handling.under shared).proxy.system.perform (house.setup position).policy
        (house.setup position).fingerprint call = some (system, answer) := performed
    have enabled : (house.setup position).enabled (handling.under shared).proxy (.other call) =
        true := decide_eq_true free
    unfold Setup.perform Setup.poolAction
    rw [if_pos enabled]
    dsimp only
    rw [performs]
    rfl
  cases shares with
  | nothing => exact .inl rfl
  | @pool call system answer asked performed =>
    have free := calls (fun called => apart (asked _ called)) performed
    exact .inr ⟨.other call, Option.map_eq_some_iff.mpr ⟨_, free, rfl⟩⟩
  | update state => exact .inr ⟨.update state, rfl⟩
  | @updateWithKeys keys state system answer performed =>
    have unasked : calledRequest (.replaceKeys keys) ≠ some position :=
      (Option.some_ne_none position).symm
    have free := calls unasked performed
    exact .inr ⟨.updateWithKeys keys state, Option.map_eq_some_iff.mpr ⟨_, free, rfl⟩⟩
  | setWall wall => exact .inr ⟨.setWall wall, rfl⟩

/-- No step of the shared state takes a tracker away. -/
theorem callers_le (shares : Shares house asker shared next) :
    shared.system.callers.length ≤ next.system.callers.length := by
  have steps {call : Pool.Action} {system : System} {answer : Option AttemptResult}
      (performed : shared.system.perform house.policy house.fingerprint call =
        some (system, answer)) : shared.system.callers.length ≤ system.callers.length := by
    have stepped : System.Step house.policy house.fingerprint shared.system call system := by
      rw [System.Step, performed]
      rfl
    have performs := System.step_cases stepped
    generalize shared.system.answer house.policy house.fingerprint call = answer at performs
    cases performs with
    | request model => exact (List.length_append ▸ Nat.le_add_right _ _)
    | setModel | quiet | selected => exact Nat.le_of_eq (List.length_set).symm
    | _ => exact Nat.le_refl _
  cases shares with
  | pool asked performed | updateWithKeys performed => exact steps performed
  | _ => exact Nat.le_refl _

/-! ## Trackers -/

/-- Every tracker belongs to one request, and a request without one is not served. -/
structure Tracked (traffic : Traffic) : Prop where
  bound : ∀ (id : Nat) visit position, traffic.visits[id]? = some visit →
    visit.tracker = some position → position < traffic.shared.system.callers.length
  distinct : ∀ (id other : Nat) visit another position, traffic.visits[id]? = some visit →
    traffic.visits[other]? = some another → visit.tracker = some position →
      another.tracker = some position → id = other
  unserved : ∀ (id : Nat) visit, traffic.visits[id]? = some visit → visit.tracker = none →
    visit.own.station.unserved = true

variable {before after_ first last : Traffic} {label : TrafficAction} {id other : Nat}
  {visit replaced : Visit}

/-- What a changed list of requests has at a position. -/
theorem visits_set {visits : List Visit} (present : visits[id]? = some visit) :
    (visits.set id replaced)[other]? = if id = other then some replaced else visits[other]? := by
  have bound : id < visits.length := (List.getElem?_eq_some_iff.mp present).1
  by_cases same : id = other
  · subst same
    rw [if_pos rfl, List.getElem?_set_self bound]
  · rw [if_neg same, List.getElem?_set_ne same]

/-- A request is known already or has just arrived. -/
theorem arrived_known {visits : List Visit} {found : Visit}
    (seen : (visits ++ [visit])[other]? = some found) :
    visits[other]? = some found ∨ found = visit := by
  rw [List.getElem?_append] at seen
  split at seen
  · exact .inl seen
  · exact .inr (List.mem_singleton.mp (List.mem_of_getElem? seen))

/-- A request is the changed one or as it was. -/
theorem visits_known {visits : List Visit} {found : Visit} (present : visits[id]? = some visit)
    (seen : (visits.set id replaced)[other]? = some found) :
    other = id ∧ found = replaced ∨ other ≠ id ∧ visits[other]? = some found := by
  rw [visits_set present] at seen
  split at seen
  · rename_i same
    exact .inl ⟨same.symm, (Option.some.inj seen).symm⟩
  · rename_i apart
    exact .inr ⟨Ne.symm apart, seen⟩

/-- The calls of `snapshot_and_request` create one tracker each. -/
theorem serve_callers (stepped : (guest.handler house position).Step handling .serve after) :
    handling.proxy.system.callers.length = position ∧
      after.proxy.system.callers.length = handling.proxy.system.callers.length + 1 := by
  simp only [Handler.Step, Handler.perform] at stepped
  split at stepped
  · split at stepped
    · rename_i fresh
      obtain ⟨proxy, performed, rfl⟩ := Option.map_eq_some_iff.mp stepped
      refine ⟨fresh, ?_⟩
      cases Setup.step_turns performed with
      | other foreign called =>
        cases called
        exact List.length_append
    · cases stepped
  · cases stepped

/-- A step that moves no tracker but to a new caller. -/
theorem Tracked.set (tracked : Tracked before) (present : before.visits[id]? = some visit)
    (visits : after_.visits = before.visits.set id replaced)
    (grows : before.shared.system.callers.length ≤ after_.shared.system.callers.length)
    (tracker : replaced.tracker = visit.tracker ∨
      replaced.tracker = some before.shared.system.callers.length ∧
        before.shared.system.callers.length < after_.shared.system.callers.length)
    (unserved : replaced.tracker = none → replaced.own.station.unserved = true) :
    Tracked after_ := by
  have known {other : Nat} {found : Visit} (seen : after_.visits[other]? = some found) :
      other = id ∧ found = replaced ∨ other ≠ id ∧ before.visits[other]? = some found :=
    visits_known present (visits ▸ seen)
  -- A position that another request holds is not the new one.
  have clash {other position : Nat} {found : Visit} (apart : other ≠ id)
      (seen : before.visits[other]? = some found) (holds : found.tracker = some position)
      (mine : replaced.tracker = some position) : False := by
    rcases tracker with same | ⟨fresh, _⟩
    · exact apart (tracked.distinct other id found visit position seen present holds
        (same.symm.trans mine))
    · have below := tracked.bound other found position seen holds
      rw [fresh, Option.some.injEq] at mine
      omega
  constructor
  · intro other found position seen holds
    rcases known seen with ⟨_, rfl⟩ | ⟨_, earlier⟩
    · rcases tracker with same | ⟨fresh, more⟩
      · have below := tracked.bound id visit position present (same.symm.trans holds)
        omega
      · rw [fresh, Option.some.injEq] at holds
        omega
    · have below := tracked.bound other found position earlier holds
      omega
  · intro one two found another position seenOne seenTwo holdsOne holdsTwo
    rcases known seenOne with ⟨rfl, rfl⟩ | ⟨apartOne, earlierOne⟩
    · rcases known seenTwo with ⟨rfl, _⟩ | ⟨apart, earlier⟩
      · rfl
      · exact (clash apart earlier holdsTwo holdsOne).elim
    · rcases known seenTwo with ⟨rfl, rfl⟩ | ⟨_, earlierTwo⟩
      · exact (clash apartOne earlierOne holdsOne holdsTwo).elim
      · exact tracked.distinct one two found another position earlierOne earlierTwo holdsOne
          holdsTwo
  · intro other found seen none
    rcases known seen with ⟨_, rfl⟩ | ⟨_, earlier⟩
    · exact unserved none
    · exact tracked.unserved other found earlier none

/-- A step that leaves the requests alone. -/
theorem Tracked.still (tracked : Tracked before) (visits : after_.visits = before.visits)
    (grows : before.shared.system.callers.length ≤ after_.shared.system.callers.length) :
    Tracked after_ := by
  constructor
  · intro other found position seen holds
    rw [visits] at seen
    have below := tracked.bound other found position seen holds
    omega
  · rw [visits]
    exact tracked.distinct
  · rw [visits]
    exact tracked.unserved

/-- Only the request itself has an effect on the queue. -/
theorem hallAfter_own {hall : Hall} {action : HandlerAction}
    (halls : before.hallAfter visit action = some hall) : action.own = true := by
  cases action with
  | other | update | updateWithKeys | setWall => cases halls
  | _ => rfl

/-- A request gets its tracker when it is served. -/
theorem trackerAfter_cases (traffic : Traffic) (visit : Visit) (action : HandlerAction) :
    action = .serve ∧
        traffic.trackerAfter visit action = some traffic.shared.system.callers.length ∨
      action ≠ .serve ∧ traffic.trackerAfter visit action = visit.tracker := by
  cases action with
  | serve => exact .inl ⟨rfl, rfl⟩
  | _ => exact .inr ⟨HandlerAction.noConfusion, rfl⟩

/-- A request whose tracker is missing is not served; one that has it asks for it. -/
theorem Tracked.asks (tracked : Tracked before) (present : before.visits[id]? = some visit) :
    visit.tracker = some (before.position visit) ∨
      (visit.view before.shared).station.unserved = true := by
  cases holds : visit.tracker with
  | none => exact .inr (tracked.unserved id visit present holds)
  | some position =>
    refine .inl ?_
    rw [Traffic.position, holds]
    rfl

/-- The trackers of the requests are apart and in the pool. -/
theorem step_tracked (stepped : Step house before label after_) (tracked : Tracked before) :
    Tracked after_ := by
  cases step_turn stepped with
  | ticked shares | shared quiet shares => exact tracked.still rfl (callers_le shares)
  | unpermitted | queued | aside | logged => exact tracked.still rfl (Nat.le_refl _)
  | @acquired id visit present | @unslotted id visit present =>
    exact tracked.set present rfl (Nat.le_refl _) (.inl rfl) fun none =>
      tracked.unserved id visit present none
  | arrived headers api generatedId guest =>
    constructor
    · intro other found position seen holds
      rcases arrived_known seen with earlier | rfl
      · exact tracked.bound other found position earlier holds
      · cases holds
    · intro one two found another position seenOne seenTwo holdsOne holdsTwo
      rcases arrived_known seenOne with earlierOne | rfl
      · rcases arrived_known seenTwo with earlierTwo | rfl
        · exact tracked.distinct one two found another position earlierOne earlierTwo holdsOne
            holdsTwo
        · cases holdsTwo
      · cases holdsOne
    · intro other found seen none
      rcases arrived_known seen with earlier | rfl
      · exact tracked.unserved other found earlier none
      · rfl
  | @visited id visit action next hall slots taken present halls steps slotted =>
    have own := hallAfter_own halls
    obtain ⟨passes, _, _⟩ := Handler.own_passes steps own
    have grows := callers_le (own_shares steps own (tracked.asks present)).1
    refine tracked.set present rfl grows ?_ ?_
    · rcases trackerAfter_cases before visit action with ⟨rfl, fresh⟩ | ⟨_, same⟩
      · refine .inr ⟨fresh, ?_⟩
        have more := (serve_callers steps).2
        exact Nat.lt_of_lt_of_eq (Nat.lt_succ_self _) more.symm
      · exact .inl same
    · intro none
      rcases trackerAfter_cases before visit action with ⟨rfl, fresh⟩ | ⟨unasked, same⟩
      · exact absurd (fresh.symm.trans none) (Option.some_ne_none _)
      · exact passes.unserved (tracked.unserved id visit present (same.symm.trans none)) unasked

end Traffic

end Orihsus.Gateway
