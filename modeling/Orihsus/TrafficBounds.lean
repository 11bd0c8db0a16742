import Orihsus.TrafficRuns

/-!
# What the requests hold

A request that was admitted holds a permit of the queue until its handler, or the task that
streams its answer, is over, and a stream of events holds a slot as well. So the requests
under way are bounded by `max_concurrency` and the streams by a quarter of it, in every
interleaving; and however requests end, what they held comes back.
-/

namespace Orihsus.Gateway

open Queue (Call Hall)
open Semaphores (Books Semaphore total)

/-- The request has not come to the queue. -/
def Station.outside : Station → Bool
  | .arriving (.checking .first) | .arriving (.rechecking .first) => true
  | _ => false

/-- The request was admitted and is not over. -/
def Station.inside : Station → Bool
  | .arriving (.checking .second) | .arriving (.rechecking .second)
  | .arriving (.revalidated _) | .reading _ _ _ | .buffered _ _ _ | .attempting _ _ _
  | .streaming _ _ _ _ _ => true
  | _ => false

/-- A request that is over is nowhere else. -/
theorem Station.finished_alone {station : Station} (finished : station.finished = true) :
    station.inside = false ∧ station.streams = false := by
  cases station with
  | answered | streamed | dropped => exact ⟨rfl, rfl⟩
  | _ => cases finished

/-- How a step of a handler passes the gates. -/
structure Gates (action : HandlerAction) (station reached : Station) : Prop where
  outside : reached.outside = true → station.outside = true
  inside : reached.inside = true → station.inside = true ∨ action = .admission (.ok ())
  finished : reached.finished = true → station.outside = true ∨ station.inside = true ∨
    (∃ error, action = .admission (.error error)) ∨
      action = .cancel ∧ station = .arriving .queued
  streams : reached.streams = true → action = .finalize true
  begun : station.finished = false
  ends : station.streams = true → reached.finished = true

/-- A request that was admitted and is not over is nowhere else. -/
theorem Station.inside_alone {station : Station} (inside : station.inside = true) :
    station.outside = false ∧ station.finished = false := by
  cases station with
  | arriving progress =>
    cases progress with
    | checking pass | rechecking pass =>
      cases pass with
      | first => cases inside
      | second => exact ⟨rfl, rfl⟩
    | revalidated identity => exact ⟨rfl, rfl⟩
    | _ => cases inside
  | reading | buffered | attempting | streaming => exact ⟨rfl, rfl⟩
  | _ => cases inside

/-- A request that was admitted moves on. -/
theorem Gates.onward {action : HandlerAction} {station reached : Station}
    (inside : station.inside = true) (still : reached.inside = true)
    (unstreamed : station.streams = false)
    (streams : reached.streams = true → action = .finalize true) :
    Gates action station reached := by
  obtain ⟨admitted, begun⟩ := Station.inside_alone still
  refine ⟨?_, fun _ => .inl inside, ?_, streams, (Station.inside_alone inside).2, ?_⟩
  · rw [admitted]
    nofun
  · rw [begun]
    nofun
  · rw [unstreamed]
    nofun

/-- A request that has not been admitted yet moves on. -/
theorem Gates.nearer {action : HandlerAction} {station : Station} {progress : Progress}
    (outside : station.outside = true) (begun : station.finished = false)
    (unstreamed : station.streams = false)
    (apart : (Station.arriving progress).inside = false) :
    Gates action station (.arriving progress) := by
  refine ⟨fun _ => outside, ?_, nofun, nofun, begun, ?_⟩
  · rw [apart]
    nofun
  · rw [unstreamed]
    nofun

/-- A request that was checked or admitted is over. -/
theorem Gates.ended {action : HandlerAction} {station reached : Station}
    (begun : station.outside = true ∨ station.inside = true) (alive : station.finished = false)
    (finished : reached.finished = true) (unfit : reached.outside = false) :
    Gates action station reached := by
  obtain ⟨outside, streams⟩ := Station.finished_alone finished
  refine ⟨?_, ?_, fun _ => begun.imp_right .inl, ?_, alive, fun _ => finished⟩
  · rw [unfit]
    nofun
  · rw [outside]
    nofun
  · rw [streams]
    nofun

/-- A credential check passes the gates. -/
theorem Checked.gates {action : HandlerAction} {pass : Pass} {progress : Progress}
    {reached : Station} (leads : Checked pass reached)
    (known : progress = .checking pass ∨ progress = .rechecking pass) :
    Gates action (.arriving progress) reached := by
  cases pass with
  | first =>
    have outside : (Station.arriving progress).outside = true := by
      rcases known with rfl | rfl <;> rfl
    cases leads with
    | again | queued => exact .nearer outside rfl rfl rfl
    | revalidated identity second => cases second
    | rejected response => exact .ended (.inl outside) rfl rfl rfl
  | second =>
    have inside : (Station.arriving progress).inside = true := by
      rcases known with rfl | rfl <;> rfl
    cases leads with
    | again | revalidated => exact .onward inside rfl rfl nofun
    | queued first => cases first
    | rejected response => exact .ended (.inr inside) rfl rfl rfl

/-- Every step of a handler passes the gates. -/
theorem Passes.gates {action : HandlerAction} {station reached : Station}
    (passes : Passes action station reached) : Gates action station reached := by
  cases passes with
  | checked leads => exact leads.gates (.inl rfl)
  | rechecked leads => exact leads.gates (.inr rfl)
  | admitted => exact ⟨nofun, fun _ => .inr rfl, nofun, nofun, rfl, nofun⟩
  | refused error response =>
    exact ⟨nofun, nofun, fun _ => .inr (.inr (.inl ⟨error, rfl⟩)), nofun, rfl, nofun⟩
  | served | read | looked | attempted => exact .onward rfl rfl rfl nofun
  | unread | unlisted | answered | pumped => exact .ended (.inr rfl) rfl rfl rfl
  | streams snapshot identity body prepared fingerprint selection attemptStart spawned slotted =>
    refine .onward rfl rfl rfl ?_
    intro streaming
    rw [slotted streaming]
  | left waits =>
    rcases waits with rfl | ⟨_, _, _, rfl⟩ | ⟨_, _, _, rfl⟩
    · exact ⟨nofun, nofun, fun _ => .inr (.inr (.inr ⟨rfl, rfl⟩)), nofun, rfl, nofun⟩
    · exact .ended (.inr rfl) rfl rfl rfl
    · exact .ended (.inr rfl) rfl rfl rfl

/-! ## The calls of the queue, one by one -/

/-- What a step makes of the call that it moves. -/
inductive Becomes (hall : Hall) (number : Nat) (call : Call) : Queue.Action → Call → Prop
  | advanced {queue : Queue.AdmissionQueue} {next : Call}
      (advanced : call.advance hall.queue hall.clock number = some (queue, next)) :
      Becomes hall number call (.proceed number) next
  | cancelled {deadline : Nat} (waiting : call = .waiting deadline) :
      Becomes hall number call (.cancel number) (.leaving .cancelled)
  | dropped (permitted : call = .permitted) :
      Becomes hall number call (.drop number) (.ended .dropped)

/-- What a step leaves of the clock, of the bound on a wait and of each call. -/
structure Onward (before : Hall) (action : Queue.Action) (after : Hall) : Prop where
  later : before.clock ≤ after.clock
  bound : after.queue.waitTimeout = before.queue.waitTimeout
  grows : before.calls.length ≤ after.calls.length
  calls : ∀ (number : Nat) next, after.calls[number]? = some next →
    before.calls[number]? = some next ∨ before.calls.length ≤ number ∧ next = .trying ∨
      ∃ call, before.calls[number]? = some call ∧ Becomes before number call action next

/-- No step of a call changes the bound. -/
theorem advance_waitTimeout {queue moved : Queue.AdmissionQueue} {now number : Nat}
    {call next : Call} (advanced : call.advance queue now number = some (moved, next)) :
    moved.waitTimeout = queue.waitTimeout := by
  cases call with
  | trying | enqueuing | slotted =>
    simp only [Call.advance] at advanced
    split at advanced <;> cases advanced <;> rfl
  | waiting deadline =>
    simp only [Call.advance] at advanced
    split at advanced
    · cases advanced
      rfl
    · cases advanced
      rfl
    · split at advanced
      · cases advanced
        rfl
      · cases advanced
  | admitted | leaving | releasing =>
    cases advanced
    rfl
  | permitted | ended => cases advanced

/-- A step that moves one call leaves the others. -/
theorem set_calls {before : Hall} {action : Queue.Action} {moved : Nat} {old new : Call}
    (present : before.calls[moved]? = some old) (becomes : Becomes before moved old action new)
    (number : Nat) (next : Call) (found : (before.calls.set moved new)[number]? = some next) :
    before.calls[number]? = some next ∨ before.calls.length ≤ number ∧ next = .trying ∨
      ∃ call, before.calls[number]? = some call ∧ Becomes before number call action next := by
  have bound : moved < before.calls.length := (List.getElem?_eq_some_iff.mp present).1
  by_cases same : moved = number
  · subst same
    rw [List.getElem?_set_self bound, Option.some.injEq] at found
    subst found
    exact .inr (.inr ⟨old, present, becomes⟩)
  · rw [List.getElem?_set_ne same] at found
    exact .inl found

/-- What one step does to the calls. -/
theorem step_onward {before after : Hall} {action : Queue.Action}
    (stepped : Hall.Step before action after) : Onward before action after := by
  cases action with
  | tick elapsed =>
    cases stepped
    exact ⟨Nat.le_add_right _ _, rfl, Nat.le_refl _, fun _ _ => .inl⟩
  | acquire =>
    cases stepped
    refine ⟨Nat.le_refl _, rfl, by simp, ?_⟩
    intro number next found
    rw [List.getElem?_append] at found
    split at found
    · exact .inl found
    · rename_i beyond
      exact .inr (.inl ⟨Nat.not_lt.mp beyond,
        List.mem_singleton.mp (List.mem_of_getElem? found)⟩)
  | proceed moved =>
    simp only [Hall.Step, Hall.perform] at stepped
    split at stepped
    · rename_i old present
      obtain ⟨⟨queue, new⟩, advanced, rfl⟩ := Option.map_eq_some_iff.mp stepped
      exact ⟨Nat.le_refl _, advance_waitTimeout advanced, by simp,
        set_calls present (.advanced advanced)⟩
    · cases stepped
  | cancel moved =>
    simp only [Hall.Step, Hall.perform] at stepped
    split at stepped
    · rename_i present
      cases stepped
      exact ⟨Nat.le_refl _, rfl, by simp, set_calls present (.cancelled rfl)⟩
    · cases stepped
  | drop moved =>
    simp only [Hall.Step, Hall.perform] at stepped
    split at stepped
    · rename_i present
      cases stepped
      exact ⟨Nat.le_refl _, rfl, by simp, set_calls present (.dropped rfl)⟩
    · cases stepped
  | closeConcurrency =>
    cases stepped
    exact ⟨Nat.le_refl _, rfl, Nat.le_refl _, fun _ _ => .inl⟩
  | closeSlots =>
    simp only [Hall.Step, Hall.perform] at stepped
    split at stepped
    · cases stepped
      exact ⟨Nat.le_refl _, rfl, Nat.le_refl _, fun _ _ => .inl⟩
    · cases stepped

/-- A call stays where it is, or the step is its own. -/
theorem Onward.kept {before after : Hall} {action : Queue.Action} {number : Nat} {call : Call}
    (onward : Onward before action after) (present : before.calls[number]? = some call) :
    ∃ next, after.calls[number]? = some next ∧
      (next = call ∨ Becomes before number call action next) := by
  have bound : number < before.calls.length := (List.getElem?_eq_some_iff.mp present).1
  have standing := List.getElem?_eq_getElem (Nat.lt_of_lt_of_le bound onward.grows)
  refine ⟨_, standing, ?_⟩
  rcases onward.calls number _ standing with kept | ⟨beyond, _⟩ | ⟨old, found, becomes⟩
  · rw [present, Option.some.injEq] at kept
    exact .inl kept.symm
  · exact absurd bound (Nat.not_lt.mpr beyond)
  · rw [present, Option.some.injEq] at found
    subst found
    exact .inr becomes

/-- A call that nobody waits for any more: it has its permit to drop, is on its way out or
is over. -/
def settling : Call → Bool
  | .permitted | .leaving _ | .releasing _ | .ended _ => true
  | _ => false

/-- A settling call settles. -/
theorem step_settling {before after : Hall} {action : Queue.Action} {call : Nat} {state : Call}
    (stepped : Hall.Step before action after) (present : before.calls[call]? = some state)
    (settles : settling state = true) :
    ∃ next, after.calls[call]? = some next ∧ settling next = true := by
  obtain ⟨next, standing, rfl | becomes⟩ := (step_onward stepped).kept present
  · exact ⟨_, standing, settles⟩
  · refine ⟨next, standing, ?_⟩
    cases becomes with
    | advanced advanced =>
      cases state with
      | leaving | releasing =>
        cases advanced
        rfl
      | permitted | ended => cases advanced
      | _ => cases settles
    | cancelled | dropped => rfl

/-- No step but `acquire` makes a call. -/
theorem step_calls {before after : Hall} {action : Queue.Action} (balanced : before.Balanced)
    (stepped : Hall.Step before action after) (unopened : action ≠ .acquire) :
    after.calls.length = before.calls.length := by
  cases Hall.step_turn balanced stepped with
  | arrived => exact absurd rfl unopened
  | moved => exact List.length_set
  | _ => rfl

/-- The slots that a request holds. -/
def Visit.slots (visit : Visit) : Nat := if visit.slot then 1 else 0

namespace Traffic

/-- The requests and what they hold. Every call on the queue is the call of one request; a
request that was admitted holds a permit, one that is over has nothing left but to drop it,
and a stream holds a slot. -/
structure Held (maxConcurrency maxQueue : Nat) (traffic : Traffic) : Prop where
  sized : traffic.hall.Sized maxConcurrency maxQueue
  known : ∀ (id : Nat) visit call, traffic.visits[id]? = some visit → visit.call = some call →
    call < traffic.hall.calls.length
  distinct : ∀ (id other : Nat) visit another call, traffic.visits[id]? = some visit →
    traffic.visits[other]? = some another → visit.call = some call →
      another.call = some call → id = other
  owned : ∀ call < traffic.hall.calls.length, ∃ (id : Nat) (visit : Visit),
    traffic.visits[id]? = some visit ∧ visit.call = some call
  outside : ∀ (id : Nat) visit, traffic.visits[id]? = some visit →
    visit.own.station.outside = true → visit.call = none
  inside : ∀ (id : Nat) visit, traffic.visits[id]? = some visit →
    visit.own.station.inside = true → ∃ call, visit.call = some call ∧
      traffic.hall.calls[call]? = some .permitted
  finished : ∀ (id : Nat) visit call, traffic.visits[id]? = some visit →
    visit.own.station.finished = true → visit.call = some call →
      ∃ state, traffic.hall.calls[call]? = some state ∧ settling state = true
  slots : Books Visit.slots (fun _ => none) (maxStreams maxConcurrency) traffic.streamSlots
    traffic.visits
  slotted : ∀ (id : Nat) visit, traffic.visits[id]? = some visit →
    visit.own.station.streams = true → visit.slot = true
  streamed : ∀ (id : Nat) visit, traffic.visits[id]? = some visit → visit.slot = true →
    visit.own.station.streams = true ∨ visit.own.station.finished = true

variable {house : House} {before after first last : Traffic} {label : TrafficAction}
  {trace : List (Runs.Transition Traffic TrafficAction)} {maxConcurrency maxQueue id : Nat}
  {visit replaced : Visit} {hall : Hall} {slots : Semaphore Nat}
  {action : HandlerAction}

/-- Nothing is held at the start. -/
theorem opened_held (shared : Shared) (maxConcurrency maxQueue waitTimeout : Nat)
    (log : Audit.Service AuditRecord) :
    Held maxConcurrency maxQueue (opened shared maxConcurrency maxQueue waitTimeout log) := by
  refine ⟨Hall.opened_sized _ _ _, ?_, ?_, ?_, ?_, ?_, ?_, Books.start, ?_, ?_⟩
  · intro id visit call present
    cases present
  · intro id other visit another call present
    cases present
  · intro call bound
    cases bound
  · intro id visit present
    cases present
  · intro id visit present
    cases present
  · intro id visit call present
    cases present
  · intro id visit present
    cases present
  · intro id visit present
    cases present

/-- The queue moves on without touching the permit of a request that is under way. -/
theorem Held.move {action : Queue.Action} (held : Held maxConcurrency maxQueue before)
    (stepped : Hall.Step before.hall action hall) (unopened : action ≠ .acquire)
    (kept : ∀ (id : Nat) visit call, before.visits[id]? = some visit →
      visit.own.station.inside = true → visit.call = some call → action ≠ .drop call) :
    Held maxConcurrency maxQueue { before with hall := hall } := by
  have length := step_calls held.sized.toBalanced stepped unopened
  refine ⟨Hall.step_sized held.sized stepped, ?_, held.distinct, ?_, held.outside, ?_, ?_,
    held.slots, held.slotted, held.streamed⟩
  · intro id visit call present called
    exact Nat.lt_of_lt_of_eq (held.known id visit call present called) length.symm
  · intro call bound
    exact held.owned call (Nat.lt_of_lt_of_eq bound length)
  · intro id visit present inside
    obtain ⟨call, called, permitted⟩ := held.inside id visit present inside
    exact ⟨call, called, Hall.step_permitted held.sized.toBalanced stepped
      (kept id visit call present inside called) permitted⟩
  · intro id visit call present finished called
    obtain ⟨state, standing, settles⟩ := held.finished id visit call present finished called
    exact step_settling stepped standing settles

/-- A request moves on with the call it has. -/
theorem Held.set (held : Held maxConcurrency maxQueue before)
    (present : before.visits[id]? = some visit) (replaced : Visit)
    (visits : after.visits = before.visits.set id replaced) (halls : after.hall = before.hall)
    (same : replaced.call = visit.call)
    (outside : replaced.own.station.outside = true → replaced.call = none)
    (inside : replaced.own.station.inside = true → ∃ call, replaced.call = some call ∧
      before.hall.calls[call]? = some .permitted)
    (finished : replaced.own.station.finished = true → ∀ call, replaced.call = some call →
      ∃ state, before.hall.calls[call]? = some state ∧ settling state = true)
    (books : Books Visit.slots (fun _ => none) (maxStreams maxConcurrency) after.streamSlots
      after.visits)
    (slotted : replaced.own.station.streams = true → replaced.slot = true)
    (streamed : replaced.slot = true →
      replaced.own.station.streams = true ∨ replaced.own.station.finished = true) :
    Held maxConcurrency maxQueue after := by
  have seen {other : Nat} {found : Visit} (there : after.visits[other]? = some found) :
      other = id ∧ found = replaced ∨ other ≠ id ∧ before.visits[other]? = some found :=
    visits_known present (visits ▸ there)
  -- A request has the call that it had.
  have earlier {other : Nat} {found : Visit} (there : after.visits[other]? = some found) :
      ∃ old, before.visits[other]? = some old ∧ old.call = found.call := by
    rcases seen there with ⟨rfl, rfl⟩ | ⟨_, kept⟩
    · exact ⟨visit, present, same.symm⟩
    · exact ⟨found, kept, rfl⟩
  constructor
  · rw [halls]
    exact held.sized
  · intro other found call there called
    obtain ⟨old, was, equal⟩ := earlier there
    rw [halls]
    exact held.known other old call was (equal.trans called)
  · intro one two found another call thereOne thereTwo calledOne calledTwo
    obtain ⟨oldOne, wasOne, equalOne⟩ := earlier thereOne
    obtain ⟨oldTwo, wasTwo, equalTwo⟩ := earlier thereTwo
    exact held.distinct one two oldOne oldTwo call wasOne wasTwo (equalOne.trans calledOne)
      (equalTwo.trans calledTwo)
  · rw [halls]
    intro call bound
    obtain ⟨owner, old, was, called⟩ := held.owned call bound
    by_cases moved : owner = id
    · subst moved
      rw [present, Option.some.injEq] at was
      subst was
      refine ⟨owner, replaced, ?_, same.trans called⟩
      rw [visits, visits_set present, if_pos rfl]
    · refine ⟨owner, old, ?_, called⟩
      rw [visits, visits_set present, if_neg (Ne.symm moved)]
      exact was
  · intro other found there stands
    rcases seen there with ⟨_, rfl⟩ | ⟨_, kept⟩
    · exact outside stands
    · exact held.outside other found kept stands
  · rw [halls]
    intro other found there stands
    rcases seen there with ⟨_, rfl⟩ | ⟨_, kept⟩
    · exact inside stands
    · exact held.inside other found kept stands
  · rw [halls]
    intro other found call there stands called
    rcases seen there with ⟨_, rfl⟩ | ⟨_, kept⟩
    · exact finished stands call called
    · exact held.finished other found call kept stands called
  · exact books
  · intro other found there stands
    rcases seen there with ⟨_, rfl⟩ | ⟨_, kept⟩
    · exact slotted stands
    · exact held.slotted other found kept stands
  · intro other found there holds
    rcases seen there with ⟨_, rfl⟩ | ⟨_, kept⟩
    · exact streamed holds
    · exact held.streamed other found kept holds

/-- Nothing that the requests hold is touched. -/
theorem Held.beside (held : Held maxConcurrency maxQueue before)
    (halls : after.hall = before.hall) (slots : after.streamSlots = before.streamSlots)
    (visits : after.visits = before.visits) : Held maxConcurrency maxQueue after := by
  obtain ⟨sized, known, distinct, owned, outside, inside, finished, books, slotted, streamed⟩ :=
    held
  rw [← halls] at sized known owned inside finished
  rw [← visits] at known distinct owned outside inside finished books slotted streamed
  rw [← slots] at books
  exact ⟨sized, known, distinct, owned, outside, inside, finished, books, slotted, streamed⟩

/-- The queue after the step of a handler. -/
structure Entered (visit : Visit) (action : HandlerAction) (hall : Hall) : Prop where
  permitted : action = .admission (.ok ()) → ∃ call, visit.call = some call ∧
    hall.calls[call]? = some .permitted
  refused : ∀ error, action = .admission (.error error) → ∀ call, visit.call = some call →
    ∃ state, hall.calls[call]? = some state ∧ settling state = true
  left : action = .cancel → visit.own.station = .arriving .queued → ∀ call,
    visit.call = some call → ∃ state, hall.calls[call]? = some state ∧ settling state = true

/-- The queue after a step of a handler. -/
theorem hallAfter_held (held : Held maxConcurrency maxQueue before)
    (halls : before.hallAfter visit action = some hall) :
    Held maxConcurrency maxQueue { before with hall := hall } ∧ Entered visit action hall := by
  have still (same : hall = before.hall) :
      Held maxConcurrency maxQueue { before with hall := hall } := held.beside same rfl rfl
  cases action with
  | admission result =>
    cases result with
    | ok entered =>
      simp only [hallAfter] at halls
      split at halls
      · rename_i found
        cases halls
        obtain ⟨call, called, permitted⟩ := Option.bind_eq_some_iff.mp found
        refine ⟨still rfl, fun _ => ⟨call, called, permitted⟩, ?_,
          fun left => HandlerAction.noConfusion left⟩
        intro error refused
        cases refused
      · cases halls
    | error error =>
      simp only [hallAfter] at halls
      split at halls
      · rename_i reason found
        obtain ⟨call, called, ended⟩ := Option.bind_eq_some_iff.mp found
        split at halls
        · cases halls
          refine ⟨still rfl, ?_, ?_, fun left => HandlerAction.noConfusion left⟩
          · intro admitted
            cases admitted
          · intro _ _ mine holds
            rw [called, Option.some.injEq] at holds
            subst holds
            exact ⟨_, ended, rfl⟩
        · cases halls
      · cases halls
  | cancel =>
    refine ⟨?_, fun admitted => HandlerAction.noConfusion admitted,
      fun _ refused => HandlerAction.noConfusion refused, ?_⟩
    · simp only [hallAfter] at halls
      split at halls
      · obtain ⟨call, called, cancelled⟩ := Option.bind_eq_some_iff.mp halls
        exact held.move cancelled Queue.Action.noConfusion fun _ _ _ _ _ _ =>
          Queue.Action.noConfusion
      · cases halls
        exact still rfl
    · intro _ queued call called
      simp only [hallAfter, queued, called, Option.bind_some, Hall.perform] at halls
      split at halls
      · rename_i found
        cases halls
        have bound : call < before.hall.calls.length := (List.getElem?_eq_some_iff.mp found).1
        exact ⟨_, List.getElem?_set_self bound, rfl⟩
      · cases halls
  | other | update | updateWithKeys | setWall => cases halls
  | _ =>
    cases halls
    exact ⟨still rfl, fun admitted => HandlerAction.noConfusion admitted,
      fun _ refused => HandlerAction.noConfusion refused,
      fun left => HandlerAction.noConfusion left⟩

/-- A slot is taken exactly for a stream. -/
theorem slotsAfter_cases {next : Handling} {taken : Bool}
    (slotted : before.slotsAfter next action = some (slots, taken)) :
    slots = before.streamSlots ∧ taken = false ∧
        (action = .finalize true → next.station.streams = false) ∨
      taken = true ∧ next.station.streams = true ∧
        before.streamSlots.tryAcquire 1 = .ok slots := by
  cases action with
  | finalize slotFree =>
    simp only [slotsAfter] at slotted
    split at slotted
    · rename_i acquired found
      cases slotFree with
      | false => cases slotted
      | true =>
        cases streams : next.station.streams with
        | true =>
          simp only [streams, if_true] at slotted
          cases slotted
          exact .inr ⟨rfl, rfl, found⟩
        | false =>
          simp only [streams, if_true] at slotted
          cases slotted
          exact .inl ⟨rfl, rfl, fun _ => rfl⟩
    · cases slotFree with
      | false =>
        cases slotted
        refine .inl ⟨rfl, rfl, ?_⟩
        intro same
        cases same
      | true => cases slotted
  | _ =>
    cases slotted
    exact .inl ⟨rfl, rfl, fun same => HandlerAction.noConfusion same⟩

/-- A handler's step keeps what the requests hold in order. -/
theorem visited_held {next : Handling} {taken : Bool}
    (held : Held maxConcurrency maxQueue before) (present : before.visits[id]? = some visit)
    (halls : before.hallAfter visit action = some hall)
    (passes : Passes action visit.own.station next.station)
    (slotted : before.slotsAfter next action = some (slots, taken)) :
    Held maxConcurrency maxQueue (before.visited id visit action next hall slots taken) := by
  obtain ⟨entered, gate⟩ := hallAfter_held held halls
  have gates := passes.gates
  have took := slotsAfter_cases slotted
  -- A slot is taken only by a request that has none.
  have unslotted (streams : next.station.streams = true) : visit.slot = false := by
    cases holds : visit.slot with
    | false => rfl
    | true =>
      rcases held.streamed id visit present holds with streaming | finished
      · rw [(Station.finished_alone (gates.ends streaming)).2] at streams
        cases streams
      · rw [gates.begun] at finished
        cases finished
  refine entered.set present
    { visit with
      own := next
      tracker := before.trackerAfter visit action
      slot := visit.slot || taken } rfl rfl rfl ?_ ?_ ?_ ?_ ?_ ?_
  · intro stands
    exact held.outside id visit present (gates.outside stands)
  · intro stands
    rcases gates.inside stands with inside | admitted
    · exact entered.inside id visit present inside
    · exact gate.permitted admitted
  · intro stands call called
    rcases gates.finished stands with outside | inside | ⟨error, refused⟩ | ⟨left, queued⟩
    · rw [held.outside id visit present outside] at called
      cases called
    · obtain ⟨mine, holds, permitted⟩ := entered.inside id visit present inside
      rw [called, Option.some.injEq] at holds
      subst holds
      exact ⟨_, permitted, rfl⟩
    · exact gate.refused error refused call called
    · exact gate.left left queued call called
  · rcases took with ⟨same, none, _⟩ | ⟨one, streams, acquired⟩
    · subst same none
      refine held.slots.move present (held.slots.keep present ?_ (.inl rfl))
      simp only [Visit.slots, Bool.or_false]
    · subst one
      obtain ⟨unheld, line, _⟩ := Semaphore.tryAcquire_ok acquired
      refine held.slots.move present (held.slots.take present unheld line ?_ rfl)
      simp only [Visit.slots, Bool.or_true, unslotted streams]
      rfl
  · intro streams
    rcases took with ⟨_, _, unslotted⟩ | ⟨one, _, _⟩
    · rw [unslotted (gates.streams streams)] at streams
      cases streams
    · dsimp only
      rw [one, Bool.or_true]
  · intro holds
    rcases took with ⟨_, none, _⟩ | ⟨_, streams, _⟩
    · dsimp only at holds
      rw [none, Bool.or_false] at holds
      rcases held.streamed id visit present holds with streaming | finished
      · exact .inr (gates.ends streaming)
      · rw [gates.begun] at finished
        cases finished
    · exact .inl streams

/-- A request that comes to the queue has a new call. -/
theorem acquired_held (held : Held maxConcurrency maxQueue before)
    (present : before.visits[id]? = some visit)
    (queued : visit.own.station = .arriving .queued) (uncalled : visit.call = none) :
    Held maxConcurrency maxQueue { before with
      hall := { before.hall with calls := before.hall.calls ++ [.trying] }
      visits := before.visits.set id { visit with call := some before.hall.calls.length } } := by
  have stepped : Hall.Step before.hall .acquire
      { before.hall with calls := before.hall.calls ++ [.trying] } := rfl
  have still {call : Nat} {state : Call} (standing : before.hall.calls[call]? = some state) :
      (before.hall.calls ++ [.trying])[call]? = some state := by
    have bound : call < before.hall.calls.length := (List.getElem?_eq_some_iff.mp standing).1
    exact (List.getElem?_append_left bound).trans standing
  have old {other call : Nat} {found : Visit} (seen : before.visits[other]? = some found)
      (called : found.call = some call) : call < before.hall.calls.length :=
    held.known other found call seen called
  constructor
  · exact Hall.step_sized held.sized stepped
  · intro other found call seen called
    rw [List.length_append, List.length_singleton]
    rcases visits_known present seen with ⟨_, rfl⟩ | ⟨_, kept⟩
    · cases called
      exact Nat.lt_succ_self _
    · exact Nat.lt_succ_of_lt (old kept called)
  · intro one two found another call seenOne seenTwo calledOne calledTwo
    rcases visits_known present seenOne with ⟨rfl, rfl⟩ | ⟨_, keptOne⟩
    · rcases visits_known present seenTwo with ⟨rfl, _⟩ | ⟨_, keptTwo⟩
      · rfl
      · cases calledOne
        exact absurd (old keptTwo calledTwo) (Nat.lt_irrefl _)
    · rcases visits_known present seenTwo with ⟨_, rfl⟩ | ⟨_, keptTwo⟩
      · cases calledTwo
        exact absurd (old keptOne calledOne) (Nat.lt_irrefl _)
      · exact held.distinct one two found another call keptOne keptTwo calledOne calledTwo
  · intro call bound
    rw [List.length_append, List.length_singleton] at bound
    rcases Nat.lt_succ_iff_lt_or_eq.mp bound with earlier | rfl
    · obtain ⟨owner, found, seen, called⟩ := held.owned call earlier
      have apart : id ≠ owner := by
        rintro rfl
        rw [present, Option.some.injEq] at seen
        rw [← seen, uncalled] at called
        cases called
      exact ⟨owner, found, (List.getElem?_set_ne apart).trans seen, called⟩
    · refine ⟨id, { visit with call := some before.hall.calls.length }, ?_, rfl⟩
      rw [visits_set present, if_pos rfl]
  · intro other found seen stands
    rcases visits_known present seen with ⟨_, rfl⟩ | ⟨_, kept⟩
    · rw [queued] at stands
      cases stands
    · exact held.outside other found kept stands
  · intro other found seen stands
    rcases visits_known present seen with ⟨_, rfl⟩ | ⟨_, kept⟩
    · rw [queued] at stands
      cases stands
    · obtain ⟨call, called, permitted⟩ := held.inside other found kept stands
      exact ⟨call, called, still permitted⟩
  · intro other found call seen stands called
    rcases visits_known present seen with ⟨_, rfl⟩ | ⟨_, kept⟩
    · rw [queued] at stands
      cases stands
    · obtain ⟨state, standing, settles⟩ := held.finished other found call kept stands called
      exact ⟨state, still standing, settles⟩
  · exact held.slots.move present (held.slots.keep present rfl (.inl rfl))
  · intro other found seen streams
    rcases visits_known present seen with ⟨_, rfl⟩ | ⟨_, kept⟩
    · exact held.slotted id visit present streams
    · exact held.slotted other found kept streams
  · intro other found seen holds
    rcases visits_known present seen with ⟨_, rfl⟩ | ⟨_, kept⟩
    · exact held.streamed id visit present holds
    · exact held.streamed other found kept holds

/-- Every step keeps the holdings. -/
theorem step_held (stepped : Step house before label after)
    (held : Held maxConcurrency maxQueue before) : Held maxConcurrency maxQueue after := by
  cases step_turn stepped with
  | @ticked elapsed shared shares =>
    have ticks : Hall.Step before.hall (.tick elapsed)
        { before.hall with clock := before.hall.clock + elapsed } := rfl
    have moved := held.move ticks Queue.Action.noConfusion fun _ _ _ _ _ _ =>
      Queue.Action.noConfusion
    exact moved.beside rfl rfl rfl
  | shared | aside | logged => exact held.beside rfl rfl rfl
  | queued taken undropped unopened =>
    exact held.move taken unopened fun _ _ call _ _ _ => undropped call
  | @unpermitted id call visit hall present finished free called dropped =>
    refine held.move dropped Queue.Action.noConfusion ?_
    intro other found mine seen inside holds same
    cases same
    have equal := held.distinct other id found visit call seen present holds called
    subst equal
    rw [present, Option.some.injEq] at seen
    subst seen
    rw [(Station.finished_alone finished).1] at inside
    cases inside
  | @unslotted id visit present finished holds =>
    refine held.set present { visit with slot := false } rfl rfl rfl ?_ ?_ ?_ ?_ ?_ ?_
    · exact held.outside id visit present
    · exact held.inside id visit present
    · exact fun stands call called => held.finished id visit call present stands called
    · refine held.slots.move present (held.slots.give present ?_ rfl)
      simp only [Visit.slots, holds]
      rfl
    · intro streams
      rw [(Station.finished_alone finished).2] at streams
      cases streams
    · intro holds
      cases holds
  | @visited id visit action next hall slots taken present halls steps slotted =>
    have own := hallAfter_own halls
    obtain ⟨passes, _, _⟩ := Handler.own_passes steps own
    exact visited_held held present halls passes slotted
  | arrived headers api generatedId guest =>
    constructor
    · exact held.sized
    · intro other found call seen called
      rcases arrived_known seen with earlier | rfl
      · exact held.known other found call earlier called
      · cases called
    · intro one two found another call seenOne seenTwo calledOne calledTwo
      rcases arrived_known seenOne with earlierOne | rfl
      · rcases arrived_known seenTwo with earlierTwo | rfl
        · exact held.distinct one two found another call earlierOne earlierTwo calledOne calledTwo
        · cases calledTwo
      · cases calledOne
    · intro call bound
      obtain ⟨owner, found, seen, called⟩ := held.owned call bound
      have there : owner < before.visits.length := (List.getElem?_eq_some_iff.mp seen).1
      exact ⟨owner, found, (List.getElem?_append_left there).trans seen, called⟩
    · intro other found seen stands
      rcases arrived_known seen with earlier | rfl
      · exact held.outside other found earlier stands
      · rfl
    · intro other found seen stands
      rcases arrived_known seen with earlier | rfl
      · exact held.inside other found earlier stands
      · cases stands
    · intro other found call seen stands called
      rcases arrived_known seen with earlier | rfl
      · exact held.finished other found call earlier stands called
      · cases called
    · exact held.slots.arrive rfl
    · intro other found seen streams
      rcases arrived_known seen with earlier | rfl
      · exact held.slotted other found earlier streams
      · cases streams
    · intro other found seen holds
      rcases arrived_known seen with earlier | rfl
      · exact held.streamed other found earlier holds
      · cases holds
  | @acquired id visit present queued uncalled => exact acquired_held held present queued uncalled

/-- So does every run. -/
theorem run_held (run : Runs.Run (Step house) first trace last)
    (held : Held maxConcurrency maxQueue first) : Held maxConcurrency maxQueue last :=
  run.invariant _ held fun _ _ _ => step_held

/-! ## The bounds -/

/-- The request has a place in the queue. -/
def places (traffic : Traffic) (visit : Visit) : Bool :=
  match visit.call.bind fun call => traffic.hall.calls[call]? with
  | some call => call.slots ≠ 0
  | none => false

/-- What some of the requests hold through their calls is no more than what the calls hold. -/
theorem Held.counted (held : Held maxConcurrency maxQueue last) {counts : Visit → Bool}
    {weight : Call → Nat}
    (each : ∀ (id : Nat) visit, last.visits[id]? = some visit → counts visit = true →
      ∃ call state, visit.call = some call ∧ last.hall.calls[call]? = some state ∧
        1 ≤ weight state) : last.visits.countP counts ≤ total weight last.hall.calls := by
  rw [← Semaphores.total_count]
  refine Semaphores.total_placed Visit.call ?_ (List.pairwise_iff_getElem.mpr ?_)
  · intro visit member holds
    obtain ⟨id, present⟩ := List.mem_iff_getElem?.mp member
    have counted : counts visit = true := by
      by_contra uncounted
      exact holds (if_neg uncounted)
    obtain ⟨call, state, called, standing, heavy⟩ := each id visit present counted
    refine ⟨call, state, called, standing, ?_⟩
    rw [if_pos counted]
    exact heavy
  · intro one two boundOne boundTwo less call calledOne calledTwo
    have same := held.distinct one two _ _ call (List.getElem?_eq_getElem boundOne)
      (List.getElem?_eq_getElem boundTwo) calledOne calledTwo
    omega

/-- In every state of every interleaving the requests under way are at most
`max_concurrency`, those in the queue at most `max_queue`, and the streams of events at most a
quarter of `max_concurrency`, or one.

Proof: every request stands at a call or a slot of its own, and these are bounded. -/
theorem requests_bounded {shared : Shared} {waitTimeout : Nat} {log : Audit.Service AuditRecord}
    (run : Runs.Run (Step house) (opened shared maxConcurrency maxQueue waitTimeout log) trace
      last) :
    (last.visits.countP fun visit => visit.own.station.inside) ≤ maxConcurrency ∧
      last.visits.countP last.places ≤ maxQueue ∧
      (last.visits.countP fun visit => visit.own.station.streams) ≤
        maxStreams maxConcurrency := by
  have held := run_held run (opened_held _ _ _ _ _)
  have bounded := held.sized.bounded
  refine ⟨Nat.le_trans (held.counted ?_) bounded.alive,
    Nat.le_trans (held.counted ?_) bounded.queued, ?_⟩
  · intro id visit present inside
    obtain ⟨call, called, permitted⟩ := held.inside id visit present inside
    exact ⟨call, _, called, permitted, Nat.le_refl _⟩
  · intro id visit present placed
    unfold places at placed
    split at placed
    · rename_i state found
      obtain ⟨call, called, standing⟩ := Option.bind_eq_some_iff.mp found
      exact ⟨call, state, called, standing, Nat.pos_of_ne_zero (of_decide_eq_true placed)⟩
    · cases placed
  · refine Nat.le_trans ?_ held.slots.held_le
    rw [← Semaphores.total_count]
    refine Semaphores.total_le ?_
    intro visit member
    obtain ⟨id, present⟩ := List.mem_iff_getElem?.mp member
    split
    · rename_i streams
      rw [Visit.slots, held.slotted id visit present streams]
      exact Nat.le_refl _
    · exact Nat.zero_le _

/-- One request streams. -/
theorem requests_bounded_streaming :
    let last := Runs.reached (perform sampleHouse) sampleTraffic (sampleDay.take 19)
    (last.visits.countP fun visit => visit.own.station.streams) = 1 ∧
      (last.visits.countP fun visit => visit.own.station.inside) ≤ 4 ∧
      last.visits.countP last.places ≤ 1 ∧
      (last.visits.countP fun visit => visit.own.station.streams) ≤ maxStreams 4 := by
  have enabled : (Runs.record (perform sampleHouse) sampleTraffic (sampleDay.take 19)).isSome := by
    decide +kernel
  have run : Runs.Run (Step sampleHouse) sampleTraffic
      (Runs.steps (perform sampleHouse) sampleTraffic (sampleDay.take 19))
      (Runs.reached (perform sampleHouse) sampleTraffic (sampleDay.take 19)) :=
    Runs.replay_run enabled
  exact ⟨by decide +kernel, requests_bounded run⟩

/-! ## What is held comes back -/

/-- The steps that drop what requests that are over have left behind. -/
def clears : TrafficAction → Bool
  | .dropSlot _ | .dropPermit _ | .queue (.proceed _) => true
  | _ => false

/-- How far a call is from its end. -/
def remaining : Call → Nat
  | .permitted | .releasing _ => 1
  | .leaving _ => 2
  | _ => 0

/-- What is left to drop. -/
def leftovers (traffic : Traffic) : Nat :=
  total remaining traffic.hall.calls + total Visit.slots traffic.visits

/-- Every request is over. -/
structure Done (maxConcurrency maxQueue : Nat) (traffic : Traffic) : Prop
    extends Held maxConcurrency maxQueue traffic where
  all : ∀ (id : Nat) visit, traffic.visits[id]? = some visit → visit.own.station.finished = true

/-- With all requests done every call settles. -/
theorem Done.settles (done : Done maxConcurrency maxQueue last) {call : Nat} {state : Call}
    (standing : last.hall.calls[call]? = some state) : settling state = true := by
  have bound : call < last.hall.calls.length := (List.getElem?_eq_some_iff.mp standing).1
  obtain ⟨id, visit, present, called⟩ := done.owned call bound
  obtain ⟨known, found, settles⟩ := done.finished id visit call present (done.all id visit present)
    called
  rw [standing, Option.some.injEq] at found
  rw [found]
  exact settles

/-- A request that is over drops its slot. -/
theorem Done.dropSlot (done : Done maxConcurrency maxQueue last)
    (present : last.visits[id]? = some visit) (holds : visit.slot = true) :
    ∃ label next, Step house last label next ∧ clears label = true ∧
      Done maxConcurrency maxQueue next ∧ next.leftovers < last.leftovers := by
  have finished := done.all id visit present
  let next : Traffic := { last with
    streamSlots := last.streamSlots.release 1
    visits := last.visits.set id { visit with slot := false } }
  have stepped : Step house last (.dropSlot id) next := by
    simp [Step, perform, present, finished, holds, next]
  refine ⟨.dropSlot id, next, stepped, rfl, ⟨step_held stepped done.toHeld, ?_⟩, ?_⟩
  · intro other found seen
    rcases visits_known present seen with ⟨_, rfl⟩ | ⟨_, kept⟩
    · exact finished
    · exact done.all other found kept
  · have moved : total Visit.slots next.visits + visit.slots =
        total Visit.slots last.visits + Visit.slots { visit with slot := false } :=
      Semaphores.total_set present _
    have one : visit.slots = 1 := by
      rw [Visit.slots, holds]
      rfl
    have none : Visit.slots { visit with slot := false } = 0 := rfl
    have halls : next.hall = last.hall := rfl
    unfold leftovers
    rw [halls]
    omega

/-- A call that has something left to drop drops it. -/
theorem Done.dropCall (done : Done maxConcurrency maxQueue last)
    (unslotted : ∀ (id : Nat) visit, last.visits[id]? = some visit → visit.slot = false)
    {call : Nat} {state : Call} (standing : last.hall.calls[call]? = some state)
    (left : remaining state ≠ 0) :
    ∃ label next, Step house last label next ∧ clears label = true ∧
      Done maxConcurrency maxQueue next ∧ next.leftovers < last.leftovers := by
  have bound : call < last.hall.calls.length := (List.getElem?_eq_some_iff.mp standing).1
  have settles := done.settles standing
  have finish {label : TrafficAction} {queue : Queue.AdmissionQueue} {ending : Call}
      (stepped : Step house last label
        { last with hall := { last.hall with
            queue := queue
            calls := last.hall.calls.set call ending } })
      (allowed : clears label = true) (less : remaining ending < remaining state) :
      ∃ label next, Step house last label next ∧ clears label = true ∧
        Done maxConcurrency maxQueue next ∧ next.leftovers < last.leftovers := by
    refine ⟨label, _, stepped, allowed, ⟨step_held stepped done.toHeld, done.all⟩, ?_⟩
    have moved : total remaining (last.hall.calls.set call ending) + remaining state =
        total remaining last.hall.calls + remaining ending := Semaphores.total_set standing _
    unfold leftovers
    dsimp only
    omega
  cases state with
  | permitted =>
    obtain ⟨id, visit, present, called⟩ := done.owned call bound
    have stepped : Step house last (.dropPermit id)
        { last with hall := { last.hall with
            queue := { last.hall.queue with
              concurrency := last.hall.queue.concurrency.release 1 }
            calls := last.hall.calls.set call (.ended .dropped) } } := by
      simp [Step, perform, present, done.all id visit present, unslotted id visit present, called,
        Hall.perform, standing]
    exact finish stepped rfl Nat.one_pos
  | leaving ending =>
    have stepped : Step house last (.queue (.proceed call))
        { last with hall := { last.hall with
            queue := { last.hall.queue with
              concurrency := last.hall.queue.concurrency.abandon call }
            calls := last.hall.calls.set call (.releasing ending) } } := by
      simp [Step, perform, Hall.perform, standing, Call.advance]
    exact finish stepped rfl Nat.one_lt_two
  | releasing ending =>
    have stepped : Step house last (.queue (.proceed call))
        { last with hall := { last.hall with
            queue := { last.hall.queue with
              queueSlots := last.hall.queue.queueSlots.release 1 }
            calls := last.hall.calls.set call (.ended ending) } } := by
      simp [Step, perform, Hall.perform, standing, Call.advance]
    exact finish stepped rfl Nat.one_pos
  | ended ending => exact absurd rfl left
  | _ => cases settles

/-- With nothing left to drop everything is free. -/
theorem Done.free (done : Done maxConcurrency maxQueue last)
    (unslotted : ∀ (id : Nat) visit, last.visits[id]? = some visit → visit.slot = false)
    (ended : ∀ (call : Nat) state, last.hall.calls[call]? = some state → remaining state = 0) :
    last.hall.queue.concurrency.available = maxConcurrency ∧
      last.hall.queue.queueSlots.available = maxQueue ∧
      last.streamSlots.available = maxStreams maxConcurrency := by
  have finished (state : Call) (member : state ∈ last.hall.calls) :
      ∃ ending, state = .ended ending := by
    obtain ⟨call, standing⟩ := List.mem_iff_getElem?.mp member
    have settles := done.settles standing
    have nothing := ended call state standing
    cases state with
    | ended ending => exact ⟨ending, rfl⟩
    | permitted | leaving | releasing => cases nothing
    | _ => cases settles
  refine ⟨?_, ?_, ?_⟩
  · rw [← done.sized.maxConcurrency]
    refine done.sized.permits.idle ?_
    intro state member
    obtain ⟨ending, rfl⟩ := finished state member
    exact ⟨rfl, rfl⟩
  · rw [← done.sized.maxQueue]
    refine done.sized.slots.idle ?_
    intro state member
    obtain ⟨ending, rfl⟩ := finished state member
    exact ⟨rfl, rfl⟩
  · refine done.slots.idle ?_
    intro visit member
    obtain ⟨id, present⟩ := List.mem_iff_getElem?.mp member
    refine ⟨?_, rfl⟩
    rw [Visit.slots, unslotted id visit present]
    rfl

/-- No permit is lost, however requests end: from every reachable state in which all requests
are over, the drops that they have left behind bring back every permit, every place in the
queue and every slot.

Proof: each drop lowers what is left over, and with nothing left all is free. -/
theorem permits_return {shared : Shared} {waitTimeout : Nat} {log : Audit.Service AuditRecord}
    (run : Runs.Run (Step house) (opened shared maxConcurrency maxQueue waitTimeout log) trace
      last)
    (finished : ∀ visit ∈ last.visits, visit.own.station.finished = true) :
    Runs.Reaches (Step house) (clears · = true)
      (fun final => final.hall.queue.concurrency.available = maxConcurrency ∧
        final.hall.queue.queueSlots.available = maxQueue ∧
        final.streamSlots.available = maxStreams maxConcurrency) last := by
  have done : Done maxConcurrency maxQueue last :=
    ⟨run_held run (opened_held _ _ _ _ _), fun _ visit present =>
      finished visit (List.mem_of_getElem? present)⟩
  refine Runs.Reaches.descend (Done maxConcurrency maxQueue) leftovers ?_ done
  intro current done
  by_cases slotted : ∃ (id : Nat) (visit : Visit),
      current.visits[id]? = some visit ∧ visit.slot = true
  · obtain ⟨id, visit, present, holds⟩ := slotted
    exact .inr (done.dropSlot present holds)
  · have unslotted (id : Nat) (visit : Visit) (present : current.visits[id]? = some visit) :
        visit.slot = false :=
      Bool.eq_false_iff.mpr fun holds => slotted ⟨id, visit, present, holds⟩
    by_cases left : ∃ (call : Nat) (state : Call),
        current.hall.calls[call]? = some state ∧ remaining state ≠ 0
    · obtain ⟨call, state, standing, left⟩ := left
      exact .inr (done.dropCall unslotted standing left)
    · refine .inl (done.free unslotted ?_)
      intro call state standing
      by_contra more
      exact left ⟨call, state, standing, more⟩

/-- The stream has ended. -/
theorem permits_return_streamed :
    let last := Runs.reached (perform sampleHouse) sampleTraffic (sampleDay.take 21)
    last.streamSlots.available = 0 ∧ last.hall.queue.concurrency.available = 3 ∧
      Runs.Reaches (Step sampleHouse) (clears · = true)
        (fun final => final.hall.queue.concurrency.available = 4 ∧
          final.hall.queue.queueSlots.available = 1 ∧
          final.streamSlots.available = maxStreams 4) last := by
  have enabled : (Runs.record (perform sampleHouse) sampleTraffic (sampleDay.take 21)).isSome := by
    decide +kernel
  have run : Runs.Run (Step sampleHouse) sampleTraffic
      (Runs.steps (perform sampleHouse) sampleTraffic (sampleDay.take 21))
      (Runs.reached (perform sampleHouse) sampleTraffic (sampleDay.take 21)) :=
    Runs.replay_run enabled
  have finished :
      ∀ visit ∈ (Runs.reached (perform sampleHouse) sampleTraffic (sampleDay.take 21)).visits,
        visit.own.station.finished = true := by decide +kernel
  exact ⟨by decide +kernel, by decide +kernel, permits_return run finished⟩

end Traffic

end Orihsus.Gateway
