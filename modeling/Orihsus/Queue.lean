import Orihsus.Runs
import Orihsus.Semaphore

/-!
# The admission queue

`AdmissionQueue` of `src/queue.rs`: one semaphore for the requests in flight and one for
the places in the queue. A call of `acquire` tries the first, takes a place from the
second and waits on the first under a timeout. Each use of a semaphore is a step of its
own, and so is each drop, so any number of calls, grants, timeouts, cancellations, drops
of permits and calls of `close` can fall between any two steps of a call.

A call can be cancelled only where it waits. What a call that is over still has to drop,
its acquire and then its place, is dropped in two further steps.
-/

namespace Orihsus.Queue

open Semaphores (Books Polled Semaphore Shift TryAcquireError total)

inductive AdmissionError where
  | full
  | timeout
  | closed
  deriving DecidableEq, Repr

structure AdmissionQueue where
  concurrency : Semaphore Nat
  queueSlots : Semaphore Nat
  maxConcurrency : Nat
  maxQueue : Nat
  waitTimeout : Nat
  deriving DecidableEq, Repr

/-- `AdmissionQueue::new`. -/
def AdmissionQueue.new (maxConcurrency maxQueue waitTimeout : Nat) : AdmissionQueue where
  concurrency := .new maxConcurrency
  queueSlots := .new maxQueue
  maxConcurrency := maxConcurrency
  maxQueue := maxQueue
  waitTimeout := waitTimeout

structure QueueSnapshot where
  active : Nat
  queued : Nat
  maxConcurrency : Nat
  maxQueue : Nat
  waitTimeout : Nat
  deriving DecidableEq, Repr

/-- `AdmissionQueue::snapshot`. -/
def AdmissionQueue.snapshot (queue : AdmissionQueue) : QueueSnapshot where
  active := queue.maxConcurrency - queue.concurrency.available
  queued := queue.maxQueue - queue.queueSlots.available
  maxConcurrency := queue.maxConcurrency
  maxQueue := queue.maxQueue
  waitTimeout := queue.waitTimeout

/-- How a call, or the permit it yielded, came to its end. -/
inductive Ending where
  | refused (error : AdmissionError)
  | cancelled
  | dropped
  deriving DecidableEq, Repr

/-- Where a call of `acquire` stands. `slotted` has a place and is about to wait,
`admitted` has the permit and is about to drop its place, `leaving` still has its acquire
and its place to drop, `releasing` its place. A permit is alive in `permitted`. -/
inductive Call where
  | trying
  | enqueuing
  | slotted
  | waiting (deadline : Nat)
  | admitted
  | leaving (ending : Ending)
  | releasing (ending : Ending)
  | permitted
  | ended (ending : Ending)
  deriving DecidableEq, Repr

namespace Call

/-- The permits that a call holds. -/
def permits : Call → Nat
  | .admitted | .permitted => 1
  | _ => 0

/-- The places in the queue that a call holds. -/
def slots : Call → Nat
  | .slotted | .waiting _ | .admitted | .leaving _ | .releasing _ => 1
  | _ => 0

/-- The permits that a call has an acquire in line for. -/
def asked : Call → Option Nat
  | .waiting _ | .leaving _ => some 1
  | _ => none

/-- The next step of a call of its own. A waiting call is polled: the acquire first, and
the deadline only if that is pending. -/
def advance (queue : AdmissionQueue) (now : Nat) (id : Nat) :
    Call → Option (AdmissionQueue × Call)
  | .trying =>
      match queue.concurrency.tryAcquire 1 with
      | .ok concurrency => some ({ queue with concurrency := concurrency }, .permitted)
      | .error .noPermits => some (queue, .enqueuing)
      | .error .closed => some (queue, .ended (.refused .closed))
  | .enqueuing =>
      match queue.queueSlots.tryAcquire 1 with
      | .ok queueSlots => some ({ queue with queueSlots := queueSlots }, .slotted)
      | .error .noPermits => some (queue, .ended (.refused .full))
      | .error .closed => some (queue, .ended (.refused .closed))
  | .slotted =>
      let polled := queue.concurrency.acquire id 1
      match polled.1 with
      | .granted => some ({ queue with concurrency := polled.2 }, .admitted)
      | .pending =>
          some ({ queue with concurrency := polled.2 }, .waiting (now + queue.waitTimeout))
      | .closed => some (queue, .releasing (.refused .closed))
  | .waiting deadline =>
      let polled := queue.concurrency.poll id
      match polled.1 with
      | .granted => some ({ queue with concurrency := polled.2 }, .admitted)
      | .closed => some (queue, .leaving (.refused .closed))
      | .pending => if deadline ≤ now then some (queue, .leaving (.refused .timeout)) else none
  | .admitted => some ({ queue with queueSlots := queue.queueSlots.release 1 }, .permitted)
  | .leaving ending =>
      some ({ queue with concurrency := queue.concurrency.abandon id }, .releasing ending)
  | .releasing ending =>
      some ({ queue with queueSlots := queue.queueSlots.release 1 }, .ended ending)
  | .permitted => none
  | .ended _ => none

end Call

/-- The queue with the calls on it, each named by its position. `closeReturned` says that
some call of `close` has returned. -/
structure Hall where
  queue : AdmissionQueue
  calls : List Call
  clock : Nat
  closeReturned : Bool
  deriving DecidableEq, Repr

/-- `close` closes the two semaphores one after the other. -/
inductive Action where
  | tick (elapsed : Nat)
  | acquire
  | proceed (id : Nat)
  | cancel (id : Nat)
  | drop (id : Nat)
  | closeConcurrency
  | closeSlots
  deriving DecidableEq, Repr

namespace Hall

/-- A new queue, before any call. -/
def opened (maxConcurrency maxQueue waitTimeout : Nat) : Hall where
  queue := .new maxConcurrency maxQueue waitTimeout
  calls := []
  clock := 0
  closeReturned := false

/-- One step, if it is enabled. -/
def perform (hall : Hall) : Action → Option Hall
  | .tick elapsed => some { hall with clock := hall.clock + elapsed }
  | .acquire => some { hall with calls := hall.calls ++ [.trying] }
  | .proceed id =>
      match hall.calls[id]? with
      | some call =>
          (call.advance hall.queue hall.clock id).map fun (queue, next) =>
            { hall with queue := queue, calls := hall.calls.set id next }
      | none => none
  | .cancel id =>
      match hall.calls[id]? with
      | some (.waiting _) => some { hall with calls := hall.calls.set id (.leaving .cancelled) }
      | _ => none
  | .drop id =>
      match hall.calls[id]? with
      | some .permitted =>
          some { hall with
            queue := { hall.queue with concurrency := hall.queue.concurrency.release 1 }
            calls := hall.calls.set id (.ended .dropped) }
      | _ => none
  | .closeConcurrency =>
      some { hall with queue := { hall.queue with concurrency := hall.queue.concurrency.close } }
  | .closeSlots =>
      if hall.queue.concurrency.closed then
        some { hall with
          queue := { hall.queue with queueSlots := hall.queue.queueSlots.close }
          closeReturned := true }
      else none

/-- The step relation of the runs. -/
def Step (before : Hall) (action : Action) (after : Hall) : Prop :=
  before.perform action = some after

/-! ## The books balance -/

/-- Both semaphores are shared by the calls, and nobody waits for a place. -/
structure Balanced (hall : Hall) : Prop where
  permits :
    Books Call.permits Call.asked hall.queue.maxConcurrency hall.queue.concurrency hall.calls
  slots : Books Call.slots (fun _ => none) hall.queue.maxQueue hall.queue.queueSlots hall.calls

/-- What a step of one call does to the two semaphores. -/
structure Moved (id : Nat) (before after : AdmissionQueue) (call next : Call) : Prop where
  permits : Shift Call.permits Call.asked id before.concurrency after.concurrency call next
  slots : Shift Call.slots (fun _ => none) id before.queueSlots after.queueSlots call next
  closed : after.concurrency.closed = before.concurrency.closed
  maxConcurrency : after.maxConcurrency = before.maxConcurrency
  maxQueue : after.maxQueue = before.maxQueue

variable {hall before after first middle last : Hall} {action : Action} {id : Nat}
  {queue : AdmissionQueue} {call next : Call}
  {trace earlier later : List (Runs.Transition Hall Action)}

/-- A step of a call that touches neither semaphore. -/
theorem moved_kept (balanced : hall.Balanced) (present : hall.calls[id]? = some call)
    (permits : next.permits = call.permits) (slots : next.slots = call.slots)
    (waits : call.asked = none ∨ next.asked = call.asked) :
    Moved id hall.queue hall.queue call next :=
  ⟨balanced.permits.keep present permits waits, balanced.slots.keep present slots (.inl rfl), rfl,
    rfl, rfl⟩

/-- The own step of a call moves permits between it and the queue. -/
theorem advance_moved (balanced : hall.Balanced) (present : hall.calls[id]? = some call)
    (advanced : call.advance hall.queue hall.clock id = some (queue, next)) :
    Moved id hall.queue queue call next := by
  have permits := balanced.permits
  have slots := balanced.slots
  cases call with
  | trying =>
    simp only [Call.advance] at advanced
    split at advanced
    · rename_i concurrency taken
      cases advanced
      obtain ⟨unheld, line, closed, _⟩ := Semaphore.tryAcquire_ok taken
      exact ⟨permits.take present unheld line rfl rfl, slots.keep present rfl (.inl rfl), closed,
        rfl, rfl⟩
    · cases advanced
      exact moved_kept balanced present rfl rfl (.inl rfl)
    · cases advanced
      exact moved_kept balanced present rfl rfl (.inl rfl)
  | enqueuing =>
    simp only [Call.advance] at advanced
    split at advanced
    · rename_i queueSlots taken
      cases advanced
      obtain ⟨unheld, line, _, _⟩ := Semaphore.tryAcquire_ok taken
      exact ⟨permits.keep present rfl (.inl rfl), slots.take present unheld line rfl rfl, rfl, rfl,
        rfl⟩
    · cases advanced
      exact moved_kept balanced present rfl rfl (.inl rfl)
    · cases advanced
      exact moved_kept balanced present rfl rfl (.inl rfl)
  | slotted =>
    simp only [Call.advance] at advanced
    split at advanced
    · rename_i granted
      cases advanced
      obtain ⟨unheld, line, closed, _⟩ := Semaphore.acquire_granted granted
      exact ⟨permits.take present unheld line rfl rfl, slots.keep present rfl (.inl rfl), closed,
        rfl, rfl⟩
    · rename_i pending
      cases advanced
      obtain ⟨_, _, closed⟩ := Semaphore.acquire_pending pending
      exact ⟨permits.queue present pending rfl rfl rfl, slots.keep present rfl (.inl rfl), closed,
        rfl, rfl⟩
    · cases advanced
      exact moved_kept balanced present rfl rfl (.inl rfl)
  | waiting deadline =>
    simp only [Call.advance] at advanced
    split at advanced
    · rename_i granted
      cases advanced
      obtain ⟨_, _, _, _, closed, _⟩ := Semaphore.poll_granted granted
      exact ⟨permits.serve present granted rfl rfl, slots.keep present rfl (.inl rfl), closed, rfl,
        rfl⟩
    · cases advanced
      exact moved_kept balanced present rfl rfl (.inr rfl)
    · split at advanced
      · cases advanced
        exact moved_kept balanced present rfl rfl (.inr rfl)
      · cases advanced
  | admitted | releasing =>
    cases advanced
    exact ⟨permits.keep present rfl (.inl rfl), slots.give present rfl rfl, rfl, rfl, rfl⟩
  | leaving ending =>
    cases advanced
    exact ⟨permits.leave rfl, slots.keep present rfl (.inl rfl), Semaphore.abandon_closed _ _, rfl,
      rfl⟩
  | permitted | ended => cases advanced

/-- What a step can do: time passes, a call starts, one call moves or a semaphore is
closed. -/
inductive Turn (before : Hall) : Action → Hall → Prop
  | waited (elapsed : Nat) :
      Turn before (.tick elapsed) { before with clock := before.clock + elapsed }
  | arrived : Turn before .acquire { before with calls := before.calls ++ [.trying] }
  | moved {action : Action} {id : Nat} {call next : Call} {queue : AdmissionQueue}
      (present : before.calls[id]? = some call) (shift : Moved id before.queue queue call next)
      (dropped : call = .permitted → action = .drop id)
      (barred : before.queue.concurrency.closed = true → call = .trying →
        next = .ended (.refused .closed))
      (final : ∀ ending, call ≠ .ended ending) :
      Turn before action { before with queue := queue, calls := before.calls.set id next }
  | stopped : Turn before .closeConcurrency
      { before with queue := { before.queue with concurrency := before.queue.concurrency.close } }
  | closed (done : before.queue.concurrency.closed = true) : Turn before .closeSlots
      { before with
        queue := { before.queue with queueSlots := before.queue.queueSlots.close }
        closeReturned := true }

/-- On a closed queue a new call ends at once. -/
theorem advance_barred {now : Nat} {before after : AdmissionQueue}
    (closed : before.concurrency.closed = true)
    (advanced : Call.trying.advance before now id = some (after, next)) :
    next = .ended (.refused .closed) := by
  simp only [Call.advance, Semaphore.tryAcquire_closed closed, Option.some.injEq,
    Prod.mk.injEq] at advanced
  exact advanced.2.symm

/-- Every step goes one of these ways. -/
theorem step_turn (balanced : before.Balanced) (stepped : Step before action after) :
    Turn before action after := by
  cases action with
  | tick elapsed =>
    cases stepped
    exact .waited elapsed
  | acquire =>
    cases stepped
    exact .arrived
  | proceed id =>
    simp only [Step, perform] at stepped
    split at stepped
    · rename_i call present
      obtain ⟨⟨queue, next⟩, advanced, rfl⟩ := Option.map_eq_some_iff.mp stepped
      refine .moved present (advance_moved balanced present advanced) ?_ ?_ ?_
      · rintro rfl
        cases advanced
      · rintro closed rfl
        exact advance_barred closed advanced
      · rintro ending rfl
        cases advanced
    · cases stepped
  | cancel id =>
    simp only [Step, perform] at stepped
    split at stepped
    · rename_i deadline present
      cases stepped
      exact .moved present (moved_kept balanced present rfl rfl (.inr rfl)) nofun nofun nofun
    · cases stepped
  | drop id =>
    simp only [Step, perform] at stepped
    split at stepped
    · rename_i present
      cases stepped
      refine .moved present ?_ (fun _ => rfl) nofun nofun
      exact ⟨balanced.permits.give present rfl rfl, balanced.slots.keep present rfl (.inl rfl),
        Semaphore.release_closed _ _, rfl, rfl⟩
    · cases stepped
  | closeConcurrency =>
    cases stepped
    exact .stopped
  | closeSlots =>
    simp only [Step, perform] at stepped
    split at stepped
    · rename_i done
      cases stepped
      exact .closed done
    · cases stepped

/-- No step loses or makes a permit. -/
theorem step_balanced (balanced : before.Balanced) (stepped : Step before action after) :
    after.Balanced := by
  obtain ⟨permits, slots⟩ := balanced
  cases step_turn ⟨permits, slots⟩ stepped with
  | waited => exact ⟨permits, slots⟩
  | arrived => exact ⟨permits.arrive rfl, slots.arrive rfl⟩
  | moved present shift =>
    refine ⟨?_, ?_⟩
    · simp only [shift.maxConcurrency]
      exact permits.move present shift.permits
    · simp only [shift.maxQueue]
      exact slots.move present shift.slots
  | stopped => exact ⟨permits.close, slots⟩
  | closed => exact ⟨permits, slots.close⟩

/-! ## After `close`, and held permits -/

/-- The queue is closed, and the calls from a position on get nothing. -/
def Barred (position : Nat) (hall : Hall) : Prop :=
  hall.queue.concurrency.closed = true ∧
    ∀ id call, position ≤ id → hall.calls[id]? = some call →
      call = .trying ∨ call = .ended (.refused .closed)

/-- Once `close` has returned the queue is closed. -/
def Shut (hall : Hall) : Prop :=
  hall.closeReturned = true → hall.queue.concurrency.closed = true

/-- What `close` has closed stays closed. -/
theorem step_shut (balanced : before.Balanced) (stepped : Step before action after)
    (shut : before.Shut) : after.Shut := by
  cases step_turn balanced stepped with
  | waited | arrived => exact shut
  | moved present shift =>
    intro returned
    exact shift.closed.trans (shut returned)
  | stopped =>
    intro _
    rfl
  | closed done =>
    intro _
    exact done

/-- A closed queue gives the calls from there on nothing. -/
theorem step_barred {position : Nat} (balanced : before.Balanced)
    (stepped : Step before action after) (barred : before.Barred position) :
    after.Barred position := by
  obtain ⟨shut, barredCalls⟩ := barred
  cases step_turn balanced stepped with
  | waited => exact ⟨shut, barredCalls⟩
  | stopped => exact ⟨rfl, barredCalls⟩
  | closed done => exact ⟨done, barredCalls⟩
  | arrived =>
    refine ⟨shut, ?_⟩
    intro id call later found
    rw [List.getElem?_append] at found
    split at found
    · exact barredCalls id call later found
    · exact .inl (List.mem_singleton.mp (List.mem_of_getElem? found))
  | @moved _ moving present next queue found shift dropped barred final =>
    refine ⟨shift.closed.trans shut, ?_⟩
    intro id call later reached
    by_cases same : moving = id
    · subst same
      have bound : moving < before.calls.length := (List.getElem?_eq_some_iff.mp found).1
      rw [List.getElem?_set_self bound, Option.some.injEq] at reached
      subst reached
      rcases barredCalls moving present later found with trying | ended
      · exact .inr (barred shut trying)
      · exact absurd ended (final _)
    · rw [List.getElem?_set_ne same] at reached
      exact barredCalls id call later reached

/-- A permit lasts until it is dropped. -/
theorem step_permitted (balanced : before.Balanced) (stepped : Step before action after)
    (kept : action ≠ .drop id) (held : before.calls[id]? = some .permitted) :
    after.calls[id]? = some .permitted := by
  cases step_turn balanced stepped with
  | waited | stopped | closed => exact held
  | arrived =>
    have bound : id < before.calls.length := (List.getElem?_eq_some_iff.mp held).1
    exact (List.getElem?_append_left bound).trans held
  | @moved _ moving call next queue found shift dropped =>
    by_cases same : moving = id
    · subst same
      rw [held, Option.some.injEq] at found
      exact absurd (dropped found.symm) kept
    · exact (List.getElem?_set_ne same).trans held

/-- What holds of a state of the queue: permits and places stay within their bounds, the
subtractions of `snapshot` do not underflow, the books balance without the calls that have
ended, and with every call ended nothing is in use. -/
structure Bounded (maxConcurrency maxQueue : Nat) (hall : Hall) : Prop where
  alive : total Call.permits hall.calls ≤ maxConcurrency
  queued : total Call.slots hall.calls ≤ maxQueue
  activeFits : hall.queue.concurrency.available ≤ hall.queue.maxConcurrency
  queuedFits : hall.queue.queueSlots.available ≤ hall.queue.maxQueue
  nothingLeft : ∀ id ending, hall.calls[id]? = some (.ended ending) →
    hall.queue.concurrency.unheld + total Call.permits (hall.calls.eraseIdx id) = maxConcurrency ∧
      hall.queue.queueSlots.available + total Call.slots (hall.calls.eraseIdx id) = maxQueue ∧
      ∀ request ∈ hall.queue.concurrency.requests, request.1 ≠ id
  idle : (∀ call ∈ hall.calls, ∃ ending, call = .ended ending) →
    hall.queue.snapshot.active = 0 ∧ hall.queue.snapshot.queued = 0

/-- The bounds of a run from a new queue do not move. -/
structure Sized (maxConcurrency maxQueue : Nat) (hall : Hall) : Prop extends hall.Balanced where
  maxConcurrency : hall.queue.maxConcurrency = maxConcurrency
  maxQueue : hall.queue.maxQueue = maxQueue
  shut : hall.Shut

/-- The permits and the slots are those the queue was opened with. -/
theorem step_sized {maxConcurrency maxQueue : Nat} (sized : before.Sized maxConcurrency maxQueue)
    (stepped : Step before action after) : after.Sized maxConcurrency maxQueue := by
  have balanced := step_balanced sized.toBalanced stepped
  have shut := step_shut sized.toBalanced stepped sized.shut
  cases step_turn sized.toBalanced stepped with
  | waited | arrived | stopped | closed =>
    exact ⟨balanced, sized.maxConcurrency, sized.maxQueue, shut⟩
  | moved present shift =>
    exact ⟨balanced, shift.maxConcurrency.trans sized.maxConcurrency,
      shift.maxQueue.trans sized.maxQueue, shut⟩

/-- So they are at the end of a run. -/
theorem run_sized {maxConcurrency maxQueue : Nat} (run : Runs.Run Step first trace last)
    (sized : first.Sized maxConcurrency maxQueue) : last.Sized maxConcurrency maxQueue :=
  run.invariant _ sized fun _ _ _ stepped holds => step_sized holds stepped

/-- A queue starts with all of them free. -/
theorem opened_sized (maxConcurrency maxQueue waitTimeout : Nat) :
    Sized maxConcurrency maxQueue (opened maxConcurrency maxQueue waitTimeout) where
  permits := Books.start
  slots := Books.start
  maxConcurrency := rfl
  maxQueue := rfl
  shut := nofun

/-- So no more calls hold them than there are. -/
theorem Sized.bounded {maxConcurrency maxQueue : Nat} (sized : hall.Sized maxConcurrency maxQueue) :
    hall.Bounded maxConcurrency maxQueue := by
  have permits := sized.permits
  have slots := sized.slots
  have free := Semaphore.available_eq (slots.unlined fun _ _ => rfl)
  constructor
  case alive => exact sized.maxConcurrency ▸ permits.held_le
  case queued => exact sized.maxQueue ▸ slots.held_le
  case activeFits => exact permits.available_le
  case queuedFits => exact slots.available_le
  case nothingLeft =>
    intro id ending ended
    obtain ⟨withoutPermit, unrequested⟩ := permits.without ended rfl rfl
    obtain ⟨withoutSlot, _⟩ := slots.without ended rfl rfl
    rw [free, ← sized.maxConcurrency, ← sized.maxQueue]
    exact ⟨withoutPermit, withoutSlot, unrequested⟩
  case idle =>
    intro allEnded
    have unpermitted : hall.queue.concurrency.available = hall.queue.maxConcurrency := by
      apply permits.idle
      intro call member
      obtain ⟨ending, rfl⟩ := allEnded call member
      exact ⟨rfl, rfl⟩
    have unplaced : hall.queue.queueSlots.available = hall.queue.maxQueue := by
      apply slots.idle
      intro call member
      obtain ⟨ending, rfl⟩ := allEnded call member
      exact ⟨rfl, rfl⟩
    simp only [AdmissionQueue.snapshot, unpermitted, unplaced, Nat.sub_self, and_self]

/-- Admission is exactly bounded in every state of every interleaving. A call that starts
after `close` has returned gets nothing but `Closed`, and a permit is alive until it is
dropped, whatever else happens.

Proof: every step keeps the balance of both semaphores, a close and a permit. -/
theorem admission_exactly_bounded {maxConcurrency maxQueue waitTimeout : Nat}
    (upTo : Runs.Run Step (opened maxConcurrency maxQueue waitTimeout) earlier middle)
    (onward : Runs.Run Step middle later last) :
    last.Bounded maxConcurrency maxQueue ∧
      (middle.closeReturned = true → ∀ id call, middle.calls.length ≤ id →
        last.calls[id]? = some call → call = .trying ∨ call = .ended (.refused .closed)) ∧
      ∀ id, middle.calls[id]? = some .permitted → (∀ taken ∈ later, taken.label ≠ .drop id) →
        last.calls[id]? = some .permitted := by
  have reached := run_sized upTo (opened_sized maxConcurrency maxQueue waitTimeout)
  refine ⟨(run_sized onward reached).bounded, ?_, ?_⟩
  · intro returned
    have start : middle.Barred middle.calls.length := by
      refine ⟨reached.shut returned, ?_⟩
      intro id call later found
      have bound : id < middle.calls.length := (List.getElem?_eq_some_iff.mp found).1
      omega
    have carried := onward.invariant
      (fun hall => hall.Sized maxConcurrency maxQueue ∧ hall.Barred middle.calls.length)
      ⟨reached, start⟩ (fun _ _ _ stepped holds =>
        ⟨step_sized holds.1 stepped, step_barred holds.1.toBalanced stepped holds.2⟩)
    exact carried.2.2
  · intro id held kept
    have carried := onward.preserved
      (fun hall => hall.Sized maxConcurrency maxQueue ∧ hall.calls[id]? = some .permitted)
      ⟨reached, held⟩ (fun taken member stepped holds =>
        ⟨step_sized holds.1 stepped,
          step_permitted holds.1.toBalanced stepped (kept taken member) holds.2⟩)
    exact carried.2

/-- One request is in flight, one waits in the only place, and the queue is closed. -/
def crowded : Hall :=
  Runs.reached perform (opened 1 1 5)
    [.acquire, .proceed 0, .acquire, .proceed 1, .proceed 1, .proceed 1, .closeConcurrency,
      .closeSlots]

/-- The waiting call is turned away, and so is one that comes late. -/
def turnedAway : List Action :=
  [.acquire, .proceed 2, .proceed 1, .proceed 1, .proceed 1]

/-- A close refuses the waiting call and leaves the admitted one. -/
theorem admission_exactly_bounded_closed :
    crowded.closeReturned = true ∧ crowded.calls[0]? = some .permitted ∧
      (Runs.reached perform crowded turnedAway).calls[0]? = some .permitted ∧
      (Runs.reached perform crowded turnedAway).calls[1]? = some (.ended (.refused .closed)) ∧
      (Runs.reached perform crowded turnedAway).Bounded 1 1 := by
  have upTo : Runs.Run Step (opened 1 1 5) _ crowded := Runs.replay_run (by decide +kernel)
  have onward : Runs.Run Step crowded _ (Runs.reached perform crowded turnedAway) :=
    Runs.replay_run (by decide +kernel)
  obtain ⟨bounded, _, kept⟩ := admission_exactly_bounded upTo onward
  have held : crowded.calls[0]? = some .permitted := by decide +kernel
  refine ⟨by decide +kernel, held, kept 0 held ?_, by decide +kernel, bounded⟩
  intro taken member dropped
  have listed := Runs.steps_label member
  rw [dropped] at listed
  revert listed
  decide

end Hall

end Orihsus.Queue
