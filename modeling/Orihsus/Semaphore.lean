import Mathlib.Algebra.Order.BigOperators.Group.List
import Mathlib.Algebra.Order.Group.Nat
import Mathlib.Algebra.Ring.Nat
import Mathlib.Data.List.Basic

/-!
# Fair counting semaphores

A semaphore hands out permits in the order in which they are asked for. An acquire that
cannot be served at once queues and collects what is released, the first in line first;
an acquire that is dropped gives back what it had collected. A closed semaphore hands
out nothing, and what is given back to it stays available.

Three things describe a semaphore to its users: the permits that no party holds, the
requests that wait, and whether it is closed. Every operation is described by its effect
on these, so a user never looks at how far a waiting request has got. The parties and
their names are arbitrary.
-/

namespace Semaphores

universe u
variable {Id : Type u}

/-- An acquire that waits: what it has been assigned and what it still misses. -/
structure Waiter (Id : Type u) where
  id : Id
  assigned : Nat
  missing : Nat
  deriving DecidableEq, Repr

structure Semaphore (Id : Type u) where
  available : Nat
  waiters : List (Waiter Id)
  closed : Bool
  deriving DecidableEq, Repr

inductive TryAcquireError where
  | closed
  | noPermits
  deriving DecidableEq, Repr

/-- What polling an acquire yields. -/
inductive Polled where
  | granted
  | pending
  | closed
  deriving DecidableEq, Repr

/-- Assign released permits to the waiters in line; what is left over is returned. -/
def assign : Nat → List (Waiter Id) → Nat × List (Waiter Id)
  | permits, [] => (permits, [])
  | permits, waiter :: rest =>
      let given := min waiter.missing permits
      let later := assign (permits - given) rest
      (later.1, { waiter with
        assigned := waiter.assigned + given
        missing := waiter.missing - given } :: later.2)

namespace Semaphore

/-- A new semaphore. -/
def new (permits : Nat) : Semaphore Id where
  available := permits
  waiters := []
  closed := false

variable (semaphore : Semaphore Id)

/-- Take permits at once or not at all. -/
def tryAcquire (permits : Nat) : Except TryAcquireError (Semaphore Id) :=
  if semaphore.closed then .error .closed
  else if semaphore.available < permits then .error .noPermits
  else .ok { semaphore with available := semaphore.available - permits }

/-- The first poll of an acquire: it is served at once, or it queues with what there is. -/
def acquire (id : Id) (permits : Nat) : Polled × Semaphore Id :=
  if semaphore.closed then (.closed, semaphore)
  else if permits ≤ semaphore.available then
    (.granted, { semaphore with available := semaphore.available - permits })
  else
    (.pending, { semaphore with
      available := 0
      waiters := semaphore.waiters ++
        [⟨id, semaphore.available, permits - semaphore.available⟩] })

/-- A later poll of an acquire that queued. -/
def poll [DecidableEq Id] (id : Id) : Polled × Semaphore Id :=
  if semaphore.closed then (.closed, semaphore)
  else
    match semaphore.waiters.find? (fun waiter => waiter.id = id) with
    | some waiter =>
        if waiter.missing = 0 then
          (.granted, { semaphore with
            waiters := semaphore.waiters.eraseP (fun waiter => waiter.id = id) })
        else (.pending, semaphore)
    | none => (.pending, semaphore)

/-- Give permits back. -/
def release (permits : Nat) : Semaphore Id :=
  if semaphore.closed then { semaphore with available := semaphore.available + permits }
  else
    let (left, waiters) := assign permits semaphore.waiters
    { semaphore with available := semaphore.available + left, waiters := waiters }

/-- Drop an acquire that queued. -/
def abandon [DecidableEq Id] (id : Id) : Semaphore Id :=
  match semaphore.waiters.find? (fun waiter => waiter.id = id) with
  | some waiter =>
      release { semaphore with
        waiters := semaphore.waiters.eraseP (fun waiter => waiter.id = id) } waiter.assigned
  | none => semaphore

def close : Semaphore Id := { semaphore with closed := true }

/-- The permits that no party holds: those that are free and those assigned in line. -/
def unheld : Nat := semaphore.available + (semaphore.waiters.map Waiter.assigned).sum

/-- The requests that wait, in line, with what they ask for. -/
def requests : List (Id × Nat) :=
  semaphore.waiters.map fun waiter => (waiter.id, waiter.assigned + waiter.missing)

end Semaphore

/-! ## What the operations do -/

/-- Nothing is lost on the way to the waiters. -/
theorem assign_sum (permits : Nat) (waiters : List (Waiter Id)) :
    (assign permits waiters).1 + ((assign permits waiters).2.map Waiter.assigned).sum =
      permits + (waiters.map Waiter.assigned).sum := by
  induction waiters generalizing permits with
  | nil => simp [assign]
  | cons waiter rest inductionHypothesis =>
    have kept := inductionHypothesis (permits - min waiter.missing permits)
    simp only [assign, List.map_cons, List.sum_cons]
    omega

/-- The requests stay in line as they are. -/
theorem assign_requests (permits : Nat) (waiters : List (Waiter Id)) :
    (assign permits waiters).2.map (fun waiter => (waiter.id, waiter.assigned + waiter.missing)) =
      waiters.map (fun waiter => (waiter.id, waiter.assigned + waiter.missing)) := by
  induction waiters generalizing permits with
  | nil => simp [assign]
  | cons waiter rest inductionHypothesis =>
    simp only [assign, List.map_cons, inductionHypothesis, List.cons.injEq, Prod.mk.injEq,
      and_true, true_and]
    omega

/-- Removing the first match takes its share out of the sum. -/
theorem sum_eraseP {Value : Type*} (weight : Value → Nat) {matches_ : Value → Bool}
    {values : List Value} {value : Value} (found : values.find? matches_ = some value) :
    ((values.eraseP matches_).map weight).sum + weight value = (values.map weight).sum := by
  induction values with
  | nil => cases found
  | cons head rest inductionHypothesis =>
    by_cases first : matches_ head = true
    · rw [List.find?_cons_of_pos first] at found
      cases found
      simp [List.eraseP_cons_of_pos first, Nat.add_comm]
    · rw [List.find?_cons_of_neg first] at found
      have kept := inductionHypothesis found
      rw [List.eraseP_cons_of_neg first]
      simp only [List.map_cons, List.sum_cons]
      omega

namespace Semaphore

variable {semaphore after : Semaphore Id} {id : Id} {permits : Nat}

/-- Permits that are taken at once are held from then on. -/
theorem tryAcquire_ok (taken : semaphore.tryAcquire permits = .ok after) :
    after.unheld + permits = semaphore.unheld ∧ after.requests = semaphore.requests ∧
      after.closed = semaphore.closed ∧ semaphore.closed = false := by
  unfold tryAcquire at taken
  split at taken
  · cases taken
  · rename_i opened
    split at taken
    · cases taken
    · rename_i enough
      cases taken
      refine ⟨?_, rfl, rfl, by simpa using opened⟩
      simp only [unheld]
      omega

/-- A closed semaphore gives nothing. -/
theorem tryAcquire_closed (closed : semaphore.closed = true) :
    semaphore.tryAcquire permits = .error .closed := by
  simp [tryAcquire, closed]

/-- What is granted is taken from what nobody holds. -/
theorem acquire_granted (granted : (semaphore.acquire id permits).1 = .granted) :
    (semaphore.acquire id permits).2.unheld + permits = semaphore.unheld ∧
      (semaphore.acquire id permits).2.requests = semaphore.requests ∧
      (semaphore.acquire id permits).2.closed = semaphore.closed ∧ semaphore.closed = false := by
  unfold acquire at granted ⊢
  split
  · rename_i closed
    simp [closed] at granted
  · rename_i opened
    split
    · rename_i enough
      refine ⟨?_, rfl, rfl, by simpa using opened⟩
      simp only [unheld]
      omega
    · rename_i short
      simp [opened, short] at granted

/-- A request that queues holds nothing yet. -/
theorem acquire_pending (pending : (semaphore.acquire id permits).1 = .pending) :
    (semaphore.acquire id permits).2.unheld = semaphore.unheld ∧
      (semaphore.acquire id permits).2.requests = semaphore.requests ++ [(id, permits)] ∧
      (semaphore.acquire id permits).2.closed = semaphore.closed := by
  unfold acquire at pending ⊢
  split
  · rename_i closed
    simp [closed] at pending
  · rename_i opened
    split
    · rename_i enough
      simp [opened, enough] at pending
    · rename_i short
      refine ⟨?_, ?_, rfl⟩
      · simp [unheld, Nat.add_comm]
      · simp only [requests, List.map_append, List.map_cons, List.map_nil]
        rw [Nat.add_sub_cancel' (Nat.le_of_not_ge short)]

/-- A poll that grants hands over all that the request asked for. -/
theorem poll_granted [DecidableEq Id] (granted : (semaphore.poll id).1 = .granted) :
    ∃ asked, (id, asked) ∈ semaphore.requests ∧
      (semaphore.poll id).2.unheld + asked = semaphore.unheld ∧
      (semaphore.poll id).2.requests = semaphore.requests.eraseP (fun request => request.1 = id) ∧
      (semaphore.poll id).2.closed = semaphore.closed ∧ semaphore.closed = false := by
  unfold poll at granted ⊢
  split
  · rename_i closed
    simp [closed] at granted
  · rename_i opened
    split
    · rename_i waiter found
      split
      · rename_i served
        have named : waiter.id = id := by simpa using List.find?_some found
        refine ⟨waiter.assigned, ?_, ?_, ?_, rfl, by simpa using opened⟩
        · refine List.mem_map.mpr ⟨waiter, List.mem_of_find?_eq_some found, ?_⟩
          rw [named, served, Nat.add_zero]
        · have kept := sum_eraseP Waiter.assigned found
          simp only [unheld]
          omega
        · simp [requests, List.eraseP_map, Function.comp_def]
      · rename_i waiting
        simp [opened, found, waiting] at granted
    · rename_i missing
      simp [opened, missing] at granted

/-- What is released nobody holds. -/
theorem release_unheld (semaphore : Semaphore Id) (permits : Nat) :
    (semaphore.release permits).unheld = semaphore.unheld + permits := by
  unfold release
  split
  · simp only [unheld]
    omega
  · have kept := assign_sum permits semaphore.waiters
    simp only [unheld]
    omega

/-- A release leaves the line. -/
theorem release_requests (semaphore : Semaphore Id) (permits : Nat) :
    (semaphore.release permits).requests = semaphore.requests := by
  unfold release
  split
  · rfl
  · exact assign_requests permits semaphore.waiters

/-- It opens nothing. -/
theorem release_closed (semaphore : Semaphore Id) (permits : Nat) :
    (semaphore.release permits).closed = semaphore.closed := by
  unfold release
  split <;> rfl

/-- A request that is dropped leaves its share behind. -/
theorem abandon_unheld [DecidableEq Id] (semaphore : Semaphore Id) (id : Id) :
    (semaphore.abandon id).unheld = semaphore.unheld := by
  unfold abandon
  split
  · rename_i waiter found
    have kept := sum_eraseP Waiter.assigned found
    rw [release_unheld]
    simp only [unheld]
    omega
  · rfl

/-- One that gives up leaves the line. -/
theorem abandon_requests [DecidableEq Id] (semaphore : Semaphore Id) (id : Id) :
    (semaphore.abandon id).requests =
      semaphore.requests.eraseP (fun request => request.1 = id) := by
  unfold abandon
  split
  · rw [release_requests]
    simp [requests, List.eraseP_map, Function.comp_def]
  · rename_i missing
    refine (List.eraseP_of_forall_not ?_).symm
    intro request member
    obtain ⟨waiter, waits, rfl⟩ := List.mem_map.mp member
    exact List.find?_eq_none.mp missing waiter waits

/-- It closes nothing. -/
theorem abandon_closed [DecidableEq Id] (semaphore : Semaphore Id) (id : Id) :
    (semaphore.abandon id).closed = semaphore.closed := by
  unfold abandon
  split
  · exact release_closed _ _
  · rfl

/-- No more is free than nobody holds. -/
theorem available_le (semaphore : Semaphore Id) : semaphore.available ≤ semaphore.unheld :=
  Nat.le_add_right _ _

/-- With nobody in line, what is not held is free. -/
theorem available_eq (empty : semaphore.requests = []) :
    semaphore.available = semaphore.unheld := by
  have none : semaphore.waiters = [] := List.map_eq_nil_iff.mp empty
  simp [unheld, none]

end Semaphore

/-- A name that stands in line once is gone once it is removed. -/
theorem eraseP_absent [DecidableEq Id] {requests : List (Id × Nat)}
    (distinct : (requests.map Prod.fst).Nodup) {id : Id} {request : Id × Nat}
    (member : request ∈ requests.eraseP (fun request => request.1 = id)) : request.1 ≠ id := by
  induction requests with
  | nil => cases member
  | cons head rest inductionHypothesis =>
    obtain ⟨fresh, later⟩ := List.nodup_cons.mp distinct
    by_cases first : head.1 = id
    · rw [List.eraseP_cons_of_pos (by simpa using first)] at member
      intro same
      exact fresh (List.mem_map.mpr ⟨request, member, same.trans first.symm⟩)
    · rw [List.eraseP_cons_of_neg (by simpa using first)] at member
      rcases List.mem_cons.mp member with rfl | inside
      · exact first
      · exact inductionHypothesis later inside

/-! ## The books of a semaphore -/

variable {Party : Type*} {weight : Party → Nat} {parties : List Party}

/-- What all the parties together hold. -/
def total (weight : Party → Nat) (parties : List Party) : Nat := (parties.map weight).sum

/-- One more party weighs its weight. -/
theorem total_append (party : Party) :
    total weight (parties ++ [party]) = total weight parties + weight party := by
  simp [total]

/-- Without one party the total is less by what it holds. -/
theorem total_eraseIdx {index : Nat} {party : Party} (present : parties[index]? = some party) :
    total weight (parties.eraseIdx index) + weight party = total weight parties := by
  induction parties generalizing index with
  | nil => simp at present
  | cons head rest inductionHypothesis =>
    cases index with
    | zero =>
      simp only [List.getElem?_cons_zero, Option.some.injEq] at present
      subst present
      simp only [total, List.eraseIdx_cons_zero, List.map_cons, List.sum_cons]
      omega
    | succ index =>
      have kept := inductionHypothesis (by simpa using present)
      simp only [total, List.eraseIdx_cons_succ, List.map_cons, List.sum_cons] at kept ⊢
      omega

/-- The total changes by what one party takes or gives. -/
theorem total_set {index : Nat} {before : Party} (present : parties[index]? = some before)
    (after : Party) :
    total weight (parties.set index after) + weight before =
      total weight parties + weight after := by
  have bound : index < parties.length := (List.getElem?_eq_some_iff.mp present).1
  have moved : (parties.set index after)[index]? = some after := List.getElem?_set_self bound
  have without : total weight ((parties.set index after).eraseIdx index) + weight after =
    total weight (parties.set index after) := total_eraseIdx moved
  rw [List.eraseIdx_set_eq] at without
  have others : total weight (parties.eraseIdx index) + weight before = total weight parties :=
    total_eraseIdx present
  omega

/-- Parties that hold nothing hold nothing together. -/
theorem total_zero (nothing : ∀ party ∈ parties, weight party = 0) : total weight parties = 0 := by
  apply List.sum_eq_zero
  intro held member
  obtain ⟨party, inside, rfl⟩ := List.mem_map.mp member
  exact nothing party inside

/-- What each party keeps within what it holds stays within the total. -/
theorem total_le {smaller : Party → Nat}
    (within : ∀ party ∈ parties, smaller party ≤ weight party) :
    total smaller parties ≤ total weight parties :=
  List.sum_le_sum within

/-- A count is a total. -/
theorem total_count (counts : Party → Bool) (parties : List Party) :
    total (fun party => if counts party then 1 else 0) parties = parties.countP counts := by
  induction parties with
  | nil => rfl
  | cons party rest inductionHypothesis =>
    rw [List.countP_cons, ← inductionHypothesis, Nat.add_comm]
    rfl

/-- Owners at places of their own hold no more than is there. -/
theorem total_placed_amounts {Owner : Type*} {held : Owner → Nat} (place : Owner → Option Nat)
    {owners : List Owner} {amounts : List Nat}
    (each : ∀ owner ∈ owners, held owner ≠ 0 → ∃ (index : Nat) (amount : Nat),
      place owner = some index ∧ amounts[index]? = some amount ∧ held owner ≤ amount)
    (distinct : owners.Pairwise fun owner other => ∀ index, place owner = some index →
      place other ≠ some index) : total held owners ≤ total id amounts := by
  induction owners generalizing amounts with
  | nil => exact Nat.zero_le _
  | cons owner rest inductionHypothesis =>
    obtain ⟨apart, others⟩ := List.pairwise_cons.mp distinct
    have split : total held (owner :: rest) = held owner + total held rest := List.sum_cons
    by_cases empty : held owner = 0
    · have smaller := inductionHypothesis
        (fun other member => each other (List.mem_cons_of_mem _ member)) others
      omega
    · obtain ⟨index, amount, placed, present, within⟩ := each owner List.mem_cons_self empty
      -- The others do not stand where this one does, so its amount can be taken away.
      have smaller : total held rest ≤ total id (amounts.set index 0) := by
        refine inductionHypothesis ?_ others
        intro other member holds
        obtain ⟨position, mine, stands, found, fits⟩ :=
          each other (List.mem_cons_of_mem _ member) holds
        have elsewhere : index ≠ position := by
          rintro rfl
          exact apart other member index placed stands
        exact ⟨position, mine, stands, (List.getElem?_set_ne elsewhere).trans found, fits⟩
      have moved : total id (amounts.set index 0) + amount = total id amounts + 0 :=
        total_set present 0
      omega

/-- Owners that stand for different parties hold no more in all than the parties do. -/
theorem total_placed {Owner : Type*} {held : Owner → Nat} (place : Owner → Option Nat)
    {owners : List Owner}
    (each : ∀ owner ∈ owners, held owner ≠ 0 → ∃ (index : Nat) (party : Party),
      place owner = some index ∧ parties[index]? = some party ∧ held owner ≤ weight party)
    (distinct : owners.Pairwise fun owner other => ∀ index, place owner = some index →
      place other ≠ some index) : total held owners ≤ total weight parties := by
  have amounts : total id (parties.map weight) = total weight parties := by
    rw [total, List.map_id]
    rfl
  rw [← amounts]
  refine total_placed_amounts place ?_ distinct
  intro owner member holds
  obtain ⟨index, party, placed, present, within⟩ := each owner member holds
  refine ⟨index, weight party, placed, ?_, within⟩
  rw [List.getElem?_map, present]
  rfl

/-- Parties that are named by their position share a semaphore: every permit is free,
assigned in line or held by one of them, and a request in line is that of a party that
waits with it. -/
structure Books (held : Party → Nat) (asked : Party → Option Nat) (capacity : Nat)
    (semaphore : Semaphore Nat) (parties : List Party) : Prop where
  permits : semaphore.unheld + total held parties = capacity
  distinct : (semaphore.requests.map Prod.fst).Nodup
  inLine : ∀ request ∈ semaphore.requests,
    ∃ party, parties[request.1]? = some party ∧ asked party = some request.2

/-- What one party does to the semaphore when it moves on. -/
structure Shift (held : Party → Nat) (asked : Party → Option Nat) (id : Nat)
    (before after : Semaphore Nat) (party next : Party) : Prop where
  permits : after.unheld + held next = before.unheld + held party
  distinct : (after.requests.map Prod.fst).Nodup
  inLine : ∀ request ∈ after.requests,
    (request.1 = id ∧ asked next = some request.2) ∨ (request.1 ≠ id ∧ request ∈ before.requests)

namespace Books

variable {held : Party → Nat} {asked : Party → Option Nat} {capacity permits id : Nat}
  {before after : Semaphore Nat} {party next : Party}

/-- A new semaphore that no party has come to yet. -/
theorem start : Books held asked capacity (.new capacity) [] :=
  ⟨rfl, List.nodup_nil, nofun⟩

variable (books : Books held asked capacity before parties)

include books

/-- A party that comes with the permits it has just taken. -/
theorem enter (taken : after.unheld + held party = before.unheld)
    (line : after.requests = before.requests) :
    Books held asked capacity after (parties ++ [party]) := by
  refine ⟨?_, ?_, ?_⟩
  · have balance := books.permits
    rw [total_append]
    omega
  · rw [line]
    exact books.distinct
  · rw [line]
    intro request member
    obtain ⟨waits, found, same⟩ := books.inLine request member
    have bound : request.1 < parties.length := (List.getElem?_eq_some_iff.mp found).1
    exact ⟨waits, (List.getElem?_append_left bound).trans found, same⟩

/-- A party that comes with empty hands. -/
theorem arrive (empty : held party = 0) : Books held asked capacity before (parties ++ [party]) :=
  books.enter (by rw [empty, Nat.add_zero]) rfl

/-- Closing a semaphore touches no permit and no request. -/
theorem close : Books held asked capacity before.close parties :=
  ⟨books.permits, books.distinct, books.inLine⟩

/-- Taking a party's request out of the line leaves those of the others. -/
theorem line_left (line : after.requests = before.requests.eraseP (fun request => request.1 = id)) :
    (after.requests.map Prod.fst).Nodup ∧
      ∀ request ∈ after.requests, (request.1 = id ∧ asked next = some request.2) ∨
        (request.1 ≠ id ∧ request ∈ before.requests) := by
  rw [line]
  refine ⟨books.distinct.sublist ((List.eraseP_sublist).map _), ?_⟩
  intro request member
  exact .inr ⟨eraseP_absent books.distinct member, List.mem_of_mem_eraseP member⟩

/-- A party in line that gives up. -/
theorem leave (same : held next = held party) :
    Shift held asked id before (before.abandon id) party next := by
  obtain ⟨distinct, inLine⟩ := books.line_left (Semaphore.abandon_requests before id)
  exact ⟨by rw [Semaphore.abandon_unheld, same], distinct, inLine⟩

/-- Where no party ever waits, nobody is in line. -/
theorem unlined (never : ∀ party ∈ parties, asked party = none) : before.requests = [] := by
  apply List.eq_nil_iff_forall_not_mem.mpr
  intro request member
  obtain ⟨party, found, waits⟩ := books.inLine request member
  rw [never party (List.mem_of_getElem? found)] at waits
  cases waits

/-- The parties never hold more than there is. -/
theorem held_le : total held parties ≤ capacity := by
  have balance := books.permits
  omega

/-- No more is free than there is. -/
theorem available_le : before.available ≤ capacity := by
  have balance := books.permits
  have free := before.available_le
  omega

/-- When every party has left, every permit is free. -/
theorem idle (gone : ∀ party ∈ parties, held party = 0 ∧ asked party = none) :
    before.available = capacity := by
  have free := Semaphore.available_eq (books.unlined fun party member => (gone party member).2)
  have nothing : total held parties = 0 := total_zero fun party member => (gone party member).1
  have balance := books.permits
  omega

variable (present : parties[id]? = some party)

include present

/-- When one party moves, the books stay balanced. -/
theorem move (shift : Shift held asked id before after party next) :
    Books held asked capacity after (parties.set id next) := by
  refine ⟨?_, shift.distinct, ?_⟩
  · have moved : total held (parties.set id next) + held party =
      total held parties + held next := total_set present next
    have balance := books.permits
    have step := shift.permits
    omega
  · intro request member
    rcases shift.inLine request member with ⟨same, waits⟩ | ⟨other, waits⟩
    · have bound : id < parties.length := (List.getElem?_eq_some_iff.mp present).1
      exact ⟨next, by rw [same, List.getElem?_set_self bound], waits⟩
    · obtain ⟨stays, found, same⟩ := books.inLine request waits
      exact ⟨stays, (List.getElem?_set_ne (Ne.symm other)).trans found, same⟩

/-- A party that waits for nothing has no request. -/
theorem not_requested (outside : asked party = none) :
    ∀ request ∈ before.requests, request.1 ≠ id := by
  intro request member same
  obtain ⟨other, found, waits⟩ := books.inLine request member
  rw [same, present, Option.some.injEq] at found
  rw [← found, outside] at waits
  cases waits

/-- The line stays as it is while a party that waits goes on to wait for the same. -/
theorem line_kept (waits : asked party = none ∨ asked next = asked party) :
    ∀ request ∈ before.requests, (request.1 = id ∧ asked next = some request.2) ∨
      (request.1 ≠ id ∧ request ∈ before.requests) := by
  intro request member
  by_cases same : request.1 = id
  · rcases waits with outside | still
    · exact absurd same (books.not_requested present outside request member)
    · obtain ⟨other, found, asks⟩ := books.inLine request member
      rw [same, present, Option.some.injEq] at found
      subst found
      exact .inl ⟨same, still.trans asks⟩
  · exact .inr ⟨same, member⟩

/-- A party that moves without the semaphore. -/
theorem keep (same : held next = held party)
    (waits : asked party = none ∨ asked next = asked party) :
    Shift held asked id before before party next :=
  ⟨by rw [same], books.distinct, books.line_kept present waits⟩

/-- A party that takes permits without a wait. -/
theorem take (taken : after.unheld + permits = before.unheld)
    (line : after.requests = before.requests) (gains : held next = held party + permits)
    (outside : asked party = none) : Shift held asked id before after party next := by
  refine ⟨by omega, ?_, ?_⟩
  · rw [line]
    exact books.distinct
  · rw [line]
    exact books.line_kept present (.inl outside)

/-- A party that gives permits back. -/
theorem give (loses : held party = held next + permits) (outside : asked party = none) :
    Shift held asked id before (before.release permits) party next := by
  refine ⟨?_, ?_, ?_⟩
  · rw [Semaphore.release_unheld]
    omega
  · rw [Semaphore.release_requests]
    exact books.distinct
  · rw [Semaphore.release_requests]
    exact books.line_kept present (.inl outside)

/-- A party that joins the line. -/
theorem queue (pending : (before.acquire id permits).1 = .pending) (same : held next = held party)
    (outside : asked party = none) (waits : asked next = some permits) :
    Shift held asked id before (before.acquire id permits).2 party next := by
  obtain ⟨unheld, requests, _⟩ := Semaphore.acquire_pending pending
  have fresh := books.not_requested present outside
  refine ⟨by rw [unheld, same], ?_, ?_⟩
  · rw [requests, List.map_append, List.nodup_append]
    refine ⟨books.distinct, by simp, ?_⟩
    intro named earlier joined joins same
    obtain ⟨request, member, rfl⟩ := List.mem_map.mp earlier
    simp only [List.map_cons, List.map_nil, List.mem_singleton] at joins
    exact fresh request member (same.trans joins)
  · rw [requests]
    intro request member
    rcases List.mem_append.mp member with earlier | joins
    · exact .inr ⟨fresh request earlier, earlier⟩
    · rw [List.mem_singleton.mp joins]
      exact .inl ⟨rfl, waits⟩

/-- A party in line that is served. -/
theorem serve (granted : (before.poll id).1 = .granted) (waits : asked party = some permits)
    (gains : held next = held party + permits) :
    Shift held asked id before (before.poll id).2 party next := by
  obtain ⟨granting, member, unheld, line, _⟩ := Semaphore.poll_granted granted
  obtain ⟨other, found, asks⟩ := books.inLine _ member
  rw [present, Option.some.injEq] at found
  rw [← found, waits, Option.some.injEq] at asks
  obtain ⟨distinct, inLine⟩ := books.line_left line
  exact ⟨by omega, distinct, inLine⟩

/-- A party with empty hands that waits for nothing has left nothing behind: the books
balance without it, and no request of its own is in line. -/
theorem without (empty : held party = 0) (outside : asked party = none) :
    before.unheld + total held (parties.eraseIdx id) = capacity ∧
      ∀ request ∈ before.requests, request.1 ≠ id := by
  have others : total held (parties.eraseIdx id) + held party = total held parties :=
    total_eraseIdx present
  have balance := books.permits
  exact ⟨by omega, books.not_requested present outside⟩

end Books

end Semaphores
