import Orihsus.UsageAccounts

/-!
# Rounds and the shutdown of the polling worker

A round of the worker is over within the bound on one fetch, since the fetches run side by
side. Two laws rest on this: a shutdown gets the worker and the history thread to their ends
within that bound as long as the disk answers at all, and a replaced set of keys is asked
about within it, not only after the interval. Both say which steps lead there, and none of
them is an answer of the endpoint.
-/

namespace Orihsus.Usage

open Audit (Written)
open Channels (Channel)
open Pool (Secret System)

namespace Polling

variable {polling : Polling} {before after last : UsageMonitor} {action : Action}
  {trace : List (Runs.Transition UsageMonitor Action)} {keys : List Secret}
  {files : String → List UInt8} {system : System}
  {disk : UsageMonitor → Written} {monitor : UsageMonitor}

/-! ## The bounds on time -/

/-- A fetch is over within its bound and a rest within the interval. -/
structure Timed (polling : Polling) (monitor : UsageMonitor) : Prop where
  fetching : ∀ now due fetches, monitor.worker = .fetching now due fetches →
    due ≤ monitor.clock + fetchTimeout
  resting : ∀ wake, monitor.worker = .resting wake →
    wake ≤ monitor.clock + polling.pollInterval

/-- Nothing is due at the start. -/
theorem start_timed (keys : List Secret) (files : String → List UInt8)
    (system : System) : Timed polling (.start keys files system) :=
  ⟨fun _ _ _ fetching => Worker.noConfusion fetching, fun _ resting => Worker.noConfusion resting⟩

/-- A step of another party only lets time pass. -/
theorem Timed.still (timed : Timed polling before) (worker : after.worker = before.worker)
    (passes : before.clock ≤ after.clock) : Timed polling after := by
  constructor
  · intro now due fetches at_
    have bound := timed.fetching now due fetches (worker.symm.trans at_)
    omega
  · intro wake at_
    have bound := timed.resting wake (worker.symm.trans at_)
    omega

/-- Every step keeps the bounds. -/
theorem step_timed (stepped : polling.Step before action after) (timed : Timed polling before) :
    Timed polling after := by
  cases step_turn stepped with
  | replaced | received | wrote | shut | awaited | joined | detached =>
    exact timed.still rfl (Nat.le_refl _)
  | other passes => exact timed.still rfl passes
  | borrowed starting =>
    constructor
    · intro now due fetches at_
      cases at_
      exact Nat.le_refl _
    · nofun
  | answered fetching | expired fetching =>
    constructor
    · intro now due fetches at_
      cases at_
      exact timed.fetching _ _ _ fetching
    · nofun
  | collected | skipped | observed | elapsed | changed | stopped => exact ⟨nofun, nofun⟩
  | rested observing =>
    constructor
    · nofun
    · intro wake at_
      cases at_
      exact Nat.le_refl _

/-! ## Rounds come to an end -/

/-- A step that the monitor takes by itself, with no answer to a fetch. What a write comes to
is for the disk to say. -/
def unaided : Action → Bool
  | .borrow _ | .expire _ | .collect | .observe _ | .rest | .change | .stop | .receive
  | .write _ | .awaitWorker | .join | .other (.tick _) => true
  | _ => false

/-- The steps over a disk that has an answer to every write of its own, in view of all that
has happened before it. -/
def StepOn (polling : Polling) (disk : UsageMonitor → Written) (before : UsageMonitor)
    (action : Action) (after : UsageMonitor) : Prop :=
  polling.Step before action after ∧ ∀ written, action = .write written → written = disk before

/-- A write of the history thread. -/
def writes : Action → Bool
  | .write _ => true
  | _ => false

/-- A step that writes nothing is a step over any disk. -/
theorem StepOn.plain {before after : UsageMonitor}
    {action : Action} (stepped : polling.Step before action after)
    (plain : writes action = false) : polling.StepOn disk before action after := by
  refine ⟨stepped, ?_⟩
  rintro written rfl
  cases plain

/-- Where the worker stands in a round at a time past the bound on its fetches. -/
def Worker.InRound (time : Nat) : Worker → Prop
  | .fetching _ due _ => due ≤ time
  | .observing _ _ | .resting _ => True
  | .starting | .returned => False

/-- The round that was under way goes on, and nobody else has done anything. -/
structure Ending (first : UsageMonitor) (time : Nat) (monitor : UsageMonitor) : Prop where
  keys : monitor.keys = first.keys
  seen : monitor.seen = first.seen
  stop : monitor.stop = first.stop
  closing : monitor.closing = first.closing
  clock : monitor.clock = time
  worker : Worker.InRound time monitor.worker

/-- The steps that are left of a round. -/
def remaining (monitor : UsageMonitor) : Nat :=
  match monitor.worker with
  | .fetching _ _ fetches =>
      (fetches.countP fun fetch => fetch.2.isNone) + fetches.length + 2
  | .observing _ results => results.length + 1
  | _ => 0

/-- Each fetch has its result, or there is one without. -/
theorem collected_or_pending
    (fetches : List (Secret × Option (Except UsageFetchError (List UInt8)))) :
    (∃ results, collected fetches = some results ∧ results.length = fetches.length) ∨
      ∃ (index : Nat) (key : Secret), fetches[index]? = some (key, none) := by
  induction fetches with
  | nil => exact .inl ⟨[], rfl, rfl⟩
  | cons fetch rest inductionHypothesis =>
    obtain ⟨key, _ | result⟩ := fetch
    · exact .inr ⟨0, key, rfl⟩
    · rcases inductionHypothesis with ⟨results, complete, length⟩ | ⟨index, other, pending⟩
      · refine .inl ⟨(key, result) :: results, ?_,
          by rw [List.length_cons, length, List.length_cons]⟩
        unfold collected at complete ⊢
        simp [complete]
      · exact .inr ⟨index + 1, other, pending⟩

/-- A fetch with its result is one less without. -/
theorem countP_resolved {fetches : List (Secret × Option (Except UsageFetchError (List UInt8)))}
    {index : Nat} {key : Secret} {result : Except UsageFetchError (List UInt8)}
    (pending : fetches[index]? = some (key, none)) :
    ((fetches.set index (key, some result)).countP fun fetch => fetch.2.isNone) + 1 =
      fetches.countP fun fetch => fetch.2.isNone := by
  induction fetches generalizing index with
  | nil => simp at pending
  | cons fetch rest inductionHypothesis =>
    cases index with
    | zero =>
      simp only [List.getElem?_cons_zero, Option.some.injEq] at pending
      subst pending
      simp
    | succ index =>
      simp only [List.getElem?_cons_succ] at pending
      have fewer := inductionHypothesis pending
      simp only [List.set_cons_succ, List.countP_cons]
      omega

/-- A report with a clock that has been read is possible. -/
theorem reported_some (monitor : UsageMonitor) (now : Int) (key : Secret) (body : List UInt8) :
    ∃ reported, polling.reported monitor now key body monitor.clock = some reported := by
  unfold Polling.reported
  split
  · exact ⟨monitor, rfl⟩
  · refine ⟨_, Option.map_eq_some_iff.mpr ⟨_, Runs.guard_bind.mpr ⟨Nat.le_refl _, rfl⟩, rfl⟩⟩

/-- A kept body leaves the rest. -/
theorem kept_still (monitor : UsageMonitor) (now : Int) (key : Secret) (body : List UInt8) :
    (polling.kept monitor now key body).keys = monitor.keys ∧
      (polling.kept monitor now key body).seen = monitor.seen ∧
      (polling.kept monitor now key body).stop = monitor.stop ∧
      (polling.kept monitor now key body).closing = monitor.closing := by
  unfold Polling.kept
  split
  · exact ⟨rfl, rfl, rfl, rfl⟩
  · exact ⟨rfl, rfl, rfl, rfl⟩

/-- A response is gone through in one step. -/
theorem observe_step {now : Int} {key : Secret} {result : Except UsageFetchError (List UInt8)}
    {rest : List (Secret × Except UsageFetchError (List UInt8))}
    (observing : monitor.worker = .observing now ((key, result) :: rest)) :
    ∃ next, polling.Step monitor (.observe monitor.clock) next ∧
      next.worker = .observing now rest ∧ next.keys = monitor.keys ∧ next.seen = monitor.seen ∧
      next.stop = monitor.stop ∧ next.closing = monitor.closing ∧ next.clock = monitor.clock := by
  cases result with
  | error error =>
    refine ⟨{ monitor with worker := .observing now rest }, ?_, rfl, rfl, rfl, rfl, rfl, rfl⟩
    simp [Step, perform, observing]
  | ok body =>
    have clocks : (polling.kept monitor now key body).system = monitor.system :=
      kept_system monitor now key body
    obtain ⟨keys, seen, stop, closing⟩ := @kept_still polling monitor now key body
    obtain ⟨next, reported⟩ := @reported_some polling
      { polling.kept monitor now key body with worker := .observing now rest } now key body
    have read : UsageMonitor.clock { polling.kept monitor now key body with
        worker := .observing now rest } = monitor.clock := by
      simp only [UsageMonitor.clock, clocks]
    rw [read] at reported
    obtain ⟨same, still⟩ := reported_eq reported
    refine ⟨next, ?_, ?_, ?_, ?_, ?_, ?_, ?_⟩
    · simp only [Step, perform, observing]
      exact reported
    · rw [same]
    · rw [same]
      exact keys
    · rw [same]
      exact seen
    · rw [same]
      exact stop
    · rw [same]
      exact closing
    · exact still.trans (congrArg System.clock clocks)

/-- A round that is not over takes a step towards its end, which is no write. -/
theorem round_progress {first monitor : UsageMonitor} {time : Nat}
    (ending : Ending first time monitor) : (∃ wake, monitor.worker = .resting wake) ∨
      ∃ action next, polling.StepOn disk monitor action next ∧
      unaided action = true ∧ Ending first time next ∧
      remaining next < remaining monitor := by
  have worker := ending.worker
  cases at_ : monitor.worker with
  | starting | returned =>
    rw [at_] at worker
    cases worker
  | resting wake => exact .inl ⟨wake, rfl⟩
  | fetching now due fetches =>
    rw [at_] at worker
    right
    rcases collected_or_pending fetches with ⟨results, complete, length⟩ | ⟨index, key, pending⟩
    · refine ⟨.collect, { monitor with worker := .observing now results }, ?_, rfl,
        ⟨ending.keys, ending.seen, ending.stop, ending.closing, ending.clock, trivial⟩, ?_⟩
      · exact .plain (by simp [Step, perform, at_, complete]) rfl
      · simp only [remaining, at_]
        omega
    · have late : ¬ monitor.clock < due := by
        rw [ending.clock]
        exact Nat.not_lt.mpr worker
      refine ⟨.expire index, { monitor with
          worker := .fetching now due (fetches.set index (key, some (.error .timeout))) }, ?_, rfl,
        ⟨ending.keys, ending.seen, ending.stop, ending.closing, ending.clock, worker⟩, ?_⟩
      · exact .plain (by simp [Step, perform, resolve, at_, pending, late]) rfl
      · have fewer : ((fetches.set index (key, some (.error .timeout))).countP
            fun fetch => fetch.2.isNone) + 1 = fetches.countP fun fetch => fetch.2.isNone :=
          countP_resolved pending
        simp only [remaining, at_, List.length_set]
        omega
  | observing now results =>
    right
    cases results with
    | nil =>
      refine ⟨.rest, { monitor with worker := .resting (monitor.clock + polling.pollInterval) },
        ?_, rfl, ⟨ending.keys, ending.seen, ending.stop, ending.closing, ending.clock, trivial⟩, ?_⟩
      · exact .plain (by simp [Step, perform, at_]) rfl
      · simp [remaining, at_]
    | cons result rest =>
      obtain ⟨next, stepped, onward, keys, seen, stop, closing, clock⟩ :=
        @observe_step polling monitor now result.1 result.2 rest at_
      refine ⟨.observe monitor.clock, next, .plain stepped rfl, rfl, ?_, ?_⟩
      · refine ⟨keys.trans ending.keys, seen.trans ending.seen, stop.trans ending.stop,
          closing.trans ending.closing, clock.trans ending.clock, ?_⟩
        rw [onward]
        trivial
      · simp [remaining, at_, onward]

/-- A round that is under way can be over within the bound on its fetches. -/
theorem round_ends {time : Nat}
    (soon : monitor.clock ≤ time) (inRound : Worker.InRound time monitor.worker) :
    Runs.Reaches (polling.StepOn disk) (unaided · = true)
      (fun final => Ending monitor time final ∧ ∃ wake, final.worker = .resting wake) monitor := by
  let ticked : UsageMonitor :=
    { monitor with
      system := { monitor.system with clock := monitor.clock + (time - monitor.clock) } }
  have waits : polling.Step monitor (.other (.tick (time - monitor.clock))) ticked := rfl
  have clock : ticked.clock = time := by
    simp only [ticked, UsageMonitor.clock] at soon ⊢
    omega
  have ending : Ending monitor time ticked := ⟨rfl, rfl, rfl, rfl, clock, inRound⟩
  refine .before (.plain waits rfl) rfl ?_
  refine Runs.Reaches.descend (Ending monitor time) remaining ?_ ending
  intro current holds
  rcases @round_progress polling disk monitor current time holds with resting | step
  · exact .inl ⟨holds, resting⟩
  · exact .inr step

/-- From the top of the loop or from a round the worker can get to its `select!` within the
bound on one fetch. -/
theorem worker_rests (timed : Timed polling monitor) (alive : monitor.worker ≠ .returned) :
    Runs.Reaches (polling.StepOn disk) (unaided · = true)
      (fun final => (∃ wake, final.worker = .resting wake) ∧ final.stop = monitor.stop ∧
        final.closing = monitor.closing ∧ final.clock ≤ monitor.clock + fetchTimeout)
      monitor := by
  have rounds {current : UsageMonitor} (stop : current.stop = monitor.stop)
      (closing : current.closing = monitor.closing) (clock : current.clock = monitor.clock)
      (inRound : Worker.InRound (monitor.clock + fetchTimeout) current.worker) :
      Runs.Reaches (polling.StepOn disk) (unaided · = true)
        (fun final => (∃ wake, final.worker = .resting wake) ∧ final.stop = monitor.stop ∧
          final.closing = monitor.closing ∧ final.clock ≤ monitor.clock + fetchTimeout)
        current := by
    refine Runs.Reaches.mono (round_ends (by omega) inRound) ?_
    rintro final ⟨ending, resting⟩
    exact ⟨resting, ending.stop.trans stop, ending.closing.trans closing,
      Nat.le_of_eq ending.clock⟩
  cases at_ : monitor.worker with
  | starting =>
    have borrowed : polling.Step monitor (.borrow 0) { monitor with
        worker := .fetching 0 (monitor.clock + fetchTimeout)
          (monitor.keys.value.map fun key => (key, none)) } := by
      simp [Step, perform, at_]
    exact .before (.plain borrowed rfl) rfl (rounds rfl rfl rfl (Nat.le_refl _))
  | fetching now due fetches =>
    refine rounds rfl rfl rfl ?_
    rw [at_]
    exact timed.fetching now due fetches at_
  | observing | resting =>
    refine rounds rfl rfl rfl ?_
    rw [at_]
    trivial
  | returned => exact absurd at_ alive

/-- Told to stop, the worker can be gone within the bound on one fetch. -/
theorem worker_returns (disk : UsageMonitor → Written)
    (timed : Timed polling monitor) (told : monitor.stop = true) :
    Runs.Reaches (polling.StepOn disk) (unaided · = true)
      (fun final => final.worker = .returned ∧ final.closing = monitor.closing ∧
        final.clock ≤ monitor.clock + fetchTimeout) monitor := by
  by_cases ended : monitor.worker = .returned
  · exact .here ⟨ended, rfl, Nat.le_add_right _ _⟩
  · refine (worker_rests timed ended).trans ?_
    rintro current ⟨⟨wake, resting⟩, stop, closing, clock⟩
    have stepped : polling.Step current .stop current.workerReturns := by
      simp [Step, perform, resting, stop, told]
    exact .before (.plain stepped rfl) rfl (.here ⟨rfl, closing, clock⟩)

/-- The steps that are left to the history thread. -/
def backlog (monitor : UsageMonitor) : Nat :=
  2 * monitor.history.channel.buffer.length +
    match monitor.history.thread with
    | .receiving => 1
    | .writing _ => 2
    | .returned => 0

/-- The shutdown waits for the history thread, and no sink is left. -/
def Joining (time : Nat) (monitor : UsageMonitor) : Prop :=
  monitor.closing = .joiningHistory ∧ monitor.history.channel.sender = false ∧
    monitor.clock ≤ time

/-- The thread can always go on. -/
theorem history_progress {time : Nat} (joining : Joining time monitor) :
    monitor.history.thread = .returned ∨ ∃ action next, polling.StepOn disk monitor action next ∧
      unaided action = true ∧ Joining time next ∧ backlog next < backlog monitor := by
  obtain ⟨closing, gone, soon⟩ := joining
  cases thread : monitor.history.thread with
  | returned => exact .inl rfl
  | receiving =>
    right
    obtain ⟨⟨yielded, channel⟩, taken⟩ :=
      Option.isSome_iff_exists.mp (Channel.recv_enabled gone)
    cases yielded with
    | message record =>
      obtain ⟨buffered, _⟩ := Channel.recv_message taken
      refine ⟨.receive, { monitor with
          history := { monitor.history with channel := channel, thread := .writing record } },
        ?_, rfl, ⟨closing, (Channel.recv_sender taken).trans gone, soon⟩, ?_⟩
      · exact .plain (by simp [Step, perform, UsageHistory.receive, thread, taken]) rfl
      · simp only [backlog, thread, buffered, List.length_cons]
        omega
    | disconnected =>
      obtain ⟨empty, _, rfl⟩ := Channel.recv_disconnected taken
      refine ⟨.receive, { monitor with
          history := { monitor.history with
            channel := monitor.history.channel.dropReceiver, thread := .returned } },
        ?_, rfl, ⟨closing, gone, soon⟩, ?_⟩
      · exact .plain (by simp [Step, perform, UsageHistory.receive, thread, taken]) rfl
      · simp [backlog, thread, Channel.dropReceiver]
  | writing record =>
    right
    have writes : ∃ history, monitor.history.write polling.encode (disk monitor) = some history ∧
        history.channel = monitor.history.channel ∧ history.thread = .receiving := by
      unfold UsageHistory.write
      rw [thread]
      cases disk monitor with
      | done | failed => exact ⟨_, rfl, rfl, rfl⟩
    obtain ⟨history, put, channel, onward⟩ := writes
    refine ⟨.write (disk monitor), { monitor with history := history }, ⟨?_, ?_⟩, rfl,
      ⟨closing, ?_, soon⟩, ?_⟩
    · simp [Step, perform, put]
    · rintro outcome ⟨⟩
      rfl
    · rw [channel]
      exact gone
    · simp only [backlog, thread, channel, onward]
      omega

/-- A shutdown comes to its end. Whenever the shutdown of the monitor is under way, in
whatever state of a round, of the queue and of the history thread, the worker, the thread
and the caller can get to their ends by their own steps within the bound on one fetch, with
no answer from the endpoint and whatever the disk makes of each of the writes. The worker's
sink is gone before the thread is waited for, so the thread cannot wait for the worker.

Proof: told to stop, the worker comes to its `select!` within the bound on its fetches and
returns, which drops its sink. The handle drops the other and waits for the thread, whose
queue has no sender left, so each of its steps lowers the backlog. -/
theorem polling_stops (run : Runs.Run polling.Step (.start keys files system) trace last)
    (closing : last.closing = .awaitingWorker ∨ last.closing = .joiningHistory)
    (disk : UsageMonitor → Written) :
    Runs.Reaches (polling.StepOn disk) (unaided · = true)
      (fun final => final.closing = .returned ∧ final.worker = .returned ∧
        final.history.thread = .returned ∧ final.history.channel.buffer = [] ∧
        final.clock ≤ last.clock + fetchTimeout) last := by
  have wired := run.invariant Wired (start_wired keys files system) fun _ _ _ => step_wired
  have timed := run.invariant (Timed polling) (start_timed keys files system)
    fun _ _ _ => step_timed
  have joins (monitor : UsageMonitor) (sound : Wired monitor)
      (joining : Joining (last.clock + fetchTimeout) monitor) :
      Runs.Reaches (polling.StepOn disk) (unaided · = true)
        (fun final => (final.closing = .returned ∧ final.clock ≤ last.clock + fetchTimeout) ∧
          Wired final) monitor := by
    refine Runs.Reaches.keeping ?_ Wired sound fun _ _ _ _ stepped => step_wired stepped.1
    have emptied : Runs.Reaches (polling.StepOn disk) (unaided · = true)
        (fun final => Joining (last.clock + fetchTimeout) final ∧
          final.history.thread = .returned) monitor := by
      refine Runs.Reaches.descend (Joining (last.clock + fetchTimeout)) backlog ?_ joining
      intro current holds
      rcases history_progress holds with ended | step
      · exact .inl ⟨holds, ended⟩
      · exact .inr step
    refine emptied.trans ?_
    rintro current ⟨⟨waiting, _, soon⟩, ended⟩
    have stepped : polling.Step current .join { current with closing := .returned } := by
      simp [Step, perform, waiting, ended]
    exact .before (.plain stepped rfl) rfl (.here ⟨rfl, soon⟩)
  have finishes : Runs.Reaches (polling.StepOn disk) (unaided · = true)
      (fun final => (final.closing = .returned ∧ final.clock ≤ last.clock + fetchTimeout) ∧
        Wired final) last := by
    rcases closing with awaiting | joining
    · have told := wired.told fun serving => Closing.noConfusion (awaiting.symm.trans serving)
      have gone := (worker_returns disk timed told).keeping Wired wired
        fun _ _ _ _ stepped => step_wired stepped.1
      refine gone.trans ?_
      rintro current ⟨⟨ended, same, soon⟩, sound⟩
      have stepped : polling.Step current .awaitWorker { current with
          history := current.history.dropSinks true false
          closing := .joiningHistory } := by
        simp [Step, perform, same, awaiting, ended]
      have next := step_wired stepped sound
      refine .before (.plain stepped rfl) rfl (joins _ next ⟨rfl, ?_, soon⟩)
      have sender := next.sender
      have mine := (next.own (.inl rfl)).1
      have lent := next.worker.mpr ended
      rw [mine, lent] at sender
      exact sender
    · refine joins last wired ⟨joining, ?_, Nat.le_add_right _ _⟩
      obtain ⟨mine, ended⟩ := wired.own (.inl joining)
      rw [wired.sender, mine, wired.worker.mpr ended]
      rfl
  refine finishes.mono ?_
  rintro final ⟨⟨past, soon⟩, sound⟩
  have ended := sound.closed past
  exact ⟨past, (sound.own (.inr past)).2, ended, (sound.ended ended).2, soon⟩

/-- The shutdown comes while a fetch is out. -/
def shutDuringFetch : List Action := [.borrow 0, .shutdown]

/-- A disk whose first write fails. -/
def sampleDisk (monitor : UsageMonitor) : Written :=
  if monitor.history.writeFailures = 0 then .failed 3 (.os 28) else .done

/-- The shutdown ends although the fetch that is out is never answered. -/
theorem polling_stops_fetch :
    let last := Runs.reached samplePolling.perform sampleMonitor shutDuringFetch
    last.closing = .awaitingWorker ∧
      Runs.Reaches (samplePolling.StepOn sampleDisk) (unaided · = true)
        (fun final => final.closing = .returned ∧ final.worker = .returned ∧
          final.history.thread = .returned ∧ final.history.channel.buffer = [] ∧
          final.clock ≤ last.clock + fetchTimeout) last := by
  have enabled : (Runs.record samplePolling.perform sampleMonitor shutDuringFetch).isSome := by
    decide +kernel
  have closing : (Runs.reached samplePolling.perform sampleMonitor shutDuringFetch).closing =
      .awaitingWorker := by decide +kernel
  exact ⟨closing, polling_stops (Runs.replay_run enabled) (.inl closing) sampleDisk⟩

/-! ## Replaced keys -/

/-- The keys that a step starts a round with. -/
def borrowed (taken : Runs.Transition UsageMonitor Action) : Option (List Secret) :=
  match taken.label with
  | .borrow _ => some taken.before.keys.value
  | _ => none

/-- The keys of the last round of a run. -/
def lastAsked (trace : List (Runs.Transition UsageMonitor Action)) : Option (List Secret) :=
  (trace.filterMap borrowed).getLast?

/-- Between rounds, a set of keys that the worker has been told of was asked about. -/
structure Current (trace : List (Runs.Transition UsageMonitor Action))
    (monitor : UsageMonitor) : Prop where
  known : monitor.seen ≤ monitor.keys.version
  asked : monitor.worker ≠ .starting → monitor.seen = monitor.keys.version →
    lastAsked trace = some monitor.keys.value

/-- One more step's keys. -/
theorem lastAsked_extend (taken : Runs.Transition UsageMonitor Action) :
    lastAsked (trace ++ [taken]) = (borrowed taken).or (lastAsked trace) := by
  unfold lastAsked
  rw [Runs.filterMap_extend]
  cases borrowed taken with
  | none | some => simp

/-- A step that starts no round and tells the worker of nothing. -/
theorem Current.still (current : Current trace before) (keys : after.keys = before.keys)
    (seen : after.seen = before.seen)
    (worker : after.worker ≠ .starting → before.worker ≠ .starting)
    (unasked : borrowed ⟨before, action, after⟩ = none) :
    Current (trace ++ [⟨before, action, after⟩]) after := by
  constructor
  · rw [keys, seen]
    exact current.known
  · intro started told
    rw [lastAsked_extend, unasked, Option.none_or, keys]
    apply current.asked (worker started)
    rw [← seen, ← keys]
    exact told

/-- The monitor has the last keys. -/
theorem step_current (stepped : polling.Step before action after)
    (current : Current trace before) :
    Current (trace ++ [⟨before, action, after⟩]) after := by
  have past {worker : Worker} (at_ : before.worker = worker) (apart : worker ≠ .starting) :
      before.worker ≠ .starting := at_ ▸ apart
  cases step_turn stepped with
  | replaced keys =>
    have known := current.known
    constructor
    · simp only [Reload.Watch.sendReplace]
      omega
    · intro _ told
      simp only [Reload.Watch.sendReplace] at told
      omega
  | borrowed starting =>
    refine ⟨current.known, ?_⟩
    intro _ _
    rw [lastAsked_extend]
    rfl
  | answered at_ | expired at_ | collected at_ | skipped at_ | rested at_ | stopped at_ =>
    exact current.still rfl rfl (fun _ => past at_ nofun) rfl
  | @observed now read key body rest left observing still =>
    obtain ⟨keys, seen, _, _⟩ := @kept_still polling before now key body
    exact current.still keys seen (fun _ => past observing nofun) rfl
  | elapsed resting =>
    refine ⟨current.known, ?_⟩
    intro started
    exact absurd rfl started
  | changed resting =>
    refine ⟨Nat.le_refl _, ?_⟩
    intro started
    exact absurd rfl started
  | received | wrote | shut | awaited | joined | detached | other =>
    exact current.still rfl rfl id rfl

/-- No replacement of the keys is lost. In every state of every run in which the worker has
not returned, the last round asked about the current keys, or a round that asks about each
of them can begin within the bound on one fetch: neither a round that is under way nor the
interval between two rounds holds it up longer.

Proof: the round under way ends within the bound on a fetch, and the next one borrows the keys. -/
theorem replaced_keys_asked (run : Runs.Run polling.Step (.start keys files system) trace last)
    (alive : last.worker ≠ .returned) (disk : UsageMonitor → Written) :
    lastAsked trace = some last.keys.value ∨
      Runs.Reaches (polling.StepOn disk) (unaided · = true)
        (fun final => final.keys = last.keys ∧ final.clock ≤ last.clock + fetchTimeout ∧
          ∃ now due, final.worker =
            .fetching now due (last.keys.value.map fun key => (key, none))) last := by
  have timed := run.invariant (Timed polling) (start_timed keys files system)
    fun _ _ _ => step_timed
  have current : Current trace last := by
    clear timed alive
    induction run with
    | start => exact ⟨Nat.le_refl _, fun started => absurd rfl started⟩
    | extend earlier stepped inductionHypothesis => exact step_current stepped inductionHypothesis
  have begins {monitor : UsageMonitor} (starting : monitor.worker = .starting)
      (keys : monitor.keys = last.keys) (soon : monitor.clock ≤ last.clock + fetchTimeout) :
      Runs.Reaches (polling.StepOn disk) (unaided · = true)
        (fun final => final.keys = last.keys ∧ final.clock ≤ last.clock + fetchTimeout ∧
          ∃ now due, final.worker =
            .fetching now due (last.keys.value.map fun key => (key, none))) monitor := by
    have borrowed : polling.Step monitor (.borrow 0) { monitor with
        worker := .fetching 0 (monitor.clock + fetchTimeout)
          (monitor.keys.value.map fun key => (key, none)) } := by
      simp [Step, perform, starting]
    exact .before (.plain borrowed rfl) rfl (.here ⟨keys, soon, 0, _, by rw [keys]⟩)
  by_cases starting : last.worker = .starting
  · exact .inr (begins starting rfl (Nat.le_add_right _ _))
  by_cases told : last.seen = last.keys.version
  · exact .inl (current.asked starting told)
  · right
    have inRound : Worker.InRound (last.clock + fetchTimeout) last.worker := by
      cases at_ : last.worker with
      | starting => exact absurd at_ starting
      | returned => exact absurd at_ alive
      | fetching now due fetches => exact timed.fetching now due fetches at_
      | observing | resting => trivial
    refine (round_ends (Nat.le_add_right _ _) inRound).trans ?_
    rintro monitor ⟨ending, wake, resting⟩
    have unseen : monitor.seen ≠ monitor.keys.version := by
      rw [ending.seen, ending.keys]
      exact told
    have changed : polling.Step monitor .change
        { monitor with seen := monitor.keys.version, worker := .starting } := by
      simp [Step, perform, resting, unseen]
    exact .before (.plain changed rfl) rfl (begins rfl ending.keys (Nat.le_of_eq ending.clock))

/-- The keys are replaced while the old ones are asked about. -/
def replacedDuringFetch : List Action := [.borrow 0, .replaceKeys [⟨"b"⟩]]

/-- The new keys are asked about once the round for the old ones is over. -/
theorem replaced_keys_asked_fetch :
    let last := Runs.reached samplePolling.perform sampleMonitor replacedDuringFetch
    last.keys.value = [⟨"b"⟩] ∧
      (lastAsked (Runs.steps samplePolling.perform sampleMonitor replacedDuringFetch) =
          some last.keys.value ∨
        Runs.Reaches (samplePolling.StepOn sampleDisk) (unaided · = true)
          (fun final => final.keys = last.keys ∧ final.clock ≤ last.clock + fetchTimeout ∧
            ∃ now due, final.worker =
              .fetching now due (last.keys.value.map fun key => (key, none))) last) := by
  have enabled : (Runs.record samplePolling.perform sampleMonitor replacedDuringFetch).isSome := by
    decide +kernel
  have fetching : (Runs.reached samplePolling.perform sampleMonitor replacedDuringFetch).worker =
      .fetching 0 fetchTimeout [(⟨"a"⟩, none)] := rfl
  have alive : (Runs.reached samplePolling.perform sampleMonitor replacedDuringFetch).worker ≠
      .returned := by
    rw [fetching]
    nofun
  exact ⟨by decide +kernel, replaced_keys_asked (Runs.replay_run enabled) alive sampleDisk⟩

end Polling

end Orihsus.Usage
