import Orihsus.PoolInvariant
import Orihsus.UsageWorker

/-!
# The accounts of the usage history

Every record that the worker offers to its history is on disk, in the thread's hand, in the
queue, counted as failed or counted as dropped, in the order of the offers, in every
interleaving of the worker, the thread and the shutdown. The inversion of one step comes
first and carries the other laws of the worker as well.
-/

namespace Orihsus.Usage

open Audit (newline warnOnce Written)
open Channels (Channel)
open Pool (PoolPolicy Secret System)

namespace Polling

variable {polling : Polling} {before after last : UsageMonitor} {action : Action}
  {trace : List (Runs.Transition UsageMonitor Action)} {keys : List Secret}
  {files : String → List UInt8} {system : System}

/-! ## Inversion of one step -/

/-- Every way a step can go. -/
inductive Turn (polling : Polling) (before : UsageMonitor) : Action → UsageMonitor → Prop
  | replaced (keys : List Secret) :
      Turn polling before (.replaceKeys keys)
        { before with keys := (before.keys.sendReplace keys).1 }
  | borrowed {now : Int} (starting : before.worker = .starting) :
      Turn polling before (.borrow now)
        { before with
          worker := .fetching now (before.clock + fetchTimeout)
            (before.keys.value.map fun key => (key, none)) }
  | answered {now : Int} {due index : Nat} {key : Secret} {exchange : Exchange}
      {fetches : List (Secret × Option (Except UsageFetchError (List UInt8)))}
      (fetching : before.worker = .fetching now due fetches)
      (pending : fetches[index]? = some (key, none)) :
      Turn polling before (.answer index exchange)
        { before with worker := .fetching now due (fetches.set index (key, some (fetch exchange))) }
  | expired {now : Int} {due index : Nat} {key : Secret}
      {fetches : List (Secret × Option (Except UsageFetchError (List UInt8)))}
      (fetching : before.worker = .fetching now due fetches)
      (pending : fetches[index]? = some (key, none)) (late : due ≤ before.clock) :
      Turn polling before (.expire index)
        { before with
          worker := .fetching now due (fetches.set index (key, some (.error .timeout))) }
  | collected {now : Int} {due : Nat}
      {fetches : List (Secret × Option (Except UsageFetchError (List UInt8)))}
      {results : List (Secret × Except UsageFetchError (List UInt8))}
      (fetching : before.worker = .fetching now due fetches)
      (complete : collected fetches = some results) :
      Turn polling before .collect { before with worker := .observing now results }
  | skipped {now : Int} {read : Nat} {key : Secret} {error : UsageFetchError}
      {rest : List (Secret × Except UsageFetchError (List UInt8))}
      (observing : before.worker = .observing now ((key, .error error) :: rest)) :
      Turn polling before (.observe read) { before with worker := .observing now rest }
  | observed {now : Int} {read : Nat} {key : Secret} {body : List UInt8}
      {rest : List (Secret × Except UsageFetchError (List UInt8))} {left : System}
      (observing : before.worker = .observing now ((key, .ok body) :: rest))
      (still : left.clock = before.system.clock) :
      Turn polling before (.observe read)
        { polling.kept before now key body with worker := .observing now rest, system := left }
  | rested {now : Int} (observing : before.worker = .observing now []) :
      Turn polling before .rest
        { before with worker := .resting (before.clock + polling.pollInterval) }
  | elapsed {wake : Nat} (resting : before.worker = .resting wake) (due : wake ≤ before.clock) :
      Turn polling before .elapse { before with worker := .starting }
  | changed {wake : Nat} (resting : before.worker = .resting wake)
      (unseen : before.seen ≠ before.keys.version) :
      Turn polling before .change
        { before with seen := before.keys.version, worker := .starting }
  | stopped {wake : Nat} (resting : before.worker = .resting wake) (told : before.stop = true) :
      Turn polling before .stop before.workerReturns
  | received {history : UsageHistory} (taken : before.history.receive = some history) :
      Turn polling before .receive { before with history := history }
  | wrote {written : Written} {history : UsageHistory}
      (put : before.history.write polling.encode written = some history) :
      Turn polling before (.write written) { before with history := history }
  | shut (serving : before.closing = .serving) :
      Turn polling before .shutdown { before with stop := true, closing := .awaitingWorker }
  | awaited (awaiting : before.closing = .awaitingWorker) (ended : before.worker = .returned) :
      Turn polling before .awaitWorker
        { before with
          history := before.history.dropSinks true false
          closing := .joiningHistory }
  | joined (joining : before.closing = .joiningHistory)
      (ended : before.history.thread = .returned) :
      Turn polling before .join { before with closing := .returned }
  | detached (serving : before.closing = .serving) :
      Turn polling before .drop
        { before with
          stop := true
          history := before.history.dropSinks true false
          closing := .detached }
  | other {action : Pool.Action} {left : System} (passes : before.system.clock ≤ left.clock) :
      Turn polling before (.other action) { before with system := left }

/-- A report changes the pool and nothing else. -/
theorem reported_eq {monitor : UsageMonitor} {now : Int} {key : Secret} {body : List UInt8}
    {read : Nat} (reported : polling.reported monitor now key body read = some after) :
    after = { monitor with system := after.system } ∧
      after.system.clock = monitor.system.clock := by
  unfold Polling.reported at reported
  split at reported
  · cases reported
    exact ⟨rfl, rfl⟩
  · obtain ⟨⟨left, answer⟩, performed, rfl⟩ := Option.map_eq_some_iff.mp reported
    obtain ⟨_, same⟩ := Runs.guard_bind.mp performed
    cases same
    exact ⟨rfl, rfl⟩

/-- The observers leave the pool alone. -/
theorem kept_system (monitor : UsageMonitor) (now : Int) (key : Secret) (body : List UInt8) :
    (polling.kept monitor now key body).system = monitor.system := by
  unfold Polling.kept
  split <;> rfl

/-- A fetch that gets its result had none. -/
theorem resolve_eq {monitor : UsageMonitor} {index : Nat} {late : Bool}
    {result : Except UsageFetchError (List UInt8)}
    (resolved : resolve monitor index late result = some after) :
    ∃ now due fetches key, monitor.worker = .fetching now due fetches ∧
      fetches[index]? = some (key, none) ∧ (late = true → due ≤ monitor.clock) ∧
      after = { monitor with
        worker := .fetching now due (fetches.set index (key, some result)) } := by
  unfold resolve at resolved
  split at resolved
  · rename_i now due fetches fetching
    split at resolved
    · rename_i key pending
      split at resolved
      · cases resolved
      · rename_i inTime
        cases resolved
        refine ⟨now, due, fetches, key, fetching, pending, ?_, rfl⟩
        intro lately
        exact Nat.le_of_not_lt fun early => inTime ⟨lately, early⟩
    · cases resolved
  · cases resolved

/-- The inversion of a step. -/
theorem step_turn (stepped : polling.Step before action after) :
    Turn polling before action after := by
  unfold Step at stepped
  cases action with
  | replaceKeys keys =>
    cases stepped
    exact .replaced keys
  | borrow now =>
    simp only [perform] at stepped
    split at stepped
    · rename_i starting
      cases stepped
      exact .borrowed starting
    · cases stepped
  | answer index exchange =>
    obtain ⟨now, due, fetches, key, fetching, pending, _, rfl⟩ := resolve_eq stepped
    exact .answered fetching pending
  | expire index =>
    obtain ⟨now, due, fetches, key, fetching, pending, late, rfl⟩ := resolve_eq stepped
    exact .expired fetching pending (late rfl)
  | collect =>
    simp only [perform] at stepped
    split at stepped
    · rename_i fetching
      obtain ⟨results, complete, rfl⟩ := Option.map_eq_some_iff.mp stepped
      exact .collected fetching complete
    · cases stepped
  | observe read =>
    simp only [perform] at stepped
    split at stepped
    · rename_i observing
      cases stepped
      exact .skipped observing
    · rename_i observing
      obtain ⟨same, still⟩ := reported_eq stepped
      rw [same]
      dsimp only at still
      rw [kept_system] at still
      exact .observed observing still
    · cases stepped
  | rest =>
    simp only [perform] at stepped
    split at stepped
    · rename_i observing
      cases stepped
      exact .rested observing
    · cases stepped
  | elapse =>
    simp only [perform] at stepped
    split at stepped
    · rename_i resting
      split at stepped
      · rename_i due
        cases stepped
        exact .elapsed resting due
      · cases stepped
    · cases stepped
  | change =>
    simp only [perform] at stepped
    split at stepped
    · rename_i resting
      split at stepped
      · cases stepped
      · rename_i unseen
        cases stepped
        exact .changed resting unseen
    · cases stepped
  | stop =>
    simp only [perform] at stepped
    split at stepped
    · rename_i resting
      split at stepped
      · rename_i told
        cases stepped
        exact .stopped resting told
      · cases stepped
    · cases stepped
  | receive =>
    obtain ⟨history, taken, rfl⟩ := Option.map_eq_some_iff.mp stepped
    exact .received taken
  | write written =>
    obtain ⟨history, put, rfl⟩ := Option.map_eq_some_iff.mp stepped
    exact .wrote put
  | shutdown =>
    simp only [perform] at stepped
    split at stepped
    · rename_i serving
      cases stepped
      exact .shut serving
    · cases stepped
  | awaitWorker =>
    simp only [perform] at stepped
    split at stepped
    · rename_i awaiting ended
      cases stepped
      exact .awaited awaiting ended
    · cases stepped
  | join =>
    simp only [perform] at stepped
    split at stepped
    · rename_i both
      cases stepped
      exact .joined both.1 both.2
    · cases stepped
  | drop =>
    simp only [perform] at stepped
    split at stepped
    · rename_i serving
      cases stepped
      exact .detached serving
    · cases stepped
  | other action =>
    obtain ⟨⟨left, answer⟩, performed, rfl⟩ := Option.map_eq_some_iff.mp stepped
    have moved : System.Step polling.policy polling.libraries.fingerprint before.system action
        left := by
      rw [System.Step, performed]
      rfl
    exact .other (System.clock_le moved)

/-! ## The history's accounts -/

/-- The record that a step offers to the history. -/
def offer (polling : Polling) (taken : Runs.Transition UsageMonitor Action) :
    Option UsageKeySnapshot :=
  match taken.label, taken.before.worker with
  | .observe _, .observing now ((key, .ok body) :: _) =>
      parseHistoryRecord polling.libraries body now key
  | _, _ => none

/-- The records that a run offers to the history. -/
def offers (polling : Polling) (trace : List (Runs.Transition UsageMonitor Action)) :
    List UsageKeySnapshot :=
  trace.filterMap polling.offer

/-- The record that a step of the history thread deals with, and what the disk made of it. -/
def outcome (taken : Runs.Transition UsageMonitor Action) : Option (UsageKeySnapshot × Written) :=
  match taken.label, taken.before.history.thread with
  | .write written, .writing record => some (record, written)
  | _, _ => none

/-- The records that the history thread has dealt with. -/
def outcomes (trace : List (Runs.Transition UsageMonitor Action)) :
    List (UsageKeySnapshot × Written) :=
  trace.filterMap outcome

/-- The bytes that the outcomes put into a file. -/
def appended (polling : Polling) (file : String) (outcomes : List (UsageKeySnapshot × Written)) :
    List UInt8 :=
  (outcomes.filter fun outcome => dayFile outcome.1 = file).flatMap fun outcome =>
    UsageHistory.put (polling.encode outcome.1 ++ [newline]) outcome.2

/-- What the history was offered and what became of it. The records that were accepted are
those that were dealt with, the one in the thread's hand and those in the queue. -/
structure Accounts (polling : Polling) (files : String → List UInt8)
    (offers : List UsageKeySnapshot) (outcomes : List (UsageKeySnapshot × Written))
    (history : UsageHistory) : Prop where
  ordered :
    (outcomes.map Prod.fst ++ history.thread.inHand ++ history.channel.buffer).Sublist offers
  counted : offers.length = outcomes.length + history.thread.inHand.length +
    history.channel.buffer.length + history.dropped
  failures : history.writeFailures = outcomes.countP fun outcome => decide (outcome.2 ≠ .done)
  written : ∀ file, history.files file = files file ++ polling.appended file outcomes
  warned : history.stderr = if history.warned then [historyWarning] else []
  silent : history.warned = decide (0 < history.dropped + history.writeFailures)

/-- One line of warning, whatever is warned of. -/
theorem warnOnce_once {warned : Bool} {stderr : List String}
    (once : stderr = if warned then [historyWarning] else []) :
    stderr ++ warnOnce warned historyWarning = [historyWarning] := by
  cases warned with
  | false | true => simp [once, warnOnce]

/-- Dropping sinks leaves the queue as it is. -/
theorem dropSinks_buffer (history : UsageHistory) (own worker : Bool) :
    (history.dropSinks own worker).channel.buffer = history.channel.buffer := by
  unfold UsageHistory.dropSinks
  dsimp only
  split <;> rfl

namespace Accounts

variable {offers : List UsageKeySnapshot} {outcomes : List (UsageKeySnapshot × Written)}
  {history next : UsageHistory}

/-- A record is offered. -/
theorem offered (accounts : Accounts polling files offers outcomes history)
    (record : UsageKeySnapshot) :
    Accounts polling files (offers ++ [record]) outcomes (history.tryRecord record) := by
  unfold UsageHistory.tryRecord
  split
  · rename_i channel accepted
    obtain ⟨rfl, _⟩ := Channel.trySend_ok accepted
    refine ⟨?_, ?_, accounts.failures, accounts.written, accounts.warned, accounts.silent⟩
    · rw [← List.append_assoc]
      exact accounts.ordered.append (List.Sublist.refl _)
    · have counted := accounts.counted
      simp only [List.length_append, List.length_singleton]
      omega
  · refine ⟨?_, ?_, accounts.failures, accounts.written, ?_, ?_⟩
    · exact accounts.ordered.trans (List.sublist_append_left _ _)
    · have counted := accounts.counted
      simp only [List.length_append, List.length_singleton]
      omega
    · exact warnOnce_once accounts.warned
    · refine (decide_eq_true ?_).symm
      dsimp only
      omega

/-- The thread takes a record, or ends. -/
theorem received (accounts : Accounts polling files offers outcomes history)
    (taken : history.receive = some next) :
    Accounts polling files offers outcomes next := by
  unfold UsageHistory.receive at taken
  split at taken
  · rename_i record channel receiving first
    cases taken
    have moved : history.thread.inHand ++ history.channel.buffer = record :: channel.buffer := by
      rw [receiving, (Channel.recv_message first).1]
      rfl
    have counted := accounts.counted
    have ordered := accounts.ordered
    rw [List.append_assoc, moved] at ordered
    have lengths := congrArg List.length moved
    rw [List.length_append, List.length_cons] at lengths
    refine ⟨?_, ?_, accounts.failures, accounts.written, accounts.warned, accounts.silent⟩
    · rw [List.append_assoc]
      exact ordered
    · simp only [Writing.inHand, List.length_singleton]
      omega
  · rename_i channel receiving ended
    cases taken
    obtain ⟨empty, _, rfl⟩ := Channel.recv_disconnected ended
    have counted := accounts.counted
    have ordered := accounts.ordered
    rw [receiving] at counted ordered
    exact ⟨ordered, counted, accounts.failures, accounts.written, accounts.warned,
      accounts.silent⟩
  · cases taken

/-- One more outcome is appended to its file and to no other. -/
theorem appended_snoc (file : String) (record : UsageKeySnapshot) (written : Written) :
    polling.appended file (outcomes ++ [(record, written)]) =
      polling.appended file outcomes ++
        if dayFile record = file then
          UsageHistory.put (polling.encode record ++ [newline]) written
        else [] := by
  unfold Polling.appended
  rw [List.filter_append, List.flatMap_append]
  by_cases same : dayFile record = file
  · simp [same]
  · simp [same]

/-- The thread has dealt with its record. -/
theorem wrote {written : Written} {record : UsageKeySnapshot}
    (accounts : Accounts polling files offers outcomes history)
    (writing : history.thread = .writing record)
    (put : history.write polling.encode written = some next) :
    Accounts polling files offers (outcomes ++ [(record, written)]) next := by
  have ordered := accounts.ordered
  have counted := accounts.counted
  rw [writing] at ordered counted
  have sorted : ((outcomes ++ [(record, written)]).map Prod.fst ++ [] ++
      history.channel.buffer).Sublist offers := by
    rw [List.map_append, List.append_nil]
    exact ordered
  have lengths : offers.length = (outcomes ++ [(record, written)]).length + 0 +
      history.channel.buffer.length + history.dropped := by
    rw [List.length_append, List.length_singleton]
    exact counted
  have contents (file : String) : Function.update history.files (dayFile record)
      (history.files (dayFile record) ++
        UsageHistory.put (polling.encode record ++ [newline]) written) file =
      files file ++ polling.appended file (outcomes ++ [(record, written)]) := by
    rw [appended_snoc, ← List.append_assoc, ← accounts.written, Function.update_apply]
    by_cases same : file = dayFile record
    · subst same
      simp
    · rw [if_neg same, if_neg (Ne.symm same), List.append_nil]
  have failures := accounts.failures
  unfold UsageHistory.write at put
  rw [writing] at put
  cases written with
  | done =>
    cases put
    refine ⟨sorted, lengths, ?_, contents, accounts.warned, accounts.silent⟩
    rw [List.countP_append]
    simpa using failures
  | failed count error =>
    cases put
    refine ⟨sorted, lengths, ?_, contents, warnOnce_once accounts.warned, ?_⟩
    · rw [List.countP_append, failures]
      simp
    · refine (decide_eq_true ?_).symm
      dsimp only
      omega

/-- Dropping sinks changes no account. -/
theorem dropSinks (accounts : Accounts polling files offers outcomes history)
    (own worker : Bool) :
    Accounts polling files offers outcomes (history.dropSinks own worker) := by
  refine ⟨?_, ?_, accounts.failures, accounts.written, accounts.warned, accounts.silent⟩
  · rw [dropSinks_buffer]
    exact accounts.ordered
  · rw [dropSinks_buffer]
    exact accounts.counted

end Accounts

/-- The observers of a response leave the history as a call of `try_record` does. -/
theorem kept_history (monitor : UsageMonitor) (now : Int) (key : Secret) (body : List UInt8) :
    (polling.kept monitor now key body).history =
      (parseHistoryRecord polling.libraries body now key).elim monitor.history
        monitor.history.tryRecord := by
  unfold Polling.kept
  split
  · rename_i snapshot parsed
    rw [parsed]
    rfl
  · rename_i unparsed
    rw [unparsed]
    rfl

/-- Every step keeps the accounts. -/
theorem step_accounts (stepped : polling.Step before action after)
    (accounts : Accounts polling files (polling.offers trace) (outcomes trace) before.history) :
    Accounts polling files (polling.offers (trace ++ [⟨before, action, after⟩]))
      (outcomes (trace ++ [⟨before, action, after⟩])) after.history := by
  unfold Polling.offers Polling.outcomes at accounts ⊢
  rw [Runs.filterMap_extend, Runs.filterMap_extend]
  have quiet {history : UsageHistory} (unoffered : polling.offer ⟨before, action, after⟩ = none)
      (unwritten : outcome ⟨before, action, after⟩ = none)
      (same : Accounts polling files (trace.filterMap polling.offer) (trace.filterMap outcome)
        history) :
      Accounts polling files
        (trace.filterMap polling.offer ++ (polling.offer ⟨before, action, after⟩).toList)
        (trace.filterMap outcome ++ (outcome ⟨before, action, after⟩).toList) history := by
    rw [unoffered, unwritten, Option.toList_none, Option.toList_none, List.append_nil,
      List.append_nil]
    exact same
  cases step_turn stepped with
  | replaced | borrowed | answered | expired | collected | rested | elapsed | changed | shut
  | joined | other => exact quiet rfl rfl accounts
  | skipped observing =>
    refine quiet ?_ rfl accounts
    simp only [Polling.offer, observing]
  | @observed now read key body rest left observing still =>
    have offered : polling.offer ⟨before, .observe read, { polling.kept before now key body with
        worker := .observing now rest, system := left }⟩ =
        parseHistoryRecord polling.libraries body now key := by
      simp only [Polling.offer, observing]
    have unwritten : outcome ⟨before, .observe read, { polling.kept before now key body with
        worker := .observing now rest, system := left }⟩ = none := rfl
    rw [offered, unwritten, Option.toList_none, List.append_nil]
    dsimp only
    rw [kept_history]
    cases parseHistoryRecord polling.libraries body now key with
    | none => simpa using accounts
    | some snapshot => exact accounts.offered snapshot
  | stopped => exact quiet rfl rfl (accounts.dropSinks false true)
  | received taken => exact quiet rfl rfl (accounts.received taken)
  | @wrote written history put =>
    cases thread : before.history.thread with
    | receiving | returned =>
      unfold UsageHistory.write at put
      rw [thread] at put
      cases put
    | writing record =>
      have handled : outcome ⟨before, .write written, { before with history := history }⟩ =
          some (record, written) := by
        simp only [outcome, thread]
      rw [handled]
      simpa [Polling.offer] using accounts.wrote thread put
  | awaited | detached => exact quiet rfl rfl (accounts.dropSinks true false)

/-- So does every run. -/
theorem run_accounts
    (run : Runs.Run polling.Step (.start keys files system) trace last) :
    Accounts polling files (polling.offers trace) (outcomes trace) last.history := by
  induction run with
  | start => exact ⟨List.Sublist.refl _, rfl, rfl, fun _ => (List.append_nil _).symm, rfl, rfl⟩
  | extend earlier stepped inductionHypothesis => exact step_accounts stepped inductionHypothesis

/-! ## How the ends go together -/

/-- The ends of the channel, the worker and the shutdown. -/
structure Wired (monitor : UsageMonitor) : Prop where
  sender : monitor.history.channel.sender =
    (monitor.history.ownSink || monitor.history.workerSink)
  worker : monitor.history.workerSink = false ↔ monitor.worker = .returned
  own : monitor.closing = .joiningHistory ∨ monitor.closing = .returned →
    monitor.history.ownSink = false ∧ monitor.worker = .returned
  ended : monitor.history.thread = .returned →
    monitor.history.channel.sender = false ∧ monitor.history.channel.buffer = []
  closed : monitor.closing = .returned → monitor.history.thread = .returned
  told : monitor.closing ≠ .serving → monitor.stop = true

/-- A step that leaves the history and the shutdown alone, of a worker that goes on. -/
theorem Wired.still (wired : Wired before) (history : after.history = before.history)
    (worker : after.worker = .returned ↔ before.worker = .returned)
    (closing : after.closing = before.closing) (stop : after.stop = before.stop) :
    Wired after := by
  constructor
  · rw [history]
    exact wired.sender
  · rw [history, worker]
    exact wired.worker
  · rw [closing, history, worker]
    exact wired.own
  · rw [history]
    exact wired.ended
  · rw [closing, history]
    exact wired.closed
  · rw [closing, stop]
    exact wired.told

/-- The queue has a sender while a sink is left. -/
theorem dropSinks_sender {history : UsageHistory} (own worker : Bool)
    (sender : history.channel.sender = (history.ownSink || history.workerSink)) :
    (history.dropSinks own worker).channel.sender =
      ((history.ownSink && !own) || (history.workerSink && !worker)) := by
  unfold UsageHistory.dropSinks
  dsimp only
  split
  · rename_i remains
    rw [sender, remains]
    simp only [Bool.or_eq_true, Bool.and_eq_true] at remains ⊢
    exact remains.imp And.left And.left
  · rename_i gone
    rw [Bool.eq_false_of_not_eq_true gone]
    rfl

/-- Dropping sinks after the end of the thread changes nothing for it. -/
theorem dropSinks_ended {history : UsageHistory} (own worker : Bool)
    (sender : history.channel.sender = (history.ownSink || history.workerSink))
    (ended : history.channel.sender = false ∧ history.channel.buffer = []) :
    (history.dropSinks own worker).channel.sender = false ∧
      (history.dropSinks own worker).channel.buffer = [] := by
  rw [dropSinks_sender own worker sender, dropSinks_buffer]
  have gone := sender.symm.trans ended.1
  rw [Bool.or_eq_false_iff] at gone
  rw [gone.1, gone.2]
  exact ⟨rfl, ended.2⟩

/-- An offer keeps the sinks and the thread. -/
theorem tryRecord_kept (history : UsageHistory) (record : UsageKeySnapshot) :
    (history.tryRecord record).channel.sender = history.channel.sender ∧
      (history.tryRecord record).ownSink = history.ownSink ∧
      (history.tryRecord record).workerSink = history.workerSink ∧
      (history.tryRecord record).thread = history.thread := by
  unfold UsageHistory.tryRecord
  split
  · rename_i channel accepted
    obtain ⟨rfl, _⟩ := Channel.trySend_ok accepted
    exact ⟨rfl, rfl, rfl, rfl⟩
  · exact ⟨rfl, rfl, rfl, rfl⟩

/-- Going through a response keeps the ends: only a worker that has its sink does it. -/
theorem Wired.observed {now : Int} {key : Secret} {body : List UInt8} {left : System}
    {rest : List (Secret × Except UsageFetchError (List UInt8))} (wired : Wired before)
    (observing : before.worker = .observing now ((key, .ok body) :: rest)) :
    Wired { polling.kept before now key body with
      worker := .observing now rest, system := left } := by
  have going : before.worker ≠ .returned := by
    rw [observing]
    nofun
  have alive : before.history.thread ≠ .returned := by
    intro ended
    have gone := wired.sender.symm.trans (wired.ended ended).1
    rw [Bool.or_eq_false_iff] at gone
    exact going (wired.worker.mp gone.2)
  unfold Polling.kept
  split
  · rename_i snapshot parsed
    obtain ⟨sender, own, worker, thread⟩ := tryRecord_kept before.history snapshot
    constructor
    · dsimp only
      rw [sender, own, worker]
      exact wired.sender
    · dsimp only
      rw [worker, wired.worker]
      exact ⟨fun ended => absurd ended going, nofun⟩
    · intro past
      exact absurd (wired.own past).2 going
    · dsimp only
      rw [thread]
      intro ended
      exact absurd ended alive
    · intro past
      exact absurd (wired.own (.inr past)).2 going
    · exact wired.told
  · refine wired.still rfl ?_ rfl rfl
    exact ⟨nofun, fun ended => absurd ended going⟩

/-- The thread keeps the ends. -/
theorem Wired.received {history : UsageHistory} (wired : Wired before)
    (taken : before.history.receive = some history) : Wired { before with history := history } := by
  have running : before.closing ≠ .returned := by
    intro past
    have ended := wired.closed past
    unfold UsageHistory.receive at taken
    rw [ended] at taken
    cases taken
  unfold UsageHistory.receive at taken
  split at taken
  · rename_i record channel receiving first
    cases taken
    constructor
    · dsimp only
      rw [Channels.Channel.recv_sender first]
      exact wired.sender
    · exact wired.worker
    · exact wired.own
    · nofun
    · intro past
      exact absurd past running
    · exact wired.told
  · rename_i channel receiving ended
    cases taken
    obtain ⟨empty, gone, rfl⟩ := Channel.recv_disconnected ended
    exact ⟨wired.sender, wired.worker, wired.own, fun _ => ⟨gone, empty⟩, fun _ => rfl, wired.told⟩
  · cases taken

/-- So does a write. -/
theorem Wired.wrote {history : UsageHistory} {written : Written} (wired : Wired before)
    (put : before.history.write polling.encode written = some history) :
    Wired { before with history := history } := by
  unfold UsageHistory.write at put
  split at put
  · rename_i record writing
    have running : before.closing ≠ .returned := by
      intro past
      rw [wired.closed past] at writing
      cases writing
    cases written with
    | done | failed =>
      cases put
      exact ⟨wired.sender, wired.worker, wired.own, nofun, fun past => absurd past running,
        wired.told⟩
  · cases put

/-- Every step keeps the sinks and the worker together. -/
theorem step_wired (stepped : polling.Step before action after) (wired : Wired before) :
    Wired after := by
  have going {worker : Worker} (at_ : before.worker = worker) (apart : worker ≠ .returned)
      {next : Worker} (onward : next ≠ .returned) :
      next = .returned ↔ before.worker = .returned := by
    rw [at_]
    exact ⟨fun ended => absurd ended onward, fun ended => absurd ended apart⟩
  cases step_turn stepped with
  | replaced | other => exact wired.still rfl Iff.rfl rfl rfl
  | borrowed at_ | answered at_ | expired at_ | collected at_ | skipped at_ | rested at_
  | elapsed at_ | changed at_ => exact wired.still rfl (going at_ nofun nofun) rfl rfl
  | observed observing => exact wired.observed observing
  | stopped resting told =>
    have alive : before.worker ≠ .returned := by
      rw [resting]
      nofun
    refine ⟨?_, ?_, ?_, ?_, ?_, wired.told⟩
    · exact (dropSinks_sender false true wired.sender).trans (by simp [UsageMonitor.workerReturns,
        UsageHistory.dropSinks])
    · simp [UsageMonitor.workerReturns, UsageHistory.dropSinks]
    · intro past
      exact absurd (wired.own past).2 alive
    · intro ended
      exact dropSinks_ended false true wired.sender (wired.ended ended)
    · exact wired.closed
  | received taken => exact wired.received taken
  | wrote put => exact wired.wrote put
  | shut serving =>
    exact ⟨wired.sender, wired.worker, nofun, wired.ended, nofun, fun _ => rfl⟩
  | awaited awaiting ended =>
    refine ⟨?_, ?_, ?_, ?_, nofun, fun _ => wired.told (by rw [awaiting]; nofun)⟩
    · exact (dropSinks_sender true false wired.sender).trans (by simp [UsageHistory.dropSinks])
    · simpa [UsageHistory.dropSinks] using wired.worker
    · intro _
      exact ⟨by simp [UsageHistory.dropSinks], ended⟩
    · intro finished
      exact dropSinks_ended true false wired.sender (wired.ended finished)
  | joined joining ended =>
    exact ⟨wired.sender, wired.worker, fun _ => wired.own (.inl joining), wired.ended,
      fun _ => ended, fun _ => wired.told (by rw [joining]; nofun)⟩
  | detached serving =>
    refine ⟨?_, ?_, nofun, ?_, nofun, fun _ => rfl⟩
    · exact (dropSinks_sender true false wired.sender).trans (by simp [UsageHistory.dropSinks])
    · simpa [UsageHistory.dropSinks] using wired.worker
    · intro finished
      exact dropSinks_ended true false wired.sender (wired.ended finished)

/-- They are so at the start. -/
theorem start_wired (keys : List Secret) (files : String → List UInt8) (system : System) :
    Wired (.start keys files system) :=
  ⟨rfl, ⟨nofun, nofun⟩, nofun, nofun, nofun, fun closing => absurd rfl closing⟩

/-- What the history owes nobody. In every state of every run the records that were offered
to the history are, in their order and but for those it counted as dropped, the ones its
thread has dealt with, the one in its hand and those in the queue. Each file holds what it
held before and the lines of its day in that order, a failed write being counted and having
put down a first part of its line. Its one warning is printed exactly if something was
dropped or failed. Once the shutdown has returned nothing is in between any more.

Proof: every step keeps the accounts, and the worker's end empties the queue. -/
theorem history_accounted (run : Runs.Run polling.Step (.start keys files system) trace last) :
    Accounts polling files (polling.offers trace) (outcomes trace) last.history ∧
      (last.closing = .returned →
        ((outcomes trace).map Prod.fst).Sublist (polling.offers trace) ∧
          (polling.offers trace).length = (outcomes trace).length + last.history.dropped) := by
  have accounts := run_accounts run
  have wired := run.invariant Wired (start_wired keys files system) fun _ _ _ => step_wired
  refine ⟨accounts, ?_⟩
  intro past
  have ended := wired.closed past
  have ordered := accounts.ordered
  have counted := accounts.counted
  rw [ended, (wired.ended ended).2] at ordered counted
  simp only [Writing.inHand, List.append_nil] at ordered
  simp only [Writing.inHand, List.length_nil, Nat.add_zero] at counted
  exact ⟨ordered, counted⟩

/-- A worker over libraries that read every body but the empty one as an empty document. -/
def samplePolling : Polling where
  libraries :=
    { parseJson := fun body => if body = [] then none else some (.object [])
      parseDate := fun _ => none
      toRfc3339 := fun _ => "2026-01-02T03:04:05.000Z"
      fingerprint := System.sampleFingerprint }
  encode := fun _ => [123, 125]
  softThresholdPercent := 90
  pollInterval := 60
  policy := System.samplePolicy

/-- The monitor of a pool with one key, over an empty directory. -/
def sampleMonitor : UsageMonitor := .start [⟨"a"⟩] (fun _ => []) System.onlyA

/-- One round whose record gets to the disk, and a shutdown. -/
def oneRound : List Action :=
  [.borrow 0, .answer 0 (.answered 200 none [.chunk [1]]), .collect, .observe 0, .rest,
    .shutdown, .receive, .stop, .awaitWorker, .write .done, .receive, .join]

/-- The accounts of one round. -/
theorem history_accounted_round :
    let last := Runs.reached samplePolling.perform sampleMonitor oneRound
    let trace := Runs.steps samplePolling.perform sampleMonitor oneRound
    last.closing = .returned ∧
      Accounts samplePolling (fun _ => []) (samplePolling.offers trace) (outcomes trace)
        last.history ∧
      (samplePolling.offers trace).length = (outcomes trace).length + last.history.dropped := by
  have enabled : (Runs.record samplePolling.perform sampleMonitor oneRound).isSome := by
    decide +kernel
  have past : (Runs.reached samplePolling.perform sampleMonitor oneRound).closing = .returned := by
    decide +kernel
  have accounted := history_accounted (Runs.replay_run enabled)
  exact ⟨past, accounted.1, (accounted.2 past).2⟩

end Polling

end Orihsus.Usage
