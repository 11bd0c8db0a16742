import Orihsus.Failover

/-!
# Runs of the failover loop

What one proxied request does over a whole run: the requests it sends, the reports
it makes, the responses it saves and the outcome it ends with, each read off the
steps of the run. The bound on its attempts is the pool's: the calls that the loop
and everyone else make on the pool are a run of the pool.
-/

namespace Orihsus.Pool.System

variable {policy : PoolPolicy} {fingerprint : String → String} {before after first last : System}
  {action : Action} {given : Option AttemptResult} {request : Nat}

/-- Selections handed out are never taken back. -/
theorem issued_kept (performed : before.perform policy fingerprint action = some (after, given))
    {selection : Selection} (issued : selection ∈ before.issued) : selection ∈ after.issued := by
  have performs := perform_cases performed
  cases performs with
  | selected call waiting room tried => exact List.mem_append_left _ issued
  | _ => exact issued

/-- A call leaves its request in place. It is idle once the call has answered, and
a selection it answers with has been handed out. -/
theorem call_leaves {call : Action}
    (calls : call = .next request ∨ call = .nextImmediate request ∨ call = .advance request)
    (performed : before.perform policy fingerprint call = some (after, given)) :
    ∃ caller, after.callers[request]? = some caller ∧
      (given.isSome → caller.phase = .idle) ∧
      ∀ selection, given = some (.selected selection) → selection ∈ after.issued := by
  have performs := perform_cases performed
  cases performs with
  | @quiet action asked caller phase answer call waiting step =>
    obtain rfl : asked = request := by
      rcases call with rfl | rfl | rfl <;> simpa using calls
    refine ⟨⟨caller.attempts, phase⟩, ?_, ?_, ?_⟩
    · change (before.callers.set asked _)[asked]? = _
      rw [callers_set waiting, if_pos rfl]
    · intro answered
      generalize caller.phase = start at step
      cases step with
      | _ => first | rfl | cases answered
    · intro selection selected
      exact absurd selected step.not_selected
  | @selected action asked caller selection claimed call waiting room tried =>
    obtain rfl : asked = request := by
      rcases call with rfl | rfl <;> simpa using calls
    refine ⟨⟨caller.attempts.markUsed selection, .idle⟩, ?_, fun _ => rfl, ?_⟩
    · change (before.callers.set asked _)[asked]? = _
      rw [callers_set waiting, if_pos rfl]
    · intro other same
      cases same
      exact List.mem_append_right _ (List.mem_singleton_self _)
  | _ => simp at calls

/-- An immediate call always answers, and never asks to wait. -/
theorem nextImmediate_answers
    (performed : before.perform policy fingerprint (.nextImmediate request) = some (after, given)) :
    given = some .exhausted ∨ ∃ selection, given = some (.selected selection) := by
  obtain ⟨caller, waiting, rest⟩ := Option.bind_eq_some_iff.mp performed
  obtain ⟨idle, done⟩ := Runs.guard_bind.mp rest
  have answers : some (caller.attempts.nextImmediate policy before.pool before.clock).2.2 = given :=
    congrArg Prod.snd (Option.some.inj done)
  rw [← answers]
  unfold RequestAttempts.nextImmediate
  split
  · exact .inl rfl
  · split
    · exact .inr ⟨_, rfl⟩
    · exact .inl rfl

/-- The start of a waiting call answers only that the request is exhausted. -/
theorem next_answers
    (performed : before.perform policy fingerprint (.next request) = some (after, given)) :
    given = none ∨ given = some .exhausted := by
  obtain ⟨caller, waiting, rest⟩ := Option.bind_eq_some_iff.mp performed
  obtain ⟨idle, done⟩ := Runs.guard_bind.mp rest
  cases done
  unfold Caller.next
  split
  · exact .inr rfl
  · exact .inl rfl

/-- The selection in the answer of a call, for the request that made it. -/
def handedBy (request : Nat) : Action → Option AttemptResult → Option Selection
  | .nextImmediate asked, some (.selected selection)
  | .advance asked, some (.selected selection) => if asked = request then some selection else none
  | _, _ => none

/-- What an action hands out. -/
theorem handed_performed
    (performed : before.perform policy fingerprint action = some (after, given)) :
    handed policy fingerprint request ⟨before, action, after⟩ = handedBy request action given := by
  have answers : before.answer policy fingerprint action = given := by
    simp [answer, performed]
  rw [handed, answers]
  rfl

/-- A handed selection carries the fingerprint of its own key. -/
theorem handed_printed {trace : List (Runs.Transition System Action)}
    (initial : Initial policy fingerprint first)
    (run : Runs.Run (Step policy fingerprint) first trace last) {selection : Selection}
    (member : selection ∈ selections policy fingerprint request trace) :
    selection.fingerprint = fingerprint selection.key.asStr := by
  obtain ⟨taken, inside, hands⟩ := List.mem_filterMap.mp member
  obtain ⟨earlier, later, rfl⟩ := List.append_of_mem inside
  obtain ⟨upTo, stepped, _⟩ := run.split
  obtain ⟨caller, waiting⟩ := handed_waiting stepped hands
  have none : first.callers = [] := by
    obtain ⟨_, _, none, _⟩ := initial
    exact none
  have tracked : Tracked policy fingerprint request earlier caller := by
    have followed := run_followed none upTo request
    rw [waiting] at followed
    exact followed
  obtain ⟨created, within, model, label, position, captured⟩ := tracked.captured
  obtain ⟨⟨prior, reaches⟩, _⟩ := upTo.recorded within
  have known : Configured fingerprint Set.univ created.before :=
    reaches.invariant (Configured fingerprint Set.univ)
      (initial_configured initial fun _ _ => Set.mem_univ _)
      fun _ _ _ stepped => step_configured stepped fun _ _ _ _ => Set.mem_univ _
  obtain ⟨claimed, tried⟩ := handed_tried stepped hands waiting
  obtain ⟨⟨passed, rest, whole, _⟩, _⟩ := RequestAttempts.trySelectUnused_some _ _ _ _ tried
  rw [captured] at whole
  exact (known _ (captured_listed whole)).1

end Orihsus.Pool.System

namespace Orihsus.Gateway

open Pool (AttemptResult Caller Failure PoolPolicy Selection System)

/-- A step that does not use the request's tracker leaves it alone. -/
theorem foreign_caller {policy : PoolPolicy} {fingerprint : String → String}
    {before after : System} {action : Pool.Action} {given : Option AttemptResult} {request : Nat}
    {caller : Caller} (performed : before.perform policy fingerprint action = some (after, given))
    (foreign : calledRequest action ≠ some request)
    (waiting : before.callers[request]? = some caller) :
    after.callers[request]? = some caller := by
  have performs := System.perform_cases performed
  cases performs with
  | request model =>
    obtain ⟨bounded, _⟩ := List.getElem?_eq_some_iff.mp waiting
    change (before.callers ++ _)[request]? = _
    rw [List.getElem?_append_left bounded]
    exact waiting
  | setModel model present idle =>
    change (before.callers.set _ _)[request]? = _
    rw [System.callers_set present, if_neg (fun same => foreign (congrArg some same))]
    exact waiting
  | @quiet action asked other phase answer call present step =>
    have apart : asked ≠ request := by
      rintro rfl
      rcases call with rfl | rfl | rfl <;> exact foreign rfl
    change (before.callers.set _ _)[request]? = _
    rw [System.callers_set present, if_neg apart]
    exact waiting
  | @selected action asked other selection claimed call present room tried =>
    have apart : asked ≠ request := by
      rintro rfl
      rcases call with rfl | rfl <;> exact foreign rfl
    change (before.callers.set _ _)[request]? = _
    rw [System.callers_set present, if_neg apart]
    exact waiting
  | _ => exact waiting

/-- A report is no call. -/
theorem report_foreign (report : Report) (selection : Selection) (model : String)
    (jitter : Nat → Nat) (request : Nat) :
    calledRequest (report.action selection model jitter) ≠ some request := by
  cases report with
  | failure | livenessFailure => simp [Report.action, calledRequest]

namespace Setup

variable (setup : Setup)

/-! ## What a run sends, reports and saves -/

/-- The selection whose upstream request a step sends. -/
def sent (taken : Runs.Transition Proxy ProxyAction) : Option Selection :=
  match taken.label, taken.after.stage with
  | .choose, .sending selection _ | .advance, .sending selection _ => some selection
  | _, _ => none

/-- The selection that a step of the loop reports to the pool. -/
def reported (taken : Runs.Transition Proxy ProxyAction) : Option Selection :=
  match taken.label, setup.poolAction taken.before taken.label with
  | .conclude _ _ _, some (.reportFailure selection _ _)
  | .conclude _ _ _, some (.reportLivenessFailure selection _) => some selection
  | _, _ => none

/-- The upstream error that a step saves, with the fingerprint of its key. -/
def saved (taken : Runs.Transition Proxy ProxyAction) : Option (ConsumedResponse × String) :=
  match taken.label, taken.before.stage with
  | .conclude exchange wall _, .sending selection attemptStart =>
      (setup.concluded taken.before selection attemptStart wall exchange).verdict.saved.map
        fun consumed => (consumed, selection.fingerprint)
  | _, _ => none

def sends (trace : List (Runs.Transition Proxy ProxyAction)) : List Selection :=
  trace.filterMap sent

def reports (trace : List (Runs.Transition Proxy ProxyAction)) : List Selection :=
  trace.filterMap setup.reported

def saves (trace : List (Runs.Transition Proxy ProxyAction)) :
    List (ConsumedResponse × String) :=
  trace.filterMap setup.saved

/-- The pool's part of a step. -/
def poolTaken (taken : Runs.Transition Proxy ProxyAction) :
    Option (Runs.Transition System Pool.Action) :=
  (setup.poolAction taken.before taken.label).map fun call =>
    ⟨taken.before.system, call, taken.after.system⟩

end Setup

/-- The attempt that is sent and not reported: in flight, or forwarded. -/
def Stage.unreported : Stage → List Selection
  | .sending selection _ => [selection]
  | .finished (.forward _ _ selection _) => [selection]
  | _ => []

/-- An outcome fits what was saved: the request is unavailable only with nothing
saved, and otherwise the saved response is returned or a later one forwarded. -/
def FinalOutcome.Fits (lastResponse : Option (ConsumedResponse × String)) : FinalOutcome → Prop
  | .unavailable _ => lastResponse = none
  | .lastResponse saved => saved = lastResponse
  | .forward _ _ _ _ => True

namespace Setup

variable {setup : Setup} {before after first last : Proxy} {action : ProxyAction}
  {trace : List (Runs.Transition Proxy ProxyAction)}
  {selection : Selection} {system : System}

/-! ## The pool's side of a run -/

/-- The system after an answer is the one the call left. -/
@[simp] theorem answered_system (system : System) (answer : Option AttemptResult) :
    (before.answered system answer).system = system := by
  rcases answer with _ | answer
  · rfl
  · cases answer <;> rfl

@[simp] theorem settled_system (system : System) (selection : Selection) (attemptStart : Nat)
    (concluded : Concluded) :
    (before.settled system selection attemptStart concluded).system = system := by
  unfold Proxy.settled
  split <;> rfl

/-- A step that calls the pool is a step of the pool; any other leaves it alone. -/
theorem step_pool (stepped : setup.Step before action after) :
    (∃ call, setup.poolAction before action = some call ∧
        System.Step setup.policy setup.fingerprint before.system call after.system) ∨
      setup.poolAction before action = none ∧ after.system = before.system := by
  have steps {call : Pool.Action} {system : System} {answer : Option AttemptResult}
      (performed : before.system.perform setup.policy setup.fingerprint call =
        some (system, answer)) :
      System.Step setup.policy setup.fingerprint before.system call system := by
    simp [System.Step, performed]
  have turns := step_turns stepped
  cases turns with
  | other foreign performed | entered preparing performed => exact .inl ⟨_, rfl, steps performed⟩
  | chosen choosing performed | advanced calling performed =>
    rw [answered_system]
    exact .inl ⟨_, rfl, steps performed⟩
  | retried sending verdict performed =>
    rw [settled_system]
    refine .inl ⟨_, ?_, steps performed⟩
    simp only [poolAction, sending, verdict, Verdict.report, Option.map_some]
  | forwarded sending verdict =>
    rw [settled_system]
    refine .inr ⟨?_, rfl⟩
    simp only [poolAction, sending, verdict, Verdict.report, Option.map_none]

/-- The calls of a run on the pool are a run of the pool. -/
theorem run_pool (run : Runs.Run setup.Step first trace last) :
    Runs.Run (System.Step setup.policy setup.fingerprint) first.system
      (trace.filterMap setup.poolTaken) last.system := by
  induction run with
  | start => exact .start
  | extend earlier stepped inductionHypothesis =>
    rw [Runs.filterMap_extend]
    rcases step_pool stepped with ⟨call, calls, moved⟩ | ⟨quiet, same⟩
    · simp only [poolTaken, calls, Option.map_some, Option.toList_some]
      exact inductionHypothesis.extend moved
    · simp only [poolTaken, quiet, Option.map_none, Option.toList_none, List.append_nil]
      rw [same]
      exact inductionHypothesis

/-- The loop sends a request on exactly the selections that the pool hands it. -/
theorem sent_handed (stepped : setup.Step before action after) :
    sent ⟨before, action, after⟩ = (setup.poolTaken ⟨before, action, after⟩).bind
      (System.handed setup.policy setup.fingerprint setup.request) := by
  have turns := step_turns stepped
  cases turns with
  | @other call system answer foreign performed =>
    simp only [sent, poolTaken, poolAction, Option.map_some, Option.bind_some]
    rw [System.handed_performed performed]
    unfold System.handedBy
    split
    · rw [if_neg (fun same => foreign (congrArg some same))]
    · rw [if_neg (fun same => foreign (congrArg some same))]
    · rfl
  | entered preparing performed =>
    simp only [sent, poolTaken, poolAction, Option.map_some, Option.bind_some]
    rw [System.handed_performed performed]
    rfl
  | @chosen system answer choosing performed =>
    simp only [sent, poolTaken, poolAction, Option.map_some, Option.bind_some, answered_system]
    rw [System.handed_performed performed]
    unfold choice at performed ⊢
    split at performed
    · rename_i holds
      rw [if_pos holds]
      rcases System.nextImmediate_answers performed with rfl | ⟨selection, rfl⟩
      · rfl
      · simp [Proxy.answered, System.handedBy]
    · rename_i empty
      rw [if_neg empty]
      rcases System.next_answers performed with rfl | rfl
      · rfl
      · rfl
  | @advanced system answer calling performed =>
    simp only [sent, poolTaken, poolAction, Option.map_some, Option.bind_some, answered_system]
    rw [System.handed_performed performed]
    rcases answer with _ | answer
    · rfl
    · cases answer with
      | selected selection => simp [Proxy.answered, System.handedBy]
      | unavailable | exhausted => rfl
  | @retried selection attemptStart exchange wall jitter report saved system answer sending verdict
      performed =>
    simp only [sent, poolTaken, poolAction, sending, verdict, Verdict.report, Option.map_some,
      Option.bind_some, settled_system]
    rw [System.handed_performed performed]
    cases report <;> rfl
  | forwarded sending verdict =>
    simp only [sent, poolTaken, poolAction, sending, verdict, Verdict.report, Option.map_none,
      Option.bind_none]

/-- What is sent was selected. -/
theorem sends_selections (run : Runs.Run setup.Step first trace last) :
    sends trace = System.selections setup.policy setup.fingerprint setup.request
      (trace.filterMap setup.poolTaken) := by
  rw [System.selections, List.filterMap_filterMap, sends]
  refine List.filterMap_congr fun taken member => ?_
  exact sent_handed (run.recorded member).2

/-- Every request of a run on a fresh pool carries the fingerprint of its own key. -/
theorem sends_printed (initial : System.Initial setup.policy setup.fingerprint first.system)
    (run : Runs.Run setup.Step first trace last) (sent : selection ∈ sends trace) :
    selection.fingerprint = setup.fingerprint selection.key.asStr := by
  rw [sends_selections run] at sent
  exact System.handed_printed initial (run_pool run) sent

/-! ## The ledger of a run -/

/-- What holds of the loop after a run. Every request sent is reported or the
attempt at hand; the last saved response is kept; only a loop with nothing saved
waits; and between its own steps the loop holds an idle tracker and a lease that
the pool has handed out. -/
structure Ledger (setup : Setup) (trace : List (Runs.Transition Proxy ProxyAction))
    (proxy : Proxy) : Prop where
  settled : sends trace = setup.reports trace ++ proxy.stage.unreported
  kept : proxy.lastResponse = (setup.saves trace).getLast?
  unsaved : proxy.stage = .preparing ∨ proxy.stage = .calling → proxy.lastResponse = none
  fits : ∀ outcome, proxy.stage = .finished outcome → outcome.Fits proxy.lastResponse
  idle : (proxy.stage = .choosing ∨ ∃ selection attemptStart,
      proxy.stage = .sending selection attemptStart) →
    ∃ caller, proxy.system.callers[setup.request]? = some caller ∧ caller.phase = .idle
  issued : ∀ selection attemptStart, proxy.stage = .sending selection attemptStart →
    selection ∈ proxy.system.issued

variable {taken : Runs.Transition Proxy ProxyAction}

/-- One more step's sends. -/
theorem sends_extend : sends (trace ++ [taken]) = sends trace ++ (sent taken).toList :=
  Runs.filterMap_extend _ trace taken

/-- One more step's reports. -/
theorem reports_extend :
    setup.reports (trace ++ [taken]) = setup.reports trace ++ (setup.reported taken).toList :=
  Runs.filterMap_extend _ trace taken

/-- One more step's saved responses. -/
theorem saves_extend :
    setup.saves (trace ++ [taken]) = setup.saves trace ++ (setup.saved taken).toList :=
  Runs.filterMap_extend _ trace taken

/-- The last saved response after one more step. -/
theorem saves_last :
    (setup.saves (trace ++ [taken])).getLast? =
      (setup.saved taken).or (setup.saves trace).getLast? := by
  rw [saves_extend, List.getLast?_append]
  cases setup.saved taken with
  | none | some => simp

/-- The ledger of a loop that has ended. -/
theorem Ledger.finish {proxy : Proxy} {outcome : FinalOutcome}
    (stage : proxy.stage = .finished outcome)
    (settled : sends trace = setup.reports trace ++ proxy.stage.unreported)
    (kept : proxy.lastResponse = (setup.saves trace).getLast?)
    (fits : outcome.Fits proxy.lastResponse) : Ledger setup trace proxy := by
  refine ⟨settled, kept, ?_, ?_, ?_, ?_⟩
  · rw [stage]
    rintro (impossible | impossible) <;> cases impossible
  · intro other same
    rw [stage] at same
    cases same
    exact fits
  · rw [stage]
    rintro (impossible | ⟨_, _, impossible⟩) <;> cases impossible
  · intro selection attemptStart impossible
    rw [stage] at impossible
    cases impossible

/-- The ledger of a loop at its top. -/
theorem Ledger.choose {proxy : Proxy} (stage : proxy.stage = .choosing)
    (settled : sends trace = setup.reports trace)
    (kept : proxy.lastResponse = (setup.saves trace).getLast?)
    (idle : ∃ caller, proxy.system.callers[setup.request]? = some caller ∧ caller.phase = .idle) :
    Ledger setup trace proxy := by
  refine ⟨?_, kept, ?_, ?_, fun _ => idle, ?_⟩
  · have nothing : Stage.unreported .choosing = [] := rfl
    rw [settled, stage, nothing, List.append_nil]
  · rw [stage]
    rintro (impossible | impossible) <;> cases impossible
  · intro outcome impossible
    rw [stage] at impossible
    cases impossible
  · intro selection attemptStart impossible
    rw [stage] at impossible
    cases impossible

/-- An answer of the pool keeps the ledger, whichever call it answers. A loop that
holds a response is answered with a selection or told that it is exhausted. -/
theorem answered_ledger {answer : Option AttemptResult} {call : Pool.Action}
    (ledger : Ledger setup trace before) (open_ : before.stage.unreported = [])
    (turn : action = .choose ∨ action = .advance)
    (calls : call = .next setup.request ∨ call = .nextImmediate setup.request ∨
      call = .advance setup.request)
    (performed : before.system.perform setup.policy setup.fingerprint call = some (system, answer))
    (prompt : before.lastResponse = none ∨ answer = some .exhausted ∨
      ∃ selection, answer = some (.selected selection)) :
    Ledger setup (trace ++ [⟨before, action, before.answered system answer⟩])
      (before.answered system answer) := by
  obtain ⟨caller, waiting, rests, handedOut⟩ := System.call_leaves calls performed
  have unreported : setup.reported ⟨before, action, before.answered system answer⟩ = none := by
    rcases turn with rfl | rfl <;> rfl
  have unsaved : setup.saved ⟨before, action, before.answered system answer⟩ = none := by
    rcases turn with rfl | rfl <;> rfl
  have settled := ledger.settled
  rw [open_, List.append_nil] at settled
  -- Nothing is reported or saved by the call itself.
  have balanced : sends (trace ++ [⟨before, action, before.answered system answer⟩]) =
      setup.reports (trace ++ [⟨before, action, before.answered system answer⟩]) ++
        (sent ⟨before, action, before.answered system answer⟩).toList := by
    rw [sends_extend, reports_extend, unreported, settled, Option.toList_none, List.append_nil]
  have last : before.lastResponse =
      (setup.saves (trace ++ [⟨before, action, before.answered system answer⟩])).getLast? := by
    rw [saves_last, unsaved, Option.none_or]
    exact ledger.kept
  have nothing (waits : ∀ selection, answer ≠ some .exhausted ∧
      answer ≠ some (.selected selection)) : before.lastResponse = none := by
    rcases prompt with nothing | exhausted | ⟨selection, selected⟩
    · exact nothing
    · exact absurd exhausted (waits ⟨"", ⟨""⟩, 0⟩).1
    · exact absurd selected (waits selection).2
  rcases answer with _ | answer
  · refine ⟨?_, last, fun _ => nothing (by simp), ?_, ?_, ?_⟩
    · rw [balanced]
      rcases turn with rfl | rfl <;> rfl
    · intro outcome impossible
      cases impossible
    · rintro (impossible | ⟨_, _, impossible⟩) <;> cases impossible
    · intro selection attemptStart impossible
      cases impossible
  · cases answer with
    | selected selection =>
      refine ⟨?_, last, ?_, ?_, fun _ => ⟨caller, waiting, rests rfl⟩, ?_⟩
      · rw [balanced]
        rcases turn with rfl | rfl <;> rfl
      · rintro (impossible | impossible) <;> cases impossible
      · intro outcome impossible
        cases impossible
      · intro other attemptStart same
        cases same
        exact handedOut selection rfl
    | unavailable retryAfter =>
      refine .finish rfl ?_ last (nothing (by simp))
      rw [balanced]
      rcases turn with rfl | rfl <;> rfl
    | exhausted =>
      refine .finish rfl ?_ last rfl
      rw [balanced]
      rcases turn with rfl | rfl <;> rfl

/-- A step of anyone else keeps the ledger. -/
theorem other_ledger {call : Pool.Action} {answer : Option AttemptResult}
    (ledger : Ledger setup trace before) (foreign : calledRequest call ≠ some setup.request)
    (performed : before.system.perform setup.policy setup.fingerprint call =
      some (system, answer)) :
    Ledger setup (trace ++ [⟨before, .other call, { before with system := system }⟩])
      { before with system := system } := by
  refine ⟨?_, ?_, ledger.unsaved, ledger.fits, ?_, ?_⟩
  · rw [sends_extend, reports_extend]
    simpa [sent, reported] using ledger.settled
  · rw [saves_last]
    exact ledger.kept
  · intro standing
    obtain ⟨caller, waiting, idle⟩ := ledger.idle standing
    exact ⟨caller, foreign_caller performed foreign waiting, idle⟩
  · intro selection attemptStart sending
    exact System.issued_kept performed (ledger.issued selection attemptStart sending)

/-- An attempt that is over moves from the attempt at hand to the reports, unless
it is forwarded. -/
theorem step_ledger (stepped : setup.Step before action after)
    (ledger : Ledger setup trace before) :
    Ledger setup (trace ++ [⟨before, action, after⟩]) after := by
  have turns := step_turns stepped
  cases turns with
  | other foreign performed => exact other_ledger ledger foreign performed
  | @entered model system answer preparing performed =>
    have settled := ledger.settled
    rw [preparing] at settled
    refine .choose rfl ?_ ?_ ?_
    · rw [sends_extend, reports_extend]
      simpa [sent, reported, Stage.unreported] using settled
    · rw [saves_last]
      exact ledger.kept
    · have performs := System.perform_cases performed
      cases performs with
      | @setModel asked caller model waiting idle =>
        refine ⟨⟨caller.attempts.setModel model, .idle⟩, ?_, rfl⟩
        change (before.system.callers.set _ _)[setup.request]? = _
        rw [System.callers_set waiting, if_pos rfl]
      | quiet call | selected call => simp at call
  | @chosen system answer choosing performed =>
    have open_ : before.stage.unreported = [] := by rw [choosing]; rfl
    unfold choice at performed
    split at performed
    · exact answered_ledger ledger open_ (.inl rfl) (.inr (.inl rfl)) performed
        (.inr (System.nextImmediate_answers performed))
    · rename_i empty
      exact answered_ledger ledger open_ (.inl rfl) (.inl rfl) performed
        (.inl (by simpa using empty))
  | advanced calling performed =>
    have open_ : before.stage.unreported = [] := by rw [calling]; rfl
    exact answered_ledger ledger open_ (.inr rfl) (.inr (.inr rfl)) performed
      (.inl (ledger.unsaved (.inr calling)))
  | @retried selection attemptStart exchange wall jitter report saved system answer sending verdict
      performed =>
    have settled := ledger.settled
    rw [sending] at settled
    have leaves : before.settled system selection attemptStart
          (setup.concluded before selection attemptStart wall exchange) =
        { before with
          system := system
          stage := .choosing
          lastResponse := (saved.map fun consumed => (consumed, selection.fingerprint)).or
            before.lastResponse
          attempts := (setup.concluded before selection attemptStart wall exchange).attempts } := by
      simp only [Proxy.settled, verdict]
    rw [leaves]
    refine .choose rfl ?_ ?_ ?_
    · rw [sends_extend, reports_extend, settled]
      cases report <;>
        simp [sent, reported, poolAction, sending, verdict, Verdict.report, Report.action,
          Stage.unreported]
    · rw [saves_last, ← ledger.kept]
      simp only [Setup.saved, sending, verdict, Verdict.saved]
    · obtain ⟨caller, waiting, idle⟩ := ledger.idle (.inr ⟨selection, attemptStart, sending⟩)
      exact ⟨caller, foreign_caller performed (report_foreign _ _ _ _ _) waiting, idle⟩
  | @forwarded selection attemptStart exchange wall jitter prepared sending verdict =>
    have settled := ledger.settled
    rw [sending] at settled
    have leaves : before.settled before.system selection attemptStart
          (setup.concluded before selection attemptStart wall exchange) =
        { before with
          stage := .finished (.forward prepared selection.fingerprint selection attemptStart)
          attempts := (setup.concluded before selection attemptStart wall exchange).attempts } := by
      simp only [Proxy.settled, verdict]
    rw [leaves]
    refine .finish rfl ?_ ?_ trivial
    · rw [sends_extend, reports_extend, settled]
      simp [sent, reported, poolAction, sending, verdict, Verdict.report, Stage.unreported]
    · rw [saves_last]
      simpa [Setup.saved, sending, verdict, Verdict.saved] using ledger.kept

/-- The loop has not started and holds nothing. -/
def Fresh (proxy : Proxy) : Prop := proxy.stage = .preparing ∧ proxy.lastResponse = none

/-- Every run from a fresh loop keeps the ledger. -/
theorem run_ledger (fresh : Fresh first) (run : Runs.Run setup.Step first trace last) :
    Ledger setup trace last := by
  induction run with
  | start =>
    obtain ⟨preparing, nothing⟩ := fresh
    refine ⟨?_, nothing, fun _ => nothing, ?_, ?_, ?_⟩
    · rw [preparing]
      rfl
    · intro outcome impossible
      rw [preparing] at impossible
      cases impossible
    · rw [preparing]
      rintro (impossible | ⟨_, _, impossible⟩) <;> cases impossible
    · intro selection attemptStart impossible
      rw [preparing] at impossible
      cases impossible
  | extend earlier stepped inductionHypothesis => exact step_ledger stepped inductionHypothesis

/-! ## Once a response is saved -/

/-- A step of the loop itself. -/
def isOwn : ProxyAction → Bool
  | .other _ => false
  | _ => true

/-- How many steps of its own a loop that does not wait can still take: two for
every attempt left, and those of the attempt at hand. -/
def budget (setup : Setup) (proxy : Proxy) : Nat :=
  let left := (proxy.system.callers[setup.request]?).elim 0 fun caller =>
    2 * (caller.attempts.max - caller.attempts.used.length)
  match proxy.stage with
  | .choosing => left + 1
  | .sending _ _ => left + 2
  | _ => 0

/-- A step that leaves the loop's stage and its tracker alone spends nothing. -/
theorem budget_kept (ledger : Ledger setup trace before)
    (same : ∀ caller, before.system.callers[setup.request]? = some caller →
      system.callers[setup.request]? = some caller) :
    budget setup { before with system := system } = budget setup before := by
  cases stage : before.stage with
  | choosing =>
    obtain ⟨caller, waiting, _⟩ := ledger.idle (.inl stage)
    simp only [budget, stage, waiting, same caller waiting]
  | sending selection attemptStart =>
    obtain ⟨caller, waiting, _⟩ := ledger.idle (.inr ⟨selection, attemptStart, stage⟩)
    simp only [budget, stage, waiting, same caller waiting]
  | preparing | calling | finished => simp only [budget, stage]

/-- An immediate call that selects uses up one attempt. -/
theorem immediate_uses {caller : Caller}
    (waiting : before.system.callers[setup.request]? = some caller) (idle : caller.phase = .idle)
    (performed : before.system.perform setup.policy setup.fingerprint
      (.nextImmediate setup.request) = some (system, some (.selected selection))) :
    caller.attempts.used.length < caller.attempts.max ∧
      system.callers[setup.request]? = some ⟨caller.attempts.markUsed selection, .idle⟩ := by
  have performs := System.perform_cases performed
  generalize given : some (AttemptResult.selected selection) = answer at performs
  cases performs with
  | quiet call present step => exact absurd given.symm step.not_selected
  | @selected action asked other chosen claimed call present room tried =>
    obtain rfl : setup.request = asked := by simpa using call
    cases given
    rw [waiting] at present
    cases present
    refine ⟨?_, ?_⟩
    · rcases room with space | selecting
      · exact space
      · rw [idle] at selecting
        cases selecting
    · change (before.system.callers.set _ _)[setup.request]? = _
      rw [System.callers_set waiting, if_pos rfl]

/-- Once a response is saved it stays so, and every step of the loop itself spends
some of its budget. -/
theorem step_budget (stepped : setup.Step before action after)
    (ledger : Ledger setup trace before) (holds : before.lastResponse.isSome) :
    after.lastResponse.isSome ∧
      (if isOwn action then 1 else 0) + budget setup after ≤ budget setup before := by
  have busy (waits : before.stage = .preparing ∨ before.stage = .calling) : False := by
    rw [ledger.unsaved waits] at holds
    cases holds
  have turns := step_turns stepped
  cases turns with
  | other foreign performed =>
    refine ⟨holds, ?_⟩
    rw [budget_kept ledger fun caller waiting => foreign_caller performed foreign waiting]
    simp [isOwn]
  | entered preparing performed => exact (busy (.inl preparing)).elim
  | advanced calling performed => exact (busy (.inr calling)).elim
  | @chosen system answer choosing performed =>
    unfold choice at performed
    rw [if_pos holds] at performed
    obtain ⟨caller, waiting, idle⟩ := ledger.idle (.inl choosing)
    rcases System.nextImmediate_answers performed with rfl | ⟨selection, rfl⟩
    · refine ⟨holds, ?_⟩
      simp only [budget, choosing, isOwn, Proxy.answered]
      simp
    · obtain ⟨room, used⟩ := immediate_uses waiting idle performed
      refine ⟨holds, ?_⟩
      simp only [budget, choosing, isOwn, Proxy.answered, waiting, used, Option.elim_some,
        Pool.RequestAttempts.markUsed, List.length_append, List.length_singleton, if_true]
      omega
  | @retried selection attemptStart exchange wall jitter report saved system answer sending verdict
      performed =>
    obtain ⟨caller, waiting, _⟩ := ledger.idle (.inr ⟨selection, attemptStart, sending⟩)
    have remains := foreign_caller performed (report_foreign _ _ _ _ setup.request) waiting
    simp only [Proxy.settled, verdict]
    refine ⟨?_, ?_⟩
    · rw [Option.isSome_or, holds, Bool.or_true]
    · simp only [budget, sending, isOwn, waiting, remains, Option.elim_some, if_true]
      omega
  | forwarded sending verdict =>
    simp only [Proxy.settled, verdict]
    refine ⟨holds, ?_⟩
    simp only [budget, sending, isOwn, if_true]
    omega

/-- The loop's own steps in a run. -/
def ownSteps (trace : List (Runs.Transition Proxy ProxyAction)) :
    List (Runs.Transition Proxy ProxyAction) :=
  trace.filter fun taken => isOwn taken.label

/-- From a state with a saved response the loop's own steps stay within its budget. -/
theorem run_budget {middle : Proxy} {later : List (Runs.Transition Proxy ProxyAction)}
    (ledger : Ledger setup trace middle) (holds : middle.lastResponse.isSome)
    (run : Runs.Run setup.Step middle later last) :
    Ledger setup (trace ++ later) last ∧ last.lastResponse.isSome ∧
      (ownSteps later).length + budget setup last ≤ budget setup middle := by
  induction run with
  | start =>
    rw [List.append_nil]
    exact ⟨ledger, holds, by simp [ownSteps]⟩
  | @extend shorter current next label earlier stepped inductionHypothesis =>
    obtain ⟨reached, saved, spent⟩ := inductionHypothesis
    obtain ⟨still, step⟩ := step_budget stepped reached saved
    refine ⟨?_, still, ?_⟩
    · rw [← List.append_assoc]
      exact step_ledger stepped reached
    · cases own : isOwn label with
      | true =>
        simp only [own, if_true] at step
        simp only [ownSteps, List.filter_append, List.length_append, List.filter_cons, own,
          if_true, List.filter_nil, List.length_singleton] at spent ⊢
        omega
      | false =>
        simp only [own, Bool.false_eq_true, if_false] at step
        simp only [ownSteps, List.filter_append, List.length_append, List.filter_cons, own,
          Bool.false_eq_true, if_false, List.filter_nil, List.length_nil] at spent ⊢
        omega

/-- The loop can go on: at its top it can choose, and an attempt in flight can end
with whatever the upstream does, once enough time has passed. -/
def CanProceed (setup : Setup) (proxy : Proxy) : Prop :=
  (proxy.stage = .choosing → ∃ after, setup.Step proxy .choose after) ∧
    ∀ selection attemptStart, proxy.stage = .sending selection attemptStart →
      ∀ exchange wall jitter, ∃ elapsed waited after,
        setup.Step proxy (.other (.tick elapsed)) waited ∧
          setup.Step waited (.conclude exchange wall jitter) after

/-- A report on a selection that was handed out is accepted by the pool. -/
theorem report_accepted (policy : PoolPolicy) (fingerprint : String → String)
    (issued : selection ∈ system.issued) (report : Report)
    (model : String) (jitter : Nat → Nat) :
    ∃ result, system.perform policy fingerprint (report.action selection model jitter) =
      some result := by
  cases report with
  | failure | livenessFailure => exact ⟨_, Runs.guard_bind.mpr ⟨issued, rfl⟩⟩

/-- A loop that holds a response is never stuck. -/
theorem saved_proceeds (ledger : Ledger setup trace before) (holds : before.lastResponse.isSome) :
    CanProceed setup before := by
  constructor
  · intro choosing
    obtain ⟨caller, waiting, idle⟩ := ledger.idle (.inl choosing)
    have performed : ∃ result, before.system.perform setup.policy setup.fingerprint
        (.nextImmediate setup.request) = some result :=
      ⟨_, Option.bind_eq_some_iff.mpr ⟨caller, waiting, Runs.guard_bind.mpr ⟨idle, rfl⟩⟩⟩
    obtain ⟨result, performed⟩ := performed
    refine ⟨setup.follow before result.1 result.2 .choose, ?_⟩
    simp only [Step, perform, enabled, choosing, poolAction, choice, holds, performed, if_true,
      decide_true, Option.map_some]
  · intro selection attemptStart sending exchange wall jitter
    let elapsed := (setup.concluded before selection attemptStart wall exchange).time
    let waited : Proxy :=
      { before with system := { before.system with clock := before.system.clock + elapsed } }
    have ticks : setup.Step before (.other (.tick elapsed)) waited := by
      simp [Step, perform, enabled, calledRequest, poolAction, System.perform, follow, waited]
    have standing : waited.stage = .sending selection attemptStart := sending
    have due : setup.enabled waited (.conclude exchange wall jitter) = true := by
      simp only [enabled, standing, decide_eq_true_eq]
      exact Nat.le_add_left elapsed before.system.clock
    cases verdict : (setup.concluded waited selection attemptStart wall exchange).verdict with
    | forward prepared =>
      refine ⟨elapsed, waited,
        setup.follow waited waited.system none (.conclude exchange wall jitter), ticks, ?_⟩
      unfold Step perform
      rw [if_pos due]
      simp only [poolAction, standing, verdict, Verdict.report, Option.map_none]
    | retry report saved =>
      obtain ⟨made, rfl⟩ := Option.isSome_iff_exists.mp
        (Attempt.conclude_reports report saved verdict)
      have issued : selection ∈ waited.system.issued :=
        ledger.issued selection attemptStart sending
      obtain ⟨result, performed⟩ :=
        report_accepted setup.policy setup.fingerprint issued made waited.model jitter
      refine ⟨elapsed, waited,
        setup.follow waited result.1 result.2 (.conclude exchange wall jitter), ticks, ?_⟩
      unfold Step perform
      rw [if_pos due]
      simp only [poolAction, standing, verdict, Verdict.report, Option.map_some, performed]

/-- The contract of the failover loop. In every run from a fresh pool and a fresh
loop, whatever the pool, the other requests and the upstreams do:

* at most the policy's number of requests is sent, on distinct keys;
* every request sent has exactly one report, on its own selection, except the one
  at hand or forwarded;
* the loop holds the last response it saved, and once it holds one it never waits;
* it ends as unavailable only with nothing saved, and otherwise returns the last
  saved response unless it forwards a later one;
* and once it has saved a response it does end: it is never stuck, and its own
  remaining steps are bounded.

Proof: every step keeps the ledger of what was sent, reported and saved; the bound is the pool's
own. -/
theorem failover_contract
    (initial : System.Initial setup.policy setup.fingerprint first.system) (fresh : Fresh first)
    (run : Runs.Run setup.Step first trace last) :
    ((sends trace).length ≤ setup.policy.maxAttempts ∧
        ((sends trace).map Selection.fingerprint).Nodup ∧
        ((sends trace).map Selection.key).Nodup) ∧
      sends trace = setup.reports trace ++ last.stage.unreported ∧
      last.lastResponse = (setup.saves trace).getLast? ∧
      (∀ taken ∈ trace, taken.before.lastResponse.isSome →
        taken.label ≠ .advance ∧ taken.after.stage ≠ .calling) ∧
      (∀ outcome, last.stage = .finished outcome → outcome.Fits (setup.saves trace).getLast?) ∧
      (last.lastResponse.isSome → CanProceed setup last) ∧
      ∀ earlier taken later, trace = earlier ++ taken :: later →
        taken.after.lastResponse.isSome →
        (ownSteps later).length ≤ 2 * setup.policy.maxAttempts + 2 := by
  have none : first.system.callers = [] := by
    obtain ⟨_, _, none, _⟩ := initial
    exact none
  have ledger := run_ledger fresh run
  have pooled := run_pool run
  obtain ⟨bounded, distinct⟩ := System.selections_bounded none pooled setup.request
  rw [← sends_selections run] at bounded distinct
  refine ⟨⟨bounded, distinct, ?_⟩, ledger.settled, ledger.kept, ?_, ?_, saved_proceeds ledger, ?_⟩
  · -- Equal keys would have equal fingerprints.
    have printed : (sends trace).map Selection.fingerprint =
        ((sends trace).map Selection.key).map fun key => setup.fingerprint key.asStr := by
      rw [List.map_map]
      exact List.map_congr_left fun _ => sends_printed initial run
    rw [printed] at distinct
    exact distinct.of_map
  · intro taken member holds
    obtain ⟨⟨prior, reaches⟩, stepped⟩ := run.recorded member
    have before := run_ledger fresh reaches
    have after := step_ledger stepped before
    obtain ⟨still, _⟩ := step_budget stepped before holds
    constructor
    · intro advances
      have enabled := step_enabled stepped
      rw [advances] at enabled
      have calling : taken.before.stage = .calling := by simpa [Setup.enabled] using enabled
      rw [before.unsaved (.inr calling)] at holds
      cases holds
    · intro calling
      rw [after.unsaved (.inr calling)] at still
      cases still
  · intro outcome finished
    rw [← ledger.kept]
    exact ledger.fits outcome finished
  · rintro earlier taken later rfl holds
    obtain ⟨upTo, stepped, onward⟩ := run.split
    have reaches := upTo.extend stepped
    have middle := run_ledger fresh reaches
    obtain ⟨_, _, spent⟩ := run_budget middle holds onward
    have limited : budget setup taken.after ≤ 2 * setup.policy.maxAttempts + 2 := by
      have followed := System.run_followed none (run_pool reaches) setup.request
      unfold budget
      generalize taken.after.system.callers[setup.request]? = caller at followed
      cases caller with
      | none =>
        dsimp only [Option.elim_none]
        split <;> omega
      | some caller =>
        have tracked : System.Tracked _ _ _ _ caller := followed
        have limit := tracked.limit
        dsimp only [Option.elim_some]
        split <;> omega
    omega

/-- Three keys, and a library that reads one document. -/
def sampleSetup : Setup where
  gateway := { timeouts := ⟨10, 10, 10, 10, 10, 10⟩, modelEventTimeouts := [] }
  libraries := { reading := SseUsageParser.sampleReading, parseHttpDate := fun _ => none }
  policy := System.samplePolicy
  fingerprint := System.sampleFingerprint
  request := 0

/-- A request that is about to be created. -/
def sampleProxy : Proxy where
  system := System.freshABC
  stage := .preparing
  model := ""
  requestStart := 0
  lastResponse := none
  attempts := []

/-- The first key answers with a 503, the second not at all. -/
def rejectedThenSilent : List ProxyAction :=
  [.other (.request none), .enter "m", .choose, .advance, .other (.tick 2),
    .conclude (.responded 1 ⟨503, [], [⟨2, .ended⟩]⟩) 0 id, .choose, .other (.tick 10),
    .conclude .silent 0 id, .choose]

/-- The 503 is returned after both attempts were reported. -/
theorem failover_contract_rejected :
    let trace := Runs.steps sampleSetup.perform sampleProxy rejectedThenSilent
    let last := Runs.reached sampleSetup.perform sampleProxy rejectedThenSilent
    (sends trace).map Selection.fingerprint = ["a", "b"] ∧
      sends trace = sampleSetup.reports trace ∧
      (sends trace).length ≤ sampleSetup.policy.maxAttempts ∧
      last.stage = .finished (.lastResponse (sampleSetup.saves trace).getLast?) ∧
      (sampleSetup.saves trace).map (fun saved => (saved.1.status, saved.2)) = [(503, "a")] := by
  have enabled : (Runs.record sampleSetup.perform sampleProxy rejectedThenSilent).isSome := by
    decide +kernel
  have initial : System.Initial sampleSetup.policy sampleSetup.fingerprint sampleProxy.system :=
    System.started_initial System.samplePolicy System.sampleFingerprint rfl (by simp)
  obtain ⟨⟨bounded, _⟩, settled, kept, _⟩ :=
    failover_contract initial ⟨rfl, rfl⟩ (Runs.replay_run enabled)
  have finished : (Runs.reached sampleSetup.perform sampleProxy rejectedThenSilent).stage =
      .finished (.lastResponse
        (Runs.reached sampleSetup.perform sampleProxy rejectedThenSilent).lastResponse) := by
    decide +kernel
  refine ⟨by decide +kernel, ?_, bounded, ?_, by decide +kernel⟩
  · rw [finished] at settled
    simpa [Stage.unreported] using settled
  · rw [← kept]
    exact finished

end Setup

end Orihsus.Gateway
