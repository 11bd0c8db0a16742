import Mathlib.Data.Set.Function
import Orihsus.KeySteps

/-!
# What a request is handed

A request captures the listed keys once and reads their health live, while other
requests, reports and reloads go on. This module follows one request through a
run: every selection it is handed, in order, against what its tracker records.
Candidates are old and health is new, so the guarantees are stated at two
instants, the creation of the request and the selection itself.
-/

namespace Orihsus.Pool

namespace PoolState

variable {state : PoolState}

/-- A captured candidate was listed. -/
theorem mem_listing_of_candidate {candidate : RequestCandidate}
    (captured : candidate ∈ state.candidates) : candidate ∈ state.listing := by
  obtain ⟨offset, _, found⟩ := List.mem_filterMap.mp captured
  obtain ⟨entry, present, rfl⟩ := Option.map_eq_some_iff.mp found
  exact List.mem_map.mpr ⟨entry, List.mem_of_getElem? present, rfl⟩

/-- A key a fingerprint finds is listed. -/
theorem mem_listing_of_lookup {asked : String} {entry : KeyEntry}
    (found : state.lookup asked = some entry) :
    entry.candidate ∈ state.listing ∧ entry.fingerprint = asked := by
  obtain ⟨member, same⟩ := FirstMatch.lookup_some found
  exact ⟨List.mem_map_of_mem (f := KeyEntry.candidate) member, same⟩

end PoolState

namespace System

variable (policy : PoolPolicy) (fingerprint : String → String)

/-- The selection a step hands to a request, if it hands it one. -/
def handed (request : Nat) (taken : Runs.Transition System Action) : Option Selection :=
  match taken.label, taken.before.answer policy fingerprint taken.label with
  | .nextImmediate asked, some (.selected selection)
  | .advance asked, some (.selected selection) => if asked = request then some selection else none
  | _, _ => none

/-- Everything a run hands to a request, in order. -/
def selections (request : Nat) (trace : List (Runs.Transition System Action)) : List Selection :=
  trace.filterMap (handed policy fingerprint request)

/-- What a step does to one request: it may create it, name its model, take a
quiet turn of its call, or hand it a selection. -/
inductive RequestStep (before : System) (action : Action) (request : Nat) :
    Option Caller → Option Caller → Option Selection → Prop
  | kept (caller : Option Caller) : RequestStep before action request caller caller none
  | created (model : Option String) (fresh : before.callers.length = request)
      (asked : action = .request model) :
      RequestStep before action request none
        (some ⟨before.pool.requestWithModel policy model before.clock, .idle⟩) none
  | modelled (model : String) (caller : Caller) :
      RequestStep before action request (some caller)
        (some ⟨caller.attempts.setModel model, .idle⟩) none
  | quiet {caller : Caller} {phase : CallPhase} {answer : Option AttemptResult}
      (call : action = .next request ∨ action = .nextImmediate request ∨ action = .advance request)
      (step : QuietStep policy before.pool before.clock caller.attempts caller.phase phase answer) :
      RequestStep before action request (some caller) (some ⟨caller.attempts, phase⟩) none
  | selected {caller : Caller} {selection : Selection} {claimed : PoolState}
      (room : caller.attempts.used.length < caller.attempts.max ∨ caller.phase = .selecting)
      (tried : caller.attempts.trySelectUnused policy before.pool before.clock =
        some (selection, claimed)) :
      RequestStep before action request (some caller)
        (some ⟨caller.attempts.markUsed selection, .idle⟩) (some selection)

variable {policy fingerprint} {before after : System} {action : Action} {request : Nat}
  {selection : Selection} {caller : Caller}

/-- A replaced caller is seen by its own request alone. -/
theorem callers_set {callers : List Caller} {asked : Nat} {caller replaced : Caller}
    (waiting : callers[asked]? = some caller) :
    (callers.set asked replaced)[request]? =
      if asked = request then some replaced else callers[request]? := by
  obtain ⟨bounded, _⟩ := List.getElem?_eq_some_iff.mp waiting
  by_cases same : asked = request
  · subst same
    simp [bounded]
  · simp [same]

/-- A step that answers with no selection hands nothing to anyone. -/
theorem handed_none
    (unselected : ∀ selection,
      before.answer policy fingerprint action ≠ some (.selected selection)) :
    handed policy fingerprint request ⟨before, action, after⟩ = none := by
  unfold handed
  split
  · rename_i same
    exact absurd same (unselected _)
  · rename_i same
    exact absurd same (unselected _)
  · rfl

/-- Every step treats every request in one of these ways. -/
theorem step_request (stepped : Step policy fingerprint before action after) (request : Nat) :
    RequestStep policy before action request before.callers[request]? after.callers[request]?
      (handed policy fingerprint request ⟨before, action, after⟩) := by
  have performs := step_cases stepped
  generalize given : before.answer policy fingerprint action = answer at performs
  have silent (unselected : ∀ selection, answer ≠ some (.selected selection)) :
      handed policy fingerprint request ⟨before, action, after⟩ = none :=
    handed_none fun selection => given ▸ unselected selection
  have untouched (same : after.callers = before.callers)
      (unselected : ∀ selection, answer ≠ some (.selected selection)) :
      RequestStep policy before action request before.callers[request]? after.callers[request]?
        (handed policy fingerprint request ⟨before, action, after⟩) := by
    rw [same, silent unselected]
    exact .kept _
  cases performs with
  | tick elapsed => exact untouched rfl (by simp)
  | request model =>
    rw [silent (by simp)]
    rcases Nat.lt_trichotomy request before.callers.length with below | same | above
    · rw [List.getElem?_append_left below]
      exact .kept _
    · rw [same, List.getElem?_concat_length, List.getElem?_eq_none (Nat.le_refl _)]
      exact .created model rfl rfl
    · have beyond (caller : Caller) : (before.callers ++ [caller]).length ≤ request := by
        rw [List.length_append, List.length_singleton]
        omega
      rw [List.getElem?_eq_none (Nat.le_of_lt above), List.getElem?_eq_none (beyond _)]
      exact .kept _
  | @setModel asked caller model waiting idle =>
    rw [silent (by simp), callers_set waiting]
    split
    · rename_i same
      rw [← same, waiting]
      exact .modelled model caller
    · exact .kept _
  | @quiet action asked caller phase answer call waiting step =>
    rw [silent (fun _ => step.not_selected), callers_set waiting]
    split
    · rename_i same
      subst same
      rw [waiting]
      exact .quiet call step
    · exact .kept _
  | @selected action asked caller selection claimed call waiting room tried =>
    have hands (left : System) : handed policy fingerprint request ⟨before, action, left⟩ =
        if asked = request then some selection else none := by
      rcases call with rfl | rfl <;> simp [handed, given]
    rw [hands, callers_set waiting]
    split
    · rename_i same
      rw [← same, waiting]
      exact .selected room tried
    · exact .kept _
  | succeeded | failed | cooled | slowed | reloaded | refused => exact untouched rfl (by simp)

/-- What a request's tracker says about the run so far. Its used fingerprints are
those it was handed, it has room left while a call is in progress, and its
candidates were captured when it was created. -/
structure Tracked (policy : PoolPolicy) (fingerprint : String → String) (request : Nat)
    (trace : List (Runs.Transition System Action)) (caller : Caller) : Prop where
  used : caller.attempts.used =
    (selections policy fingerprint request trace).map Selection.fingerprint
  distinct : caller.attempts.used.Nodup
  limit : caller.attempts.max = policy.maxAttempts
  bounded : caller.attempts.used.length ≤ caller.attempts.max
  room : caller.phase ≠ .idle → caller.attempts.used.length < caller.attempts.max
  captured : ∃ created ∈ trace, ∃ model, created.label = .request model ∧
    created.before.callers.length = request ∧
    caller.attempts.candidates = created.before.pool.candidates

/-- What a run says about the request at a position: it was handed nothing if it
does not exist yet, and it is tracked if it does. -/
def Followed (policy : PoolPolicy) (fingerprint : String → String) (request : Nat)
    (trace : List (Runs.Transition System Action)) : Option Caller → Prop
  | none => selections policy fingerprint request trace = []
  | some caller => Tracked policy fingerprint request trace caller

variable {trace : List (Runs.Transition System Action)}

/-- The selections of a run extended by a step. -/
theorem selections_extend (taken : Runs.Transition System Action) :
    selections policy fingerprint request (trace ++ [taken]) =
      selections policy fingerprint request trace ++
        (handed policy fingerprint request taken).toList :=
  Runs.filterMap_extend _ trace taken

/-- A step that hands the request nothing keeps a tracker of the same history, as
long as it changes the phase or the model only. -/
theorem Tracked.extend {caller left : Caller} {taken : Runs.Transition System Action}
    (tracked : Tracked policy fingerprint request trace caller)
    (silent : handed policy fingerprint request taken = none)
    (used : left.attempts.used = caller.attempts.used)
    (limit : left.attempts.max = caller.attempts.max)
    (candidates : left.attempts.candidates = caller.attempts.candidates)
    (room : left.phase ≠ .idle → caller.attempts.used.length < caller.attempts.max) :
    Tracked policy fingerprint request (trace ++ [taken]) left := by
  obtain ⟨created, member, model, label, position, captured⟩ := tracked.captured
  refine ⟨?_, used ▸ tracked.distinct, limit.trans tracked.limit, ?_, ?_, ?_⟩
  · rw [selections_extend, silent, Option.toList_none, List.append_nil, used]
    exact tracked.used
  · rw [used, limit]
    exact tracked.bounded
  · intro busy
    rw [used, limit]
    exact room busy
  · exact ⟨created, List.mem_append_left _ member, model, label, position,
      candidates.trans captured⟩

/-- A quiet turn that leaves a call in progress has room for a selection: it
starts the call only with room, and a call in progress had it already. -/
theorem quiet_room {phase : CallPhase} {answer : Option AttemptResult}
    (tracked : Tracked policy fingerprint request trace caller)
    (step : QuietStep policy before.pool before.clock caller.attempts caller.phase phase answer)
    (busy : phase ≠ .idle) : caller.attempts.used.length < caller.attempts.max := by
  by_cases idle : caller.phase = .idle
  · rw [idle] at step
    cases step with
    | spent | unlucky => exact absurd rfl busy
    | began room => exact room
  · exact tracked.room idle

/-- One step keeps every request followed. -/
theorem step_followed (stepped : Step policy fingerprint before action after)
    (followed : Followed policy fingerprint request trace before.callers[request]?) :
    Followed policy fingerprint request (trace ++ [⟨before, action, after⟩])
      after.callers[request]? := by
  have treated := step_request stepped request
  generalize hands : handed policy fingerprint request ⟨before, action, after⟩ = given at treated
  generalize before.callers[request]? = caller at followed treated
  generalize after.callers[request]? = left at treated
  cases treated with
  | kept caller =>
    cases caller with
    | none =>
      change selections policy fingerprint request _ = []
      rw [selections_extend, hands, Option.toList_none, List.append_nil]
      exact followed
    | some caller => exact Tracked.extend followed hands rfl rfl rfl (Tracked.room followed)
  | created model fresh asked =>
    have nothing :
        selections policy fingerprint request (trace ++ [⟨before, action, after⟩]) = [] := by
      rw [selections_extend, hands, Option.toList_none, List.append_nil]
      exact followed
    refine ⟨?_, List.nodup_nil, rfl, Nat.zero_le _, fun busy => absurd rfl busy, ?_⟩
    · rw [nothing]
      rfl
    · exact ⟨_, List.mem_append_right _ (List.mem_singleton_self _), model, asked, fresh, rfl⟩
  | modelled model caller =>
    exact Tracked.extend followed hands rfl rfl rfl (fun busy => absurd rfl busy)
  | quiet call step => exact Tracked.extend followed hands rfl rfl rfl (quiet_room followed step)
  | @selected caller selection claimed room tried =>
    have tracked : Tracked policy fingerprint request trace caller := followed
    obtain ⟨_, eligible, _⟩ := RequestAttempts.trySelectUnused_some _ _ _ _ tried
    obtain ⟨unused, _⟩ := (RequestAttempts.eligible_iff _ _ _ _).mp eligible
    have space : caller.attempts.used.length < caller.attempts.max := by
      rcases room with space | selecting
      · exact space
      · exact tracked.room (by simp [selecting])
    obtain ⟨created, member, model, label, position, captured⟩ := tracked.captured
    refine ⟨?_, ?_, tracked.limit, ?_, fun busy => absurd rfl busy, ?_⟩
    · rw [selections_extend, hands]
      simp [RequestAttempts.markUsed, tracked.used]
    · simp only [RequestAttempts.markUsed]
      exact List.nodup_append.mpr ⟨tracked.distinct, List.nodup_singleton _, by
        intro fingerprint old other new same
        rw [List.mem_singleton.mp new] at same
        exact unused (same ▸ old)⟩
    · simp only [RequestAttempts.markUsed, List.length_append, List.length_singleton]
      exact space
    · exact ⟨created, List.mem_append_left _ member, model, label, position, captured⟩

variable {first last : System}

/-- Every request is followed through every run. -/
theorem run_followed (none : first.callers = [])
    (run : Runs.Run (Step policy fingerprint) first trace last) (request : Nat) :
    Followed policy fingerprint request trace last.callers[request]? := by
  induction run with
  | start =>
    rw [none]
    rfl
  | extend earlier stepped inductionHypothesis => exact step_followed stepped inductionHypothesis

/-- A request is handed at most the policy's number of selections, with distinct
fingerprints. -/
theorem selections_bounded (none : first.callers = [])
    (run : Runs.Run (Step policy fingerprint) first trace last) (request : Nat) :
    (selections policy fingerprint request trace).length ≤ policy.maxAttempts ∧
      ((selections policy fingerprint request trace).map Selection.fingerprint).Nodup := by
  have followed := run_followed none run request
  generalize last.callers[request]? = caller at followed
  cases caller with
  | none =>
    have nothing : selections policy fingerprint request trace = [] := followed
    rw [nothing]
    exact ⟨Nat.zero_le _, List.nodup_nil⟩
  | some caller =>
    have tracked : Tracked policy fingerprint request trace caller := followed
    rw [← tracked.used, ← tracked.limit]
    refine ⟨?_, tracked.distinct⟩
    simpa [tracked.used] using tracked.bounded

/-- The ids a run draws, in the order its steps commit. -/
def ids (policy : PoolPolicy) (fingerprint : String → String)
    (trace : List (Runs.Transition System Action)) : List Nat :=
  trace.filterMap (fun taken => taken.before.drawn policy fingerprint taken.label)

/-- The ids with one more step. -/
theorem ids_extend (taken : Runs.Transition System Action) :
    ids policy fingerprint (trace ++ [taken]) =
      ids policy fingerprint trace ++
        (taken.before.drawn policy fingerprint taken.label).toList :=
  Runs.filterMap_extend _ trace taken

/-- Ids strictly increase in commit order and stay below the counter. -/
theorem run_ids (run : Runs.Run (Step policy fingerprint) first trace last) :
    (ids policy fingerprint trace).Pairwise (· < ·) ∧
      ∀ id ∈ ids policy fingerprint trace, id < last.pool.nextId := by
  induction run with
  | start => exact ⟨List.Pairwise.nil, fun id member => by cases member⟩
  | @extend trace current next action earlier stepped inductionHypothesis =>
    obtain ⟨increasing, below⟩ := inductionHypothesis
    rw [ids_extend]
    rcases step_drawn stepped with ⟨nothing, kept⟩ | ⟨fresh, moved⟩
    · rw [nothing, Option.toList_none, List.append_nil, kept]
      exact ⟨increasing, below⟩
    · rw [fresh, Option.toList_some, moved]
      refine ⟨List.pairwise_append.mpr ⟨increasing, List.pairwise_singleton _ _, ?_⟩, ?_⟩
      · intro id member other final
        rw [List.mem_singleton.mp final]
        exact below id member
      · intro id member
        rcases List.mem_append.mp member with old | final
        · exact Nat.lt_succ_of_lt (below id old)
        · rw [List.mem_singleton.mp final]
          exact Nat.lt_succ_self _

/-- Listed keys carry their own fingerprint and are configured ones. -/
def Configured (fingerprint : String → String) (configured : Set Secret) (system : System) : Prop :=
  ∀ candidate ∈ system.pool.listing,
    candidate.fingerprint = fingerprint candidate.key.asStr ∧ candidate.key ∈ configured

variable {configured : Set Secret}

/-- Every entry's key was configured. -/
theorem step_configured (stepped : Step policy fingerprint before action after)
    (reloads : ∀ keys, action = .replaceKeys keys → ∀ key ∈ keys, key ∈ configured)
    (known : Configured fingerprint configured before) :
    Configured fingerprint configured after := by
  intro candidate member
  rcases step_listing stepped with same | ⟨keys, asked, listed⟩
  · rw [same] at member
    exact known candidate member
  · rw [listed] at member
    obtain ⟨key, inside, rfl⟩ := List.mem_map.mp member
    exact ⟨rfl, reloads keys asked key inside⟩

/-- What holds when a request created by one step is handed a selection by a later
one. The key was listed at the creation and is found, with the same secret, at the
selection; it cools neither globally nor for the request's model; and every
earlier captured candidate was used already or could not be selected. -/
def Chosen (created taken : Runs.Transition System Action) (caller : Caller) (used : List String)
    (selection : Selection) : Prop :=
  ⟨selection.fingerprint, selection.key⟩ ∈ created.before.pool.listing ∧
    (∃ entry, taken.before.pool.lookup selection.fingerprint = some entry ∧
      entry.key = selection.key ∧ entry.isCooling taken.before.clock = false ∧
      entry.isLivenessCooling caller.attempts.model taken.before.clock = false) ∧
    ∃ passed rest, created.before.pool.candidates =
        passed ++ ⟨selection.fingerprint, selection.key⟩ :: rest ∧
      ∀ candidate ∈ passed, candidate.fingerprint ∈ used ∨
        ∀ entry, taken.before.pool.lookup candidate.fingerprint = some entry →
          entry.isCooling taken.before.clock = true ∨
            entry.isLivenessCooling caller.attempts.model taken.before.clock = true

/-- Only a request that exists is handed a selection. -/
theorem handed_waiting {taken : Runs.Transition System Action}
    (stepped : Step policy fingerprint taken.before taken.label taken.after)
    (hands : handed policy fingerprint request taken = some selection) :
    ∃ caller, taken.before.callers[request]? = some caller := by
  have treated := step_request stepped request
  rw [hands] at treated
  generalize taken.before.callers[request]? = caller at treated
  generalize taken.after.callers[request]? = left at treated
  cases treated with
  | selected room tried => exact ⟨_, rfl⟩

/-- A handed selection is what its request's try found. -/
theorem handed_tried {taken : Runs.Transition System Action}
    (stepped : Step policy fingerprint taken.before taken.label taken.after)
    (hands : handed policy fingerprint request taken = some selection)
    (waiting : taken.before.callers[request]? = some caller) :
    ∃ claimed, caller.attempts.trySelectUnused policy taken.before.pool taken.before.clock =
      some (selection, claimed) := by
  have treated := step_request stepped request
  rw [hands, waiting] at treated
  generalize taken.after.callers[request]? = left at treated
  cases treated with
  | selected room tried => exact ⟨_, tried⟩

/-- A candidate that a request captured was listed where it did. -/
theorem captured_listed {origin : PoolState} {passed rest : List RequestCandidate}
    (whole : origin.candidates = passed ++ ⟨selection.fingerprint, selection.key⟩ :: rest) :
    (⟨selection.fingerprint, selection.key⟩ : RequestCandidate) ∈ origin.listing := by
  refine PoolState.mem_listing_of_candidate ?_
  rw [whole]
  exact List.mem_append_right _ List.mem_cons_self

/-- A handed selection is chosen from what its request captured. -/
theorem handed_chosen {taken created : Runs.Transition System Action}
    (injective : Set.InjOn (fun key => fingerprint key.asStr) configured)
    (stepped : Step policy fingerprint taken.before taken.label taken.after)
    (hands : handed policy fingerprint request taken = some selection)
    (waiting : taken.before.callers[request]? = some caller)
    (captured : caller.attempts.candidates = created.before.pool.candidates)
    (then_ : Configured fingerprint configured created.before)
    (now : Configured fingerprint configured taken.before) :
    Chosen created taken caller caller.attempts.used selection := by
  obtain ⟨claimed, tried⟩ := handed_tried stepped hands waiting
  obtain ⟨⟨passed, rest, whole, earlier⟩, eligible, _⟩ :=
    RequestAttempts.trySelectUnused_some _ _ _ _ tried
  obtain ⟨_, entry, found, available, live⟩ := (RequestAttempts.eligible_iff _ _ _ _).mp eligible
  rw [captured] at whole
  have listed := captured_listed whole
  obtain ⟨present, same⟩ := PoolState.mem_listing_of_lookup found
  obtain ⟨printed, known⟩ := then_ _ listed
  obtain ⟨reprinted, stillKnown⟩ := now _ present
  have sameKey : entry.key = selection.key :=
    injective stillKnown known (reprinted.symm.trans (same.trans printed))
  exact ⟨listed, ⟨entry, found, sameKey, available, live⟩, passed, rest, whole,
    fun candidate member => Classical.or_iff_not_imp_left.mpr
      ((RequestAttempts.ineligible_iff _ _ _ candidate).mp (earlier candidate member))⟩

/-- So it was at the start. -/
theorem initial_configured (initial : Initial policy fingerprint first)
    (listed : ∀ candidate ∈ first.pool.listing, candidate.key ∈ configured) :
    Configured fingerprint configured first := by
  intro candidate member
  refine ⟨?_, listed candidate member⟩
  obtain ⟨entry, present, rfl⟩ := List.mem_map.mp member
  obtain ⟨keys, built, _⟩ := initial
  obtain ⟨entries, _⟩ := PoolState.withJitter_ok policy fingerprint built
  rw [entries] at present
  obtain ⟨key, _, rfl⟩ := List.mem_map.mp present
  rfl

/-- Attempts are safe under any interleaving. In every run from a fresh pool, each
request is handed at most the policy's number of selections, with distinct
fingerprints; each selection is of a key that was listed when its request was
created and is live and available, for the request's model too, when it is
selected, with no earlier unused candidate available; and ids strictly increase in
the order the steps commit. The fingerprint is injective on the configured keys.

Proof: every request is followed through the run, and a step that hands out a selection takes the
first eligible candidate. -/
theorem attempts_safe (injective : Set.InjOn (fun key => fingerprint key.asStr) configured)
    (initial : Initial policy fingerprint first)
    (listed : ∀ candidate ∈ first.pool.listing, candidate.key ∈ configured)
    (run : Runs.Run (Step policy fingerprint) first trace last)
    (reloads : ∀ taken ∈ trace, ∀ keys, taken.label = .replaceKeys keys →
      ∀ key ∈ keys, key ∈ configured) :
    (∀ request, (selections policy fingerprint request trace).length ≤ policy.maxAttempts ∧
        ((selections policy fingerprint request trace).map Selection.fingerprint).Nodup) ∧
      (∀ earlier taken later request selection, trace = earlier ++ taken :: later →
        handed policy fingerprint request taken = some selection →
        ∃ created ∈ earlier, ∃ model caller, created.label = .request model ∧
          created.before.callers.length = request ∧
          taken.before.callers[request]? = some caller ∧
          Chosen created taken caller
            ((selections policy fingerprint request earlier).map Selection.fingerprint)
            selection) ∧
      (ids policy fingerprint trace).Pairwise (· < ·) := by
  have none : first.callers = [] := by
    obtain ⟨_, _, none, _⟩ := initial
    exact none
  refine ⟨selections_bounded none run, ?_, (run_ids run).1⟩
  · rintro earlier taken later request selection rfl hands
    obtain ⟨upTo, stepped, _⟩ := run.split
    obtain ⟨caller, waiting⟩ := handed_waiting stepped hands
    have tracked : Tracked policy fingerprint request earlier caller := by
      have followed := run_followed none upTo request
      rw [waiting] at followed
      exact followed
    obtain ⟨created, member, model, label, position, captured⟩ := tracked.captured
    have known (prior onward : List (Runs.Transition System Action)) (reached : System)
        (whole : earlier ++ taken :: later = prior ++ onward)
        (front : Runs.Run (Step policy fingerprint) first prior reached) :
        Configured fingerprint configured reached := by
      refine front.preserved (Configured fingerprint configured)
        (initial_configured initial listed) ?_
      intro step inside stepped
      refine step_configured stepped (reloads step ?_)
      rw [whole]
      exact List.mem_append_left _ inside
    obtain ⟨before, between, rfl⟩ := List.append_of_mem member
    have chosen := handed_chosen injective stepped hands waiting captured
      (known before (created :: between ++ taken :: later) _ (by simp) upTo.split.1)
      (known _ (taken :: later) _ rfl upTo)
    rw [tracked.used] at chosen
    exact ⟨created, member, model, caller, label, position, waiting, chosen⟩

/-- One request is handed the first two of three keys, and no third. -/
theorem attempts_safe_leases :
    let trace := Runs.steps sampleNext freshABC leaseTwice
    (selections samplePolicy sampleFingerprint 0 trace).map Selection.fingerprint = ["a", "b"] ∧
      (selections samplePolicy sampleFingerprint 0 trace).length ≤ samplePolicy.maxAttempts ∧
      ((selections samplePolicy sampleFingerprint 0 trace).map Selection.fingerprint).Nodup ∧
      (ids samplePolicy sampleFingerprint trace).Pairwise (· < ·) := by
  have leased : (Runs.record sampleNext freshABC leaseTwice).isSome := by
    decide +kernel
  have injective : Set.InjOn (fun key : Secret => sampleFingerprint key.asStr) Set.univ := by
    intro one _ two _ same
    exact congrArg Secret.mk same
  obtain ⟨bounded, _, increasing⟩ := attempts_safe injective
    (started_initial samplePolicy sampleFingerprint rfl (by simp))
    (fun _ _ => Set.mem_univ _) (Runs.replay_run leased) (fun _ _ _ _ _ _ => Set.mem_univ _)
  exact ⟨by decide +kernel, (bounded 0).1, (bounded 0).2, increasing⟩

end System

end Orihsus.Pool
