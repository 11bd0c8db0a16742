import Mathlib.Data.List.Basic
import Mathlib.Data.List.Forall2

/-!
# Finite runs of a labelled step relation

A run records every step it takes: the state before it, the label that was
chosen and the state after it. Labels are chosen freely at each step, so a law
of every run is a law of every interleaving of the parties whose operations the
labels name. The relation may be partial; a label that is not enabled simply
extends no run.

Nothing here depends on what the states or the labels are.
-/

namespace Runs

universe u v
variable {State : Type u} {Label : Type v}

/-- One step of a run, with the states around it. -/
structure Transition (State : Type u) (Label : Type v) where
  before : State
  label : Label
  after : State

/-- The runs of a step relation from a first state, in the order of their steps. -/
inductive Run (Step : State → Label → State → Prop) (first : State) :
    List (Transition State Label) → State → Prop
  | start : Run Step first [] first
  | extend {trace : List (Transition State Label)} {last next : State} {label : Label}
      (earlier : Run Step first trace last) (stepped : Step last label next) :
      Run Step first (trace ++ [⟨last, label, next⟩]) next

variable {Step : State → Label → State → Prop} {first last : State}
  {trace earlier later : List (Transition State Label)} {taken : Transition State Label}

/-- A run cut at one of its steps is a run up to that step, the step itself and
a run from the state it left. -/
theorem Run.split (run : Run Step first (earlier ++ taken :: later) last) :
    Run Step first earlier taken.before ∧ Step taken.before taken.label taken.after ∧
      Run Step taken.after later last := by
  generalize whole : earlier ++ taken :: later = trace at run
  induction run generalizing later with
  | start => simp at whole
  | @extend prior current next label before stepped inductionHypothesis =>
    rcases List.eq_nil_or_concat later with rfl | ⟨shorter, final, rfl⟩
    · obtain ⟨rfl, same⟩ := List.append_inj' whole rfl
      obtain rfl : taken = ⟨current, label, next⟩ := by simpa using same
      exact ⟨before, stepped, .start⟩
    · rw [List.concat_eq_append, ← List.cons_append, ← List.append_assoc] at whole
      obtain ⟨rest, same⟩ := List.append_inj' whole rfl
      obtain rfl : final = ⟨current, label, next⟩ := by simpa using same
      obtain ⟨upTo, at_, from_⟩ := inductionHypothesis rest
      rw [List.concat_eq_append]
      exact ⟨upTo, at_, from_.extend stepped⟩

/-- Every recorded step was enabled where it was taken, and the state it was
taken in ends a run of its own. -/
theorem Run.recorded (run : Run Step first trace last) (member : taken ∈ trace) :
    (∃ prior, Run Step first prior taken.before) ∧ Step taken.before taken.label taken.after := by
  obtain ⟨earlier, later, rfl⟩ := List.append_of_mem member
  obtain ⟨upTo, stepped, _⟩ := run.split
  exact ⟨⟨earlier, upTo⟩, stepped⟩

/-- A property of the first state that every recorded step keeps holds at the
end. Each step is available with its enabledness, so a condition on the steps of
this particular run may be used to keep the property. -/
theorem Run.preserved (run : Run Step first trace last) (Holds : State → Prop)
    (initial : Holds first)
    (kept : ∀ taken ∈ trace, Step taken.before taken.label taken.after →
      Holds taken.before → Holds taken.after) : Holds last := by
  induction run with
  | start => exact initial
  | extend before stepped inductionHypothesis =>
    have reached := inductionHypothesis (fun taken member =>
      kept taken (List.mem_append_left _ member))
    exact kept _ (List.mem_append_right _ (List.mem_singleton_self _)) stepped reached

/-- The invariant rule: what every enabled step preserves holds in every state
of every run that starts with it. -/
theorem Run.invariant (run : Run Step first trace last) (Holds : State → Prop)
    (initial : Holds first)
    (kept : ∀ before label after, Step before label after → Holds before → Holds after) :
    Holds last :=
  run.preserved Holds initial fun taken _ stepped =>
    kept taken.before taken.label taken.after stepped

/-- What is read off the steps of a run, when one more step is taken. -/
theorem filterMap_extend {Value : Type*} (read : Transition State Label → Option Value)
    (trace : List (Transition State Label)) (taken : Transition State Label) :
    (trace ++ [taken]).filterMap read = trace.filterMap read ++ (read taken).toList := by
  rw [List.filterMap_append]
  cases found : read taken with
  | none | some => simp [found]

/-- A run continued by a run from where it ended. -/
theorem Run.append {middle : State} (front : Run Step first earlier middle)
    (back : Run Step middle later last) : Run Step first (earlier ++ later) last := by
  induction back with
  | start => simpa using front
  | extend _ stepped inductionHypothesis =>
    rw [← List.append_assoc]
    exact inductionHypothesis.extend stepped

/-- A run up to a step, the step and a run from the state it left make one run. -/
theorem Run.join {middle next : State} {label : Label} (upTo : Run Step first earlier middle)
    (stepped : Step middle label next) (onward : Run Step next later last) :
    Run Step first (earlier ++ ⟨middle, label, next⟩ :: later) last := by
  rw [List.append_cons]
  exact (upTo.extend stepped).append onward

/-- Steps with allowed labels lead from a state to one with a property. -/
def Reaches (Step : State → Label → State → Prop) (Allowed : Label → Prop)
    (Goal : State → Prop) (first : State) : Prop :=
  ∃ trace last, Run Step first trace last ∧ (∀ taken ∈ trace, Allowed taken.label) ∧ Goal last

section Reaches

variable {Allowed : Label → Prop} {Goal Later : State → Prop}

/-- A goal that holds is reached. -/
theorem Reaches.here (holds : Goal first) : Reaches Step Allowed Goal first :=
  ⟨[], first, .start, List.forall_mem_nil _, holds⟩

/-- One allowed step to a state that reaches the goal. -/
theorem Reaches.before {next : State} {label : Label} (stepped : Step first label next)
    (allowed : Allowed label) (reaches : Reaches Step Allowed Goal next) :
    Reaches Step Allowed Goal first := by
  obtain ⟨trace, last, run, each, holds⟩ := reaches
  refine ⟨_, last, (Run.start.extend stepped).append run, ?_, holds⟩
  intro taken member
  rcases List.mem_append.mp member with leading | rest
  · rw [List.mem_singleton.mp leading]
    exact allowed
  · exact each taken rest

/-- What is reached reaches further. -/
theorem Reaches.trans (reaches : Reaches Step Allowed Goal first)
    (onward : ∀ state, Goal state → Reaches Step Allowed Later state) :
    Reaches Step Allowed Later first := by
  obtain ⟨trace, middle, run, each, holds⟩ := reaches
  obtain ⟨more, last, continued, others, later⟩ := onward middle holds
  refine ⟨trace ++ more, last, run.append continued, ?_, later⟩
  intro taken member
  rcases List.mem_append.mp member with front | back
  · exact each taken front
  · exact others taken back

/-- A weaker goal is reached. -/
theorem Reaches.mono (reaches : Reaches Step Allowed Goal first)
    (implies : ∀ state, Goal state → Later state) : Reaches Step Allowed Later first :=
  reaches.trans fun state holds => .here (implies state holds)

/-- What the allowed steps keep still holds where the goal is reached. -/
theorem Reaches.keeping (reaches : Reaches Step Allowed Goal first) (Holds : State → Prop)
    (initial : Holds first)
    (kept : ∀ before label after, Allowed label → Step before label after → Holds before →
      Holds after) : Reaches Step Allowed (fun state => Goal state ∧ Holds state) first := by
  obtain ⟨trace, last, run, each, holds⟩ := reaches
  refine ⟨trace, last, run, each, holds, run.preserved Holds initial ?_⟩
  intro taken member stepped
  exact kept _ _ _ (each taken member) stepped

/-- The rule for progress: where an invariant holds, the goal is reached or an allowed step
keeps the invariant and lowers a measure. -/
theorem Reaches.descend (Holds : State → Prop) (measure : State → Nat)
    (progress : ∀ state, Holds state → Goal state ∨ ∃ label next,
      Step state label next ∧ Allowed label ∧ Holds next ∧ measure next < measure state)
    (holds : Holds first) : Reaches Step Allowed Goal first := by
  induction size : measure first using Nat.strongRecOn generalizing first with
  | ind bound inductionHypothesis =>
    rcases progress first holds with done | ⟨label, next, stepped, allowed, kept, less⟩
    · exact .here done
    · exact (inductionHypothesis _ (size ▸ less) kept rfl).before stepped allowed

end Reaches

/-- The invariant rule for two runs: a relation between their first states that each pair
of steps keeps holds between their last states. -/
theorem Run.related {other final : State} {mirror : List (Transition State Label)}
    {Pair : Transition State Label → Transition State Label → Prop}
    (left : Run Step first trace last) (right : Run Step other mirror final)
    (pairs : List.Forall₂ Pair trace mirror) (Related : State → State → Prop)
    (initial : Related first other)
    (kept : ∀ taken ∈ trace, ∀ counter ∈ mirror, Pair taken counter →
      Step taken.before taken.label taken.after → Step counter.before counter.label counter.after →
        Related taken.before counter.before → Related taken.after counter.after) :
    Related last final := by
  induction left generalizing mirror final with
  | start =>
    cases pairs
    generalize none : ([] : List (Transition State Label)) = mirror at right
    cases right with
    | start => exact initial
    | extend earlier stepped => simp at none
  | @extend shorter current next label earlier stepped inductionHypothesis =>
    cases right with
    | start => simp at pairs
    | @extend shortened reached onward action before taken =>
      rw [← List.forall₂_reverse_iff, List.reverse_concat, List.reverse_concat, List.forall₂_cons,
        List.forall₂_reverse_iff] at pairs
      refine kept _ (List.mem_append_right _ (List.mem_singleton_self _)) _
        (List.mem_append_right _ (List.mem_singleton_self _)) pairs.1 stepped taken ?_
      refine inductionHypothesis before pairs.2 ?_
      intro step member counter inside
      exact kept step (List.mem_append_left _ member) counter (List.mem_append_left _ inside)

/-- A guarded computation succeeds exactly when its guard holds and the rest does. -/
theorem guard_bind {Value : Type} {condition : Prop} [Decidable condition] {rest : Option Value}
    {value : Value} : (guard condition >>= fun _ => rest) = some value ↔
      condition ∧ rest = some value := by
  by_cases holds : condition
  · simp [guard, holds]
  · simp [guard, holds, failure]

/-- Record the run that a sequence of labels takes when the step is a partial
function, or nothing if some label is not enabled where its turn comes. -/
def record (next : State → Label → Option State) (first : State) :
    List Label → Option (List (Transition State Label) × State)
  | [] => some ([], first)
  | label :: rest =>
      (next first label).bind fun after =>
        (record next after rest).map fun tail => (⟨first, label, after⟩ :: tail.1, tail.2)

/-- What is recorded is a run. -/
theorem record_run {next : State → Label → Option State} {labels : List Label}
    (recorded : record next first labels = some (trace, last)) :
    Run (fun before label after => next before label = some after) first trace last := by
  induction labels generalizing first trace with
  | nil =>
    cases recorded
    exact .start
  | cons label rest inductionHypothesis =>
    obtain ⟨after, stepped, following⟩ := Option.bind_eq_some_iff.mp recorded
    obtain ⟨⟨shorter, final⟩, completed, same⟩ := Option.map_eq_some_iff.mp following
    cases same
    exact (Run.start.extend stepped).append (inductionHypothesis completed)

/-- A record takes its labels in their order, so a recorded step has one of them. -/
theorem record_label {next : State → Label → Option State} {labels : List Label}
    (recorded : record next first labels = some (trace, last)) (member : taken ∈ trace) :
    taken.label ∈ labels := by
  induction labels generalizing first trace with
  | nil =>
    cases recorded
    cases member
  | cons label rest inductionHypothesis =>
    obtain ⟨after, stepped, following⟩ := Option.bind_eq_some_iff.mp recorded
    obtain ⟨⟨shorter, final⟩, completed, same⟩ := Option.map_eq_some_iff.mp following
    cases same
    rcases List.mem_cons.mp member with rfl | inside
    · exact List.mem_cons_self
    · exact List.mem_cons_of_mem _ (inductionHypothesis completed inside)

/-- The steps of a record. -/
def steps (next : State → Label → Option State) (first : State) (labels : List Label) :
    List (Transition State Label) :=
  ((record next first labels).map Prod.fst).getD []

/-- Where a record ends. -/
def reached (next : State → Label → Option State) (first : State) (labels : List Label) : State :=
  ((record next first labels).map Prod.snd).getD first

variable {next : State → Label → Option State} {labels : List Label}

/-- The steps and the end of a record that takes every label are a run. -/
theorem replay_run (enabled : (record next first labels).isSome) :
    Run (fun before label after => next before label = some after) first
      (steps next first labels) (reached next first labels) := by
  obtain ⟨⟨trace, last⟩, recorded⟩ := Option.isSome_iff_exists.mp enabled
  simp only [steps, reached, recorded, Option.map_some, Option.getD_some]
  exact record_run recorded

/-- A single label that is enabled is a step to where its record ends. -/
theorem reached_step {label : Label} (enabled : (next first label).isSome) :
    next first label = some (reached next first [label]) := by
  obtain ⟨after, stepped⟩ := Option.isSome_iff_exists.mp enabled
  simp [reached, record, stepped]

/-- The steps of a record are labelled by its labels. -/
theorem steps_label (member : taken ∈ steps next first labels) : taken.label ∈ labels := by
  unfold steps at member
  cases recorded : record next first labels with
  | none => simp [recorded] at member
  | some result =>
    simp only [recorded, Option.map_some, Option.getD_some] at member
    exact record_label recorded member

/-- Two records whose labels are paired take paired steps. -/
theorem steps_pairs {other : State} {counters : List Label} {Pair : Label → Label → Prop}
    (pairs : List.Forall₂ Pair labels counters)
    (enabled : (record next first labels).isSome) (mirrored : (record next other counters).isSome) :
    List.Forall₂ (fun taken counter => Pair taken.label counter.label)
      (steps next first labels) (steps next other counters) := by
  unfold steps
  induction pairs generalizing first other with
  | nil => exact .nil
  | @cons label counter rest others pair more inductionHypothesis =>
    obtain ⟨⟨trace, last⟩, recorded⟩ := Option.isSome_iff_exists.mp enabled
    obtain ⟨after, stepped, following⟩ := Option.bind_eq_some_iff.mp recorded
    obtain ⟨⟨shorter, final⟩, completed, same⟩ := Option.map_eq_some_iff.mp following
    obtain ⟨⟨mirror, end_⟩, reflected⟩ := Option.isSome_iff_exists.mp mirrored
    obtain ⟨later, taken, continued⟩ := Option.bind_eq_some_iff.mp reflected
    obtain ⟨⟨shortened, reached⟩, finished, equal⟩ := Option.map_eq_some_iff.mp continued
    have remaining := @inductionHypothesis after later (by rw [completed]; rfl)
      (by rw [finished]; rfl)
    cases same
    cases equal
    rw [recorded, reflected]
    rw [completed, finished] at remaining
    exact .cons pair remaining

end Runs
