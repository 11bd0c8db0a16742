import Mathlib.Order.Bounds.Basic
import Orihsus.Cooldowns
import Orihsus.Usage

/-!
# Proactive polling of the usage endpoint

`src/usage.rs` asks the usage endpoint about every key, keeps what it says for the status
endpoint and cools a key whose windows are exhausted until the latest of their resets. The
JSON library, the library for dates and the fingerprint are parameters. Dates and the wall
clock count nanoseconds from one epoch, and a percentage is the number that the document
states. The history on disk is left out.
-/

namespace Orihsus.Usage

open Gateway (Json)
open Pool (KeyEntry PoolState Secret deadlineAfter)

structure Libraries where
  parseJson : List UInt8 → Option Json
  parseDate : String → Option Int
  toRfc3339 : Int → String
  fingerprint : String → String

/-! ## Reading a response -/

/-- The part of a document that holds the windows. -/
def usageOf (root : Json) : Json := (root.get "usage").getD root

def statusOf (value : Json) : Option String := (value.get "status").bind Json.asStr

/-- The older name of the percentage is only read where the newer one is missing. -/
def percentOf (window : Json) : Option Rat :=
  ((window.get "percent").orElse fun _ => window.get "usagePercent").bind Json.asF64

def resetsAtOf (window : Json) : Option String := (window.get "resetsAt").bind Json.asStr

def windowNames : List String := ["rolling", "weekly", "monthly"]

structure UsageWindowSnapshot where
  status : Option String
  percent : Option Rat
  resetsAt : Option String
  deriving DecidableEq, Repr

structure UsageKeySnapshot where
  timestamp : String
  keyFingerprint : String
  rolling : UsageWindowSnapshot
  weekly : UsageWindowSnapshot
  monthly : UsageWindowSnapshot
  deriving DecidableEq, Repr

/-- The closure `window` of `parse_history_record`. -/
def windowSnapshot (usage : Json) (name : String) : UsageWindowSnapshot where
  status := (usage.get name).bind statusOf
  percent := (usage.get name).bind percentOf
  resetsAt := (usage.get name).bind resetsAtOf

/-- `parse_history_record`. -/
def parseHistoryRecord (libraries : Libraries) (body : List UInt8) (timestamp : Int)
    (key : Secret) : Option UsageKeySnapshot :=
  (libraries.parseJson body).map fun root =>
    { timestamp := libraries.toRfc3339 timestamp
      keyFingerprint := libraries.fingerprint key.asStr
      rolling := windowSnapshot (usageOf root) "rolling"
      weekly := windowSnapshot (usageOf root) "weekly"
      monthly := windowSnapshot (usageOf root) "monthly" }

/-- `UsageSnapshotStore`, by fingerprint. -/
abbrev UsageSnapshotStore := List (String × UsageKeySnapshot)

/-- `UsageSnapshotStore::update`. -/
def UsageSnapshotStore.update (store : UsageSnapshotStore) (snapshot : UsageKeySnapshot) :
    UsageSnapshotStore :=
  (snapshot.keyFingerprint, snapshot) ::
    store.filter fun entry => entry.1 ≠ snapshot.keyFingerprint

/-- `UsageSnapshotStore::get`. -/
def UsageSnapshotStore.get (store : UsageSnapshotStore) (fingerprint : String) :
    Option UsageKeySnapshot := store.lookup fingerprint

/-! ## The proactive cooldown -/

def rateLimited (value : Json) : Bool := statusOf value = some "rate-limited"

/-- The percentages at which `evaluate` takes a window for exhausted. -/
def inRange (threshold percent : Rat) : Bool := 0 ≤ percent && percent ≤ 100 && threshold ≤ percent

def resetOf (parseDate : String → Option Int) (window : Json) : Option Int :=
  (resetsAtOf window).bind parseDate

section

variable (parseDate : String → Option Int) (now : Int) (threshold : Rat)

/-- The loop of `evaluate` over the windows. -/
def evaluateLoop (topLimited hasLimitedWindow : Bool) (usage : Json) (latest : Option Int) :
    List String → Option Int
  | [] => latest
  | name :: rest =>
      match usage.get name with
      | none => evaluateLoop topLimited hasLimitedWindow usage latest rest
      | some window =>
          let limited := rateLimited window
          let topApplies := topLimited && (!hasLimitedWindow || limited)
          if !topApplies && !limited && !(percentOf window).any (inRange threshold) then
            evaluateLoop topLimited hasLimitedWindow usage latest rest
          else
            match resetOf parseDate window with
            | none => evaluateLoop topLimited hasLimitedWindow usage latest rest
            | some reset =>
                if reset ≤ now then evaluateLoop topLimited hasLimitedWindow usage latest rest
                else
                  evaluateLoop topLimited hasLimitedWindow usage
                    (some (latest.elim reset (max · reset))) rest

/-- `TimeDelta::to_std`: a negative difference is refused. -/
def toStd (delta : Int) : Option Nat := if 0 ≤ delta then some delta.toNat else none

/-- `evaluate` after the document has been parsed. -/
def evaluateDocument (root : Json) : Option Nat := do
  let usage := usageOf root
  let hasLimitedWindow := windowNames.any fun name => (usage.get name).any rateLimited
  let reset ← evaluateLoop parseDate now threshold (rateLimited root) hasLimitedWindow usage none
    windowNames
  toStd (reset - now)

end

/-- `evaluate`. -/
def evaluate (libraries : Libraries) (body : List UInt8) (now : Int) (threshold : Rat) :
    Option Nat :=
  (libraries.parseJson body).bind (evaluateDocument libraries.parseDate now threshold)

/-- `UsageFetchError`. -/
inductive UsageFetchError where
  | timeout
  | httpStatus
  | bodyTooLarge
  | transport
  deriving DecidableEq, Repr

/-! ## What the cooldown is for -/

/-- The windows of a document. -/
def windows (root : Json) : List Json := windowNames.filterMap (usageOf root).get

/-- The status of the document says that its windows are exhausted, and that of none of them
says which. -/
def AllLimited (root : Json) : Prop :=
  rateLimited root = true ∧ ∀ window ∈ windows root, rateLimited window = false

/-- A window is exhausted: its status says so, its percentage is one that is accepted, or all
of them are. -/
def Exhausted (accepts : Rat → Prop) (all : Prop) (window : Json) : Prop :=
  rateLimited window = true ∨ (∃ percent, percentOf window = some percent ∧ accepts percent) ∨ all

section

variable (parseDate : String → Option Int) (now : Int) (accepts : Rat → Prop)

/-- The instant ahead at which an exhausted window resets. -/
def resetAhead (all : Prop) (window : Json) : Set Int :=
  {reset | Exhausted accepts all window ∧ resetOf parseDate window = some reset ∧ now < reset}

/-- The instants ahead at which exhausted windows of a list reset. -/
def resetsAhead (all : Prop) (listed : List Json) : Set Int :=
  {reset | ∃ window ∈ listed, reset ∈ resetAhead parseDate now accepts all window}

/-- The instants ahead at which exhausted windows of a document reset. -/
def exhaustedResets (root : Json) : Set Int :=
  resetsAhead parseDate now accepts (AllLimited root) (windows root)

end

/-- The latest of these instants, if there is one. -/
def IsLatest (instants : Set Int) (latest : Option Int) : Prop :=
  (instants = ∅ ∧ latest = none) ∨ ∃ reset, IsGreatest instants reset ∧ latest = some reset

/-- The time until the latest of these instants, if there is one. -/
def UntilLatest (now : Int) (instants : Set Int) (cooldown : Option Nat) : Prop :=
  ∃ latest, IsLatest instants latest ∧ cooldown = latest.map fun reset => (reset - now).toNat

section

variable {parseDate : String → Option Int} {now : Int} {threshold : Rat} {root usage : Json}
  {accepts : Rat → Prop} {all : Prop}

/-- The latest of one more instant. -/
theorem IsLatest.insert {instants : Set Int} {latest : Option Int}
    (before : IsLatest instants latest) (reset : Int) :
    IsLatest (instants ∪ {reset}) (some (latest.elim reset (max · reset))) := by
  rw [Set.union_singleton]
  rcases before with ⟨rfl, rfl⟩ | ⟨old, greatest, rfl⟩
  · refine .inr ⟨reset, ?_, rfl⟩
    rw [LawfulSingleton.insert_empty_eq]
    exact isGreatest_singleton
  · refine .inr ⟨max reset old, greatest.insert reset, ?_⟩
    rw [max_comm]
    rfl

/-- The resets of one more window. -/
theorem resetsAhead_cons (window : Json) (rest : List Json) :
    resetsAhead parseDate now accepts all (window :: rest) =
      resetAhead parseDate now accepts all window ∪
        resetsAhead parseDate now accepts all rest := by
  ext reset
  simp only [resetsAhead, Set.mem_ofPred_eq, Set.mem_union, List.mem_cons, exists_eq_or_imp]

/-- The test of the loop on a window. -/
theorem exhausted_iff {top limited : Bool} (window : Json) :
    (!(top && (!limited || rateLimited window)) && !rateLimited window &&
        !(percentOf window).any (inRange threshold)) = true ↔
      ¬ Exhausted (inRange threshold · = true) (top = true ∧ limited = false) window := by
  have read : (percentOf window).any (inRange threshold) = true ↔
      ∃ percent, percentOf window = some percent ∧ inRange threshold percent = true :=
    Option.any_eq_true _ _
  rw [Exhausted, ← read]
  cases top <;> cases limited <;> cases rateLimited window <;> simp

/-- The loop keeps the latest reset of the windows that it has passed. -/
theorem evaluateLoop_latest {top limited : Bool} {instants : Set Int} {latest : Option Int}
    (before : IsLatest instants latest) (names : List String) :
    IsLatest
      (instants ∪ resetsAhead parseDate now (inRange threshold · = true)
        (top = true ∧ limited = false) (names.filterMap usage.get))
      (evaluateLoop parseDate now threshold top limited usage latest names) := by
  induction names generalizing instants latest with
  | nil =>
    have none : resetsAhead parseDate now (inRange threshold · = true)
        (top = true ∧ limited = false) [] = ∅ := by
      simp [resetsAhead]
    rw [List.filterMap_nil, none, Set.union_empty]
    exact before
  | cons name rest inductionHypothesis =>
    unfold evaluateLoop
    cases found : usage.get name with
    | none =>
      rw [List.filterMap_cons_none found]
      exact inductionHypothesis before
    | some window =>
      rw [List.filterMap_cons_some found, resetsAhead_cons, ← Set.union_assoc]
      dsimp only
      have skip (empty : resetAhead parseDate now (inRange threshold · = true)
          (top = true ∧ limited = false) window = ∅) :
          IsLatest (instants ∪ resetAhead parseDate now (inRange threshold · = true)
            (top = true ∧ limited = false) window) latest := by
        rw [empty, Set.union_empty]
        exact before
      split
      · rename_i passed
        refine inductionHypothesis (skip (Set.eq_empty_of_forall_notMem ?_))
        rintro reset ⟨exhausted, _⟩
        exact (exhausted_iff window).mp passed exhausted
      · rename_i taken
        rw [exhausted_iff, not_not] at taken
        split
        · rename_i undated
          refine inductionHypothesis (skip (Set.eq_empty_of_forall_notMem ?_))
          rintro reset ⟨_, dated, _⟩
          rw [undated] at dated
          cases dated
        · rename_i reset dated
          split
          · rename_i past
            refine inductionHypothesis (skip (Set.eq_empty_of_forall_notMem ?_))
            rintro other ⟨_, same, ahead⟩
            rw [dated] at same
            cases same
            exact absurd ahead (not_lt.mpr past)
          · rename_i ahead
            have own : resetAhead parseDate now (inRange threshold · = true)
                (top = true ∧ limited = false) window = {reset} := by
              ext other
              constructor
              · rintro ⟨_, same, _⟩
                rw [dated] at same
                cases same
                rfl
              · rintro rfl
                exact ⟨taken, dated, not_le.mp ahead⟩
            rw [own]
            exact inductionHypothesis (before.insert reset)

/-- The test of the code in words. -/
theorem allLimited_iff : AllLimited root ↔ rateLimited root = true ∧
    (windowNames.any fun name => ((usageOf root).get name).any rateLimited) = false := by
  refine and_congr_right fun _ => ?_
  rw [List.any_eq_false]
  simp only [windows, List.mem_filterMap]
  constructor
  · intro none name member limited
    obtain ⟨window, found, holds⟩ := (Option.any_eq_true _ _).mp limited
    rw [none window ⟨name, member, found⟩] at holds
    cases holds
  · rintro none window ⟨name, member, found⟩
    rw [← Bool.not_eq_true]
    intro limited
    exact none name member ((Option.any_eq_true _ _).mpr ⟨window, found, limited⟩)

/-- The cooldown is the time until the latest reset of the windows that the loop takes for
exhausted. -/
theorem evaluateDocument_latest :
    UntilLatest now (exhaustedResets parseDate now (inRange threshold · = true) root)
      (evaluateDocument parseDate now threshold root) := by
  have loop := @evaluateLoop_latest parseDate now threshold (usageOf root) (rateLimited root)
    (windowNames.any fun name => ((usageOf root).get name).any rateLimited) ∅ none
    (.inl ⟨rfl, rfl⟩) windowNames
  rw [Set.empty_union, ← propext allLimited_iff] at loop
  refine ⟨_, loop, ?_⟩
  unfold evaluateDocument
  dsimp only
  rcases loop with ⟨_, same⟩ | ⟨reset, greatest, same⟩
  · rw [same]
    rfl
  · obtain ⟨_, _, _, _, ahead⟩ := greatest.1
    rw [same]
    exact if_pos (Int.sub_nonneg.mpr (le_of_lt ahead))

/-- The latest instant of a larger set is that of a smaller one exactly if each instant has a
later one in the smaller set. -/
theorem untilLatest_iff {small large : Set Int} {cooldown : Option Nat} (inside : small ⊆ large)
    (ahead : ∀ reset ∈ large, now < reset) (until_small : UntilLatest now small cooldown) :
    UntilLatest now large cooldown ↔ ∀ reset ∈ large, ∃ later ∈ small, reset ≤ later := by
  obtain ⟨latest, known, rfl⟩ := until_small
  constructor
  · rintro ⟨other, ⟨empty, _⟩ | ⟨most, greatest, rfl⟩, same⟩ reset member
    · rw [empty] at member
      cases member
    · rcases known with ⟨_, rfl⟩ | ⟨least, isGreatest, rfl⟩
      · cases same
      · -- Both are ahead, so the same time until them makes them the same instant.
        have first := ahead most greatest.1
        have second := ahead least (inside isGreatest.1)
        have equal : (least - now).toNat = (most - now).toNat := Option.some.inj same
        have bound := greatest.2 member
        exact ⟨least, isGreatest.1, by omega⟩
  · intro covers
    rcases known with ⟨empty, rfl⟩ | ⟨most, greatest, rfl⟩
    · refine ⟨none, .inl ⟨Set.eq_empty_of_forall_notMem ?_, rfl⟩, rfl⟩
      intro reset member
      obtain ⟨later, inner, _⟩ := covers reset member
      rw [empty] at inner
      cases inner
    · refine ⟨some most, .inr ⟨most, ⟨inside greatest.1, ?_⟩, rfl⟩, rfl⟩
      intro reset member
      obtain ⟨later, inner, bound⟩ := covers reset member
      exact le_trans bound (greatest.2 inner)

/-- A larger set has no less time until its latest instant. -/
theorem untilLatest_mono {small large : Set Int} {cooldown : Nat} {other : Option Nat}
    (inside : small ⊆ large) (shorter : UntilLatest now small (some cooldown))
    (longer : UntilLatest now large other) : ∃ more, cooldown ≤ more ∧ other = some more := by
  obtain ⟨_, ⟨_, rfl⟩ | ⟨least, first, rfl⟩, same⟩ := shorter
  · cases same
  · cases same
    obtain ⟨_, ⟨empty, _⟩ | ⟨most, second, rfl⟩, rfl⟩ := longer
    · rw [empty] at inside
      cases inside first.1
    · have bound := second.2 (inside first.1)
      exact ⟨(most - now).toNat, by dsimp only; omega, rfl⟩

/-- Windows that reset at the same instants, of which the others are exhausted too. -/
theorem resetsAhead_subset {weaker : Rat → Prop} {any : Prop} {listed others : List Json}
    (matched : ∀ window ∈ listed, ∃ other ∈ others,
      (Exhausted accepts all window → Exhausted weaker any other) ∧
        resetOf parseDate window = resetOf parseDate other) :
    resetsAhead parseDate now accepts all listed ⊆ resetsAhead parseDate now weaker any others := by
  rintro reset ⟨window, member, exhausted, dated, ahead⟩
  obtain ⟨other, also, implies, same⟩ := matched window member
  exact ⟨other, also, implies exhausted, same.symm.trans dated, ahead⟩

/-- The range only leaves windows out. -/
theorem exhaustedResets_inRange :
    exhaustedResets parseDate now (inRange threshold · = true) root ⊆
      exhaustedResets parseDate now (threshold ≤ ·) root := by
  refine resetsAhead_subset fun window member => ⟨window, member, ?_, rfl⟩
  refine Or.imp_right (Or.imp_left ?_)
  rintro ⟨percent, stated, within⟩
  rw [inRange, Bool.and_eq_true] at within
  exact ⟨percent, stated, of_decide_eq_true within.2⟩

/-- A window that states no less usage than another one and is the same otherwise. -/
structure RaisedWindow (parseDate : String → Option Int) (lower upper : Json) : Prop where
  status : rateLimited lower = rateLimited upper
  reset : resetOf parseDate lower = resetOf parseDate upper
  percent : ∀ percent, percentOf lower = some percent →
    ∃ higher, percentOf upper = some higher ∧ percent ≤ higher

/-- A document whose windows state no less usage than those of another one. -/
structure Raised (parseDate : String → Option Int) (lower upper : Json) : Prop where
  status : rateLimited lower = rateLimited upper
  each : ∀ name ∈ windowNames,
    Option.Rel (RaisedWindow parseDate) ((usageOf lower).get name) ((usageOf upper).get name)

section

variable {lower window other : Json}

/-- Every window has one that is raised from it. -/
theorem Raised.above (raised : Raised parseDate lower root) (member : window ∈ windows lower) :
    ∃ other ∈ windows root, RaisedWindow parseDate window other := by
  obtain ⟨name, listed, found⟩ := List.mem_filterMap.mp member
  have related := raised.each name listed
  rw [found] at related
  generalize counterpart : (usageOf root).get name = twin at related
  cases related with
  | some higher => exact ⟨_, List.mem_filterMap.mpr ⟨name, listed, counterpart⟩, higher⟩

/-- Every raised window has one that it is raised from. -/
theorem Raised.below (raised : Raised parseDate lower root) (member : other ∈ windows root) :
    ∃ window ∈ windows lower, RaisedWindow parseDate window other := by
  obtain ⟨name, listed, found⟩ := List.mem_filterMap.mp member
  have related := raised.each name listed
  rw [found] at related
  generalize counterpart : (usageOf lower).get name = twin at related
  cases related with
  | some higher => exact ⟨_, List.mem_filterMap.mpr ⟨name, listed, counterpart⟩, higher⟩

/-- More usage exhausts no fewer windows. -/
theorem exhaustedResets_raised (raised : Raised parseDate lower root) :
    exhaustedResets parseDate now (threshold ≤ ·) lower ⊆
      exhaustedResets parseDate now (threshold ≤ ·) root := by
  refine resetsAhead_subset fun window member => ?_
  obtain ⟨other, counterpart, higher⟩ := raised.above member
  refine ⟨other, counterpart, ?_, higher.reset⟩
  rintro (limited | ⟨percent, stated, reaches⟩ | ⟨top, none⟩)
  · exact .inl (higher.status ▸ limited)
  · obtain ⟨more, stated, atLeast⟩ := higher.percent percent stated
    exact .inr (.inl ⟨more, stated, Rat.le_trans reaches atLeast⟩)
  · refine .inr (.inr ⟨raised.status ▸ top, ?_⟩)
    intro sibling listed
    obtain ⟨twin, known, same⟩ := raised.below listed
    exact same.status ▸ none twin known

end

/-- Every window with a percentage at or above the threshold and outside the range of 0 to 100
that resets ahead resets no later than a window that is exhausted otherwise. -/
def OutOfRangeCovered (parseDate : String → Option Int) (now : Int) (threshold : Rat)
    (root : Json) : Prop :=
  ∀ window ∈ windows root, ∀ percent, percentOf window = some percent → threshold ≤ percent →
    ¬ (0 ≤ percent ∧ percent ≤ 100) → ∀ reset, resetOf parseDate window = some reset →
    now < reset →
    ∃ later ∈ exhaustedResets parseDate now (inRange threshold · = true) root, reset ≤ later

/-- Covered: no reset is after those in range. -/
theorem outOfRangeCovered_iff : OutOfRangeCovered parseDate now threshold root ↔
    ∀ reset ∈ exhaustedResets parseDate now (threshold ≤ ·) root,
      ∃ later ∈ exhaustedResets parseDate now (inRange threshold · = true) root,
        reset ≤ later := by
  constructor
  · rintro covered reset ⟨window, member, exhausted, dated, ahead⟩
    have found (within : Exhausted (inRange threshold · = true) (AllLimited root) window) :
        reset ∈ exhaustedResets parseDate now (inRange threshold · = true) root :=
      ⟨window, member, within, dated, ahead⟩
    rcases exhausted with limited | ⟨percent, stated, reaches⟩ | top
    · exact ⟨reset, found (.inl limited), le_refl _⟩
    · by_cases ranged : 0 ≤ percent ∧ percent ≤ 100
      · have within : inRange threshold percent = true := by
          rw [inRange, decide_eq_true ranged.1, decide_eq_true ranged.2, decide_eq_true reaches]
          rfl
        exact ⟨reset, found (.inr (.inl ⟨percent, stated, within⟩)), le_refl _⟩
      · exact covered window member percent stated reaches ranged reset dated ahead
    · exact ⟨reset, found (.inr (.inr top)), le_refl _⟩
  · intro covers window member percent stated reaches _ reset dated ahead
    exact covers reset ⟨window, member, .inr (.inl ⟨percent, stated, reaches⟩), dated, ahead⟩

/-- When the proactive cooldown is what it is for. For every usage document, instant and
threshold, `evaluate` returns the time until the latest reset ahead of the windows that are
exhausted, and documents with less usage are not cooled longer, exactly if each window with a
percentage outside the range of 0 to 100 that reaches the threshold resets no later than a
window that is exhausted otherwise.

Proof: the code takes the latest reset of the windows in range, and a covered one adds none. -/
theorem proactive_cooldown_latest_iff {libraries : Libraries} {body : List UInt8}
    (parsed : libraries.parseJson body = some root) :
    (UntilLatest now (exhaustedResets libraries.parseDate now (threshold ≤ ·) root)
        (evaluate libraries body now threshold) ∧
      ∀ less document, libraries.parseJson less = some document →
        Raised libraries.parseDate document root → ∀ cooldown,
          evaluate libraries less now threshold = some cooldown →
          ∃ longer, cooldown ≤ longer ∧ evaluate libraries body now threshold = some longer) ↔
      OutOfRangeCovered libraries.parseDate now threshold root := by
  have evaluated {read : List UInt8} {document : Json}
      (reads : libraries.parseJson read = some document) :
      UntilLatest now
        (exhaustedResets libraries.parseDate now (inRange threshold · = true) document)
        (evaluate libraries read now threshold) := by
    rw [evaluate, reads]
    exact evaluateDocument_latest
  rw [outOfRangeCovered_iff, ← untilLatest_iff exhaustedResets_inRange
    (fun _ member => member.choose_spec.2.2.2) (evaluated parsed)]
  constructor
  · exact And.left
  · intro latest
    refine ⟨latest, ?_⟩
    intro less document reads raised cooldown cools
    have shorter := evaluated reads
    rw [cools] at shorter
    exact untilLatest_mono (exhaustedResets_inRange.trans (exhaustedResets_raised raised)) shorter
      latest

end

/-! ## A window that is used beyond its limit -/

/-- A window with this percentage and this reset. -/
def windowAt (percent : Nat) (reset : String) : Json :=
  .object [("percent", .unsigned percent), ("resetsAt", .string reset)]

/-- A window with this percentage that resets at the instant ten. -/
def sampleWindow (percent : Nat) : Json := windowAt percent "2026-08-14T12:00:10Z"

def sampleDocument (percent : Nat) : Json :=
  .object [("usage", .object [("rolling", sampleWindow percent)])]

/-- Bodies of one byte, which is the percentage. -/
def sampleLibraries : Libraries where
  parseJson := fun body => body.head?.map fun byte => sampleDocument byte.toNat
  parseDate := fun text => if text = "2026-08-14T12:00:10Z" then some 10 else none
  toRfc3339 := fun _ => "2026-08-14T12:00:00.000Z"
  fingerprint := fun secret => secret

/-- The percentage of the sample. -/
theorem percentOf_sample (percent : Nat) :
    percentOf (sampleWindow percent) = some (percent : Rat) :=
  rfl

/-- Its reset. -/
theorem resetOf_sample (percent : Nat) :
    resetOf sampleLibraries.parseDate (sampleWindow percent) = some 10 :=
  rfl

/-- A larger percentage is a raised document. -/
theorem raised_sample {lower upper : Nat} (raised : (lower : Rat) ≤ upper) :
    Raised sampleLibraries.parseDate (sampleDocument lower) (sampleDocument upper) := by
  refine ⟨rfl, ?_⟩
  have window : RaisedWindow sampleLibraries.parseDate (sampleWindow lower)
      (sampleWindow upper) := by
    refine ⟨rfl, rfl, ?_⟩
    intro percent stated
    cases stated
    exact ⟨upper, rfl, raised⟩
  intro name member
  rcases member with _ | ⟨_, _ | ⟨_, _ | ⟨_, member⟩⟩⟩
  · exact .some window
  · exact .none
  · exact .none
  · cases member

/-- At a threshold of 90, a window that is used up is cooled until it resets, and it is not
once the endpoint reports that it is used beyond its limit. -/
theorem beyond_limit_uncooled :
    evaluate sampleLibraries [100] 0 90 = some 10 ∧ evaluate sampleLibraries [101] 0 90 = none ∧
      Raised sampleLibraries.parseDate (sampleDocument 100) (sampleDocument 101) ∧
      ¬ UntilLatest 0
        (exhaustedResets sampleLibraries.parseDate 0 ((90 : Rat) ≤ ·) (sampleDocument 101))
        (evaluate sampleLibraries [101] 0 90) := by
  have uncooled : evaluate sampleLibraries [101] 0 90 = none := by decide +kernel
  refine ⟨by decide +kernel, uncooled, raised_sample (by decide +kernel), ?_⟩
  rw [uncooled]
  rintro ⟨latest, ⟨empty, _⟩ | ⟨reset, _, rfl⟩, same⟩
  · have exhausted : (10 : Int) ∈
        exhaustedResets sampleLibraries.parseDate 0 ((90 : Rat) ≤ ·) (sampleDocument 101) :=
      ⟨sampleWindow 101, List.mem_cons_self,
        .inr (.inl ⟨101, percentOf_sample 101, by decide +kernel⟩), resetOf_sample 101, by decide⟩
    rw [empty] at exhausted
    cases exhausted
  · cases same

/-- Three windows: one is nearly used up, one is reported beyond its limit, and the one that
is used up resets last. -/
def busyDocument : Json :=
  .object [("usage", .object [("rolling", windowAt 95 "10"), ("weekly", windowAt 101 "20"),
    ("monthly", windowAt 100 "30")])]

/-- Every body is the busy document, and a date is its instant. -/
def busyLibraries : Libraries :=
  { sampleLibraries with
    parseJson := fun _ => some busyDocument
    parseDate := fun text => [("10", 10), ("20", 20), ("30", 30)].lookup text }

/-- The last reset covers the window beyond its limit, and the key cools until then. -/
theorem proactive_cooldown_latest_iff_reached :
    UntilLatest 0 (exhaustedResets busyLibraries.parseDate 0 ((90 : Rat) ≤ ·) busyDocument)
        (evaluate busyLibraries [] 0 90) ∧
      evaluate busyLibraries [] 0 90 = some 30 := by
  have last : (30 : Int) ∈
      exhaustedResets busyLibraries.parseDate 0 (inRange 90 · = true) busyDocument :=
    ⟨windowAt 100 "30", List.mem_of_getElem? (i := 2) rfl,
      .inr (.inl ⟨100, rfl, by decide +kernel⟩),
      by decide +kernel, by decide⟩
  have earlier : ∀ window ∈ windows busyDocument,
      ∀ reset ∈ resetOf busyLibraries.parseDate window, reset ≤ 30 := by decide +kernel
  have covered : OutOfRangeCovered busyLibraries.parseDate 0 90 busyDocument :=
    fun window member _ _ _ _ reset dated _ => ⟨30, last, earlier window member reset dated⟩
  have parsed : busyLibraries.parseJson [] = some busyDocument := rfl
  exact ⟨((proactive_cooldown_latest_iff parsed).mpr covered).1, by decide +kernel⟩

end Orihsus.Usage
