import Orihsus.RateLimit
import Orihsus.Runs
import Orihsus.Scanning

/-!
# When a usage limit resets

`parse_resets_in` of `src/gateway.rs` reads the wait out of the message of a usage limit.
This module states the language of the phrases it accepts without its loops: what a phrase
is made of, where it stands in the message, and which wait it denotes. The scanner slices
text at byte offsets, and it is shown that each of them is the boundary of a character.
-/

namespace Orihsus.Gateway

open Pool (UsageDimension fromSecs)
open Text (IsFirst Run toAsciiLowercase)

/-! ## The scanner with its offsets -/

/-- `parse_resets_in` with the slices that it takes. The outer `none` is a slice that is not
taken at the boundary of a character. -/
def parseResetsInSliced (message : List Char) : Option (Option Nat) :=
  let lower := toAsciiLowercase message
  match Text.find "resets in".toList lower with
  | none => some none
  | some offset => do
      let found ← Text.sliceFrom (offset + Text.byteLength "resets in".toList) lower
      let rest := Text.trimStart found
      let digits := rest.takeWhile Char.isDigit
      match Text.parseU64 digits with
      | none => some none
      | some count =>
          if count = 0 then some none
          else do
            let after ← Text.sliceFrom (Text.byteLength digits) rest
            let unit := (Text.trimStart after).takeWhile Char.isAlpha
            match unitSeconds (Text.trimEndMatches 's' unit) with
            | none => some none
            | some seconds =>
                if count * seconds < 2 ^ 64 then some (some (fromSecs (count * seconds)))
                else some none

/-- Every slice is taken at the boundary of a character, and nothing is lost. -/
theorem parseResetsInSliced_eq (message : List Char) :
    parseResetsInSliced message = some (parseResetsIn message) := by
  unfold parseResetsInSliced parseResetsIn
  dsimp only
  rcases Text.find_cases "resets in".toList (toAsciiLowercase message) with
    ⟨missing, nowhere⟩ | ⟨offset, found, finds, after, slice⟩
  · rw [missing, nowhere]
    rfl
  · rw [finds, after]
    dsimp only
    rw [slice, Option.bind_eq_bind, Option.bind_eq_bind, Option.bind_some, Option.bind_some]
    have split := @List.takeWhile_append_dropWhile _ Char.isDigit (Text.trimStart found)
    generalize (Text.trimStart found).takeWhile Char.isDigit = digits at split ⊢
    rw [← split, Text.sliceFrom_byteLength, List.drop_left]
    cases parsed : Text.parseU64 digits with
    | none => rfl
    | some count =>
      dsimp only [Option.bind_eq_bind, Option.bind_some]
      by_cases zero : count = 0
      · rw [if_pos zero, guard, if_neg (not_not_intro zero)]
        rfl
      · rw [if_neg zero, guard, if_pos zero]
        cases unitSeconds _ with
        | none => rfl
        | some seconds =>
          dsimp only [Option.bind_some]
          by_cases fits : count * seconds < 2 ^ 64
          · rw [if_pos fits, guard, if_pos fits]
            rfl
          · rw [if_neg fits, guard, if_neg fits]
            rfl

/-! ## Phrases -/

/-- The parts of a message that states a reset. -/
@[ext]
structure ResetPhrase where
  before : List Char
  opening : List Char
  gap : List Char
  digits : List Char
  space : List Char
  word : List Char
  rest : List Char

namespace ResetPhrase

/-- What stands behind each part. -/
def afterDigits (phrase : ResetPhrase) : List Char := phrase.space ++ (phrase.word ++ phrase.rest)

def afterGap (phrase : ResetPhrase) : List Char := phrase.digits ++ phrase.afterDigits

def text (phrase : ResetPhrase) : List Char :=
  phrase.before ++ (phrase.opening ++ (phrase.gap ++ phrase.afterGap))

/-- The phrase opens with the first "resets in" of the message, in either case. White space,
a maximal run of digits, white space and a maximal run of letters follow; each may be empty. -/
structure Shape (phrase : ResetPhrase) : Prop where
  opening : toAsciiLowercase phrase.opening = "resets in".toList
  first : IsFirst (fun part => toAsciiLowercase part = "resets in".toList) phrase.before phrase.text
  gap : Run Text.isWhitespace phrase.gap phrase.afterGap
  digits : Run Char.isDigit phrase.digits phrase.afterDigits
  space : Run Text.isWhitespace phrase.space (phrase.word ++ phrase.rest)
  word : Run Char.isAlpha phrase.word phrase.rest

/-- The units of time with their seconds. -/
def units : List (List Char × Nat) :=
  [("second".toList, 1), ("minute".toList, 60), ("hour".toList, 3600), ("day".toList, 86400)]

/-- The digits denote a positive count of a width of 64 bits, the letters are a unit, in
either case, with so many letters s, and the product is of that width too. -/
structure States (phrase : ResetPhrase) (plural count seconds : Nat) : Prop
    extends Shape phrase where
  denotes : Text.decimal phrase.digits = count
  positive : 1 ≤ count
  fits : count < 2 ^ 64
  unit : ∃ unit, (unit, seconds) ∈ units ∧
    toAsciiLowercase phrase.word = unit ++ List.replicate plural 's'
  product : count * seconds < 2 ^ 64

end ResetPhrase

/-- The message states a reset after this wait, in a unit with so many letters s. -/
def StatesReset (plural : Nat) (message : List Char) (wait : Nat) : Prop :=
  ∃ phrase : ResetPhrase, ∃ count seconds, phrase.text = message ∧
    phrase.States plural count seconds ∧ wait = fromSecs (count * seconds)

/-! ## What the scanner accepts -/

/-- The units are a table. -/
theorem unitSeconds_iff {unit : List Char} {seconds : Nat} :
    unitSeconds unit = some seconds ↔ (unit, seconds) ∈ ResetPhrase.units := by
  constructor
  · intro known
    unfold unitSeconds at known
    repeat' split at known
    all_goals
      cases known
      try (subst unit; decide)
  · intro known
    have all : ∀ entry ∈ ResetPhrase.units, unitSeconds entry.1 = some entry.2 := by decide
    exact all _ known

/-- No unit ends in the letter that marks the plural. -/
theorem unit_singular {unit : List Char} {seconds : Nat}
    (known : (unit, seconds) ∈ ResetPhrase.units) :
    unit.getLast? ≠ some 's' ∧ 0 < seconds := by
  have all : ∀ entry ∈ ResetPhrase.units, entry.1.getLast? ≠ some 's' ∧ 0 < entry.2 := by
    decide
  exact all _ known

namespace ResetPhrase

variable {phrase other : ResetPhrase} {message : List Char} {wait plural count seconds : Nat}

/-- The scanner finds the parts of a phrase. -/
theorem Shape.parse (shape : phrase.Shape) :
    parseResetsIn phrase.text = (do
      let count ← Text.parseU64 phrase.digits
      guard (count ≠ 0)
      let seconds ← unitSeconds (Text.trimEndMatches 's' (toAsciiLowercase phrase.word))
      guard (count * seconds < 2 ^ 64)
      pure (fromSecs (count * seconds))) := by
  have lower (front back : List Char) : toAsciiLowercase (front ++ back) =
      toAsciiLowercase front ++ toAsciiLowercase back := List.map_append
  have finds : Text.afterFirst "resets in".toList (toAsciiLowercase phrase.text) =
      some (toAsciiLowercase (phrase.gap ++ phrase.afterGap)) :=
    Text.afterFirst_lowercase_iff.mpr
      ⟨phrase.before, phrase.opening, _, rfl, shape.opening, rfl, shape.first⟩
  have afterGap : Text.trimStart (toAsciiLowercase (phrase.gap ++ phrase.afterGap)) =
      toAsciiLowercase phrase.digits ++ toAsciiLowercase phrase.afterDigits := by
    rw [lower, Text.trimStart, (shape.gap.lowercase Text.isWhitespace_toLower).dropWhile, ← lower]
    rfl
  have digits : (toAsciiLowercase phrase.digits ++
      toAsciiLowercase phrase.afterDigits).takeWhile Char.isDigit = phrase.digits := by
    rw [(shape.digits.lowercase Text.isDigit_toLower).takeWhile,
      Text.toAsciiLowercase_digits shape.digits.all]
  have word : (Text.trimStart (toAsciiLowercase phrase.afterDigits)).takeWhile Char.isAlpha =
      toAsciiLowercase phrase.word := by
    rw [afterDigits, lower, Text.trimStart,
      (shape.space.lowercase Text.isWhitespace_toLower).dropWhile, lower,
      (shape.word.lowercase Text.isAlpha_toLower).takeWhile]
  unfold parseResetsIn
  rw [finds, Option.bind_eq_bind, Option.bind_some, afterGap]
  dsimp only
  rw [digits, Text.toAsciiLowercase_digits shape.digits.all, List.drop_left, word]

/-- The scanner accepts a phrase exactly if its parts state a reset. -/
theorem Shape.parse_iff (shape : phrase.Shape) : parseResetsIn phrase.text = some wait ↔
    ∃ plural count seconds, phrase.States plural count seconds ∧
      wait = fromSecs (count * seconds) := by
  rw [shape.parse, Option.bind_eq_bind, Option.bind_eq_some_iff]
  constructor
  · rintro ⟨count, parsed, known⟩
    obtain ⟨nonzero, known⟩ := Runs.guard_bind.mp known
    obtain ⟨seconds, unit, known⟩ := Option.bind_eq_some_iff.mp known
    obtain ⟨product, same⟩ := Runs.guard_bind.mp known
    obtain ⟨_, denotes, fits⟩ := (Text.parseU64_digits shape.digits.all).mp parsed
    obtain ⟨plural, split⟩ := Text.trimEndMatches_split 's' (toAsciiLowercase phrase.word)
    cases same
    exact ⟨plural, count, seconds, ⟨shape, denotes, Nat.one_le_iff_ne_zero.mpr nonzero, fits,
      ⟨_, unitSeconds_iff.mp unit, split⟩, product⟩, rfl⟩
  · rintro ⟨plural, count, seconds, states, rfl⟩
    obtain ⟨unit, known, split⟩ := states.unit
    have nonempty : phrase.digits ≠ [] := by
      intro empty
      have zero := states.denotes
      rw [empty] at zero
      exact absurd zero (Nat.ne_of_lt states.positive)
    have parsed := (Text.parseU64_digits shape.digits.all).mpr
      ⟨nonempty, states.denotes, states.fits⟩
    have trimmed : unitSeconds (Text.trimEndMatches 's' (toAsciiLowercase phrase.word)) =
        some seconds := by
      rw [split, Text.trimEndMatches_replicate (unit_singular known).1]
      exact unitSeconds_iff.mpr known
    refine ⟨count, parsed, Runs.guard_bind.mpr
      ⟨Nat.one_le_iff_ne_zero.mp states.positive, ?_⟩⟩
    exact Option.bind_eq_some_iff.mpr
      ⟨seconds, trimmed, Runs.guard_bind.mpr ⟨states.product, rfl⟩⟩

/-- A message in which the opening occurs has the shape of a phrase. -/
theorem exists_shape {found : List Char}
    (finds : Text.afterFirst "resets in".toList (toAsciiLowercase message) = some found) :
    ∃ phrase : ResetPhrase, phrase.text = message ∧ phrase.Shape := by
  obtain ⟨before, opening, after, rfl, occurs, _, first⟩ :=
    Text.afterFirst_lowercase_iff.mp finds
  obtain ⟨gap, afterGap, rfl, gapRuns⟩ := Text.exists_run Text.isWhitespace after
  obtain ⟨digits, afterDigits, rfl, digitsRun⟩ := Text.exists_run Char.isDigit afterGap
  obtain ⟨space, afterSpace, rfl, spaceRuns⟩ := Text.exists_run Text.isWhitespace afterDigits
  obtain ⟨word, rest, rfl, wordRuns⟩ := Text.exists_run Char.isAlpha afterSpace
  refine ⟨⟨before, opening, gap, digits, space, word, rest⟩, rfl, ?_⟩
  exact ⟨occurs, first, gapRuns, digitsRun, spaceRuns, wordRuns⟩

/-- A message has at most one phrase. -/
theorem Shape.unique (shape : phrase.Shape) (second : other.Shape)
    (same : phrase.text = other.text) : phrase = other := by
  have openings : phrase.opening.length = other.opening.length := by
    have length := congrArg List.length (shape.opening.trans second.opening.symm)
    simpa only [toAsciiLowercase, List.length_map] using length
  obtain ⟨before, rest⟩ := shape.first.unique (same ▸ second.first) rfl same shape.opening
    second.opening
  obtain ⟨opening, afterOpening⟩ := List.append_inj rest openings
  obtain ⟨gap, afterGap⟩ := shape.gap.unique second.gap afterOpening
  obtain ⟨digits, afterDigits⟩ := shape.digits.unique second.digits afterGap
  obtain ⟨space, afterSpace⟩ := shape.space.unique second.space afterDigits
  obtain ⟨word, rest⟩ := shape.word.unique second.word afterSpace
  exact ResetPhrase.ext before opening gap digits space word rest

end ResetPhrase

section

variable {message : List Char} {wait plural : Nat}

/-- The scanner accepts a reset with any number of letters s behind the unit. -/
theorem parseResetsIn_iff :
    parseResetsIn message = some wait ↔ ∃ plural, StatesReset plural message wait := by
  constructor
  · intro accepted
    obtain ⟨found, finds⟩ : ∃ found,
        Text.afterFirst "resets in".toList (toAsciiLowercase message) = some found := by
      unfold parseResetsIn at accepted
      obtain ⟨found, finds, _⟩ := Option.bind_eq_some_iff.mp accepted
      exact ⟨found, finds⟩
    obtain ⟨phrase, rfl, shape⟩ := ResetPhrase.exists_shape finds
    obtain ⟨plural, count, seconds, states, denotes⟩ := shape.parse_iff.mp accepted
    exact ⟨plural, phrase, count, seconds, rfl, states, denotes⟩
  · rintro ⟨plural, phrase, count, seconds, rfl, states, denotes⟩
    exact states.toShape.parse_iff.mpr ⟨plural, count, seconds, states, denotes⟩

/-- The letters of a message settle how many of them mark the plural. -/
theorem statesReset_plural {other later : Nat} (states : StatesReset plural message wait)
    (also : StatesReset other message later) : plural = other := by
  obtain ⟨phrase, count, seconds, rfl, first, _⟩ := states
  obtain ⟨_, _, _, same, second, _⟩ := also
  obtain rfl := first.toShape.unique second.toShape same.symm
  obtain ⟨unit, known, split⟩ := first.unit
  obtain ⟨again, knows, splits⟩ := second.unit
  have units : unit = again := by
    rw [← Text.trimEndMatches_replicate (unit_singular known).1 plural, ← split, splits,
      Text.trimEndMatches_replicate (unit_singular knows).1]
  have letters : List.replicate plural 's' = List.replicate other 's' := by
    refine List.append_cancel_left (split.symm.trans ?_)
    rw [splits, units]
  simpa only [List.length_replicate] using congrArg List.length letters

/-- A wait that is stated is positive. -/
theorem statesReset_pos (states : StatesReset plural message wait) : 0 < wait := by
  obtain ⟨phrase, count, seconds, _, holds, rfl⟩ := states
  obtain ⟨unit, known, _⟩ := holds.unit
  exact Nat.mul_pos (Nat.mul_pos holds.positive (unit_singular known).2) (by decide)

/-- The cooldown of a usage limit is the stated wait, or one of three others. -/
theorem documentKind_positive {value : Json} {dimension : UsageDimension} {cooldown : Nat}
    (limited : documentKind value = .usageLimit dimension cooldown) : 0 < cooldown := by
  unfold documentKind at limited
  split at limited
  · cases limited
  · split at limited
    · cases limited
    · cases limited
      cases stated : parseResetsIn _ with
      | none => cases dimension <;> decide
      | some wait =>
        obtain ⟨plural, states⟩ := parseResetsIn_iff.mp stated
        exact statesReset_pos states

/-- A stated cooldown is positive. -/
theorem classify429_positive {parseJson : List UInt8 → Option Json} {body : List UInt8}
    {overflowed : Bool} {dimension : UsageDimension} {cooldown : Nat}
    (limited : classify429 parseJson body overflowed = .usageLimit dimension cooldown) :
    0 < cooldown := by
  unfold classify429 at limited
  split at limited
  · cases limited
  · split at limited
    · cases limited
    · cases parsed : parseJson body with
      | none =>
        rw [parsed] at limited
        cases limited
      | some value =>
        rw [parsed] at limited
        exact documentKind_positive limited

/-- The phrases that the documentation describes: at most one letter marks the plural. -/
def ResetGrammar (message : List Char) (wait : Nat) : Prop :=
  ∃ plural ≤ 1, StatesReset plural message wait

/-- What `parse_resets_in` accepts. For every message, it accepts the phrases of the grammar
with their waits and nothing else exactly if the message does not state a reset with two or
more letters s behind the unit. It never slices off the boundary of a character, and the
cooldown of a usage limit is always positive.

Proof: the parser accepts the phrases with any plural, and a message states one plural at most. -/
theorem resets_in_grammar_iff (message : List Char) :
    ((∀ wait, parseResetsIn message = some wait ↔ ResetGrammar message wait) ↔
        ¬ ∃ plural wait, 2 ≤ plural ∧ StatesReset plural message wait) ∧
      parseResetsInSliced message = some (parseResetsIn message) ∧
      ∀ parseJson body overflowed dimension cooldown,
        classify429 parseJson body overflowed = .usageLimit dimension cooldown → 0 < cooldown := by
  refine ⟨?_, parseResetsInSliced_eq message, fun _ _ _ _ _ => classify429_positive⟩
  constructor
  · rintro agrees ⟨plural, wait, many, states⟩
    obtain ⟨other, few, also⟩ := (agrees wait).mp (parseResetsIn_iff.mpr ⟨plural, states⟩)
    have same := statesReset_plural states also
    omega
  · intro plain wait
    rw [parseResetsIn_iff]
    constructor
    · rintro ⟨plural, states⟩
      by_cases many : 2 ≤ plural
      · exact absurd ⟨plural, wait, many, states⟩ plain
      · exact ⟨plural, by omega, states⟩
    · rintro ⟨plural, _, states⟩
      exact ⟨plural, states⟩

end

/-- A message with two letters s behind the unit. -/
def doublePlural : ResetPhrase where
  before := []
  opening := "Resets in".toList
  gap := " ".toList
  digits := "3".toList
  space := " ".toList
  word := "dayss".toList
  rest := []

/-- The plural may be doubled. -/
theorem doublePlural_states : doublePlural.States 2 3 86400 := by
  have shape : doublePlural.Shape :=
    ⟨by decide, fun _ _ _ _ _ => Nat.zero_le _, by decide, by decide, by decide, by decide⟩
  exact ⟨shape, by decide, by decide, by decide, ⟨"day".toList, by decide, by decide⟩, by decide⟩

/-- The scanner reads three days out of a unit with two letters s. -/
theorem double_plural_accepted :
    parseResetsIn "Resets in 3 dayss".toList = some (fromSecs (3 * 86400)) ∧
      ¬ ResetGrammar "Resets in 3 dayss".toList (fromSecs (3 * 86400)) := by
  have states : StatesReset 2 "Resets in 3 dayss".toList (fromSecs (3 * 86400)) :=
    ⟨doublePlural, 3, 86400, by decide, doublePlural_states, rfl⟩
  refine ⟨parseResetsIn_iff.mpr ⟨2, states⟩, ?_⟩
  rintro ⟨plural, few, also⟩
  have same := statesReset_plural states also
  omega

end Orihsus.Gateway
