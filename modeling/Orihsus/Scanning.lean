import Mathlib.Data.List.TakeWhile
import Orihsus.Text

/-!
# Scanning text

A scanner finds a pattern, slices the text behind it and reads runs of characters. Rust
counts in bytes here, and a slice is only defined where a character begins; the offsets
below are bytes, and slicing may fail. Runs are described without the loops that read
them: a run is maximal if what follows it does not go on with it.
-/

namespace Text

variable {pattern text front back found : List Char}

/-! ## Byte offsets -/

/-- `str::len`. -/
def byteLength (text : List Char) : Nat := (text.map Char.utf8Size).sum

/-- `str::find`: the offset of the first occurrence. -/
def find (pattern : List Char) : List Char → Option Nat
  | [] => if pattern.isEmpty then some 0 else none
  | character :: rest =>
      if pattern.isPrefixOf (character :: rest) then some 0
      else (find pattern rest).map (character.utf8Size + ·)

/-- The slice of a text from an offset on, which has to be the boundary of a character. -/
def sliceFrom : Nat → List Char → Option (List Char)
  | 0, text => some text
  | _ + 1, [] => none
  | offset + 1, character :: rest =>
      if character.utf8Size ≤ offset + 1 then sliceFrom (offset + 1 - character.utf8Size) rest
      else none

/-- A slice skips a character by its bytes. -/
theorem sliceFrom_cons (character : Char) (rest : List Char) (offset : Nat) :
    sliceFrom (character.utf8Size + offset) (character :: rest) = sliceFrom offset rest := by
  have positive := character.utf8Size_pos
  obtain ⟨more, same⟩ : ∃ more, character.utf8Size + offset = more + 1 :=
    ⟨character.utf8Size + offset - 1, by omega⟩
  rw [same, sliceFrom, if_pos (by omega)]
  congr 1
  omega

/-- A text can be sliced behind any of its beginnings. -/
theorem sliceFrom_append (front back : List Char) (offset : Nat) :
    sliceFrom (byteLength front + offset) (front ++ back) = sliceFrom offset back := by
  induction front with
  | nil => rw [byteLength, List.map_nil, List.sum_nil, Nat.zero_add, List.nil_append]
  | cons character rest inductionHypothesis =>
    rw [byteLength, List.map_cons, List.sum_cons, Nat.add_assoc, List.cons_append, sliceFrom_cons]
    exact inductionHypothesis

/-- A slice from the end of the front is the back. -/
theorem sliceFrom_byteLength (front back : List Char) :
    sliceFrom (byteLength front) (front ++ back) = some back := by
  rw [← Nat.add_zero (byteLength front), sliceFrom_append, sliceFrom]

/-! ## The first occurrence -/

/-- No part of the text that occurs starts before this beginning ends. -/
def IsFirst (Occurs : List Char → Prop) (before text : List Char) : Prop :=
  ∀ front part back, text = front ++ (part ++ back) → Occurs part → before.length ≤ front.length

/-- Two beginnings at which an occurrence is the first are the same. -/
theorem IsFirst.unique {Occurs : List Char → Prop} {before other part later after tail : List Char}
    (first : IsFirst Occurs before text) (second : IsFirst Occurs other text)
    (split : text = before ++ (part ++ after)) (splits : text = other ++ (later ++ tail))
    (occurs : Occurs part) (also : Occurs later) :
    before = other ∧ part ++ after = later ++ tail := by
  have sameLength := Nat.le_antisymm (first other later tail splits also)
    (second before part after split occurs)
  exact List.append_inj (split.symm.trans splits) sameLength

/-- An occurrence is the first behind one more character, unless it starts there. -/
theorem isFirst_cons {character : Char} {before : List Char}
    (elsewhere : ¬ pattern <+: character :: text) :
    IsFirst (· = pattern) (character :: before) (character :: text) ↔
      IsFirst (· = pattern) before text := by
  constructor
  · intro first front part back split occurs
    have later := first (character :: front) part back (by rw [split, List.cons_append]) occurs
    exact Nat.le_of_succ_le_succ later
  · rintro first front part back split rfl
    cases front with
    | nil => exact absurd ⟨back, split.symm⟩ elsewhere
    | cons head later =>
      obtain ⟨_, rest⟩ := List.cons.inj split
      exact Nat.succ_le_succ (first later part back rest rfl)

/-- The search finds the first occurrence. -/
theorem afterFirst_eq_some_iff : afterFirst pattern text = some found ↔
    ∃ before, text = before ++ (pattern ++ found) ∧ IsFirst (· = pattern) before text := by
  induction text with
  | nil =>
    unfold afterFirst
    constructor
    · intro finds
      split at finds
      · rename_i empty
        cases finds
        rw [List.isEmpty_iff.mp empty]
        exact ⟨[], rfl, fun _ _ _ _ _ => Nat.zero_le _⟩
      · cases finds
    · rintro ⟨before, split, _⟩
      obtain ⟨_, rest⟩ := List.append_eq_nil_iff.mp split.symm
      obtain ⟨rfl, rfl⟩ := List.append_eq_nil_iff.mp rest
      rfl
  | cons character rest inductionHypothesis =>
    unfold afterFirst
    by_cases here : pattern <+: character :: rest
    · rw [if_pos (List.isPrefixOf_iff_prefix.mpr here)]
      obtain ⟨back, whole⟩ := here
      rw [← whole, List.drop_left]
      constructor
      · intro same
        cases same
        exact ⟨[], rfl, fun _ _ _ _ _ => Nat.zero_le _⟩
      · rintro ⟨before, split, first⟩
        have least := first [] pattern back rfl rfl
        obtain rfl := List.eq_nil_of_length_eq_zero (Nat.le_zero.mp least)
        rw [List.append_cancel_left split]
    · rw [if_neg fun begins => here (List.isPrefixOf_iff_prefix.mp begins), inductionHypothesis]
      constructor
      · rintro ⟨before, split, first⟩
        exact ⟨character :: before, by rw [split, List.cons_append],
          (isFirst_cons here).mpr first⟩
      · rintro ⟨before, split, first⟩
        cases before with
        | nil => exact absurd ⟨found, split.symm⟩ here
        | cons head before =>
          obtain ⟨rfl, same⟩ := List.cons.inj split
          exact ⟨before, same, (isFirst_cons here).mp first⟩

/-- In lower case, a pattern occurs where it occurs in either case. -/
theorem isFirst_lowercase {before : List Char} :
    IsFirst (· = pattern) (toAsciiLowercase before) (toAsciiLowercase text) ↔
      IsFirst (fun part => toAsciiLowercase part = pattern) before text := by
  constructor
  · rintro first front part back rfl occurs
    have lower := first (toAsciiLowercase front) (toAsciiLowercase part) (toAsciiLowercase back)
      (by simp only [toAsciiLowercase, List.map_append]) occurs
    simpa only [toAsciiLowercase, List.length_map] using lower
  · intro first front part back split occurs
    obtain ⟨upperFront, upperRest, rfl, rfl, rest⟩ := List.map_eq_append_iff.mp split
    obtain ⟨upperPart, upperBack, rfl, rfl, rfl⟩ := List.map_eq_append_iff.mp rest
    have upper := first upperFront upperPart upperBack rfl occurs
    simpa only [toAsciiLowercase, List.length_map] using upper

/-- The search in lower case finds the first occurrence in either case. -/
theorem afterFirst_lowercase_iff :
    afterFirst pattern (toAsciiLowercase text) = some found ↔
      ∃ before part after, text = before ++ (part ++ after) ∧ toAsciiLowercase part = pattern ∧
        toAsciiLowercase after = found ∧
        IsFirst (fun part => toAsciiLowercase part = pattern) before text := by
  rw [afterFirst_eq_some_iff]
  constructor
  · rintro ⟨lower, split, first⟩
    obtain ⟨before, rest, rfl, rfl, others⟩ := List.map_eq_append_iff.mp split
    obtain ⟨part, after, rfl, occurs, follows⟩ := List.map_eq_append_iff.mp others
    exact ⟨before, part, after, rfl, occurs, follows, isFirst_lowercase.mp first⟩
  · rintro ⟨before, part, after, rfl, rfl, rfl, first⟩
    exact ⟨toAsciiLowercase before, by simp only [toAsciiLowercase, List.map_append],
      isFirst_lowercase.mpr first⟩

/-- The offset that is found lies behind a beginning of the text, and so does the end of the
pattern there. -/
theorem find_cases (pattern text : List Char) :
    (find pattern text = none ∧ afterFirst pattern text = none) ∨
      ∃ offset found, find pattern text = some offset ∧ afterFirst pattern text = some found ∧
        sliceFrom (offset + byteLength pattern) text = some found := by
  induction text with
  | nil =>
    cases pattern with
    | nil => exact .inr ⟨0, [], rfl, rfl, rfl⟩
    | cons character rest => exact .inl ⟨rfl, rfl⟩
  | cons character rest inductionHypothesis =>
    unfold find afterFirst
    by_cases here : pattern.isPrefixOf (character :: rest) = true
    · rw [if_pos here, if_pos here]
      obtain ⟨back, whole⟩ := List.isPrefixOf_iff_prefix.mp here
      refine .inr ⟨0, _, rfl, rfl, ?_⟩
      rw [← whole, Nat.zero_add, sliceFrom_byteLength, List.drop_left]
    · rw [if_neg here, if_neg here]
      rcases inductionHypothesis with ⟨missing, nowhere⟩ | ⟨offset, found, finds, after, slice⟩
      · exact .inl ⟨by rw [missing]; rfl, nowhere⟩
      · refine .inr ⟨_, found, by rw [finds]; rfl, after, ?_⟩
        rw [Nat.add_assoc, sliceFrom_cons, slice]

/-! ## Runs -/

/-- A maximal run of such characters, with what follows it. -/
structure Run (accepts : Char → Bool) (run after : List Char) : Prop where
  all : ∀ character ∈ run, accepts character = true
  ends : ∀ character ∈ after.head?, accepts character = false

section

variable {accepts : Char → Bool} {run after : List Char}

/-- A run is all of a kind, and what follows is not. -/
theorem run_iff :
    Run accepts run after ↔ run.all accepts = true ∧ after.head?.any accepts = false := by
  constructor
  · rintro ⟨all, ends⟩
    refine ⟨List.all_eq_true.mpr all, ?_⟩
    cases first : after.head? with
    | none => rfl
    | some character => exact ends character first
  · rintro ⟨all, ends⟩
    refine ⟨List.all_eq_true.mp all, fun character first => ?_⟩
    rw [Option.mem_def.mp first] at ends
    exact ends

instance : Decidable (Run accepts run after) :=
  decidable_of_iff _ run_iff.symm

/-- What follows a maximal run does not begin with one. -/
theorem Run.nothing (maximal : Run accepts run after) :
    after.takeWhile accepts = [] ∧ after.dropWhile accepts = after := by
  cases after with
  | nil => exact ⟨rfl, rfl⟩
  | cons character rest =>
    have stops := maximal.ends character rfl
    rw [List.takeWhile_cons, List.dropWhile_cons, stops]
    exact ⟨rfl, rfl⟩

/-- A run is taken whole. -/
theorem Run.takeWhile (maximal : Run accepts run after) :
    (run ++ after).takeWhile accepts = run := by
  rw [List.takeWhile_append_of_pos maximal.all, maximal.nothing.1, List.append_nil]

/-- What follows it is left. -/
theorem Run.dropWhile (maximal : Run accepts run after) :
    (run ++ after).dropWhile accepts = after := by
  rw [List.dropWhile_append_of_pos maximal.all, maximal.nothing.2]

/-- Every text begins with a maximal run, perhaps an empty one. -/
theorem exists_run (accepts : Char → Bool) (text : List Char) :
    ∃ run after, text = run ++ after ∧ Run accepts run after := by
  refine ⟨text.takeWhile accepts, text.dropWhile accepts,
    List.takeWhile_append_dropWhile.symm, ?_, ?_⟩
  · intro character member
    exact List.mem_takeWhile_imp member
  · intro character first
    have stops := List.head?_dropWhile_not accepts text
    rw [Option.mem_def.mp first] at stops
    exact stops

/-- A text has one maximal run at its beginning. -/
theorem Run.unique {other later : List Char} (maximal : Run accepts run after)
    (second : Run accepts other later) (same : run ++ after = other ++ later) :
    run = other ∧ after = later := by
  constructor
  · rw [← maximal.takeWhile, same, second.takeWhile]
  · rw [← maximal.dropWhile, same, second.dropWhile]

/-- Runs of characters that stay accepted in lower case. -/
theorem Run.lowercase (maximal : Run accepts run after)
    (same : ∀ character, accepts character.toLower = accepts character) :
    Run accepts (toAsciiLowercase run) (toAsciiLowercase after) := by
  constructor
  · intro character member
    obtain ⟨upper, inside, rfl⟩ := List.mem_map.mp member
    rw [same]
    exact maximal.all upper inside
  · intro character first
    rw [toAsciiLowercase, List.head?_map] at first
    obtain ⟨upper, head, rfl⟩ := Option.map_eq_some_iff.mp first
    rw [same]
    exact maximal.ends upper head

end

/-! ## Characters in lower case -/

section

variable {character : Char}

/-- A character that changes is a capital letter. -/
theorem toLower_cases (character : Char) : character.toLower = character ∨
    (65 ≤ character.toNat ∧ character.toNat ≤ 90 ∧
      character.toLower.toNat = character.toNat + 32) := by
  by_cases capital : character.val ≥ 'A'.val ∧ character.val ≤ 'Z'.val
  · have atLeast : 65 ≤ character.toNat := UInt32.le_iff_toNat_le.mp capital.1
    have atMost : character.toNat ≤ 90 := UInt32.le_iff_toNat_le.mp capital.2
    have lowered : character.toLower.val = character.val + 32 := congrArg Char.val (dif_pos capital)
    refine .inr ⟨atLeast, atMost, ?_⟩
    show character.toLower.val.toNat = character.val.toNat + 32
    have small : character.val.toNat ≤ 90 := atMost
    rw [lowered, UInt32.toNat_add, Nat.mod_eq_of_lt]
    · rfl
    · show character.val.toNat + 32 < 2 ^ 32
      omega
  · exact .inl (dif_neg capital)

/-- The case of a letter is no whitespace. -/
theorem isWhitespace_toLower (character : Char) :
    isWhitespace character.toLower = isWhitespace character := by
  rcases toLower_cases character with same | ⟨atLeast, atMost, shifted⟩
  · rw [same]
  · unfold isWhitespace
    rw [shifted]
    generalize character.toNat = code at atLeast atMost
    rw [Bool.eq_iff_iff]
    simp only [Bool.or_eq_true, Bool.and_eq_true, decide_eq_true_eq]
    omega

/-- Digits by their code. -/
theorem isDigit_iff : character.isDigit = true ↔ 48 ≤ character.toNat ∧ character.toNat ≤ 57 := by
  simp only [Char.isDigit, Bool.and_eq_true, decide_eq_true_eq]
  rfl

/-- Letters by their code. -/
theorem isAlpha_iff : character.isAlpha = true ↔
    (65 ≤ character.toNat ∧ character.toNat ≤ 90) ∨
      (97 ≤ character.toNat ∧ character.toNat ≤ 122) := by
  have capital : character.isUpper = true ↔ 65 ≤ character.val ∧ character.val ≤ 90 :=
    decide_eq_true_iff
  have small : character.isLower = true ↔ 97 ≤ character.val ∧ character.val ≤ 122 :=
    Bool.and_eq_true_iff.trans (and_congr decide_eq_true_iff decide_eq_true_iff)
  exact Bool.or_eq_true_iff.trans (or_congr capital small)

/-- A digit has no case. -/
theorem isDigit_toLower (character : Char) : character.toLower.isDigit = character.isDigit := by
  rcases toLower_cases character with same | ⟨atLeast, atMost, shifted⟩
  · rw [same]
  · rw [Bool.eq_iff_iff, isDigit_iff, isDigit_iff]
    omega

/-- A letter stays one. -/
theorem isAlpha_toLower (character : Char) : character.toLower.isAlpha = character.isAlpha := by
  rcases toLower_cases character with same | ⟨atLeast, atMost, shifted⟩
  · rw [same]
  · rw [Bool.eq_iff_iff, isAlpha_iff, isAlpha_iff]
    omega

/-- Digits have no case. -/
theorem toLower_digit (digit : character.isDigit = true) : character.toLower = character := by
  rcases toLower_cases character with same | ⟨atLeast, _, _⟩
  · exact same
  · have small := (isDigit_iff.mp digit).2
    omega

/-- Digits have no case. -/
theorem toAsciiLowercase_digits {digits : List Char}
    (all : ∀ character ∈ digits, character.isDigit = true) : toAsciiLowercase digits = digits := by
  rw [toAsciiLowercase]
  exact (List.map_congr_left fun character member => toLower_digit (all character member)).trans
    (List.map_id _)

end

/-! ## Numbers and plurals -/

/-- The number that digits denote. -/
def decimal (digits : List Char) : Nat :=
  digits.foldl (fun sum digit => sum * 10 + (digit.toNat - 48)) 0

/-- A run of digits is parsed if it is not empty and its number fits. -/
theorem parseU64_digits {digits : List Char} {number : Nat}
    (all : ∀ character ∈ digits, character.isDigit = true) :
    parseU64 digits = some number ↔
      digits ≠ [] ∧ decimal digits = number ∧ number < 2 ^ 64 := by
  have unsigned : digits.head? ≠ some '+' := by
    intro plus
    cases all '+' (List.mem_of_mem_head? plus)
  have every : digits.all Char.isDigit = true := List.all_eq_true.mpr all
  unfold parseU64
  dsimp only
  rw [if_neg unsigned, every, Bool.not_true, Bool.or_false]
  by_cases empty : digits = []
  · rw [if_pos (List.isEmpty_iff.mpr empty)]
    exact iff_of_false nofun fun both => both.1 empty
  · rw [if_neg fun holds => empty (List.isEmpty_iff.mp holds)]
    show (if decimal digits < 2 ^ 64 then some (decimal digits) else none) = some number ↔ _
    by_cases fits : decimal digits < 2 ^ 64
    · rw [if_pos fits, Option.some.injEq]
      exact ⟨fun same => ⟨empty, same, same ▸ fits⟩, fun parts => parts.2.1⟩
    · rw [if_neg fits]
      exact iff_of_false nofun fun parts => fits (parts.2.1.symm ▸ parts.2.2)

section

variable {character : Char} {stem : List Char}

/-- What is trimmed off the end. -/
theorem trimEndMatches_split (character : Char) (text : List Char) :
    ∃ count, text = trimEndMatches character text ++ List.replicate count character := by
  obtain ⟨count, repeated⟩ : ∃ count, text.reverse.takeWhile (· == character) =
      List.replicate count character := by
    refine ⟨_, List.eq_replicate_of_mem ?_⟩
    intro other member
    exact eq_of_beq (@List.mem_takeWhile_imp _ (· == character) _ _ member)
  refine ⟨count, ?_⟩
  calc
    text = (text.reverse.takeWhile (· == character) ++
        text.reverse.dropWhile (· == character)).reverse := by
      rw [List.takeWhile_append_dropWhile, List.reverse_reverse]
    _ = trimEndMatches character text ++ List.replicate count character := by
      rw [List.reverse_append, repeated, List.reverse_replicate]
      rfl

/-- What was added at the end is trimmed. -/
theorem trimEndMatches_replicate (ends : stem.getLast? ≠ some character) (count : Nat) :
    trimEndMatches character (stem ++ List.replicate count character) = stem := by
  have maximal : Run (· == character) (List.replicate count character) stem.reverse := by
    constructor
    · intro other member
      rw [List.eq_of_mem_replicate member]
      exact beq_self_eq_true _
    · intro other first
      rw [List.head?_reverse] at first
      exact beq_false_of_ne fun same => ends (same ▸ first)
  rw [trimEndMatches, List.reverse_append, List.reverse_replicate, maximal.dropWhile,
    List.reverse_reverse]

end

end Text
