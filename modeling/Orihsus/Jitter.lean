import Mathlib.Tactic.NormNum.Prime
import Orihsus.Backoff
import Orihsus.FullCycle

/-!
# The jitter of the production pool

`UniformJitter` spreads a backoff by the draws of a xorshift generator behind a lock: it
adds an offset of at most half of the base. The count of nanoseconds is cast to 64 bits, so the
half of an enormous base is cut to its low bits; the bound on the offset saturates, and so
does the sum. A remainder by zero would be a panic and is `none` here.

The generator is a map of words that respects exclusive or. Its polynomial is primitive, so
it runs through every number but zero before one comes back.
-/

namespace Orihsus.Pool

/-! ## The generator -/

/-- `XorShift64`. -/
structure XorShift64 where
  state : UInt64
  deriving DecidableEq, Repr

namespace XorShift64

/-- `XorShift64::new`. -/
def new (seed : UInt64) : XorShift64 := ⟨max seed 1⟩

/-- `XorShift64::next_u64`: the number that is drawn and the generator it leaves. -/
def nextU64 (rng : XorShift64) : UInt64 × XorShift64 :=
  let x := rng.state
  let x := x ^^^ (x <<< 13)
  let x := x ^^^ (x >>> 7)
  let x := x ^^^ (x <<< 17)
  (x, ⟨x⟩)

/-- The generator after so many draws. -/
def after (rng : XorShift64) : Nat → XorShift64
  | 0 => rng
  | draws + 1 => (rng.after draws).nextU64.2

/-! ### Its cycle -/

/-- The state as a word. -/
def word (rng : XorShift64) : FullCycle.Word 64 := ⟨rng.state.toBitVec⟩

/-- A draw, as a map of words. -/
def advance : AddMonoid.End (FullCycle.Word 64) :=
  FullCycle.Word.addShiftLeft 17 * FullCycle.Word.addShiftRight 7 *
    FullCycle.Word.addShiftLeft 13

/-- The polynomial of the map. -/
def modulus : FullCycle.Modulus where
  width := 64
  bits := 0x1013ed4a358913201
  positive := by decide
  lower := by decide
  upper := by decide

/-- The prime factors of the length of the cycle, with their inverses. -/
def factors : List (Nat × Nat) :=
  [(3, 0xd742ca58f5d785e2), (5, 0xa3f64d1fb612f669), (17, 0x63f43995a1b49645),
    (257, 0x7d573a75b5260c4d), (641, 0x01ead61508d13286), (65537, 0xed7248a2317d33b1),
    (6700417, 0x483b08aa5d3741b5)]

/-- The modulus is primitive. -/
theorem primitive : FullCycle.Primitive modulus factors where
  product := by decide +kernel
  prime := by
    simp only [factors, List.forall_mem_cons]
    norm_num
  closes := by decide +kernel
  early := by
    simp only [factors, List.forall_mem_cons]
    exact ⟨by decide +kernel, by decide +kernel, by decide +kernel, by decide +kernel,
      by decide +kernel, by decide +kernel, by decide +kernel, List.forall_mem_nil _⟩

/-- The step runs through the whole cycle. -/
theorem generates : FullCycle.Generates modulus factors advance where
  wide := rfl
  primitive := primitive
  single := by
    have all : (List.range 64).all (fun index => decide (FullCycle.combine advance (64 + 1)
        modulus.bits ⟨BitVec.twoPow 64 index⟩ = 0)) = true := by decide +kernel
    intro index below
    have holds := List.all_eq_true.mp all index (List.mem_range.mpr below)
    exact of_decide_eq_true holds

variable {rng : XorShift64}

/-- The word is zero as the state is. -/
theorem word_eq_zero_iff : rng.word = 0 ↔ rng.state = 0 := by
  constructor
  · intro zero
    exact UInt64.toBitVec_inj.mp (congrArg FullCycle.Word.bits zero)
  · intro zero
    rw [word, zero]
    rfl

/-- A draw advances the word. -/
theorem nextU64_word : rng.nextU64.2.word = advance rng.word := rfl

/-- So do several. -/
theorem after_word (draws : Nat) : (rng.after draws).word = (advance ^ draws) rng.word := by
  induction draws with
  | zero => rfl
  | succ draws inductionHypothesis =>
    rw [after, nextU64_word, inductionHypothesis, pow_succ']
    rfl

/-- A new generator is not stuck at zero. -/
theorem new_state_ne_zero (seed : UInt64) : (new seed).state ≠ 0 := by
  show (if seed ≤ 1 then 1 else seed) ≠ 0
  split
  · decide
  · rename_i large
    rintro rfl
    exact large (by decide)

/-- It does not get there. -/
theorem nextU64_state_ne_zero (alive : rng.state ≠ 0) : rng.nextU64.2.state ≠ 0 := by
  rw [Ne, ← word_eq_zero_iff] at alive ⊢
  rw [nextU64_word]
  exact generates.map_ne_zero alive

/-- One draw more. -/
theorem after_succ (draws : Nat) : rng.nextU64.2.after draws = rng.after (draws + 1) := by
  induction draws with
  | zero => rfl
  | succ draws inductionHypothesis =>
    rw [after, inductionHypothesis]
    rfl

/-- No number of draws takes the state to zero. -/
theorem after_state_ne_zero (alive : rng.state ≠ 0) (draws : Nat) :
    (rng.after draws).state ≠ 0 := by
  induction draws with
  | zero => exact alive
  | succ draws inductionHypothesis => exact nextU64_state_ne_zero inductionHypothesis

/-- Every number but zero is drawn before the cycle is over. -/
theorem exists_draw (alive : rng.state ≠ 0) {number : UInt64} (nonzero : number ≠ 0) :
    ∃ draws < 2 ^ 64 - 1, (rng.after draws).nextU64.1 = number := by
  have first : rng.nextU64.2.word ≠ 0 := by
    rw [Ne, word_eq_zero_iff]
    exact nextU64_state_ne_zero alive
  have second : (⟨number⟩ : XorShift64).word ≠ 0 := by
    rw [Ne, word_eq_zero_iff]
    exact nonzero
  obtain ⟨draws, short, reached⟩ := generates.exists_pow_eq first second
  refine ⟨draws, short, ?_⟩
  have same : (rng.after draws).nextU64.2.word = (⟨number⟩ : XorShift64).word := by
    rw [← reached, nextU64_word, nextU64_word, after_word]
    exact DFunLike.congr_fun (Commute.refl advance |>.pow_right draws).eq rng.word
  exact UInt64.toBitVec_inj.mp (congrArg FullCycle.Word.bits same)

end XorShift64

/-! ## The jitter -/

/-- `u64::saturating_add`. -/
def saturatingAddU64 (left right : UInt64) : UInt64 :=
  if left.toNat + right.toNat < 2 ^ 64 then left + right else UInt64.ofNat (2 ^ 64 - 1)

/-- The remainder of two `u64`, which panics for zero. -/
def checkedRem (left right : UInt64) : Option UInt64 :=
  if right = 0 then none else some (left % right)

/-- `Duration::saturating_add`. -/
def saturatingAdd (left right : Nat) : Nat := min (left + right) durationMax

namespace UniformJitter

/-- `UniformJitter::default`, at the time that is read since the epoch, if there is one. -/
def default (sinceEpoch : Option Nat) : XorShift64 :=
  let seed := sinceEpoch.elim 0x9e3779b97f4a7c15 UInt64.ofNat
  .new (seed ^^^ 0x517cc1b727220a95)

/-- The half of the base in nanoseconds, of which the cast keeps the low 64 bits. -/
def halfNanos (base : Nat) : UInt64 := UInt64.ofNat (base / 2)

/-- The number of offsets. -/
def spread (base : Nat) : UInt64 := saturatingAddU64 (halfNanos base) 1

/-- The offset of the next draw. -/
def offset (rng : XorShift64) (base : Nat) : Option UInt64 :=
  checkedRem rng.nextU64.1 (spread base)

/-- `UniformJitter::jitter`, with the generator that the lock guards. -/
def jitter (rng : XorShift64) (base : Nat) : Option (Nat × XorShift64) := do
  let offset ← offset rng base
  some (saturatingAdd base offset.toNat, rng.nextU64.2)

/-- One call after another, each with a base of its own. -/
def run (rng : XorShift64) : List Nat → Option (List Nat × XorShift64)
  | [] => some ([], rng)
  | base :: rest => do
      let (jittered, rng) ← jitter rng base
      let (others, rng) ← run rng rest
      some (jittered :: others, rng)

/-- A later draw has another offset than the next. -/
def Varies (rng : XorShift64) (base : Nat) : Prop :=
  ∃ draws, offset (rng.after draws) base ≠ offset rng base

variable {rng : XorShift64} {base : Nat}

/-- The spread is at most half the base. -/
theorem halfNanos_le (base : Nat) : (halfNanos base).toNat ≤ base / 2 := by
  rw [halfNanos, UInt64.toNat_ofNat']
  exact Nat.mod_le _ _

/-- There is one offset more than the half counts, unless that is too many for the type. -/
theorem spread_toNat (base : Nat) :
    (spread base).toNat = min ((halfNanos base).toNat + 1) (2 ^ 64 - 1) := by
  have half := (halfNanos base).toNat_lt
  have one : (1 : UInt64).toNat = 1 := UInt64.toNat_one
  unfold spread saturatingAddU64
  split
  · rename_i fits
    rw [one] at fits
    rw [UInt64.toNat_add, one, Nat.mod_eq_of_lt fits]
    omega
  · rename_i large
    rw [one] at large
    rw [UInt64.toNat_ofNat']
    omega

/-- There is always something to divide by. -/
theorem spread_ne_zero (base : Nat) : spread base ≠ 0 := by
  intro zero
  have count := spread_toNat base
  rw [zero, UInt64.toNat_zero] at count
  omega

/-- The remainder is never one by zero. -/
theorem offset_eq (rng : XorShift64) (base : Nat) :
    offset rng base = some (rng.nextU64.1 % spread base) :=
  if_neg (spread_ne_zero base)

/-- The jitter is a saturated sum, and it never fails. -/
theorem jitter_eq (rng : XorShift64) (base : Nat) : jitter rng base =
    some (saturatingAdd base (rng.nextU64.1 % spread base).toNat, rng.nextU64.2) := by
  rw [jitter, offset_eq]
  rfl

/-- What is added is at most half the base. -/
theorem offset_le (number : UInt64) (base : Nat) : (number % spread base).toNat ≤ base / 2 := by
  have half := halfNanos_le base
  have count := spread_toNat base
  have below : number.toNat % (spread base).toNat < (spread base).toNat :=
    Nat.mod_lt _ (by omega)
  rw [UInt64.toNat_mod]
  omega

/-- The jitter adds at most a half, and nothing that a duration cannot hold. -/
theorem jitter_bounds (constructible : base ≤ durationMax) {jittered : Nat} {next : XorShift64}
    (called : jitter rng base = some (jittered, next)) :
    base ≤ jittered ∧ jittered ≤ saturatingAdd base (base / 2) := by
  have bounded := offset_le rng.nextU64.1 base
  rw [jitter_eq] at called
  cases called
  unfold saturatingAdd
  omega

/-- Every call returns and draws once. -/
theorem run_after (bases : List Nat) (rng : XorShift64) :
    ∃ jittered, run rng bases = some (jittered, rng.after bases.length) := by
  induction bases generalizing rng with
  | nil => exact ⟨[], rfl⟩
  | cons base rest inductionHypothesis =>
    obtain ⟨others, continued⟩ := inductionHypothesis rng.nextU64.2
    rw [XorShift64.after_succ] at continued
    refine ⟨saturatingAdd base (rng.nextU64.1 % spread base).toNat :: others, ?_⟩
    rw [run, jitter_eq, Option.bind_eq_bind, Option.bind_some]
    dsimp only
    rw [continued]
    rfl

/-- Every offset comes up before the cycle is over: a number below the count is its own
remainder, and the count itself leaves none. -/
theorem exists_offset (alive : rng.state ≠ 0) {target : UInt64}
    (possible : target.toNat < (spread base).toNat) :
    ∃ draws < 2 ^ 64 - 1, offset (rng.after draws) base = some target := by
  have reached {number : UInt64} (nonzero : number ≠ 0) (leaves : number % spread base = target) :
      ∃ draws < 2 ^ 64 - 1, offset (rng.after draws) base = some target := by
    obtain ⟨draws, short, drawn⟩ := XorShift64.exists_draw alive nonzero
    refine ⟨draws, short, ?_⟩
    rw [offset_eq, drawn, leaves]
  by_cases zero : target = 0
  · refine reached (spread_ne_zero base) ?_
    rw [zero, ← UInt64.toNat_inj, UInt64.toNat_mod, Nat.mod_self, UInt64.toNat_zero]
  · refine reached zero ?_
    rw [← UInt64.toNat_inj, UInt64.toNat_mod, Nat.mod_eq_of_lt possible]

/-- Where there is more than one offset, none lasts. -/
theorem varies (alive : rng.state ≠ 0) (room : halfNanos base ≠ 0) : Varies rng base := by
  have positive : (halfNanos base).toNat ≠ 0 := by
    intro zero
    exact room (UInt64.toNat_inj.mp zero)
  have count := spread_toNat base
  have other {target : UInt64} (possible : target.toNat < (spread base).toNat)
      (apart : rng.nextU64.1 % spread base ≠ target) : Varies rng base := by
    obtain ⟨draws, _, drawn⟩ := exists_offset alive possible
    refine ⟨draws, ?_⟩
    rw [drawn, offset_eq]
    exact fun same => apart (Option.some.inj same).symm
  by_cases zero : rng.nextU64.1 % spread base = 0
  · refine @other 1 (by rw [UInt64.toNat_one]; omega) ?_
    rw [zero]
    decide
  · exact @other 0 (by rw [UInt64.toNat_zero]; omega) zero

/-- What the jitter does after any number of calls. It returns a duration between the base
and the base with its half, without a remainder by zero; the state of the generator is
not zero, and every other number is still to be drawn; and unless the cast leaves nothing
of the half, the offset does not stay what it is.

Proof: the step of the generator runs through all words but zero in one cycle. -/
theorem jitter_spreads (seed : UInt64) (earlier : List Nat) {base : Nat}
    (constructible : base ≤ durationMax) :
    ∃ drawn rng, run (.new seed) earlier = some (drawn, rng) ∧ rng.state ≠ 0 ∧
      (∃ jittered next, jitter rng base = some (jittered, next) ∧ base ≤ jittered ∧
        jittered ≤ saturatingAdd base (base / 2)) ∧
      (∀ number : UInt64, number ≠ 0 → ∃ draws, (rng.after draws).nextU64.1 = number) ∧
      (halfNanos base ≠ 0 → Varies rng base) := by
  obtain ⟨drawn, returned⟩ := run_after earlier (.new seed)
  have alive := XorShift64.after_state_ne_zero (XorShift64.new_state_ne_zero seed) earlier.length
  refine ⟨drawn, _, returned, alive, ?_, ?_, varies alive⟩
  · exact ⟨_, _, jitter_eq _ base, jitter_bounds constructible (jitter_eq _ base)⟩
  · intro number nonzero
    obtain ⟨draws, _, reached⟩ := XorShift64.exists_draw alive nonzero
    exact ⟨draws, reached⟩

/-- Where the cast leaves nothing of the half, there is one offset only. -/
theorem offset_zero (nothing : halfNanos base = 0) (rng : XorShift64) :
    offset rng base = some 0 := by
  have count := spread_toNat base
  rw [nothing] at count
  have one : (spread base).toNat = 1 := count
  rw [offset_eq, Option.some.injEq, ← UInt64.toNat_inj, UInt64.toNat_mod, one, Nat.mod_one]
  rfl

/-- The offset never moves for a base of one nanosecond, which has no room for it, and for
one of `2 ^ 65` nanoseconds, which has. -/
theorem offset_sticks :
    2 ^ 65 ≤ durationMax ∧ 2 ^ 65 < saturatingAdd (2 ^ 65) (2 ^ 65 / 2) ∧
      ¬ Varies (.new 0) (2 ^ 65) ∧ ¬ Varies (.new 0) 1 := by
  refine ⟨by decide, by decide, ?_, ?_⟩
  · rintro ⟨draws, apart⟩
    exact apart ((offset_zero (by decide) _).trans (offset_zero (by decide) _).symm)
  · rintro ⟨draws, apart⟩
    exact apart ((offset_zero (by decide) _).trans (offset_zero (by decide) _).symm)

/-- A minute after two other calls, one of them for the longest duration there is. -/
theorem jitter_spreads_minute :
    ∃ drawn rng, run (.new 7) [1, durationMax] = some (drawn, rng) ∧
      (∃ jittered next, jitter rng 60000000000 = some (jittered, next) ∧
        60000000000 ≤ jittered ∧ jittered ≤ 90000000000) ∧ Varies rng 60000000000 := by
  have most : saturatingAdd 60000000000 (60000000000 / 2) = 90000000000 := by decide
  obtain ⟨drawn, rng, returned, _, bounds, _, moves⟩ :=
    @jitter_spreads 7 [1, durationMax] 60000000000 (by decide)
  rw [most] at bounds
  exact ⟨drawn, rng, returned, bounds, moves (by decide)⟩

end UniformJitter

end Orihsus.Pool
