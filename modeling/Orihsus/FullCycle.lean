import Mathlib.Algebra.BigOperators.Associated
import Mathlib.Algebra.CharP.Two
import Mathlib.Algebra.Module.Hom
import Mathlib.Data.Fintype.EquivFin
import Mathlib.Data.Nat.Bitwise
import Mathlib.GroupTheory.OrderOfElement

/-!
# Maps of words that run through every word

A map of words that respects exclusive or is an element of a ring of characteristic two.
Its powers are polynomials in it, and a natural number stands for a polynomial: its bits
are the coefficients. With a modulus of which the map is a root, a power is computed on
numbers of the width of a word, so the kernel can find the order of the map.

If the order is one less than the number of words, then there are as many powers of the map
as polynomials below the modulus other than zero. So each such polynomial is a power of the
map and can be undone. A word other than zero therefore comes back only after a whole cycle,
and the cycle holds every word other than zero.
-/

namespace FullCycle

/-- Two numbers with the same highest bit differ below it. -/
theorem xor_lt {width left right : Nat} (leftLow : 2 ^ width ≤ left)
    (leftHigh : left < 2 ^ (width + 1)) (rightLow : 2 ^ width ≤ right)
    (rightHigh : right < 2 ^ (width + 1)) : left ^^^ right < 2 ^ width := by
  have top {number : Nat} (low : 2 ^ width ≤ number) (high : number < 2 ^ (width + 1)) :
      number / 2 ^ width = 1 := by
    rw [Nat.pow_succ] at high
    exact Nat.div_eq_of_lt_le (by omega) (by omega)
  have cleared : (left ^^^ right) / 2 ^ width = 0 := by
    rw [Nat.xor_div_two_pow, top leftLow leftHigh, top rightLow rightHigh]
    rfl
  exact (Nat.div_eq_zero_iff_lt (Nat.two_pow_pos width)).mp cleared

/-! ## Polynomials in one element -/

section

variable {Scalar : Type*} [Ring Scalar] (root : Scalar)

/-- The polynomial with these bits for coefficients, at an element. -/
def value (bits : Nat) : Scalar :=
  if bits = 0 then 0 else (if bits % 2 = 1 then 1 else 0) + root * value (bits / 2)
termination_by bits
decreasing_by omega

/-- The zero polynomial is zero. -/
theorem value_zero : value root 0 = 0 := by
  rw [value, if_pos rfl]

/-- The lowest coefficient, and the rest one degree lower. -/
theorem value_step (bits : Nat) :
    value root bits = (if bits % 2 = 1 then 1 else 0) + root * value root (bits / 2) := by
  by_cases zero : bits = 0
  · subst zero
    simp [value_zero]
  · rw [value, if_neg zero]

/-- The constant polynomial one is one. -/
theorem value_one : value root 1 = 1 := by
  simp [value_step root 1, value_zero]

/-- A shift multiplies with the root. -/
theorem value_shift (bits : Nat) : value root (2 * bits) = root * value root bits := by
  rw [value_step, Nat.mul_mod_right, Nat.mul_div_cancel_left bits Nat.two_pos]
  simp

/-- A polynomial of a root commutes with the root. -/
theorem value_commute (bits : Nat) : Commute root (value root bits) := by
  induction bits using Nat.strongRecOn with
  | ind bits inductionHypothesis =>
    by_cases zero : bits = 0
    · rw [zero, value_zero]
      exact Commute.zero_right root
    · have later := inductionHypothesis (bits / 2) (by omega)
      rw [value_step]
      refine Commute.add_right ?_ ((Commute.refl root).mul_right later)
      split
      · exact Commute.one_right root
      · exact Commute.zero_right root

/-- A coefficient times a polynomial. -/
theorem value_scale (coefficient bits : Nat) :
    value root (coefficient % 2 * bits) =
      (if coefficient % 2 = 1 then 1 else 0) * value root bits := by
  rcases Nat.mod_two_eq_zero_or_one coefficient with even | odd
  · simp [even, value_zero]
  · simp [odd]

/-- Exclusive or adds the coefficients. -/
theorem value_xor [CharP Scalar 2] (left right : Nat) :
    value root (left ^^^ right) = value root left + value root right := by
  induction left using Nat.strongRecOn generalizing right with
  | ind left inductionHypothesis =>
    by_cases zero : left = 0
    · rw [zero, Nat.zero_xor, value_zero, zero_add]
    · have lowest : (if (left ^^^ right) % 2 = 1 then 1 else 0 : Scalar) =
          (if left % 2 = 1 then 1 else 0) + (if right % 2 = 1 then 1 else 0) := by
        rw [Nat.xor_mod_two_eq, Nat.add_mod]
        rcases Nat.mod_two_eq_zero_or_one left with even | odd <;>
          rcases Nat.mod_two_eq_zero_or_one right with other | other <;>
          simp [*, CharTwo.add_self_eq_zero]
      rw [value_step, lowest, Nat.xor_div_two, inductionHypothesis (left / 2) (by omega),
        value_step root left, value_step root right, mul_add, add_add_add_comm]

end

/-! ## Computing below a modulus -/

/-- A polynomial whose degree is the width. -/
structure Modulus where
  width : Nat
  bits : Nat
  positive : 0 < width
  lower : 2 ^ width ≤ bits
  upper : bits < 2 ^ (width + 1)

/-- The number is computed before it is used. -/
def force {Result : Type*} (number : Nat) (use : Nat → Result) : Result :=
  match number with
  | 0 => use 0
  | less + 1 => use (less + 1)

/-- Forcing a number does not change it. -/
theorem force_eq {Result : Type*} (number : Nat) (use : Nat → Result) :
    force number use = use number := by
  cases number <;> rfl

namespace Modulus

variable (modulus : Modulus)

/-- The next power, reduced. -/
def double (bits : Nat) : Nat :=
  2 * bits ^^^ (2 * bits / 2 ^ modulus.width % 2 * modulus.bits)

/-- The product with a polynomial of so many coefficients, reduced. -/
def multiply : Nat → Nat → Nat → Nat
  | 0, _, _ => 0
  | count + 1, left, right =>
      modulus.double (multiply count (left / 2) right) ^^^ (left % 2 * right)

/-- A power with an exponent of so many bits, reduced. -/
def power : Nat → Nat → Nat
  | 0, _ => 1
  | count + 1, exponent =>
      force (power count (exponent / 2)) fun half =>
        force (modulus.multiply modulus.width half half) fun square =>
          if exponent % 2 = 1 then modulus.double square else square

/-- One fits the width. -/
theorem one_lt : 1 < 2 ^ modulus.width := Nat.one_lt_two_pow modulus.positive.ne'

variable {modulus}

/-- A doubling is reduced. -/
theorem double_lt {bits : Nat} (within : bits < 2 ^ modulus.width) :
    modulus.double bits < 2 ^ modulus.width := by
  unfold double
  by_cases high : 2 * bits < 2 ^ modulus.width
  · rw [Nat.div_eq_of_lt high, Nat.zero_mod, Nat.zero_mul, Nat.xor_zero]
    exact high
  · have upper : 2 * bits < 2 ^ (modulus.width + 1) := by
      rw [Nat.pow_succ]
      omega
    have one : 2 * bits / 2 ^ modulus.width = 1 := Nat.div_eq_of_lt_le (by omega) (by omega)
    rw [one, Nat.one_mod, Nat.one_mul]
    exact xor_lt (Nat.le_of_not_lt high) upper modulus.lower modulus.upper

/-- A product is reduced. -/
theorem multiply_lt {count left right : Nat} (within : right < 2 ^ modulus.width) :
    modulus.multiply count left right < 2 ^ modulus.width := by
  induction count generalizing left with
  | zero => exact Nat.two_pow_pos _
  | succ count inductionHypothesis =>
    refine Nat.xor_lt_two_pow (double_lt inductionHypothesis) ?_
    rcases Nat.mod_two_eq_zero_or_one left with even | odd
    · rw [even, Nat.zero_mul]
      exact Nat.two_pow_pos _
    · rw [odd, Nat.one_mul]
      exact within

/-- A power is reduced. -/
theorem power_lt {count exponent : Nat} : modulus.power count exponent < 2 ^ modulus.width := by
  induction count generalizing exponent with
  | zero => exact modulus.one_lt
  | succ count inductionHypothesis =>
    have square := @multiply_lt modulus modulus.width (modulus.power count (exponent / 2)) _
      (@inductionHypothesis (exponent / 2))
    rw [power, force_eq, force_eq]
    split
    · exact double_lt square
    · exact square

section

variable {Scalar : Type*} [Ring Scalar] [CharP Scalar 2] {root : Scalar}

/-- A reduced doubling multiplies with the root. -/
theorem value_double (vanishes : value root modulus.bits = 0) (bits : Nat) :
    value root (modulus.double bits) = root * value root bits := by
  rw [double, value_xor, value_scale, vanishes, mul_zero, add_zero, value_shift]

/-- Reduced products are products of values. -/
theorem value_multiply (vanishes : value root modulus.bits = 0) {count left : Nat}
    (short : left < 2 ^ count) (right : Nat) :
    value root (modulus.multiply count left right) = value root left * value root right := by
  induction count generalizing left with
  | zero =>
    obtain rfl : left = 0 := by omega
    rw [multiply, value_zero, zero_mul]
  | succ count inductionHypothesis =>
    have half : left / 2 < 2 ^ count := by
      rw [Nat.pow_succ] at short
      omega
    rw [multiply, value_xor, value_double vanishes, inductionHypothesis half, value_scale,
      value_step root left, add_mul, mul_assoc, add_comm]

/-- Reduced powers are powers of the root. -/
theorem value_power (vanishes : value root modulus.bits = 0) {count exponent : Nat}
    (short : exponent < 2 ^ count) :
    value root (modulus.power count exponent) = root ^ exponent := by
  induction count generalizing exponent with
  | zero =>
    obtain rfl : exponent = 0 := by omega
    rw [power, value_one, pow_zero]
  | succ count inductionHypothesis =>
    have half : exponent / 2 < 2 ^ count := by
      rw [Nat.pow_succ] at short
      omega
    have square : value root (modulus.multiply modulus.width
        (modulus.power count (exponent / 2)) (modulus.power count (exponent / 2))) =
        root ^ (2 * (exponent / 2)) := by
      rw [value_multiply vanishes power_lt, inductionHypothesis half, ← pow_add, Nat.two_mul]
    rw [power, force_eq, force_eq]
    split
    · rw [value_double vanishes, square, ← pow_succ']
      congr 1
      omega
    · rw [square]
      congr 1
      omega

end

end Modulus

/-! ## The order of a root -/

/-- The prime factors of the length of a whole cycle, each with an inverse that shows that
the cycle does not close early. -/
structure Primitive (modulus : Modulus) (factors : List (Nat × Nat)) : Prop where
  product : (factors.map Prod.fst).prod = 2 ^ modulus.width - 1
  prime : ∀ factor ∈ factors, factor.1.Prime
  closes : modulus.power modulus.width (2 ^ modulus.width - 1) = 1
  early : ∀ factor ∈ factors, modulus.multiply modulus.width
    (modulus.power modulus.width ((2 ^ modulus.width - 1) / factor.1) ^^^ 1) factor.2 = 1

section

variable {Scalar : Type*} [Ring Scalar] [CharP Scalar 2] [Nontrivial Scalar] {root : Scalar}
  {modulus : Modulus} {factors : List (Nat × Nat)}

/-- The order of a root of a primitive modulus is the length of a whole cycle. -/
theorem Primitive.orderOf_eq (primitive : Primitive modulus factors)
    (vanishes : value root modulus.bits = 0) : orderOf root = 2 ^ modulus.width - 1 := by
  have wide := modulus.one_lt
  have closes : root ^ (2 ^ modulus.width - 1) = 1 := by
    rw [← Modulus.value_power vanishes (Nat.sub_lt (by omega) Nat.one_pos), primitive.closes,
      value_one]
  refine orderOf_eq_of_pow_and_pow_div_prime (by omega) closes ?_
  intro prime isPrime divides early
  rw [← primitive.product] at divides
  obtain ⟨number, listed, dividesOne⟩ := (Prime.dvd_prod_iff isPrime.prime).mp divides
  obtain ⟨factor, member, rfl⟩ := List.mem_map.mp listed
  obtain rfl := (Nat.prime_dvd_prime_iff_eq isPrime (primitive.prime factor member)).mp dividesOne
  -- If the power were one, the sum with one would vanish; but that sum has an inverse.
  have short : (2 ^ modulus.width - 1) / factor.1 < 2 ^ modulus.width :=
    Nat.lt_of_le_of_lt (Nat.div_le_self _ _) (by omega)
  have sum : value root (modulus.power modulus.width ((2 ^ modulus.width - 1) / factor.1) ^^^ 1) =
      0 := by
    rw [value_xor, Modulus.value_power vanishes short, early, value_one,
      CharTwo.add_self_eq_zero]
  have inverse := congrArg (value root) (primitive.early factor member)
  rw [Modulus.value_multiply vanishes (Nat.xor_lt_two_pow Modulus.power_lt wide), sum, zero_mul,
    value_one] at inverse
  exact zero_ne_one inverse

end

/-! ## The cycle -/

section

variable {Scalar : Type*} [Ring Scalar] {root : Scalar} {modulus : Modulus} {Vector : Type*}
  [AddCommGroup Vector] [Module Scalar Vector] {first second : Vector}

/-- A power of the root moves no vector but zero to zero. -/
theorem eq_zero_of_pow_smul (order : orderOf root = 2 ^ modulus.width - 1) {exponent : Nat}
    (zero : root ^ exponent • first = 0) : first = 0 := by
  have wide := modulus.one_lt
  have longer : exponent ≤ orderOf root * exponent := Nat.le_mul_of_pos_left _ (by omega)
  calc
    first = root ^ (orderOf root * exponent) • first := by
      rw [pow_mul, pow_orderOf_eq_one, one_pow, one_smul]
    _ = root ^ (orderOf root * exponent - exponent) • root ^ exponent • first := by
      rw [smul_smul, ← pow_add, Nat.sub_add_cancel longer]
    _ = 0 := by rw [zero, smul_zero]

variable [CharP Scalar 2]

variable (vanishes : value root modulus.bits = 0)

include vanishes

/-- So they are below the order. -/
theorem value_power_range {exponent : Nat}
    (short : exponent ∈ Finset.range (2 ^ modulus.width - 1)) :
    value root (modulus.power modulus.width exponent) = root ^ exponent :=
  Modulus.value_power vanishes (Nat.lt_of_lt_of_le (Finset.mem_range.mp short) (Nat.sub_le _ _))

variable (order : orderOf root = 2 ^ modulus.width - 1)

include order

/-- Below the order no two powers of the root are equal. -/
theorem power_injOn :
    Set.InjOn (modulus.power modulus.width) (Finset.range (2 ^ modulus.width - 1)) := by
  intro left leftShort right rightShort same
  have values := congrArg (value root) same
  rw [value_power_range vanishes leftShort, value_power_range vanishes rightShort] at values
  rw [← order] at leftShort rightShort
  exact pow_injOn_Iio_orderOf (Finset.mem_range.mp leftShort) (Finset.mem_range.mp rightShort)
    values

/-- Below the modulus every polynomial other than zero is a power. There are as many of one
as of the other. -/
theorem value_eq_pow [Nontrivial Scalar] {bits : Nat} (nonzero : bits ≠ 0)
    (within : bits < 2 ^ modulus.width) : ∃ exponent, value root bits = root ^ exponent := by
  let reduced := (Finset.range (2 ^ modulus.width - 1)).image (modulus.power modulus.width)
  have inside : reduced ⊆ Finset.Ico 1 (2 ^ modulus.width) := by
    intro power member
    obtain ⟨exponent, short, rfl⟩ := Finset.mem_image.mp member
    refine Finset.mem_Ico.mpr ⟨Nat.pos_of_ne_zero ?_, Modulus.power_lt⟩
    intro zero
    have vanished : root ^ exponent • (1 : Scalar) = 0 := by
      rw [← value_power_range vanishes short, zero, value_zero, zero_smul]
    exact one_ne_zero (eq_zero_of_pow_smul order vanished)
  have all : reduced = Finset.Ico 1 (2 ^ modulus.width) := by
    refine Finset.eq_of_subset_of_card_le inside ?_
    rw [Finset.card_image_of_injOn (power_injOn vanishes order), Finset.card_range, Nat.card_Ico]
  have member : bits ∈ reduced := by
    rw [all]
    exact Finset.mem_Ico.mpr ⟨Nat.pos_of_ne_zero nonzero, within⟩
  obtain ⟨exponent, short, rfl⟩ := Finset.mem_image.mp member
  exact ⟨exponent, value_power_range vanishes short⟩

variable [Nontrivial Scalar]

/-- No vector but zero comes back before the cycle is over. -/
theorem pow_smul_injOn (nonzero : first ≠ 0) :
    Set.InjOn (fun exponent => root ^ exponent • first)
      (Finset.range (2 ^ modulus.width - 1)) := by
  intro left leftShort right rightShort same
  by_contra apart
  -- The difference of the two powers is a power itself, and takes the vector to zero.
  have difference : modulus.power modulus.width left ^^^ modulus.power modulus.width right ≠ 0 :=
    fun zero => apart (power_injOn vanishes order leftShort rightShort
      (Nat.xor_eq_zero_iff.mp zero))
  obtain ⟨exponent, undone⟩ := value_eq_pow vanishes order difference
    (Nat.xor_lt_two_pow Modulus.power_lt Modulus.power_lt)
  have twice : root ^ right • first + root ^ right • first = 0 := by
    rw [← add_smul, CharTwo.add_self_eq_zero, zero_smul]
  have vanished : root ^ exponent • first = 0 := by
    rw [← undone, value_xor, value_power_range vanishes leftShort,
      value_power_range vanishes rightShort, add_smul]
    exact (congrArg (· + root ^ right • first) same).trans twice
  exact nonzero (eq_zero_of_pow_smul order vanished)

/-- The cycle of a vector other than zero holds every other one. -/
theorem exists_pow_smul_eq [Fintype Vector] (size : Fintype.card Vector = 2 ^ modulus.width)
    (nonzero : first ≠ 0) (other : second ≠ 0) :
    ∃ exponent < 2 ^ modulus.width - 1, root ^ exponent • first = second := by
  classical
  let cycle := (Finset.range (2 ^ modulus.width - 1)).image fun exponent => root ^ exponent • first
  have inside : cycle ⊆ Finset.univ.erase 0 := by
    intro vector member
    obtain ⟨exponent, _, rfl⟩ := Finset.mem_image.mp member
    exact Finset.mem_erase.mpr
      ⟨fun zero => nonzero (eq_zero_of_pow_smul order zero), Finset.mem_univ _⟩
  have all : cycle = Finset.univ.erase 0 := by
    refine Finset.eq_of_subset_of_card_le inside ?_
    rw [Finset.card_image_of_injOn (pow_smul_injOn vanishes order nonzero), Finset.card_range,
      Finset.card_erase_of_mem (Finset.mem_univ _), Finset.card_univ, size]
  have member : second ∈ cycle := by
    rw [all]
    exact Finset.mem_erase.mpr ⟨other, Finset.mem_univ _⟩
  obtain ⟨exponent, short, reached⟩ := Finset.mem_image.mp member
  exact ⟨exponent, Finset.mem_range.mp short, reached⟩

end

/-! ## Words -/

/-- A word, with exclusive or for its sum. -/
@[ext]
structure Word (width : Nat) where
  bits : BitVec width
  deriving DecidableEq

namespace Word

variable {width : Nat}

instance : Zero (Word width) := ⟨⟨BitVec.ofNat width 0⟩⟩

instance : Add (Word width) := ⟨fun left right => ⟨left.bits ^^^ right.bits⟩⟩

instance : Neg (Word width) := ⟨id⟩

instance : AddCommGroup (Word width) where
  add_assoc left middle right := Word.ext (BitVec.xor_assoc left.bits middle.bits right.bits)
  zero_add word := Word.ext BitVec.zero_xor
  add_zero word := Word.ext BitVec.xor_zero
  add_comm left right := Word.ext (BitVec.xor_comm left.bits right.bits)
  neg_add_cancel word := Word.ext BitVec.xor_self
  nsmul := nsmulRec
  zsmul := zsmulRec

/-- The zero word has no bits. -/
theorem zero_bits : (0 : Word width).bits = BitVec.ofNat width 0 := rfl

/-- Words are added by exclusive or. -/
theorem add_bits (left right : Word width) : (left + right).bits = left.bits ^^^ right.bits := rfl

/-- Every word is its own negative. -/
theorem add_self (word : Word width) : word + word = 0 := neg_add_cancel word

def equivFin : Word width ≃ Fin (2 ^ width) where
  toFun word := word.bits.toFin
  invFun number := ⟨⟨number⟩⟩
  left_inv _ := rfl
  right_inv _ := rfl

instance : Fintype (Word width) := Fintype.ofEquiv _ equivFin.symm

/-- There are as many words as patterns of bits. -/
theorem card : Fintype.card (Word width) = 2 ^ width :=
  (Fintype.card_congr equivFin).trans (Fintype.card_fin _)

/-- A map that respects exclusive or is determined by the words with one bit. -/
theorem hom_eq_zero {Vector : Type*} [AddCommGroup Vector] (map : Word width →+ Vector)
    (single : ∀ index < width, map ⟨BitVec.twoPow width index⟩ = 0) (word : Word width) :
    map word = 0 := by
  have below (count : Nat) (fits : count ≤ width) (word : Word width)
      (short : word.bits.toNat < 2 ^ count) : map word = 0 := by
    induction count generalizing word with
    | zero =>
      have zero : word = 0 := by
        refine Word.ext (BitVec.eq_of_toNat_eq ?_)
        rw [zero_bits, BitVec.toNat_zero]
        omega
      rw [zero, map_zero]
    | succ count inductionHypothesis =>
      by_cases low : word.bits.toNat < 2 ^ count
      · exact inductionHypothesis (by omega) word low
      · -- The highest bit is split off.
        have highest : (BitVec.twoPow width count).toNat = 2 ^ count :=
          BitVec.toNat_twoPow_of_lt fits
        have rest : (word + ⟨BitVec.twoPow width count⟩).bits.toNat < 2 ^ count := by
          rw [add_bits, BitVec.toNat_xor, highest]
          exact xor_lt (Nat.le_of_not_lt low) short (Nat.le_refl _)
            (Nat.pow_lt_pow_right (by decide) (Nat.lt_succ_self _))
        have split := inductionHypothesis (by omega) _ rest
        rwa [map_add, single count fits, add_zero] at split
  exact below width (Nat.le_refl _) word word.bits.isLt

end Word

/-- A polynomial in a map, applied to a vector. -/
def combine {Vector : Type*} [AddCommGroup Vector] (map : Vector → Vector) :
    Nat → Nat → Vector → Vector
  | 0, _, _ => 0
  | count + 1, bits, vector =>
      (if bits % 2 = 1 then vector else 0) + combine map count (bits / 2) (map vector)

/-- A polynomial of a map acts by combining the images of a vector. -/
theorem value_smul {Scalar Vector : Type*} [Ring Scalar] [AddCommGroup Vector]
    [Module Scalar Vector] (root : Scalar) {count bits : Nat} (short : bits < 2 ^ count)
    (vector : Vector) :
    value root bits • vector = combine (root • ·) count bits vector := by
  induction count generalizing bits vector with
  | zero =>
    obtain rfl : bits = 0 := by omega
    rw [value_zero, zero_smul, combine]
  | succ count inductionHypothesis =>
    have half : bits / 2 < 2 ^ count := by
      rw [Nat.pow_succ] at short
      omega
    rw [combine, ← inductionHypothesis half, value_step, add_smul, smul_smul,
      (value_commute root (bits / 2)).eq]
    congr 1
    split
    · rw [one_smul]
    · rw [zero_smul]

/-! ## Maps of words -/

namespace Word

variable {width : Nat}

instance [NeZero width] : Nontrivial (AddMonoid.End (Word width)) := by
  refine ⟨0, 1, fun same => ?_⟩
  have moved : (0 : Word width) = ⟨BitVec.ofNat width 1⟩ := DFunLike.congr_fun same _
  have numbers := congrArg (fun word : Word width => word.bits.toNat) moved
  simp only [zero_bits, BitVec.toNat_ofNat] at numbers
  rw [Nat.zero_mod, Nat.mod_eq_of_lt (Nat.one_lt_two_pow (NeZero.ne width))] at numbers
  exact Nat.zero_ne_one numbers

instance [NeZero width] : CharP (AddMonoid.End (Word width)) 2 := by
  refine CharTwo.of_one_ne_zero_of_two_eq_zero one_ne_zero ?_
  rw [← one_add_one_eq_two]
  exact AddMonoidHom.ext add_self

/-- A word with itself, shifted to the left, added to it. -/
def addShiftLeft (count : Nat) : AddMonoid.End (Word width) where
  toFun word := ⟨word.bits ^^^ (word.bits <<< count)⟩
  map_zero' := Word.ext (by rw [zero_bits, BitVec.zero_shiftLeft, BitVec.xor_self])
  map_add' left right := by
    refine Word.ext ?_
    simp only [add_bits, BitVec.shiftLeft_xor_distrib]
    ac_rfl

/-- A word with itself, shifted to the right, added to it. -/
def addShiftRight (count : Nat) : AddMonoid.End (Word width) where
  toFun word := ⟨word.bits ^^^ (word.bits >>> count)⟩
  map_zero' := Word.ext (by rw [zero_bits, BitVec.zero_ushiftRight, BitVec.xor_self])
  map_add' left right := by
    refine Word.ext ?_
    simp only [add_bits, BitVec.ushiftRight_xor_distrib]
    ac_rfl

end Word

/-- A map of words that is a root of a primitive modulus of their width. -/
structure Generates (modulus : Modulus) (factors : List (Nat × Nat)) {width : Nat}
    (map : AddMonoid.End (Word width)) : Prop where
  wide : modulus.width = width
  primitive : Primitive modulus factors
  single : ∀ index < width,
    combine map (width + 1) modulus.bits ⟨BitVec.twoPow width index⟩ = 0

namespace Generates

variable {modulus : Modulus} {factors : List (Nat × Nat)} {width : Nat}
  {map : AddMonoid.End (Word width)} {first second : Word width}

/-- The map is a root of its modulus. -/
theorem vanishes (generates : Generates modulus factors map) : value map modulus.bits = 0 := by
  have upper := modulus.upper
  rw [generates.wide] at upper
  let polynomial : AddMonoid.End (Word width) := value map modulus.bits
  refine AddMonoidHom.ext (Word.hom_eq_zero polynomial ?_)
  intro index below
  exact (value_smul map upper _).trans (generates.single index below)

/-- The map has the full order. -/
theorem order (generates : Generates modulus factors map) :
    orderOf map = 2 ^ modulus.width - 1 := by
  have : NeZero width := ⟨generates.wide ▸ modulus.positive.ne'⟩
  exact generates.primitive.orderOf_eq generates.vanishes

/-- The map takes no other word to zero. -/
theorem map_ne_zero (generates : Generates modulus factors map) (nonzero : first ≠ 0) :
    map first ≠ 0 := by
  intro zero
  have moved : map ^ 1 • first = 0 := by
    rw [pow_one]
    exact zero
  exact nonzero (eq_zero_of_pow_smul generates.order moved)

/-- The powers of the map take every word but zero to every other. -/
theorem exists_pow_eq (generates : Generates modulus factors map) (nonzero : first ≠ 0)
    (other : second ≠ 0) : ∃ exponent < 2 ^ width - 1, (map ^ exponent) first = second := by
  have : NeZero width := ⟨generates.wide ▸ modulus.positive.ne'⟩
  have size : Fintype.card (Word width) = 2 ^ modulus.width := by
    rw [Word.card, generates.wide]
  have reached := exists_pow_smul_eq generates.vanishes generates.order size nonzero other
  rw [generates.wide] at reached
  exact reached

end Generates

end FullCycle
