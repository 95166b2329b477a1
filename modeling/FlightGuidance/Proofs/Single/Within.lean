import FlightGuidance.Proofs.Single.Extremes
import FlightGuidance.Proofs.Single.Nearest
import Mathlib.Algebra.Order.Archimedean.Real.Basic
import Mathlib.Algebra.Order.Round

/-!
# Singles within limits

A limit that is itself the magnitude of a single is kept by rounding, so bounds on the terms of a
sum or on the factors of a product bound the rounded result (`Within.add`, `Within.mul`). Between
two powers of two a rounded number is off by at most half of the last place (`Nearest.error`), and
what is less than that is lost when it is added (`add_absorbed`).
-/

set_option autoImplicit false

namespace FlightGuidance
namespace Single

open Float.Model (UnpackedFloat)
open Float.Model.UnpackedFloat (Sign pack unpack)

variable {x y : Float32} {limit limit' : ℕ}

/-! ## Limits -/

/-- A number of at most so many units on either side of zero. -/
structure Within (limit : ℕ) (x : Float32) : Prop where
  number : x.isNaN = false
  bounded : |units x| ≤ limit

instance (limit : ℕ) (x : Float32) : Decidable (Within limit x) :=
  decidable_of_iff (x.isNaN = false ∧ |units x| ≤ limit)
    ⟨fun both => ⟨both.1, both.2⟩, fun within => ⟨within.number, within.bounded⟩⟩

/-- A power of two in units. -/
def power (exponent : ℕ) : ℕ := 2 ^ (149 + exponent)

theorem power_lt_top {exponent : ℕ} (low : exponent ≤ 127) : power exponent < top := by
  have bounded : 2 ^ exponent ≤ 2 ^ 127 := Nat.pow_le_pow_right Nat.two_pos low
  unfold power
  rw [Nat.pow_add]
  exact (Nat.mul_le_mul_left _ bounded).trans_lt (by decide)

theorem grid_power {exponent : ℕ} (low : exponent ≤ 127) : Grid (power exponent) :=
  ⟨⟨1, 149 + exponent, by decide, (Nat.one_mul _).symm⟩, (power_lt_top low).le⟩

/-- A number of at most a power of two on either side of zero. -/
abbrev Below (exponent : ℕ) (x : Float32) : Prop := Within (power exponent) x

theorem ordinary_of_finite (finite : x.isFinite = true) : x.isNaN = false ∧ x.isInf = false := by
  have unpacked : x.toModel.unpack.isFinite = true := finite
  show x.toModel.unpack.isNaN = false ∧ x.toModel.unpack.isInf = false
  cases value : x.toModel.unpack with
  | notANumber | infinity => rw [value] at unpacked; cases unpacked
  | zero | finite => exact ⟨rfl, rfl⟩

theorem Within.mono (within : Within limit x) (order : limit ≤ limit') : Within limit' x :=
  ⟨within.number, within.bounded.trans (Int.ofNat_le.mpr order)⟩

theorem abs_apply (sign : Sign) (magnitude : ℕ) : |sign.apply (magnitude : ℤ)| = magnitude := by
  cases sign
  · exact (abs_neg _).trans (Nat.abs_cast magnitude)
  · exact Nat.abs_cast magnitude

theorem Within.finite (within : Within limit x) (small : limit < top) : x.isFinite = true := by
  rcases finite_or_infinite within.number with finite | ⟨sign, infinite⟩
  · exact finite
  · have bounded := within.bounded
    unfold units at bounded
    rw [infinite, unpackedUnits_infinity] at bounded
    rw [abs_apply] at bounded
    omega

theorem Nearest.bounded {exact : ℝ} {unpacked : UnpackedFloat} (nearest : Nearest exact unpacked)
    (on : Grid limit) (inside : |exact| ≤ limit) : |unpackedUnits unpacked| ≤ limit := by
  obtain ⟨lower, upper⟩ := abs_le.mp inside
  refine abs_le.mpr ⟨?_, ?_⟩ <;> by_contra outside <;> rw [not_le] at outside
  · have beyond : (unpackedUnits unpacked : ℝ) < -limit := by exact_mod_cast outside
    have nearer := nearest.nearest (show Grid (-(limit : ℤ)).natAbs by
      rwa [Int.natAbs_neg, Int.natAbs_natCast])
    push_cast at nearer
    rw [abs_of_nonpos (by linarith), abs_of_nonpos (by linarith)] at nearer
    linarith
  · have beyond : (limit : ℝ) < unpackedUnits unpacked := by exact_mod_cast outside
    have nearer := nearest.nearest (show Grid (limit : ℤ).natAbs by rwa [Int.natAbs_natCast])
    push_cast at nearer
    rw [abs_of_nonneg (by linarith), abs_of_nonneg (by linarith)] at nearer
    linarith

theorem isFinite_neg (x : Float32) : (-x).isFinite = x.isFinite := by
  show (-x).toModel.unpack.isFinite = x.toModel.unpack.isFinite
  rw [unpack_neg]
  cases x.toModel.unpack <;> rfl

theorem Within.neg (within : Within limit x) : Within limit (-x) :=
  ⟨(isNaN_neg x).trans within.number, by rw [units_neg, abs_neg]; exact within.bounded⟩

/-- A sum is within the sum of the limits, and of each larger limit that a single can have. -/
theorem Within.add {sum : ℕ} (first : Within limit x) (second : Within limit' y)
    (small : limit < top) (small' : limit' < top) (on : Grid sum) (order : limit + limit' ≤ sum) :
    Within sum (x + y) := by
  have nearest := add_nearest (first.finite small) (second.finite small')
  refine ⟨nearest.number, nearest.bounded on ?_⟩
  have bounded : |units x + units y| ≤ sum :=
    calc
      |units x + units y| ≤ |units x| + |units y| := abs_add_le _ _
      _ ≤ limit + limit' := add_le_add first.bounded second.bounded
      _ ≤ sum := by exact_mod_cast order
  exact_mod_cast bounded

theorem Within.sub {sum : ℕ} (first : Within limit x) (second : Within limit' y)
    (small : limit < top) (small' : limit' < top) (on : Grid sum) (order : limit + limit' ≤ sum) :
    Within sum (x - y) := by
  rw [← add_neg]
  exact first.add second.neg small small' on order

theorem Within.mul {product : ℕ} (first : Within limit x) (second : Within limit' y)
    (small : limit < top) (small' : limit' < top) (on : Grid product)
    (order : limit * limit' ≤ product * 2 ^ 149) : Within product (x * y) := by
  have nearest := mul_nearest (first.finite small) (second.finite small')
  refine ⟨nearest.number, nearest.bounded on ?_⟩
  have bounded : |units x * units y| ≤ product * 2 ^ 149 :=
    calc
      |units x * units y| = |units x| * |units y| := abs_mul _ _
      _ ≤ limit * limit' := mul_le_mul first.bounded second.bounded (abs_nonneg _) (by positivity)
      _ ≤ product * 2 ^ 149 := by exact_mod_cast order
  rw [abs_div, abs_of_pos (show (0 : ℝ) < 2 ^ 149 by positivity), div_le_iff₀ (by positivity)]
  exact_mod_cast bounded

theorem Below.mono {exponent exponent' : ℕ} (below : Below exponent x)
    (order : exponent ≤ exponent') : Below exponent' x :=
  Within.mono below (Nat.pow_le_pow_right Nat.two_pos (by omega))

theorem Below.finite {exponent : ℕ} (below : Below exponent x) (low : exponent ≤ 127) :
    x.isFinite = true :=
  Within.finite below (power_lt_top low)

theorem Below.add {exponent : ℕ} (first : Below exponent x) (second : Below exponent y)
    (low : exponent ≤ 126) : Below (exponent + 1) (x + y) := by
  have small := power_lt_top (Nat.le_succ_of_le low)
  refine Within.add first second small small (grid_power (Nat.succ_le_succ low)) ?_
  unfold power
  rw [← Nat.add_assoc, Nat.pow_succ]
  omega

theorem Below.sub {exponent : ℕ} (first : Below exponent x) (second : Below exponent y)
    (low : exponent ≤ 126) : Below (exponent + 1) (x - y) := by
  rw [← add_neg]
  exact first.add second.neg low

theorem Below.mul {exponent exponent' : ℕ} (first : Below exponent x) (second : Below exponent' y)
    (low : exponent + exponent' ≤ 127) : Below (exponent + exponent') (x * y) := by
  refine Within.mul first second (power_lt_top (by omega)) (power_lt_top (by omega))
    (grid_power low) ?_
  unfold power
  rw [← Nat.pow_add, ← Nat.pow_add]
  exact (congrArg (2 ^ ·) (by omega)).le

/-- The limits of a single between two others. -/
theorem within_of_le (lower : -y ≤ x) (upper : x ≤ y) (counted : units y = limit) :
    Within limit x := by
  obtain ⟨-, number, below⟩ := le_iff_units.mp lower
  have above := (le_iff_units.mp upper).2.2
  rw [units_neg] at below
  exact ⟨number, abs_le.mpr ⟨by omega, by omega⟩⟩

/-! ## Errors -/

/-- **A rounded number is off by at most half of its last place.** -/
theorem Nearest.error {exact : ℝ} {unpacked : UnpackedFloat} (nearest : Nearest exact unpacked)
    {place : ℕ} (short : |exact| ≤ 2 ^ 23 * 2 ^ place) (fits : 2 ^ 23 * 2 ^ place ≤ top) :
    |(unpackedUnits unpacked : ℝ) - exact| ≤ 2 ^ place / 2 := by
  have positive : (0 : ℝ) < 2 ^ place := by positivity
  have scaled : |exact / 2 ^ place| ≤ (2 ^ 23 : ℕ) := by
    rw [abs_div, abs_of_pos positive, div_le_iff₀ positive]
    exact_mod_cast short
  have few : (round (exact / 2 ^ place)).natAbs ≤ 2 ^ 23 := by
    obtain ⟨lower, upper⟩ := abs_le.mp scaled
    obtain ⟨least, most⟩ := abs_le.mp (abs_sub_round (exact / 2 ^ place))
    have below : (-(2 ^ 23 : ℕ) - 1 : ℤ) < round (exact / 2 ^ place) := by
      have : (((-(2 ^ 23 : ℕ) - 1 : ℤ)) : ℝ) < round (exact / 2 ^ place) := by
        push_cast at lower ⊢
        linarith
      exact_mod_cast this
    have above : round (exact / 2 ^ place) < ((2 ^ 23 : ℕ) + 1 : ℤ) := by
      have : (round (exact / 2 ^ place) : ℝ) < (((2 ^ 23 : ℕ) + 1 : ℤ) : ℝ) := by
        push_cast at upper ⊢
        linarith
      exact_mod_cast this
    omega
  have on : Grid (round (exact / 2 ^ place) * 2 ^ place).natAbs := by
    rw [Int.natAbs_mul, Int.natAbs_pow]
    exact ⟨⟨_, place, by omega, rfl⟩, (Nat.mul_le_mul_right _ few).trans fits⟩
  calc
    |(unpackedUnits unpacked : ℝ) - exact|
        ≤ |((round (exact / 2 ^ place) * 2 ^ place : ℤ) : ℝ) - exact| := nearest.nearest on
    _ = |exact / 2 ^ place - round (exact / 2 ^ place)| * 2 ^ place := by
      rw [← abs_of_pos positive, ← abs_mul, abs_of_pos positive, abs_sub_comm, sub_mul,
        div_mul_cancel₀ _ positive.ne']
      push_cast
      rfl
    _ ≤ 1 / 2 * 2 ^ place := mul_le_mul_of_nonneg_right (abs_sub_round _) positive.le
    _ = 2 ^ place / 2 := by ring

/-- The number that a single stands for. -/
noncomputable def value (x : Float32) : ℝ := units x / power 0

theorem value_eq (x : Float32) : value x = units x / 2 ^ 149 := by
  have one : ((power 0 : ℕ) : ℝ) = 2 ^ 149 := by
    unfold power
    norm_num
  unfold value
  rw [one]

theorem value_neg (x : Float32) : value (-x) = -value x := by
  rw [value_eq, value_eq, units_neg]
  push_cast
  ring

theorem value_le_value : value x ≤ value y ↔ units x ≤ units y := by
  rw [value_eq, value_eq, div_le_div_iff_of_pos_right (by positivity), Int.cast_le]

/-- A number short of the infinities is finite. -/
theorem finite_of_abs_value (number : x.isNaN = false) (short : |value x| < 2 ^ 128) :
    x.isFinite = true := by
  rcases finite_or_infinite number with finite | ⟨sign, infinite⟩
  · exact finite
  · have magnitude : |units x| = top := by
      unfold units
      rw [infinite, unpackedUnits_infinity, abs_apply]
    have counted : top = 2 ^ 23 * 2 ^ 254 := rfl
    have far : |value x| = 2 ^ 128 := by
      rw [value_eq, abs_div, ← Int.cast_abs, magnitude, counted]
      norm_num
    exact absurd far short.ne

theorem Nearest.value_error {exact : ℝ} (nearest : Nearest (exact * 2 ^ 149) x.toModel.unpack)
    {exponent : ℕ} (short : |exact| ≤ 2 ^ exponent) (low : exponent ≤ 128) :
    |value x - exact| ≤ 2 ^ exponent / 2 ^ 24 := by
  have positive : (0 : ℝ) < 2 ^ 149 := by positivity
  have places : (2 : ℝ) ^ 23 * 2 ^ (126 + exponent) = 2 ^ exponent * 2 ^ 149 := by
    rw [← pow_add, ← pow_add]
    congr 1
    omega
  have scaled : |exact * 2 ^ 149| ≤ 2 ^ 23 * 2 ^ (126 + exponent) := by
    rw [abs_mul, abs_of_pos positive, places]
    exact mul_le_mul_of_nonneg_right short positive.le
  have fits : 2 ^ 23 * 2 ^ (126 + exponent) ≤ top :=
    Nat.mul_le_mul_left _ (Nat.pow_le_pow_right Nat.two_pos (by omega))
  have error := nearest.error scaled fits
  have same : value x - exact = (units x - exact * 2 ^ 149) / 2 ^ 149 := by
    rw [value_eq]
    field_simp
  rw [same, abs_div, abs_of_pos positive, div_le_iff₀ positive]
  refine error.trans (le_of_eq ?_)
  rw [div_mul_eq_mul_div, ← places]
  ring

theorem add_error (first : x.isFinite = true) (second : y.isFinite = true) {exponent : ℕ}
    (short : |value x + value y| ≤ 2 ^ exponent) (low : exponent ≤ 128) :
    |value (x + y) - (value x + value y)| ≤ 2 ^ exponent / 2 ^ 24 := by
  have nearest := add_nearest first second
  have exact : (units x + units y : ℝ) = (value x + value y) * 2 ^ 149 := by
    simp only [value_eq]
    field_simp
  rw [exact] at nearest
  exact nearest.value_error short low

theorem mul_error (first : x.isFinite = true) (second : y.isFinite = true) {exponent : ℕ}
    (short : |value x * value y| ≤ 2 ^ exponent) (low : exponent ≤ 128) :
    |value (x * y) - value x * value y| ≤ 2 ^ exponent / 2 ^ 24 := by
  have nearest := mul_nearest first second
  have exact : (units x * units y / 2 ^ 149 : ℝ) = value x * value y * 2 ^ 149 := by
    simp only [value_eq]
    field_simp
  rw [exact] at nearest
  exact nearest.value_error short low

/-- A large single is a multiple of its last place. -/
theorem Grid.dvd {magnitude place : ℕ} (on : Grid magnitude)
    (high : 2 ^ 23 * 2 ^ place ≤ magnitude) :
    2 ^ place ∣ magnitude := by
  obtain ⟨⟨significand, place', short, rfl⟩, -⟩ := on
  have order : place ≤ place' := by
    by_contra less
    have below : 2 ^ 24 * 2 ^ place' ≤ 2 ^ 23 * 2 ^ place :=
      calc
        2 ^ 24 * 2 ^ place' = 2 ^ 23 * 2 ^ (place' + 1) := by rw [Nat.pow_succ]; omega
        _ ≤ 2 ^ 23 * 2 ^ place :=
          Nat.mul_le_mul_left _ (Nat.pow_le_pow_right Nat.two_pos (by omega))
    have above := (Nat.mul_lt_mul_of_pos_right short (Nat.two_pow_pos place')).trans_le below
    omega
  exact Nat.dvd_trans (Nat.pow_dvd_pow 2 order) (Nat.dvd_mul_left _ _)

/-- A single of many units is a multiple of its last place. -/
theorem dvd_units {place : ℕ} (high : 2 ^ 23 * 2 ^ place ≤ |units x|) :
    (2 : ℤ) ^ place ∣ units x := by
  rw [Int.abs_eq_natAbs] at high
  have divides : 2 ^ place ∣ (units x).natAbs :=
    (grid_units (standard x)).dvd (by exact_mod_cast high)
  rw [← Int.natCast_dvd] at divides
  exact_mod_cast divides

/-- **What is smaller than half of the last place is lost when it is added.** -/
theorem add_absorbed {place : ℕ} (finite : x.isFinite = true)
    (high : 2 ^ 23 * 2 ^ place < |units x|)
    (low : Within limit y) (small : 2 * limit < 2 ^ place) : (x + y == x) = true := by
  have fine : limit < top := by
    have bounded : (units x).natAbs ≤ top := (grid_units (standard x)).bounded
    rw [Int.abs_eq_natAbs] at high
    have above : 2 ^ 23 * 2 ^ place < (units x).natAbs := by exact_mod_cast high
    have least := Nat.le_mul_of_pos_left (2 ^ place) (show 0 < 2 ^ 23 by decide)
    omega
  have rounded := add_nearest finite (low.finite fine)
  have nearest := rounded.nearest (grid_units (standard x))
  -- The sum is as near to the exact one as `x` is, so it is close to `x`.
  have close : |units (x + y) - units x| ≤ 2 * limit := by
    have shift : |(units x : ℝ) - (units x + units y)| ≤ limit := by
      rw [sub_add_cancel_left, abs_neg]
      exact_mod_cast low.bounded
    have through := abs_sub_le (units (x + y) : ℝ) (units x + units y) (units x)
    rw [abs_sub_comm ((units x : ℝ) + units y)] at through
    have bound : |(units (x + y) : ℝ) - units x| ≤ 2 * limit := by
      have near : |(units (x + y) : ℝ) - (units x + units y)| ≤ limit := nearest.trans shift
      linarith
    exact_mod_cast bound
  have whole := dvd_units high.le
  have whole' : (2 : ℤ) ^ place ∣ units (x + y) := by
    -- The next multiple below `x` still has all bits.
    obtain ⟨multiple, counted⟩ := (dvd_abs _ _).mpr whole
    have more : (2 ^ 23 + 1 : ℤ) ≤ multiple := by
      rw [counted, mul_comm] at high
      exact Int.lt_of_mul_lt_mul_left high (by positivity)
    have above : (2 : ℤ) ^ place * (2 ^ 23 + 1) ≤ |units x| :=
      counted ▸ mul_le_mul_of_nonneg_left more (by positivity)
    have gap := abs_sub_abs_le_abs_sub (units x) (units (x + y))
    rw [abs_sub_comm] at gap
    have less : (2 * limit : ℤ) < 2 ^ place := by exact_mod_cast small
    refine dvd_units ?_
    linarith
  have apart := Int.eq_zero_of_abs_lt_dvd (dvd_sub whole' whole)
    (close.trans_lt (by exact_mod_cast small))
  exact beq_iff_units.mpr ⟨rounded.number, (ordinary_of_finite finite).1, by omega⟩

/-! ## Results that are numbers -/

theorem Nearest.nonneg {exact : ℝ} {unpacked : UnpackedFloat} (nearest : Nearest exact unpacked)
    (least : 0 ≤ exact) : 0 ≤ unpackedUnits unpacked := by
  by_contra below
  have negative : (unpackedUnits unpacked : ℝ) < 0 := by exact_mod_cast not_le.mp below
  have nearer := nearest.nearest (show Grid (0 : ℤ).natAbs from grid_of_lt (by decide))
  rw [Int.cast_zero, abs_of_neg (by linarith), zero_sub, abs_neg, abs_of_nonneg least] at nearer
  linarith

/-- A square that does not overflow is a number that is not negative. -/
theorem square_nonneg (finite : x.isFinite = true) : 0 ≤ units (x * x) := by
  refine (mul_nearest finite finite).nonneg ?_
  rw [← sq]
  positivity

theorem isNaN_sqrt (finite : x.isFinite = true) (nonnegative : 0 ≤ units x) :
    x.sqrt.isNaN = false := by
  have ordinary := ordinary finite
  refine isNaN_pack ?_
  show (UnpackedFloat.sqrt .binary32 x.toModel.unpack).isNaN = false
  unfold units at nonnegative
  generalize x.toModel.unpack = unpacked at ordinary nonnegative ⊢
  cases ordinary with
  | zero => rfl
  | finite sign canonical low =>
      cases sign with
      | positive => exact isNaN_roundWithAccuracy _ _ _ _
      | negative =>
          have above := canonical.height_pos
          have below : (0 : ℤ) ≤ -height _ _ := nonnegative
          omega

theorem isNaN_div (finite : x.isFinite = true) (number : y.isNaN = false)
    (nonzero : ¬(y == 0) = true) : (x / y).isNaN = false := by
  have ordinary := ordinary finite
  have unpacked : y.toModel.unpack.isNaN = false := number
  rw [beq_zero_iff] at nonzero
  refine isNaN_pack ?_
  show (UnpackedFloat.div .binary32 x.toModel.unpack y.toModel.unpack).isNaN = false
  generalize x.toModel.unpack = dividend at ordinary ⊢
  cases value : y.toModel.unpack with
  | notANumber => rw [value] at unpacked; cases unpacked
  | zero sign => exact absurd ⟨sign, value⟩ nonzero
  | infinity => cases ordinary <;> rfl
  | finite =>
      cases ordinary with
      | zero => rfl
      | finite => exact isNaN_roundWithAccuracy _ _ _ _

/-- Equal numbers have no difference, not even a negative zero. -/
theorem sub_eq_zero (finite : x.isFinite = true) (same : y.toModel.unpack = x.toModel.unpack) :
    y - x = 0 := by
  have ordinary := ordinary finite
  have difference : UnpackedFloat.sub .binary32 y.toModel.unpack x.toModel.unpack =
      .zero .positive := by
    rw [same]
    generalize x.toModel.unpack = unpacked at ordinary ⊢
    cases ordinary with
    | zero sign => cases sign <;> rfl
    | @finite sign significand exponent canonical low =>
        show UnpackedFloat.normalize .binary32 (sign.apply (significand <<< _ : ℕ) -
          sign.apply (significand <<< _ : ℕ)) _ .positive = .zero .positive
        rw [Int.sub_self]
        rfl
  exact congrArg (fun difference => Float32.ofModel (.pack difference)) difference

theorem sub_pos_or_zero (first : x.isFinite = true) (second : y.isFinite = true)
    (nonzero : units y ≠ 0) (order : units y ≤ units x) : 0 < x - y ∨ x - y = 0 := by
  have number := (ordinary_of_finite first).1
  have number' := (ordinary_of_finite second).1
  rcases order.lt_or_eq with less | same
  · have least : (x + -y).isNaN = false ∧ ((1 : ℕ) : ℤ) ≤ Sign.positive.apply _ :=
      le_units_add (grid_of_lt (by decide)) Nat.one_pos number ((isNaN_neg y).trans number') (by
        show (1 : ℤ) ≤ units x + units (-y)
        rw [units_neg]
        omega)
    rw [add_neg] at least
    exact .inl (lt_iff_units.mpr ⟨isNaN_zero, least.1, Int.lt_of_lt_of_le Int.one_pos least.2⟩)
  · have equal := beq_iff.mp (beq_iff_units.mpr ⟨number', number, same⟩)
    rcases unpack_eq_of_rank number' number equal.2.2 with unpacked | ⟨zero, -⟩
    · exact .inr (sub_eq_zero second unpacked.symm)
    · exact absurd (beq_iff_units.mp zero).2.2 nonzero

theorem zero_div (positive : 0 < y) : 0 / y = 0 := by
  have above := pos_iff.mp positive
  have zero : (0 : Float32).toModel.unpack = .zero .positive := rfl
  have quotient : UnpackedFloat.div .binary32 (0 : Float32).toModel.unpack y.toModel.unpack =
      .zero .positive := by
    rw [zero]
    generalize y.toModel.unpack = divisor at above ⊢
    cases above <;> rfl
  exact congrArg (fun quotient => Float32.ofModel (.pack quotient)) quotient

/-- A number of no units is a zero. -/
theorem Within.beq_zero (none : Within 0 x) : (x == 0) = true :=
  beq_iff_units.mpr ⟨none.number, isNaN_zero, show units x = 0 by simpa using none.bounded⟩

theorem zero_add (none : Within 0 x) : 0 + x = 0 := by
  have zero : (0 : Float32).toModel.unpack = .zero .positive := rfl
  obtain ⟨sign, unpacked⟩ := beq_zero_iff.mp none.beq_zero
  have sum : UnpackedFloat.add .binary32 (0 : Float32).toModel.unpack x.toModel.unpack =
      .zero .positive := by
    rw [zero, unpacked]
    cases sign <;> rfl
  exact congrArg (fun sum => Float32.ofModel (.pack sum)) sum

/-- A number that is neither above nor below zero, or none at all. -/
def Void (unpacked : UnpackedFloat) : Prop :=
  unpacked = .notANumber ∨ ∃ sign, unpacked = .zero sign

theorem Void.not_pos (void : Void x.toModel.unpack) : ¬0 < x := by
  rw [pos_iff]
  rcases void with none | ⟨sign, zero⟩ <;> intro above
  · rw [none] at above
    cases above
  · rw [zero] at above
    cases above

theorem void_zero_mul (x : Float32) : Void (0 * x).toModel.unpack := by
  have zero : (0 : Float32).toModel.unpack = .zero .positive := rfl
  show Void (unpack .binary32 (pack .binary32
    (UnpackedFloat.mul .binary32 (0 : Float32).toModel.unpack x.toModel.unpack)))
  rw [zero]
  cases x.toModel.unpack with
  | notANumber | infinity => exact .inl Standard.notANumber.unpack_pack
  | zero sign | finite sign => cases sign <;> exact .inr ⟨_, (Standard.zero _).unpack_pack⟩

theorem Void.add (first : Void x.toModel.unpack) (second : Void y.toModel.unpack) :
    Void (x + y).toModel.unpack := by
  show Void (unpack .binary32 (pack .binary32
    (UnpackedFloat.add .binary32 x.toModel.unpack y.toModel.unpack)))
  rcases first with none | ⟨sign, zero⟩
  · rw [none]
    exact .inl Standard.notANumber.unpack_pack
  · rcases second with none | ⟨sign', zero'⟩
    · rw [zero, none]
      exact .inl Standard.notANumber.unpack_pack
    · rw [zero, zero']
      cases sign <;> cases sign' <;> exact .inr ⟨_, (Standard.zero _).unpack_pack⟩

end Single
end FlightGuidance
