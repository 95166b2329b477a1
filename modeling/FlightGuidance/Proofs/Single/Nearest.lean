import FlightGuidance.Proofs.Single.Rounding
import Mathlib.Data.Real.Basic
import Mathlib.Tactic.FieldSimp
import Mathlib.Tactic.Linarith
import Mathlib.Tactic.Positivity
import Mathlib.Tactic.Ring

/-!
# Rounding to the nearest single

What a sum or a product is before it is rounded is a real number of units. The bits that rounding
looks at tell that number apart from its neighbours (`Extends`), and the rounded number is at least
as near to it as every other single (`Nearest`), also if it carries, underflows or overflows. So
rounding preserves the order (`Nearest.le`), and sums and products with a fixed number do
(`add_le_add`, `mul_le_mul`).
-/

set_option autoImplicit false

namespace FlightGuidance
namespace Single

open Float.Model (Format UnpackedFloat totalExponent)
open Float.Model.UnpackedFloat (Sign Accuracy ExtendedMantissa pack unpack decreaseExponent
  shiftToTargetExponent shiftToExponent roundWithAccuracy)

/-! ## Rounding to a whole number -/

/-- An extended significand tells where an exact number is between two whole numbers: in which half,
and whether it is at the lower end of that half. -/
def Extends (exact : ℝ) (extended : ExtendedMantissa) : Prop :=
  ∃ low : ℝ, 0 ≤ low ∧ low < 1 ∧
    2 * exact = 2 * extended.mantissa + extended.roundBit.toNat + low ∧
    (extended.stickyBit = false ↔ low = 0)

theorem extends_natCast (significand : ℕ) :
    Extends significand (.ofMantissaAndAccuracy significand .exact) :=
  ⟨0, le_rfl, one_pos, by simp [ExtendedMantissa.ofMantissaAndAccuracy], by
    simp [ExtendedMantissa.ofMantissaAndAccuracy]⟩

theorem Extends.shiftRightOne {exact : ℝ} {extended : ExtendedMantissa}
    (holds : Extends exact extended) : Extends (exact / 2) extended.shiftRightOne := by
  obtain ⟨low, nonnegative, small, whole, sticky⟩ := holds
  have split : (extended.mantissa : ℝ) =
      2 * (extended.mantissa / 2 : ℕ) + (extended.mantissa % 2 : ℕ) := by
    exact_mod_cast (Nat.div_add_mod extended.mantissa 2).symm
  have bit : (extended.mantissa % 2 != 0).toNat = extended.mantissa % 2 := by
    rcases Nat.mod_two_eq_zero_or_one extended.mantissa with even | odd <;> simp [*]
  have upper : (extended.roundBit.toNat : ℝ) ≤ 1 := by
    exact_mod_cast Bool.toNat_le extended.roundBit
  refine ⟨(extended.roundBit.toNat + low) / 2, by positivity, by linarith, ?_, ?_⟩
  · show 2 * (exact / 2) = 2 * ((extended.mantissa / 2 : ℕ) : ℝ) +
      ((extended.mantissa % 2 != 0).toNat : ℝ) + _
    rw [bit]
    linarith
  · show (extended.roundBit || extended.stickyBit) = false ↔ _
    cases round : extended.roundBit with
    | false => simp [sticky]
    | true =>
        have positive : (1 + low) / 2 ≠ 0 := by positivity
        simp [positive]

theorem Extends.shiftRight {exact : ℝ} {extended : ExtendedMantissa}
    (holds : Extends exact extended) (places : ℕ) :
    Extends (exact / 2 ^ places) (extended >>> places) := by
  show Extends _ (places.repeat ExtendedMantissa.shiftRightOne extended)
  induction places with
  | zero =>
      rw [pow_zero, div_one]
      exact holds
  | succ places inductionHypothesis =>
      rw [pow_succ, ← div_div]
      exact inductionHypothesis.shiftRightOne

/-- The rounded significand is a whole number nearest to the exact one. -/
theorem Extends.abs_sub_le {exact : ℝ} {extended : ExtendedMantissa}
    (holds : Extends exact extended) : |(extended.roundedMantissa : ℝ) - exact| ≤ 1 / 2 := by
  obtain ⟨low, nonnegative, small, whole, sticky⟩ := holds
  obtain ⟨mantissa, roundBit, stickyBit⟩ := extended
  rw [abs_le]
  cases roundBit <;> cases stickyBit <;>
    simp only [Bool.toNat_false, Bool.toNat_true, Nat.cast_zero, Nat.cast_one, true_iff,
      Bool.true_eq_false, false_iff] at whole sticky <;>
    dsimp only [ExtendedMantissa.roundedMantissa, ExtendedMantissa.accuracy,
      Accuracy.roundToNearestEven]
  · constructor <;> linarith
  · constructor <;> linarith
  · have bit : ((mantissa % 2 : ℕ) : ℝ) ≤ 1 := by
      exact_mod_cast Nat.le_of_lt_succ (Nat.mod_lt mantissa Nat.two_pos)
    have least : (0 : ℝ) ≤ (mantissa % 2 : ℕ) := Nat.cast_nonneg _
    push_cast
    constructor <;> linarith
  · push_cast
    constructor <;> linarith

/-- No whole number is nearer than one within a half. -/
theorem abs_sub_le_of_half {rounded : ℤ} {exact : ℝ} (whole : ℤ)
    (half : |(rounded : ℝ) - exact| ≤ 1 / 2) :
    |(rounded : ℝ) - exact| ≤ |(whole : ℝ) - exact| := by
  rcases eq_or_ne rounded whole with rfl | other
  · exact le_rfl
  · have apart : (1 : ℝ) ≤ |(rounded : ℝ) - whole| := by
      exact_mod_cast Int.one_le_abs (sub_ne_zero.mpr other)
    have through := abs_sub_le (rounded : ℝ) exact whole
    rw [abs_sub_comm exact] at through
    linarith

/-! ## Rounding to a single -/

/-- A number to which no single is nearer than the rounded one. -/
structure Nearest (exact : ℝ) (unpacked : UnpackedFloat) : Prop where
  number : unpacked.isNaN = false
  nearest : ∀ {grid : ℤ}, Grid grid.natAbs →
    |(unpackedUnits unpacked : ℝ) - exact| ≤ |(grid : ℝ) - exact|

theorem nearest_self {unpacked : UnpackedFloat} (number : unpacked.isNaN = false) :
    Nearest (unpackedUnits unpacked) unpacked := by
  refine ⟨number, fun _ => ?_⟩
  rw [sub_self, abs_zero]
  exact abs_nonneg _

theorem grid_top : Grid top := ⟨⟨2 ^ 23, _, by decide, rfl⟩, le_rfl⟩

section

variable {rounded level : ℕ} {exact : ℝ}

/-- A magnitude below the place of rounding is no nearer than the least number of 24 bits at that
place. -/
theorem abs_sub_le_of_short (half : |(rounded : ℝ) - exact| ≤ 1 / 2)
    (long : level ≠ 0 → 2 ^ 23 ≤ exact) {significand place : ℕ} (short : significand < 2 ^ 24) :
    |(rounded : ℝ) * 2 ^ level - exact * 2 ^ level| ≤
      |((significand * 2 ^ place : ℕ) : ℝ) - exact * 2 ^ level| := by
  have positive : (0 : ℝ) < 2 ^ level := by positivity
  rw [← sub_mul, abs_mul, abs_of_pos positive]
  by_cases high : level ≤ place
  · -- The other magnitude is a whole number of the place of rounding.
    obtain ⟨above, rfl⟩ := Nat.exists_eq_add_of_le' high
    have whole : ((significand * 2 ^ (above + level) : ℕ) : ℝ) =
        ((significand * 2 ^ above : ℤ) : ℝ) * 2 ^ level := by
      push_cast
      ring
    have nearest := abs_sub_le_of_half (significand * 2 ^ above)
      (show |((rounded : ℤ) : ℝ) - exact| ≤ 1 / 2 by exact_mod_cast half)
    rw [whole, ← sub_mul, abs_mul, abs_of_pos positive]
    exact mul_le_mul_of_nonneg_right (by exact_mod_cast nearest) positive.le
  · have least := long (by omega)
    have below : ((significand * 2 ^ place : ℕ) : ℝ) ≤ 2 ^ 23 * 2 ^ level := by
      have bound : significand * 2 ^ place ≤ 2 ^ 23 * 2 ^ level :=
        calc
          significand * 2 ^ place ≤ 2 ^ 24 * 2 ^ place := Nat.mul_le_mul_right _ short.le
          _ = 2 ^ 23 * 2 ^ (place + 1) := by rw [Nat.pow_succ]; omega
          _ ≤ 2 ^ 23 * 2 ^ level :=
            Nat.mul_le_mul_left _ (Nat.pow_le_pow_right Nat.two_pos (by omega))
      exact_mod_cast bound
    have nearest := abs_sub_le_of_half (2 ^ 23)
      (show |((rounded : ℤ) : ℝ) - exact| ≤ 1 / 2 by exact_mod_cast half)
    rw [Int.cast_natCast, Int.cast_pow, Int.cast_ofNat] at nearest
    rw [abs_sub_comm ((2 : ℝ) ^ 23),
      abs_of_nonneg (show (0 : ℝ) ≤ exact - 2 ^ 23 by linarith)] at nearest
    have far : exact * 2 ^ level - 2 ^ 23 * 2 ^ level ≤
        |((significand * 2 ^ place : ℕ) : ℝ) - exact * 2 ^ level| := by
      rw [abs_sub_comm]
      exact (sub_le_sub_left below _).trans (le_abs_self _)
    calc
      |(rounded : ℝ) - exact| * 2 ^ level ≤ (exact - 2 ^ 23) * 2 ^ level :=
        mul_le_mul_of_nonneg_right nearest positive.le
      _ = exact * 2 ^ level - 2 ^ 23 * 2 ^ level := sub_mul ..
      _ ≤ _ := far

/-- A magnitude that is rounded at its place, or to an infinity, is nearest to the exact one. -/
theorem magnitude_nearest (half : |(rounded : ℝ) - exact| ≤ 1 / 2) (nonnegative : 0 ≤ exact)
    (long : level ≠ 0 → 2 ^ 23 ≤ exact) {grid : ℤ} (on : Grid grid.natAbs) :
    |((Min.min (rounded * 2 ^ level) top : ℕ) : ℝ) - exact * 2 ^ level| ≤
      |(grid : ℝ) - exact * 2 ^ level| := by
  have scaled : 0 ≤ exact * 2 ^ level := by positivity
  have unclipped {magnitude : ℕ} (on : Grid magnitude) :
      |((rounded * 2 ^ level : ℕ) : ℝ) - exact * 2 ^ level| ≤
        |(magnitude : ℝ) - exact * 2 ^ level| := by
    obtain ⟨⟨significand, place, short, rfl⟩, -⟩ := on
    push_cast
    exact_mod_cast abs_sub_le_of_short half long short
  -- A negative number is no nearer than its opposite.
  have folded : |(grid.natAbs : ℝ) - exact * 2 ^ level| ≤ |(grid : ℝ) - exact * 2 ^ level| := by
    rw [Nat.cast_natAbs, Int.cast_abs]
    have := abs_abs_sub_abs_le (grid : ℝ) (exact * 2 ^ level)
    rwa [abs_of_nonneg scaled] at this
  refine LE.le.trans ?_ folded
  rcases Nat.le_total (rounded * 2 ^ level) top with low | high
  · rw [Nat.min_eq_left low]
    exact unclipped on
  · rw [Nat.min_eq_right high]
    have bounded : (grid.natAbs : ℝ) ≤ top := Nat.cast_le.mpr on.bounded
    by_cases below : exact * 2 ^ level ≤ top
    · have same : (rounded * 2 ^ level : ℕ) = top := by
        have nearer := unclipped grid_top
        have order : (top : ℝ) ≤ (rounded * 2 ^ level : ℕ) := Nat.cast_le.mpr high
        rw [abs_of_nonneg (by linarith), abs_of_nonneg (by linarith)] at nearer
        exact_mod_cast le_antisymm (by linarith) order
      rw [← same]
      exact unclipped on
    · rw [abs_of_neg (by linarith), abs_of_neg (by linarith)]
      linarith

end

/-- A significand that is rounded to zero leaves a zero. -/
theorem mantissa_shiftToTargetExponent_zero (exponent : ℤ) :
    (shiftToTargetExponent .binary32 0 exponent .exact).1.mantissa = 0 := by
  unfold shiftToTargetExponent shiftToExponent
  dsimp only
  rw [mantissa_shiftRight, mantissa_ofMantissaAndAccuracy, Nat.zero_div]

/-- What is rounded once keeps the rounded significand as its magnitude, unless it overflows. -/
theorem units_roundWithAccuracy {significand rounded places : ℕ} {exponent : ℤ} (sign : Sign)
    {accuracy : Accuracy}
    (shifted : shiftToTargetExponent .binary32 significand exponent accuracy =
      (ExtendedMantissa.ofMantissaAndAccuracy significand accuracy >>> places, exponent + places))
    (result : (ExtendedMantissa.ofMantissaAndAccuracy significand accuracy >>>
      places).roundedMantissa = rounded)
    (small : rounded ≤ 2 ^ 24) (lowest : -149 ≤ exponent + places)
    (long : -149 < exponent + places → 2 ^ 23 ≤ rounded) :
    let packed := unpack .binary32
      (pack .binary32 (roundWithAccuracy .binary32 sign significand exponent accuracy))
    packed.isNaN = false ∧ unpackedUnits packed =
      sign.apply (Min.min (rounded * 2 ^ (exponent + places + 149).toNat) top : ℕ) := by
  intro packed
  have value : roundWithAccuracy .binary32 sign significand exponent accuracy =
      let last := shiftToTargetExponent .binary32 rounded (exponent + places) .exact
      if zero : last.1.mantissa = 0 then .zero sign
      else .finite sign last.1.mantissa last.2 (Nat.pos_of_ne_zero zero) := by
    unfold roundWithAccuracy
    rw [shifted]
    dsimp only
    rw [result]
  rcases Nat.eq_zero_or_pos rounded with rfl | nonzero
  · have zero : packed = .zero sign := by
      have vanishes := value.trans (dif_pos (mantissa_shiftToTargetExponent_zero _))
      show unpack .binary32 (pack .binary32 _) = _
      rw [vanishes, (Standard.zero sign).unpack_pack]
    rw [zero, Nat.zero_mul, Nat.zero_min]
    exact ⟨rfl, by cases sign <;> rfl⟩
  · obtain ⟨canonical, same⟩ := shiftToTargetExponent_carry nonzero small lowest long
    have finite := value.trans (dif_neg canonical.nonzero.ne')
    show (unpack .binary32 (pack .binary32 _)).isNaN = false ∧
      unpackedUnits (unpack .binary32 (pack .binary32 _)) = _
    rw [finite, units_pack sign canonical, same]
    exact ⟨isNaN_pack rfl, rfl⟩

/-- An exact number is at least its extended significand. -/
theorem Extends.le {significand : ℕ} {accuracy : Accuracy} {exact : ℝ}
    (holds : Extends exact (.ofMantissaAndAccuracy significand accuracy)) :
    (significand : ℝ) ≤ exact := by
  obtain ⟨low, nonnegative, -, whole, -⟩ := holds
  have bit : (0 : ℝ) ≤
      (ExtendedMantissa.ofMantissaAndAccuracy significand accuracy).roundBit.toNat :=
    Nat.cast_nonneg _
  rw [mantissa_ofMantissaAndAccuracy] at whole
  linarith

/-- A function of a sign gives the same magnitude on both sides of zero, nearest to an exact one. -/
structure Mirrored (exact : ℝ) (magnitude : ℕ) (rounded : Sign → UnpackedFloat) : Prop where
  number : ∀ sign, (rounded sign).isNaN = false
  counted : ∀ sign, unpackedUnits (rounded sign) = sign.apply magnitude
  nearest : ∀ {grid : ℤ}, Grid grid.natAbs → |(magnitude : ℝ) - exact| ≤ |(grid : ℝ) - exact|

theorem Mirrored.nearest_apply {exact : ℝ} {magnitude : ℕ} {rounded : Sign → UnpackedFloat}
    (mirrored : Mirrored exact magnitude rounded) (sign : Sign) :
    Nearest ((sign.apply 1 : ℤ) * exact) (rounded sign) := by
  refine ⟨mirrored.number sign, fun {grid} on => ?_⟩
  rw [mirrored.counted]
  cases sign <;> dsimp only [Sign.apply] <;> push_cast
  · have opposite := mirrored.nearest (show Grid (-grid).natAbs by rwa [Int.natAbs_neg])
    push_cast at opposite
    calc
      |-(magnitude : ℝ) - -1 * exact| = |(magnitude : ℝ) - exact| := by
        rw [← abs_neg]
        congr 1
        ring
      _ ≤ |-(grid : ℝ) - exact| := opposite
      _ = |(grid : ℝ) - -1 * exact| := by
        rw [← abs_neg]
        congr 1
        ring
  · rw [one_mul]
    exact mirrored.nearest on

/-- **A number that is rounded once is nearest to the exact one.** -/
theorem roundWithAccuracy_mirrored {significand : ℕ} {exponent : ℤ} (nonzero : 0 < significand)
    (enough : exponent ≤ Format.binary32.targetExponent (totalExponent significand exponent))
    {accuracy : Accuracy} {exact : ℝ}
    (holds : Extends exact (.ofMantissaAndAccuracy significand accuracy)) :
    ∃ magnitude, Mirrored (exact * 2 ^ (exponent + 149)) magnitude fun sign =>
      unpack .binary32
        (pack .binary32 (roundWithAccuracy .binary32 sign significand exponent accuracy)) := by
  obtain ⟨places, target, lowest, short, full⟩ : ∃ places : ℕ,
      (Format.binary32.targetExponent (totalExponent significand exponent) - exponent).toNat =
        places ∧ -149 ≤ exponent + places ∧ significand.log2 ≤ 23 + places ∧
      (-149 < exponent + places → 23 + places ≤ significand.log2) := by
    have bits : Format.binary32.mantissaBits = 24 := rfl
    have least : Format.binary32.minExponent = -149 := rfl
    refine ⟨_, rfl, ?_⟩
    unfold Format.targetExponent totalExponent at enough ⊢
    omega
  have shifted : shiftToTargetExponent .binary32 significand exponent accuracy =
      (ExtendedMantissa.ofMantissaAndAccuracy significand accuracy >>> places,
        exponent + places) := by
    unfold shiftToTargetExponent shiftToExponent
    dsimp only
    rw [target]
  have half := (holds.shiftRight places).abs_sub_le
  have quotient := mantissa_shiftRight (.ofMantissaAndAccuracy significand accuracy) places
  rw [mantissa_ofMantissaAndAccuracy] at quotient
  have kept : -149 < exponent + places → 2 ^ (23 + places) ≤ significand := fun higher =>
    (Nat.le_log2 nonzero.ne').mp (full higher)
  have narrow : significand / 2 ^ places < 2 ^ 24 := by
    refine Nat.div_lt_of_lt_mul ?_
    rw [← Nat.pow_add]
    exact Nat.lt_log2_self.trans_le (Nat.pow_le_pow_right Nat.two_pos (by omega))
  generalize result : (ExtendedMantissa.ofMantissaAndAccuracy significand accuracy >>>
    places).roundedMantissa = rounded at half
  have small : rounded ≤ 2 ^ 24 := by
    have bound := roundedMantissa_le
      (ExtendedMantissa.ofMantissaAndAccuracy significand accuracy >>> places)
    omega
  have long : -149 < exponent + places → 2 ^ 23 ≤ rounded := by
    intro higher
    rw [← result]
    exact le_roundedMantissa accuracy (Nat.pow_add .. ▸ kept higher)
  have counted (sign : Sign) := units_roundWithAccuracy sign shifted result small lowest long
  have scale : exact * 2 ^ (exponent + 149) =
      exact / 2 ^ places * 2 ^ (exponent + places + 149).toNat := by
    have level : ((exponent + places + 149).toNat : ℤ) = exponent + 149 + places := by omega
    rw [← zpow_natCast (2 : ℝ) (exponent + places + 149).toNat, level,
      zpow_add₀ two_ne_zero (exponent + 149), zpow_natCast]
    field_simp
  rw [scale]
  refine ⟨_, fun sign => (counted sign).1, fun sign => (counted sign).2,
    magnitude_nearest half ?_ fun high => ?_⟩
  · have nonnegative := significand.cast_nonneg.trans holds.le
    positivity
  · rw [le_div_iff₀ (by positivity), ← pow_add]
    have bound : ((2 ^ (23 + places) : ℕ) : ℝ) ≤ significand := Nat.cast_le.mpr (kept (by omega))
    push_cast at bound
    exact bound.trans holds.le

theorem round_mirrored {significand : ℕ} (nonzero : 0 < significand) (exponent : ℤ) :
    ∃ magnitude, Mirrored (significand * 2 ^ (exponent + 149)) magnitude fun sign =>
      unpack .binary32
        (pack .binary32 (UnpackedFloat.round .binary32 sign significand exponent)) := by
  obtain ⟨shift, amount, enough⟩ : ∃ shift : ℕ,
      (exponent - Format.binary32.targetExponent (totalExponent significand exponent)).toNat =
        shift ∧
      exponent - shift ≤ Format.binary32.targetExponent
        (totalExponent (significand * 2 ^ shift) (exponent - shift)) := by
    refine ⟨_, rfl, ?_⟩
    unfold Format.targetExponent totalExponent
    rw [log2_mul_two_pow nonzero]
    omega
  have mirrored := roundWithAccuracy_mirrored (Nat.mul_pos nonzero (Nat.two_pow_pos shift)) enough
    (extends_natCast _)
  have exact : ((significand * 2 ^ shift : ℕ) : ℝ) * 2 ^ (exponent - shift + 149) =
      significand * 2 ^ (exponent + 149) := by
    have level : exponent + 149 = shift + (exponent - shift + 149) := by ring
    rw [level, zpow_add₀ two_ne_zero (shift : ℤ) (exponent - shift + 149), zpow_natCast]
    push_cast
    ring
  rw [exact] at mirrored
  unfold UnpackedFloat.round decreaseExponent
  dsimp only
  rwa [amount, Nat.shiftLeft_eq]

theorem normalize_mirrored (significand : ℕ) (exponent : ℤ) (zeroSign : Sign) :
    ∃ magnitude, Mirrored (significand * 2 ^ (exponent + 149)) magnitude fun sign =>
      unpack .binary32
        (pack .binary32
          (UnpackedFloat.normalize .binary32 (sign.apply significand) exponent zeroSign)) := by
  rcases Nat.eq_zero_or_pos significand with rfl | nonzero
  · have zero (sign : Sign) : unpack .binary32 (pack .binary32
        (UnpackedFloat.normalize .binary32 (sign.apply (0 : ℕ)) exponent zeroSign)) =
        .zero zeroSign := by
      cases sign <;> exact (Standard.zero zeroSign).unpack_pack
    simp only [zero]
    refine ⟨0, fun _ => rfl, fun sign => by cases sign <;> rfl, fun _ => ?_⟩
    rw [Nat.cast_zero, zero_mul, sub_self, abs_zero]
    exact abs_nonneg _
  · simp only [normalize_sign nonzero]
    exact round_mirrored nonzero exponent

theorem exists_apply (signed : ℤ) :
    ∃ (sign : Sign) (magnitude : ℕ), signed = sign.apply magnitude := by
  rcases Int.natAbs_eq signed with positive | negative
  · exact ⟨.positive, _, positive⟩
  · exact ⟨.negative, _, negative⟩

theorem apply_one_mul (sign : Sign) (magnitude : ℕ) :
    ((sign.apply 1 : ℤ) : ℝ) * magnitude = (sign.apply (magnitude : ℤ) : ℤ) := by
  cases sign <;> simp [Sign.apply]

theorem normalize_nearest (signed exponent : ℤ) (zeroSign : Sign) :
    Nearest (signed * 2 ^ (exponent + 149))
      (unpack .binary32
        (pack .binary32 (UnpackedFloat.normalize .binary32 signed exponent zeroSign))) := by
  obtain ⟨sign, significand, rfl⟩ := exists_apply signed
  obtain ⟨magnitude, mirrored⟩ := normalize_mirrored significand exponent zeroSign
  rw [← apply_one_mul, mul_assoc]
  exact mirrored.nearest_apply sign

/-! ## Sums and products -/

/-- A power of two at or above the lowest place is a whole number. -/
theorem zpow_place {exponent : ℤ} (lowest : -149 ≤ exponent) :
    (2 : ℝ) ^ (exponent + 149) = 2 ^ (exponent + 149).toNat := by
  have level : ((exponent + 149).toNat : ℤ) = exponent + 149 := by omega
  rw [← zpow_natCast, level]

theorem unpackedUnits_finite (sign : Sign) {significand : ℕ} {exponent : ℤ}
    (canonical : Canonical significand exponent) :
    (unpackedUnits (.finite sign significand exponent canonical.nonzero) : ℝ) =
      (sign.apply significand : ℤ) * 2 ^ (exponent + 149) := by
  rw [zpow_place canonical.lowest]
  show ((sign.apply (height significand exponent) : ℤ) : ℝ) = _
  exact_mod_cast (apply_mul_two_pow sign significand _).symm

/-- A finite number is a zero or has a significand. -/
inductive Ordinary : UnpackedFloat → Prop where
  | zero (sign : Sign) : Ordinary (.zero sign)
  | finite (sign : Sign) {significand : ℕ} {exponent : ℤ}
      (canonical : Canonical significand exponent) (low : exponent ≤ 104) :
      Ordinary (.finite sign significand exponent canonical.nonzero)

theorem ordinary {x : Float32} (finite : x.isFinite = true) : Ordinary x.toModel.unpack := by
  have unpacked : x.toModel.unpack.isFinite = true := finite
  have standard := standard x
  generalize x.toModel.unpack = value at unpacked standard ⊢
  cases standard with
  | infinity | notANumber => cases unpacked
  | zero sign => exact .zero sign
  | finite sign canonical low => exact .finite sign canonical low

theorem nearest_of_eq {unpacked result : UnpackedFloat} {exact : ℝ} (standard : Standard result)
    (equal : unpacked = result) (number : result.isNaN = false)
    (counted : exact = unpackedUnits result) :
    Nearest exact (unpack .binary32 (pack .binary32 unpacked)) := by
  rw [equal, standard.unpack_pack, counted]
  exact nearest_self number

theorem cast_unpackedUnits_zero (sign : Sign) : (unpackedUnits (.zero sign) : ℝ) = 0 :=
  Int.cast_zero

theorem Ordinary.add_nearest {a b : UnpackedFloat} (first : Ordinary a) (second : Ordinary b) :
    Nearest (unpackedUnits a + unpackedUnits b)
      (unpack .binary32 (pack .binary32 (UnpackedFloat.add .binary32 a b))) := by
  cases first with
  | zero sign =>
      cases second with
      | zero sign' =>
          cases sign <;> cases sign' <;>
            exact nearest_of_eq (.zero _) rfl rfl
              (by simp only [cast_unpackedUnits_zero, add_zero])
      | finite sign' canonical low =>
          exact nearest_of_eq (.finite sign' canonical low) rfl rfl
            (by rw [cast_unpackedUnits_zero, zero_add])
  | @finite sign significand exponent canonical low =>
      cases second with
      | zero sign' =>
          exact nearest_of_eq (.finite sign canonical low) rfl rfl
            (by rw [cast_unpackedUnits_zero, add_zero])
      | @finite sign' significand' exponent' canonical' low' =>
          have lowest : -149 ≤ Min.min exponent exponent' :=
            Int.le_min.mpr ⟨canonical.lowest, canonical'.lowest⟩
          have sum := normalize_nearest
            (sign.apply (decreaseExponent significand exponent (Min.min exponent exponent')).1 +
              sign'.apply (decreaseExponent significand' exponent' (Min.min exponent exponent')).1)
            (Min.min exponent exponent') .positive
          have exact := congrArg (Int.cast (R := ℝ)) (Int.add_mul
            (sign.apply (decreaseExponent significand exponent (Min.min exponent exponent')).1)
            (sign'.apply (decreaseExponent significand' exponent' (Min.min exponent exponent')).1)
            (2 ^ (Min.min exponent exponent' + 149).toNat))
          rw [apply_decreased sign lowest (Int.min_le_left _ _),
            apply_decreased sign' lowest (Int.min_le_right _ _), Int.cast_mul, Int.cast_pow,
            Int.cast_ofNat, ← zpow_place lowest, Int.cast_add (sign.apply (height _ _))] at exact
          rw [exact] at sum
          exact sum

/-- The product of two canonical significands has 24 bits, or is below the lowest place. -/
theorem enough_of_canonical {significand significand' : ℕ} {exponent exponent' : ℤ}
    (canonical : Canonical significand exponent) (canonical' : Canonical significand' exponent') :
    exponent + exponent' ≤ Format.binary32.targetExponent
      (totalExponent (significand * significand') (exponent + exponent')) := by
  have bits : Format.binary32.mantissaBits = 24 := rfl
  have least : Format.binary32.minExponent = -149 := rfl
  have nonzero := Nat.mul_pos canonical.nonzero canonical'.nonzero
  have lowest := canonical.lowest
  have lowest' := canonical'.lowest
  have long : -149 < exponent ∨ -149 < exponent' → 23 ≤ (significand * significand').log2 := by
    rintro (higher | higher) <;> rw [Nat.le_log2 nonzero.ne']
    · exact (canonical.long higher).trans (Nat.le_mul_of_pos_right _ canonical'.nonzero)
    · exact (canonical'.long higher).trans (Nat.le_mul_of_pos_left _ canonical.nonzero)
  unfold Format.targetExponent totalExponent
  omega

theorem Ordinary.mul_nearest {a b : UnpackedFloat} (first : Ordinary a) (second : Ordinary b) :
    Nearest (unpackedUnits a * unpackedUnits b / 2 ^ 149)
      (unpack .binary32 (pack .binary32 (UnpackedFloat.mul .binary32 a b))) := by
  cases first with
  | zero sign =>
      cases second with
      | zero sign' | finite sign' =>
          exact nearest_of_eq (.zero (sign * sign')) rfl rfl
            (by rw [cast_unpackedUnits_zero sign, cast_unpackedUnits_zero (sign * sign'), zero_mul,
              zero_div])
  | @finite sign significand exponent canonical low =>
      cases second with
      | zero sign' =>
          exact nearest_of_eq (.zero (sign * sign')) rfl rfl
            (by rw [cast_unpackedUnits_zero sign', cast_unpackedUnits_zero (sign * sign'), mul_zero,
              zero_div])
      | @finite sign' significand' exponent' canonical' low' =>
          obtain ⟨magnitude, product⟩ := roundWithAccuracy_mirrored
            (Nat.mul_pos canonical.nonzero canonical'.nonzero)
            (enough_of_canonical canonical canonical') (extends_natCast _)
          have exact : ((sign * sign').apply 1 : ℤ) * (((significand * significand' : ℕ) : ℝ) *
                2 ^ (exponent + exponent' + 149)) =
              (sign.apply significand : ℤ) * 2 ^ (exponent + 149) *
                ((sign'.apply significand' : ℤ) * 2 ^ (exponent' + 149)) / 2 ^ 149 := by
            have level : exponent + exponent' + 149 = exponent + 149 + (exponent' + 149) - 149 := by
              ring
            rw [level, zpow_sub₀ two_ne_zero, zpow_add₀ two_ne_zero]
            cases sign <;> cases sign' <;> simp only [Sign.apply] <;> push_cast <;> ring
          rw [unpackedUnits_finite sign canonical, unpackedUnits_finite sign' canonical', ← exact]
          exact product.nearest_apply (sign * sign')

variable {x y : Float32}

/-- **A sum is nearest to the exact one.** -/
theorem add_nearest (first : x.isFinite = true) (second : y.isFinite = true) :
    Nearest (units x + units y) (x + y).toModel.unpack :=
  (ordinary first).add_nearest (ordinary second)

/-- **A product is nearest to the exact one.** -/
theorem mul_nearest (first : x.isFinite = true) (second : y.isFinite = true) :
    Nearest (units x * units y / 2 ^ 149) (x * y).toModel.unpack :=
  (ordinary first).mul_nearest (ordinary second)

/-! ## Symmetry -/

/-- One of two numbers has the magnitude of the other and lies on the other side of zero. -/
structure Opposite (a b : UnpackedFloat) : Prop where
  isNaN : b.isNaN = a.isNaN
  counted : unpackedUnits b = -unpackedUnits a

theorem opposite_neg (a : UnpackedFloat) : Opposite a a.neg := by
  refine ⟨by cases a <;> rfl, ?_⟩
  cases a with
  | infinity | finite => exact apply_neg _ _
  | zero | notANumber => rfl

theorem Mirrored.opposite {exact : ℝ} {magnitude : ℕ} {rounded : Sign → UnpackedFloat}
    (mirrored : Mirrored exact magnitude rounded) (sign : Sign) :
    Opposite (rounded sign) (rounded (-sign)) := by
  refine ⟨by rw [mirrored.number, mirrored.number], ?_⟩
  rw [mirrored.counted, mirrored.counted, apply_neg]

theorem normalize_opposite (signed exponent : ℤ) (zeroSign : Sign) :
    Opposite
      (unpack .binary32
        (pack .binary32 (UnpackedFloat.normalize .binary32 signed exponent zeroSign)))
      (unpack .binary32
        (pack .binary32 (UnpackedFloat.normalize .binary32 (-signed) exponent zeroSign))) := by
  obtain ⟨sign, significand, rfl⟩ := exists_apply signed
  obtain ⟨magnitude, mirrored⟩ := normalize_mirrored significand exponent zeroSign
  rw [← apply_neg]
  exact mirrored.opposite sign

theorem opposite_of_eq {a b result : UnpackedFloat} (standard : Standard result)
    (first : a = result) (second : b = result.neg) :
    Opposite (unpack .binary32 (pack .binary32 a)) (unpack .binary32 (pack .binary32 b)) := by
  rw [first, second, standard.unpack_pack, standard.neg.unpack_pack]
  exact opposite_neg result

/-- The sum of the opposites is the opposite of the sum. -/
theorem Standard.add_opposite {a b : UnpackedFloat} (first : Standard a) (second : Standard b) :
    Opposite (unpack .binary32 (pack .binary32 (UnpackedFloat.add .binary32 a b)))
      (unpack .binary32 (pack .binary32 (UnpackedFloat.add .binary32 a.neg b.neg))) := by
  cases first with
  | notANumber => exact opposite_of_eq .notANumber rfl rfl
  | infinity sign =>
      cases second with
      | notANumber => exact opposite_of_eq .notANumber rfl rfl
      | zero | finite => exact opposite_of_eq (.infinity sign) rfl rfl
      | infinity sign' =>
          cases sign <;> cases sign' <;>
            first
            | exact opposite_of_eq (.infinity _) rfl rfl
            | exact opposite_of_eq .notANumber rfl rfl
  | zero sign =>
      cases second with
      | notANumber => exact opposite_of_eq .notANumber rfl rfl
      | infinity sign' => exact opposite_of_eq (.infinity sign') rfl rfl
      | finite sign' canonical low => exact opposite_of_eq (.finite sign' canonical low) rfl rfl
      | zero sign' => cases sign <;> cases sign' <;> exact ⟨rfl, rfl⟩
  | @finite sign significand exponent canonical low =>
      cases second with
      | notANumber => exact opposite_of_eq .notANumber rfl rfl
      | infinity sign' => exact opposite_of_eq (.infinity sign') rfl rfl
      | zero sign' => exact opposite_of_eq (.finite sign canonical low) rfl rfl
      | @finite sign' significand' exponent' canonical' low' =>
          have opposite := normalize_opposite
            (sign.apply (decreaseExponent significand exponent (Min.min exponent exponent')).1 +
              sign'.apply (decreaseExponent significand' exponent' (Min.min exponent exponent')).1)
            (Min.min exponent exponent') .positive
          rw [Int.neg_add, ← apply_neg, ← apply_neg] at opposite
          exact opposite

/-- The product with the opposite is the opposite of the product. -/
theorem Standard.mul_opposite {a b : UnpackedFloat} (first : Standard a) (second : Standard b) :
    Opposite (unpack .binary32 (pack .binary32 (UnpackedFloat.mul .binary32 a b)))
      (unpack .binary32 (pack .binary32 (UnpackedFloat.mul .binary32 a.neg b))) := by
  cases first with
  | notANumber => exact opposite_of_eq .notANumber rfl rfl
  | infinity sign =>
      cases second with
      | notANumber | zero => exact opposite_of_eq .notANumber rfl rfl
      | infinity sign' => cases sign <;> cases sign' <;> exact opposite_of_eq (.infinity _) rfl rfl
      | finite sign' => cases sign <;> cases sign' <;> exact opposite_of_eq (.infinity _) rfl rfl
  | zero sign =>
      cases second with
      | notANumber | infinity => exact opposite_of_eq .notANumber rfl rfl
      | zero sign' => cases sign <;> cases sign' <;> exact opposite_of_eq (.zero _) rfl rfl
      | finite sign' => cases sign <;> cases sign' <;> exact opposite_of_eq (.zero _) rfl rfl
  | @finite sign significand exponent canonical low =>
      cases second with
      | notANumber => exact opposite_of_eq .notANumber rfl rfl
      | infinity sign' => cases sign <;> cases sign' <;> exact opposite_of_eq (.infinity _) rfl rfl
      | zero sign' => cases sign <;> cases sign' <;> exact opposite_of_eq (.zero _) rfl rfl
      | @finite sign' significand' exponent' canonical' low' =>
          obtain ⟨magnitude, product⟩ := roundWithAccuracy_mirrored
            (Nat.mul_pos canonical.nonzero canonical'.nonzero)
            (enough_of_canonical canonical canonical') (extends_natCast _)
          have opposite := product.opposite (sign * sign')
          have sides : -(sign * sign') = -sign * sign' := by cases sign <;> cases sign' <;> rfl
          rw [sides] at opposite
          exact opposite

theorem add_opposite (x y : Float32) :
    Opposite (x + y).toModel.unpack (-x + -y).toModel.unpack := by
  have opposite := (standard x).add_opposite (standard y)
  rw [← unpack_neg, ← unpack_neg] at opposite
  exact opposite

theorem mul_opposite (x y : Float32) :
    Opposite (x * y).toModel.unpack (-x * y).toModel.unpack := by
  have opposite := (standard x).mul_opposite (standard y)
  rw [← unpack_neg] at opposite
  exact opposite

/-- The order of the factors does not matter. -/
theorem mul_swap (x y : Float32) : x * y = y * x := by
  have sides (sign sign' : Sign) : sign * sign' = sign' * sign := by
    cases sign <;> cases sign' <;> rfl
  have swapped : UnpackedFloat.mul .binary32 x.toModel.unpack y.toModel.unpack =
      UnpackedFloat.mul .binary32 y.toModel.unpack x.toModel.unpack := by
    generalize x.toModel.unpack = a
    generalize y.toModel.unpack = b
    cases a with
    | notANumber => cases b <;> rfl
    | infinity sign | zero sign =>
        cases b with
        | notANumber => rfl
        | infinity sign' | zero sign' | finite sign' => cases sign <;> cases sign' <;> rfl
    | finite sign significand exponent nonzero =>
        cases b with
        | notANumber => rfl
        | infinity sign' | zero sign' => cases sign <;> cases sign' <;> rfl
        | finite sign' significand' exponent' nonzero' =>
            show roundWithAccuracy .binary32 (sign * sign') (significand * significand')
                (exponent + exponent') .exact =
              roundWithAccuracy .binary32 (sign' * sign) (significand' * significand)
                (exponent' + exponent) .exact
            rw [sides, Nat.mul_comm, Int.add_comm]
  exact congrArg (fun product => Float32.ofModel (.pack product)) swapped

/-! ## Order -/

section

variable {exact exact' : ℝ} {a b : UnpackedFloat}

/-- Nothing is lost of a number that a single can have. -/
theorem Nearest.eq_of_grid (nearest : Nearest exact a) {grid : ℤ} (on : Grid grid.natAbs)
    (same : exact = grid) : unpackedUnits a = grid := by
  have least := nearest.nearest on
  rw [same, sub_self, abs_zero] at least
  exact_mod_cast sub_eq_zero.mp (abs_eq_zero.mp (LE.le.antisymm least (abs_nonneg _)))

/-- **Rounding preserves the order.** -/
theorem Nearest.le (nearest : Nearest exact a) (nearest' : Nearest exact' b) (first : Standard a)
    (second : Standard b) (order : exact < exact') : unpackedUnits a ≤ unpackedUnits b := by
  by_contra reversed
  have apart : (unpackedUnits b : ℝ) < unpackedUnits a := Int.cast_lt.mpr (not_le.mp reversed)
  have lower := nearest.nearest (grid_units second)
  have upper := nearest'.nearest (grid_units first)
  rw [← sq_le_sq] at lower upper
  nlinarith [mul_pos (sub_pos.mpr apart) (sub_pos.mpr order)]

end

/-- An operation that computes an increasing function of the units of a finite number, rounds it
once, and keeps infinities. -/
structure RoundsIncreasing (operation : Float32 → Float32) (function : ℝ → ℝ) : Prop where
  increasing : StrictMono function
  nearest : ∀ {x : Float32}, x.isFinite = true →
    Nearest (function (units x)) (operation x).toModel.unpack
  infinite : ∀ {x : Float32} {sign : Sign}, x.toModel.unpack = .infinity sign →
    (operation x).toModel.unpack = .infinity sign
  congr : ∀ {x y : Float32}, x.toModel.unpack = y.toModel.unpack →
    (operation x).toModel.unpack = (operation y).toModel.unpack
  zero : ∃ grid : ℤ, Grid grid.natAbs ∧ function 0 = grid

/-- A number is finite or an infinity. -/
theorem finite_or_infinite (number : x.isNaN = false) :
    x.isFinite = true ∨ ∃ sign, x.toModel.unpack = .infinity sign := by
  have unpacked : x.toModel.unpack.isNaN = false := number
  show x.toModel.unpack.isFinite = true ∨ _
  cases value : x.toModel.unpack with
  | notANumber => rw [value] at unpacked; cases unpacked
  | infinity sign => exact .inr ⟨sign, rfl⟩
  | zero | finite => exact .inl rfl

theorem RoundsIncreasing.number {operation : Float32 → Float32} {function : ℝ → ℝ}
    (rounds : RoundsIncreasing operation function) (number : x.isNaN = false) :
    (operation x).isNaN = false := by
  show (operation x).toModel.unpack.isNaN = false
  rcases finite_or_infinite number with finite | ⟨sign, infinite⟩
  · exact (rounds.nearest finite).number
  · rw [rounds.infinite infinite]
    rfl

/-- Two numbers of one rank unpack to the same, or are both zeros. -/
theorem unpack_eq_of_rank (first : x.isNaN = false) (second : y.isNaN = false)
    (same : rank x = rank y) :
    x.toModel.unpack = y.toModel.unpack ∨ (x == 0) = true ∧ (y == 0) = true := by
  have number : x.toModel.unpack.isNaN = false := first
  have number' : y.toModel.unpack.isNaN = false := second
  rw [beq_zero_iff, beq_zero_iff]
  unfold rank at same
  generalize x.toModel.unpack = a at number same ⊢
  generalize y.toModel.unpack = b at number' same ⊢
  rcases a with (_ | _) | _ | sign | ⟨_ | _, _, _, _⟩ <;>
    rcases b with (_ | _) | _ | sign' | ⟨_ | _, _, _, _⟩ <;>
    first
    | exact .inl rfl
    | exact .inr ⟨⟨_, rfl⟩, ⟨_, rfl⟩⟩
    | cases number; done
    | cases number'; done
    | cases same; done
    | dsimp only [unpackedRank] at same
      simp only [toLex_inj, Prod.mk.injEq, neg_inj, Int.ofNat_inj, true_and] at same
      obtain ⟨rfl, rfl⟩ := same
      exact .inl rfl

/-- The sign of a zero does not matter to such an operation. -/
theorem RoundsIncreasing.units_congr {operation : Float32 → Float32} {function : ℝ → ℝ}
    (rounds : RoundsIncreasing operation function) (same : (x == y) = true) :
    units (operation x) = units (operation y) := by
  obtain ⟨first, second, ranks⟩ := beq_iff.mp same
  rcases unpack_eq_of_rank first second ranks with equal | ⟨zero, zero'⟩
  · exact congrArg unpackedUnits (rounds.congr equal)
  · obtain ⟨grid, on, value⟩ := rounds.zero
    have shared {z : Float32} (zero : (z == 0) = true) : units (operation z) = grid := by
      obtain ⟨sign, unpacked⟩ := beq_zero_iff.mp zero
      have none : units z = 0 := congrArg unpackedUnits unpacked
      have finite : z.isFinite = true := congrArg UnpackedFloat.isFinite unpacked
      refine (rounds.nearest finite).eq_of_grid on ?_
      rw [none, Int.cast_zero, value]
    rw [shared zero, shared zero']

/-- **Such an operation preserves the order of all numbers.** -/
theorem RoundsIncreasing.le {operation : Float32 → Float32} {function : ℝ → ℝ}
    (rounds : RoundsIncreasing operation function) (order : x ≤ y) : operation x ≤ operation y := by
  obtain ⟨first, second, ranks⟩ := le_iff.mp order
  refine le_iff_units.mpr ⟨rounds.number first, rounds.number second, ?_⟩
  rcases ranks.lt_or_eq with less | same
  · have strict : units x < units y := (lt_iff_units.mp (lt_iff.mpr ⟨first, second, less⟩)).2.2
    rcases finite_or_infinite first with finite | ⟨sign, infinite⟩
    · rcases finite_or_infinite second with finite' | ⟨sign, infinite⟩
      · exact (rounds.nearest finite).le (rounds.nearest finite') (standard _) (standard _)
          (rounds.increasing (Int.cast_lt.mpr strict))
      · have least := neg_top_le_apply (standard x) .positive
        have most := apply_le_top (standard (operation x)) .positive
        unfold units at strict ⊢
        rw [infinite] at strict
        rw [rounds.infinite infinite]
        cases sign with
        | positive => exact most
        | negative => exact absurd least (not_le.mpr strict)
    · have most := apply_le_top (standard y) .positive
      have least := neg_top_le_apply (standard (operation y)) .positive
      unfold units at strict ⊢
      rw [infinite] at strict
      rw [rounds.infinite infinite]
      cases sign with
      | positive => exact absurd most (not_le.mpr strict)
      | negative => exact least
  · exact (rounds.units_congr (beq_iff.mpr ⟨first, second, same⟩)).le

section

variable {other : Float32}

theorem add_rounds (finite : other.isFinite = true) :
    RoundsIncreasing (· + other) (· + units other) where
  increasing _ _ less := add_lt_add_left less _
  nearest := fun first => add_nearest first finite
  infinite {x sign} infinite := by
    have ordinary := ordinary finite
    show unpack .binary32 (pack .binary32
      (UnpackedFloat.add .binary32 x.toModel.unpack other.toModel.unpack)) = _
    rw [infinite]
    generalize other.toModel.unpack = unpacked at ordinary
    cases ordinary <;> exact (Standard.infinity sign).unpack_pack
  congr {x y} same := by
    show unpack .binary32 (pack .binary32 (UnpackedFloat.add .binary32 x.toModel.unpack _)) = _
    rw [same]
    rfl
  zero := ⟨units other, grid_units (standard other), zero_add _⟩

theorem mul_rounds (positive : 0 < other) (finite : other.isFinite = true) :
    RoundsIncreasing (· * other) (· * units other / 2 ^ 149) where
  increasing _ _ less := by
    have above : 0 < units other := (lt_iff_units.mp positive).2.2
    have factor : (0 : ℝ) < units other := Int.cast_pos.mpr above
    exact div_lt_div_of_pos_right (mul_lt_mul_of_pos_right less factor) (by positivity)
  nearest := fun first => mul_nearest first finite
  infinite {x sign} infinite := by
    have above := pos_iff.mp positive
    have ordinary := ordinary finite
    show unpack .binary32 (pack .binary32
      (UnpackedFloat.mul .binary32 x.toModel.unpack other.toModel.unpack)) = _
    rw [infinite]
    generalize other.toModel.unpack = unpacked at above ordinary
    cases above with
    | infinity => cases ordinary
    | finite => cases sign <;> exact (Standard.infinity _).unpack_pack
  congr {x y} same := by
    show unpack .binary32 (pack .binary32 (UnpackedFloat.mul .binary32 x.toModel.unpack _)) = _
    rw [same]
    rfl
  zero := ⟨0, grid_of_lt (by decide), by simp⟩

end

end Single
end FlightGuidance
