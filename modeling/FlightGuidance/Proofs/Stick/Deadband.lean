import FlightGuidance.Proofs.Single.Nearest
import FlightGuidance.Stick

/-!
# The shape of a stick without its deadband

The travel of an axis beyond the deadband is a rounded sum, and scaling it is a rounded product.
Neither rounding moves a number past another one or to zero, and both treat opposite numbers alike,
so the axis keeps the order and the symmetry of its deflection. Every axis ends up in `[-1, 1]`,
also one that was not a number, and the flag tells whether any of them is off center
(`normalize_shapes`).
-/

set_option autoImplicit false

namespace FlightGuidance
namespace Single

open Float.Model (UnpackedFloat)

variable {x y low high bound : Float32}

/-! ## Clamping -/

theorem low_le_clamp (range : low ≤ high) (number : x.isNaN = false) : low ≤ clamp x low high := by
  obtain ⟨first, -, -⟩ := le_iff.mp range
  unfold clamp
  split
  · exact le_self first
  · split
    · exact range
    · exact le_of_not_lt first number ‹¬x < low›

theorem clamp_le_high (range : low ≤ high) (number : x.isNaN = false) :
    clamp x low high ≤ high := by
  obtain ⟨-, second, -⟩ := le_iff.mp range
  unfold clamp
  split
  · exact range
  · split
    · exact le_self second
    · exact le_of_not_lt number second ‹¬high < x›

theorem clamp_le_clamp (range : low ≤ high) (order : x ≤ y) :
    clamp x low high ≤ clamp y low high := by
  obtain ⟨first, second, -⟩ := le_iff.mp order
  by_cases below : x < low
  · have value : clamp x low high = low := if_pos below
    rw [value]
    exact low_le_clamp range second
  · by_cases above : high < y
    · have value : clamp y low high = high :=
        (if_neg fun less => not_le_of_lt (lt_of_lt_of_le less range) (le_of_lt above)).trans
          (if_pos above)
      rw [value]
      exact clamp_le_high range first
    · have value : clamp x low high = x :=
        (if_neg below).trans (if_neg fun less => above (lt_of_lt_of_le less order))
      have value' : clamp y low high = y :=
        (if_neg fun less => below (lt_of_le_of_lt order less)).trans (if_neg above)
      rw [value, value']
      exact order

/-! ## Opposite singles -/

theorem Opposite.symm {a b : UnpackedFloat} (opposite : Opposite a b) : Opposite b a :=
  ⟨opposite.isNaN.symm, by rw [opposite.counted, Int.neg_neg]⟩

theorem opposite_self_neg (x : Float32) : Opposite x.toModel.unpack (-x).toModel.unpack := by
  rw [unpack_neg]
  exact opposite_neg _

section

variable (opposite : Opposite x.toModel.unpack y.toModel.unpack)

include opposite

theorem Opposite.lt_iff : bound < y ↔ x < -bound := by
  have isNaN : y.isNaN = x.isNaN := opposite.isNaN
  have counted : units y = -units x := opposite.counted
  rw [lt_iff_units, lt_iff_units, units_neg, isNaN_neg, isNaN, counted]
  constructor <;> rintro ⟨first, second, order⟩ <;> exact ⟨second, first, by omega⟩

theorem Opposite.lt_neg_iff : y < -bound ↔ bound < x := opposite.symm.lt_iff.symm

theorem Opposite.pos_iff : 0 < y ↔ x < 0 := by
  have isNaN : (-0 : Float32).isNaN = false := rfl
  have counted : units (-0) = units 0 := rfl
  rw [opposite.lt_iff, lt_iff_units, lt_iff_units, isNaN, counted, isNaN_zero]

theorem Opposite.clamp (positive : 0 < bound) :
    Opposite (Single.clamp x (-bound) bound).toModel.unpack
      (Single.clamp y (-bound) bound).toModel.unpack := by
  have apart {z : Float32} (less : z < -bound) (more : bound < z) : False := by
    have lower := (lt_iff_units.mp less).2.2
    have upper := (lt_iff_units.mp more).2.2
    have above : 0 < units bound := (lt_iff_units.mp positive).2.2
    rw [units_neg] at lower
    omega
  unfold Single.clamp
  by_cases below : x < -bound
  · have beyond : bound < y := opposite.lt_iff.mpr below
    rw [if_pos below, if_neg fun less => apart less beyond, if_pos beyond]
    rw [unpack_neg]
    exact (opposite_neg bound.toModel.unpack).symm
  · by_cases above : bound < x
    · rw [if_neg below, if_pos above, if_pos (opposite.lt_neg_iff.mpr above), unpack_neg]
      exact opposite_neg bound.toModel.unpack
    · rw [if_neg below, if_neg above, if_neg (mt opposite.lt_neg_iff.mp above),
        if_neg (mt opposite.lt_iff.mp below)]
      exact opposite

theorem Opposite.beq (number : x.isNaN = false) : (y == -x) = true :=
  beq_iff_units.mpr
    ⟨opposite.isNaN.trans number, (isNaN_neg x).trans number,
      (units_neg x).symm ▸ opposite.counted⟩

theorem Opposite.mul (number : x.isNaN = false) (positive : 0 < bound)
    (finite : bound.isFinite = true) :
    Opposite (x * bound).toModel.unpack (y * bound).toModel.unpack := by
  have rounds := mul_rounds positive finite
  have number' : y.isNaN = false := opposite.isNaN.trans number
  exact ⟨(rounds.number number').trans (rounds.number number).symm,
    (rounds.units_congr (opposite.beq number)).trans (mul_opposite x bound).counted⟩

end

end Single
end FlightGuidance

namespace FlightGuidance
namespace Stick

open Float.Model.UnpackedFloat (Sign)
open Single (Opposite)

/-! ## One axis -/

variable {x y : Float32}

/-- The travel of an axis beyond the deadband, before it is scaled. -/
def travel (axis : Float32) : Float32 :=
  if axis < -deadband then axis + deadband
  else if deadband < axis then axis - deadband
  else 0

/-- The factor that scales the remaining travel to `[-1, 1]`. -/
def gain : Float32 := 1 / (1 - deadband)

theorem beyondDeadband_eq (axis : Float32) :
    beyondDeadband axis = Single.clamp (travel axis * gain) (-1) 1 :=
  rfl

/-- The deadband lies around the center. -/
theorem deadband_around : -deadband ≤ deadband ∧ -(-deadband) = deadband ∧
    deadband.isFinite = true ∧ (-deadband).isFinite = true ∧ (-deadband).isNaN = false := by
  decide +kernel

/-- The gain is positive, keeps a released axis at the center and loses no travel. -/
theorem gain_scales : 0 < gain ∧ gain.isFinite = true ∧
    (Single.clamp (0 * gain) (-1) 1 == 0) = true ∧
    0 < Single.clamp (Float32.ofBits 1 * gain) (-1) 1 ∧ (-1 : Float32) ≤ 1 := by
  decide +kernel

theorem travel_below (below : x < -deadband) : travel x = x + deadband := if_pos below

theorem not_below_of_above (above : deadband < x) : ¬x < -deadband := by
  intro below
  exact Single.not_le_of_lt (Single.lt_of_lt_of_le below deadband_around.1) (Single.le_of_lt above)

theorem travel_above (above : deadband < x) : travel x = x + -deadband := by
  rw [Single.add_neg]
  exact (if_neg (not_below_of_above above)).trans (if_pos above)

theorem travel_within (below : ¬x < -deadband) (above : ¬deadband < x) : travel x = 0 :=
  (if_neg below).trans (if_neg above)

theorem adding_rounds : Single.RoundsIncreasing (· + deadband) (· + Single.units deadband) :=
  Single.add_rounds deadband_around.2.2.1

theorem subtracting_rounds :
    Single.RoundsIncreasing (· + -deadband) (· + Single.units (-deadband)) :=
  Single.add_rounds deadband_around.2.2.2.1

theorem scaling_rounds : Single.RoundsIncreasing (· * gain) (· * Single.units gain / 2 ^ 149) :=
  Single.mul_rounds gain_scales.1 gain_scales.2.1

theorem travel_opposite (axis : Float32) :
    Opposite (travel axis).toModel.unpack (travel (-axis)).toModel.unpack := by
  have opposite := Single.opposite_self_neg axis
  by_cases below : axis < -deadband
  · rw [travel_below below, travel_above (opposite.lt_iff.mpr below)]
    exact Single.add_opposite axis deadband
  · by_cases above : deadband < axis
    · have sum := Single.add_opposite axis (-deadband)
      rw [travel_above above, travel_below (opposite.lt_neg_iff.mpr above)]
      rwa [deadband_around.2.1] at sum
    · rw [travel_within below above,
        travel_within (mt opposite.lt_neg_iff.mp above) (mt opposite.lt_iff.mp below)]
      exact ⟨rfl, rfl⟩

/-- What lies outside of the deadband on one side travels to that side. -/
theorem travel_pos (above : deadband < x) : 0 < travel x := by
  obtain ⟨-, number, order⟩ := Single.lt_iff_units.mp above
  have least : (x + -deadband).isNaN = false ∧ ((1 : ℕ) : ℤ) ≤ Sign.positive.apply _ :=
    Single.le_units_add (Single.grid_of_lt (by decide)) Nat.one_pos number deadband_around.2.2.2.2
      (by
      show (1 : ℤ) ≤ Single.units x + Single.units (-deadband)
      rw [Single.units_neg]
      omega)
  rw [travel_above above]
  exact Single.lt_iff_units.mpr ⟨Single.isNaN_zero, least.1, Int.lt_of_lt_of_le Int.one_pos least.2⟩

theorem travel_neg (below : x < -deadband) : travel x < 0 :=
  (travel_opposite x).pos_iff.mp (travel_pos ((Single.opposite_self_neg x).lt_iff.mpr below))

theorem travel_number (axis : Float32) : (travel axis).isNaN = false := by
  by_cases below : axis < -deadband
  · exact (Single.lt_iff.mp (travel_neg below)).1
  · by_cases above : deadband < axis
    · exact (Single.lt_iff.mp (travel_pos above)).2.1
    · rw [travel_within below above]
      exact Single.isNaN_zero

theorem travel_le (order : x ≤ y) : travel x ≤ travel y := by
  by_cases below : x < -deadband
  · by_cases below' : y < -deadband
    · rw [travel_below below, travel_below below']
      exact adding_rounds.le order
    · refine Single.le_trans (Single.le_of_lt (travel_neg below)) ?_
      by_cases above' : deadband < y
      · exact Single.le_of_lt (travel_pos above')
      · rw [travel_within below' above']
        exact Single.le_self Single.isNaN_zero
  · have below' : ¬y < -deadband := fun less => below (Single.lt_of_le_of_lt order less)
    by_cases above : deadband < x
    · rw [travel_above above, travel_above (Single.lt_of_lt_of_le above order)]
      exact subtracting_rounds.le order
    · rw [travel_within below above]
      by_cases above' : deadband < y
      · exact Single.le_of_lt (travel_pos above')
      · rw [travel_within below' above']
        exact Single.le_self Single.isNaN_zero

/-! ## The scaled travel -/

theorem scaled_number (axis : Float32) : (travel axis * gain).isNaN = false :=
  scaling_rounds.number (travel_number axis)

theorem beyondDeadband_range (axis : Float32) :
    -1 ≤ beyondDeadband axis ∧ beyondDeadband axis ≤ 1 :=
  ⟨Single.low_le_clamp gain_scales.2.2.2.2 (scaled_number axis),
    Single.clamp_le_high gain_scales.2.2.2.2 (scaled_number axis)⟩

theorem beyondDeadband_number (axis : Float32) : (beyondDeadband axis).isNaN = false :=
  (Single.le_iff.mp (beyondDeadband_range axis).1).2.1

/-- **The order of two deflections is kept.** -/
theorem beyondDeadband_le (order : x ≤ y) : beyondDeadband x ≤ beyondDeadband y :=
  Single.clamp_le_clamp gain_scales.2.2.2.2 (scaling_rounds.le (travel_le order))

theorem beyondDeadband_opposite (axis : Float32) :
    Opposite (beyondDeadband axis).toModel.unpack (beyondDeadband (-axis)).toModel.unpack := by
  have scaled : Opposite (travel axis * gain).toModel.unpack
      (travel (-axis) * gain).toModel.unpack :=
    (travel_opposite axis).mul (travel_number axis) gain_scales.1 gain_scales.2.1
  exact scaled.clamp (by decide +kernel)

/-- The smallest travel beyond the deadband is not lost when it is scaled. -/
theorem beyondDeadband_pos (above : deadband < x) : 0 < beyondDeadband x := by
  have least : Float32.ofBits 1 ≤ travel x := by
    obtain ⟨-, number, order⟩ := Single.lt_iff_units.mp (travel_pos above)
    exact Single.le_iff_units.mpr ⟨rfl, number, order⟩
  have order := Single.clamp_le_clamp gain_scales.2.2.2.2 (scaling_rounds.le least)
  exact Single.lt_of_lt_of_le gain_scales.2.2.2.1 order

theorem outside_iff (axis : Float32) :
    outside axis = true ↔ axis < -deadband ∨ deadband < axis := by
  unfold outside
  rw [Bool.or_eq_true, decide_eq_true_iff, decide_eq_true_iff]

/-- **An axis is off center exactly if it lies outside the deadband.** -/
theorem outside_iff_nonzero (axis : Float32) :
    outside axis = true ↔ ¬(beyondDeadband axis == 0) = true := by
  rw [outside_iff]
  constructor
  · rintro (below | above) zero
    · have positive := beyondDeadband_pos ((Single.opposite_self_neg axis).lt_iff.mpr below)
      have negative := (beyondDeadband_opposite axis).pos_iff.mp positive
      exact (Single.lt_iff_units.mp negative).2.2.ne (Single.beq_iff_units.mp zero).2.2
    · have positive := beyondDeadband_pos above
      exact (Single.lt_iff_units.mp positive).2.2.ne' (Single.beq_iff_units.mp zero).2.2
  · intro nonzero
    by_contra within
    rw [not_or] at within
    refine nonzero ?_
    rw [beyondDeadband_eq, travel_within within.1 within.2]
    exact gain_scales.2.2.1

/-! ## All axes -/

/-- An axis of the sticks. -/
inductive Axis where
  | roll
  | pitch
  | yaw
  | thrust
  deriving DecidableEq, Repr

def Deflection.along (sticks : Deflection) : Axis → Float32
  | .roll => sticks.roll
  | .pitch => sticks.pitch
  | .yaw => sticks.yaw
  | .thrust => sticks.thrust

/-- The sticks with roll, pitch and yaw deflected to the other side. -/
def Deflection.mirrored (sticks : Deflection) : Deflection :=
  { sticks with roll := -sticks.roll, pitch := -sticks.pitch, yaw := -sticks.yaw }

theorem outside_neg (axis : Float32) : outside (-axis) = outside axis := by
  have opposite := Single.opposite_self_neg axis
  rw [Bool.eq_iff_iff, outside_iff, outside_iff, opposite.lt_iff, opposite.lt_neg_iff, or_comm]

/-- Centering the thrust keeps its order. -/
theorem centered_le (order : x ≤ y) : 2 * x - 1 ≤ 2 * y - 1 := by
  have doubled : Single.RoundsIncreasing (· * 2) _ :=
    Single.mul_rounds (by decide +kernel) (by decide +kernel)
  have lowered : Single.RoundsIncreasing (· + -1) _ := Single.add_rounds (by decide +kernel)
  rw [← Single.add_neg, ← Single.add_neg, Single.mul_swap, Single.mul_swap 2 y]
  exact lowered.le (doubled.le order)

/-- **Cutting the deadband keeps every axis a number in `[-1, 1]`, whatever the sticks are.** The
sticks count as moving exactly if an axis ends up off center. Deflecting roll, pitch and yaw to the
other side does the same to what is left of them, and no axis ever goes back while it is pushed
further. -/
theorem normalize_shapes (sticks : Deflection) :
    (∀ axis, -1 ≤ sticks.normalize.2.along axis ∧ sticks.normalize.2.along axis ≤ 1 ∧
      (sticks.normalize.2.along axis).isNaN = false) ∧
    (sticks.normalize.1 = true ↔ ∃ axis, ¬(sticks.normalize.2.along axis == 0) = true) ∧
    (sticks.mirrored.normalize.1 = sticks.normalize.1 ∧
      ∀ axis, (sticks.mirrored.normalize.2.along axis == sticks.normalize.2.mirrored.along axis) =
        true) ∧
    ∀ axis (further : Deflection), sticks.along axis ≤ further.along axis →
      sticks.normalize.2.along axis ≤ further.normalize.2.along axis := by
  have flag : sticks.normalize.1 = (outside sticks.roll || outside sticks.pitch ||
    outside sticks.yaw || outside (2 * sticks.thrust - 1)) := rfl
  refine ⟨fun axis => ?_, ?_, ⟨?_, fun axis => ?_⟩, fun axis further order => ?_⟩
  · cases axis <;> exact ⟨(beyondDeadband_range _).1, (beyondDeadband_range _).2,
      beyondDeadband_number _⟩
  · rw [flag, Bool.or_eq_true, Bool.or_eq_true, Bool.or_eq_true, outside_iff_nonzero,
      outside_iff_nonzero, outside_iff_nonzero, outside_iff_nonzero]
    constructor
    · rintro (((roll | pitch) | yaw) | thrust)
      · exact ⟨.roll, roll⟩
      · exact ⟨.pitch, pitch⟩
      · exact ⟨.yaw, yaw⟩
      · exact ⟨.thrust, thrust⟩
    · rintro ⟨_ | _ | _ | _, nonzero⟩
      · exact .inl (.inl (.inl nonzero))
      · exact .inl (.inl (.inr nonzero))
      · exact .inl (.inr nonzero)
      · exact .inr nonzero
  · show (outside (-sticks.roll) || outside (-sticks.pitch) || outside (-sticks.yaw) ||
      outside (2 * sticks.thrust - 1)) = _
    rw [outside_neg, outside_neg, outside_neg, flag]
  · cases axis with
    | thrust => exact Single.beq_self (beyondDeadband_number _)
    | roll | pitch | yaw =>
        exact (beyondDeadband_opposite _).beq (beyondDeadband_number _)
  · cases axis with
    | thrust => exact beyondDeadband_le (centered_le order)
    | roll | pitch | yaw => exact beyondDeadband_le order

/-- Roll is pushed from a third to a half while the pitch axis is broken. -/
theorem normalize_shapes_pushed :
    let sticks : Deflection := ⟨0.3, 0 / 0, -0.2, 0.5⟩
    let further : Deflection := ⟨0.5, 0 / 0, -0.2, 0.5⟩
    sticks.along .roll ≤ further.along .roll ∧
      sticks.normalize.2.along .roll ≤ further.normalize.2.along .roll :=
  ⟨by decide +kernel, (normalize_shapes _).2.2.2 .roll _ (by decide +kernel)⟩

end Stick
end FlightGuidance
