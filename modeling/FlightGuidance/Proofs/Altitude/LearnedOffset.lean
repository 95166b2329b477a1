import FlightGuidance.Proofs.Altitude.HoverWindow
import Mathlib.Data.List.Induction

/-!
# The offset that a hold teaches

While the vehicle hovers with an integral term that stands, the thrust differs from the neutral
thrust by the integral term times the scale of the inner loop, which is minus one
(`Hovers.thrust_eq`). The average of the window has the sign of the integral term (`average_sign`),
and rounding cannot turn it around. So the thrust and the learned offset lie on opposite sides
(`Asked.movesToward_iff`): the offset goes down after a hover above the neutral thrust and up after
one below it.
-/

set_option autoImplicit false

namespace FlightGuidance
namespace AltitudeController

open Float.Model.UnpackedFloat (Sign)

/-! ## The average of a constant -/

/-- A sum of numbers of one sign has at least one unit of that sign for each of them. -/
theorem le_units_total {sign : Sign} {terms : List Float32} (few : terms.length < 2 ^ 24)
    (signed : ∀ term ∈ terms, term.isNaN = false ∧ 1 ≤ sign.apply (Single.units term)) :
    (total terms).isNaN = false ∧ terms.length ≤ sign.apply (Single.units (total terms)) := by
  induction terms using List.reverseRecOn with
  | nil => cases sign <;> exact ⟨rfl, le_rfl⟩
  | append_singleton terms term inductionHypothesis =>
      rw [List.length_append] at few ⊢
      obtain ⟨number', second⟩ := signed term (List.mem_append_right _ List.mem_cons_self)
      obtain ⟨number, first⟩ := inductionHypothesis (by omega) fun term member =>
        signed term (List.mem_append_left _ member)
      rw [total_append]
      exact Single.le_units_add (Single.grid_of_lt few) (Nat.succ_pos _) number number'
        (Int.add_le_add first second)

/-- The number of samples as a single. -/
theorem unpack_samples : (80 : Float32).toModel.unpack =
    .finite .positive 10485760 (-17) (by decide) :=
  rfl

/-- The average of 80 numbers of one sign has that sign. -/
theorem average_sign {sign : Sign} {terms : List Float32} (full : terms.length = 80)
    (signed : ∀ term ∈ terms, term.isNaN = false ∧ 1 ≤ sign.apply (Single.units term)) :
    (total terms / 80).isNaN = false ∧ 1 ≤ sign.apply (Single.units (total terms / 80)) := by
  obtain ⟨-, bound⟩ := le_units_total (by rw [full]; decide) signed
  rw [full] at bound
  refine Single.le_units_div unpack_samples (by decide) (Single.grid_of_lt (by decide))
    Nat.one_pos ?_
  calc
    ((1 : ℕ) : ℤ) * (10485760 : ℕ) = 80 * 2 ^ (17 : ℕ) := by decide
    _ ≤ sign.apply (Single.units (total terms)) * 2 ^ (17 : ℕ) :=
      Int.mul_le_mul_of_nonneg_right bound (by decide)

/-! ## The thrust of a hover -/

/-- The inner loop once its integral term is seated. -/
def seated (controller : AltitudeController) : Pid :=
  controller.pid.seat controller.velocitySetpoint controller.velocity

/-- The derivative term of the next sample. -/
def derivativeTerm (controller : AltitudeController) : Float32 :=
  controller.seated.derivativeDecay * controller.seated.derivative
    - controller.seated.derivativeStep *
      (controller.velocity - controller.seated.previousMeasurement)

/-- The controller hovers on an integral term: the inner loop sees no error, its output is counted
down from the neutral thrust, and the thrust is not limited. -/
structure Hovers (controller : AltitudeController) (bounds : Option VerticalBounds)
    (integral : Float32) : Prop where
  scale : controller.pid.scale = -1
  stands : controller.seated.integral = integral
  proportional :
    (controller.seated.proportionalTerm controller.velocitySetpoint controller.velocity == 0) = true
  derivative : (controller.derivativeTerm == 0) = true
  low : (controller.thrustBounds bounds).1 ≤ controller.pid.bias + controller.pid.scale * integral
  high : controller.pid.bias + controller.pid.scale * integral ≤ (controller.thrustBounds bounds).2

variable {controller : AltitudeController} {bounds : Option VerticalBounds} {integral : Float32}

theorem seated_bias (controller : AltitudeController) :
    controller.seated.bias = controller.pid.bias := by
  unfold seated Pid.seat
  split <;> rfl

theorem seated_scale (controller : AltitudeController) :
    controller.seated.scale = controller.pid.scale := by
  unfold seated Pid.seat
  split <;> rfl

/-- The thrust of a hover is the neutral thrust and the scaled integral term. -/
theorem Hovers.thrust_eq (hovers : Hovers controller bounds integral)
    (nonzero : ¬(integral == 0) = true) :
    (controller.command bounds).thrust =
      controller.pid.bias + controller.pid.scale * integral := by
  have terms : (controller.seated.proportionalTerm controller.velocitySetpoint controller.velocity
      + integral + controller.derivativeTerm).toModel.unpack = integral.toModel.unpack := by
    have first := Single.unpack_zero_add hovers.proportional nonzero
    rw [← Single.beq_zero_congr first] at nonzero
    rw [Single.unpack_add_zero hovers.derivative nonzero, first]
  have demand : controller.seated.bias + controller.seated.scale *
      (controller.seated.proportionalTerm controller.velocitySetpoint controller.velocity
        + controller.seated.integral + controller.derivativeTerm) =
      controller.pid.bias + controller.pid.scale * integral := by
    rw [seated_bias, seated_scale, hovers.stands, hovers.scale, Single.neg_one_mul,
      Single.neg_one_mul, Single.neg_congr terms]
  show Single.min (Single.max (controller.seated.bias + controller.seated.scale *
      (controller.seated.proportionalTerm controller.velocitySetpoint controller.velocity
        + controller.seated.integral + controller.derivativeTerm))
      (controller.thrustBounds bounds).1) (controller.thrustBounds bounds).2 = _
  rw [demand, Single.max_of_le hovers.low, Single.min_of_le hovers.high]

/-! ## The learned offset -/

variable {calls : List Call} {asked : AltitudeController} {correction : HoverCorrection}

/-- The correction of a window with one integral term has the sign of that term. -/
theorem Asked.correction_sign (called : Asked calls asked)
    (completes : asked.advanceEstimate.1 = some correction)
    (constant : ∀ call ∈ (asked.call :: calls).take 80, call.integral = integral) {sign : Sign}
    (number : integral.isNaN = false) (signed : 1 ≤ sign.apply (Single.units integral)) :
    correction.correction.isNaN = false ∧
      1 ≤ sign.apply (Single.units correction.correction) := by
  have fills := called.fills completes
  obtain ⟨_, returned, average, -⟩ := called.corrects fills
  obtain rfl := Option.some_inj.mp (completes.symm.trans returned)
  have window := (fills_iff.mp fills).1
  rw [average]
  refine average_sign ?_ fun term member => ?_
  · rw [List.length_map, List.length_reverse, List.length_take]
    omega
  · obtain ⟨call, taken, rfl⟩ := List.mem_map.mp member
    rw [constant call (List.mem_reverse.mp taken)]
    exact ⟨number, signed⟩

/-- The offset moves to the side of the neutral thrust on which the thrust lies. -/
def MovesToward (neutral thrust before after : Float32) : Prop :=
  (neutral < thrust → before < after) ∧ (thrust < neutral → after < before)

/-- **The offset that a hover teaches never moves to the side of the thrust.** After a window with
one integral term that is not zero it moves away from the thrust, unless the thrust is the neutral
one. -/
theorem Asked.movesToward_iff (called : Asked calls asked)
    (completes : asked.advanceEstimate.1 = some correction)
    (constant : ∀ call ∈ (asked.call :: calls).take 80, call.integral = integral)
    (nonzero : ¬(integral == 0) = true) (hovers : Hovers controller bounds integral)
    (tuning : SelfTuning) :
    (controller.command bounds).thrust =
        controller.pid.bias + controller.pid.scale * integral ∧
      (MovesToward controller.pid.bias (controller.command bounds).thrust tuning.offset
          (correction.applyTo tuning).offset ↔
        ¬controller.pid.bias < (controller.command bounds).thrust ∧
          ¬(controller.command bounds).thrust < controller.pid.bias) ∧
      (controller.pid.bias < (controller.command bounds).thrust →
        correction.correction < 0 ∧ ¬tuning.offset < (correction.applyTo tuning).offset) ∧
      ((controller.command bounds).thrust < controller.pid.bias →
        0 < correction.correction ∧ ¬(correction.applyTo tuning).offset < tuning.offset) := by
  have thrust := hovers.thrust_eq nonzero
  have lowered : (controller.command bounds).thrust = controller.pid.bias - integral := by
    rw [thrust, hovers.scale, Single.neg_one_mul, Single.add_neg]
  have above : controller.pid.bias < (controller.command bounds).thrust →
      correction.correction < 0 ∧ ¬tuning.offset < (correction.applyTo tuning).offset := by
    intro more
    rw [lowered] at more
    obtain ⟨number, -, negative⟩ := Single.lt_iff_units.mp (Single.neg_of_lt_sub more)
    obtain ⟨defined, signed⟩ := called.correction_sign completes constant number
      (show 1 ≤ Sign.negative.apply (Single.units integral) from Int.neg_pos_of_neg negative)
    have taught : correction.correction < 0 :=
      Single.lt_iff_units.mpr ⟨defined, rfl, Int.neg_of_neg_pos signed⟩
    exact ⟨taught, Single.not_lt_add (Single.le_of_lt taught)⟩
  have below : (controller.command bounds).thrust < controller.pid.bias →
      0 < correction.correction ∧ ¬(correction.applyTo tuning).offset < tuning.offset := by
    intro less
    rw [lowered] at less
    obtain ⟨-, number, positive⟩ := Single.lt_iff_units.mp (Single.pos_of_sub_lt less)
    obtain ⟨defined, signed⟩ := called.correction_sign completes constant number
      (show 1 ≤ Sign.positive.apply (Single.units integral) from positive)
    have taught : 0 < correction.correction := Single.lt_iff_units.mpr ⟨rfl, defined, signed⟩
    exact ⟨taught, Single.not_add_lt (Single.le_of_lt taught)⟩
  refine ⟨thrust, ⟨fun moves => ?_, fun ⟨notMore, notLess⟩ => ?_⟩, above, below⟩
  · exact ⟨fun more => (above more).2 (moves.1 more), fun less => (below less).2 (moves.2 less)⟩
  · exact ⟨fun more => absurd more notMore, fun less => absurd less notLess⟩

/-- The hold above the neutral thrust, on a constant integral term. -/
theorem hovers_hovering :
    (∀ call ∈ ((fly hovering).1.call :: (fly hovering).2).take 80, call.integral = -0.0625) ∧
      (fly hovering).1.advanceEstimate.1.map HoverCorrection.correction = some (-0.0625) ∧
      Hovers (fly hovering).1 none (-0.0625) := by
  have facts : (∀ call ∈ ((fly hovering).1.call :: (fly hovering).2).take 80,
        call.integral = -0.0625) ∧
      (fly hovering).1.advanceEstimate.1.map HoverCorrection.correction = some (-0.0625) ∧
      (fly hovering).1.pid.scale = -1 ∧ (fly hovering).1.seated.integral = -0.0625 ∧
      ((fly hovering).1.seated.proportionalTerm (fly hovering).1.velocitySetpoint
        (fly hovering).1.velocity == 0) = true ∧ ((fly hovering).1.derivativeTerm == 0) = true ∧
      ((fly hovering).1.thrustBounds none).1 ≤
        (fly hovering).1.pid.bias + (fly hovering).1.pid.scale * -0.0625 ∧
      (fly hovering).1.pid.bias + (fly hovering).1.pid.scale * -0.0625 ≤
        ((fly hovering).1.thrustBounds none).2 := by
    decide +kernel
  obtain ⟨constant, corrected, scale, stands, proportional, derivative, low, high⟩ := facts
  exact ⟨constant, corrected, scale, stands, proportional, derivative, low, high⟩

theorem moves_away_hovering :
    ∃ correction, (fly hovering).1.advanceEstimate.1 = some correction ∧
      ((fly hovering).1.command none).thrust =
        (fly hovering).1.pid.bias + (fly hovering).1.pid.scale * -0.0625 ∧
      (MovesToward (fly hovering).1.pid.bias ((fly hovering).1.command none).thrust 0
          (correction.applyTo {}).offset ↔
        ¬(fly hovering).1.pid.bias < ((fly hovering).1.command none).thrust ∧
          ¬((fly hovering).1.command none).thrust < (fly hovering).1.pid.bias) := by
  obtain ⟨constant, corrected, hovers⟩ := hovers_hovering
  obtain ⟨correction, completes, -⟩ := Option.map_eq_some_iff.mp corrected
  obtain ⟨thrust, moves, -⟩ := Asked.movesToward_iff (.directly (flown_fly hovering)) completes
    constant (by decide) hovers {}
  exact ⟨correction, completes, thrust, moves⟩

/-- After a hover at 0.5625 over a neutral thrust of 0.5 the offset is below zero. -/
theorem offset_below_hovering :
    Asked (fly hovering).2 (fly hovering).1 ∧
      (∀ call ∈ ((fly hovering).1.call :: (fly hovering).2).take 80, call.integral = -0.0625) ∧
      (fly hovering).1.velocitySetpoint = 0 ∧ (fly hovering).1.velocity = 0 ∧
      Hovers (fly hovering).1 none (-0.0625) ∧ ((fly hovering).1.command none).thrust = 0.5625 ∧
      ∃ correction, (fly hovering).1.advanceEstimate.1 = some correction ∧
        (correction.applyTo {}).offset = -0.0625 ∧
        ¬MovesToward (fly hovering).1.pid.bias ((fly hovering).1.command none).thrust 0
          (correction.applyTo {}).offset := by
  obtain ⟨constant, corrected, hovers⟩ := hovers_hovering
  obtain ⟨setpoint, velocity, thrust, neutral⟩ : (fly hovering).1.velocitySetpoint = 0 ∧
      (fly hovering).1.velocity = 0 ∧ ((fly hovering).1.command none).thrust = 0.5625 ∧
      (fly hovering).1.pid.bias = 0.5 := by decide +kernel
  obtain ⟨correction, completes, average⟩ := Option.map_eq_some_iff.mp corrected
  have offset : (correction.applyTo {}).offset = -0.0625 := by
    show 0 + correction.correction = -0.0625
    rw [average]
    decide
  refine ⟨.directly (flown_fly hovering), constant, setpoint, velocity, hovers, thrust, correction,
    completes, offset, ?_⟩
  rw [thrust, neutral, offset]
  intro moves
  exact absurd (moves.1 (by decide)) (by decide)

end AltitudeController
end FlightGuidance
