import FlightGuidance.Proofs.Single.Remainder
import FlightGuidance.Sequencer.Condition
import Mathlib.Analysis.Complex.Angle
import Mathlib.Analysis.Real.Pi.Bounds

/-!
# The angle between the course and the next leg

The course points towards the next leg if the angles of both, from -180 to 180 degrees, are at most
so many degrees apart. A library finds the angles up to its last place, and what the condition
computes from them is off by less than a thousandth of a degree (`computed_close`), so away from the
threshold and from the end of the circle it decides as the exact difference does
(`pointsTowardsNextBy_iff`).

That difference is not the angle between the two directions, which is the shorter way around
(`Ned.angle_eq_min`). Half a turn of both vectors keeps the difference only if they lie on the same
side of the east-west line (`Ned.separation_turned`), so there is a leg, a course and an angle for
which the condition depends on the compass (`turnedAround_iff`).
-/

set_option autoImplicit false

namespace FlightGuidance

open Single (units value)
open InnerProductGeometry (angle)
open scoped ComplexConjugate

/-! ## Angles -/

/-- Turning a direction around turns its angle by half a turn. -/
theorem arg_neg_conj {direction : ℂ} (up : 0 ≤ direction.im) (nonzero : direction ≠ 0) :
    Complex.arg (-conj direction) = Real.pi - Complex.arg direction := by
  have turned : -conj direction ≠ 0 := neg_ne_zero.mpr ((map_ne_zero _).mpr nonzero)
  have im : (-conj direction).im = direction.im := by simp
  have norm : ‖-conj direction‖ = ‖direction‖ := by rw [norm_neg, Complex.norm_conj]
  rw [Complex.arg_of_im_nonneg_of_ne_zero (im ▸ up) turned,
    Complex.arg_of_im_nonneg_of_ne_zero up nonzero, norm, ← Real.arccos_neg, ← neg_div]
  simp

/-- The angle between two directions is the shorter way around. -/
theorem abs_toReal_eq_min {difference : ℝ} (range : |difference| ≤ 2 * Real.pi) :
    |(difference : Real.Angle).toReal| = min |difference| (2 * Real.pi - |difference|) := by
  have forward {difference : ℝ} (nonnegative : 0 ≤ difference)
      (range : difference ≤ 2 * Real.pi) :
      |(difference : Real.Angle).toReal| = min difference (2 * Real.pi - difference) := by
    by_cases short : difference ≤ Real.pi
    · rw [min_eq_left (by linarith)]
      exact Real.Angle.abs_toReal_coe_eq_self_iff.mpr ⟨nonnegative, short⟩
    · have around : (difference : Real.Angle) =
          -((2 * Real.pi - difference : ℝ) : Real.Angle) := by
        rw [← Real.Angle.coe_neg, Real.Angle.angle_eq_iff_two_pi_dvd_sub]
        exact ⟨1, by push_cast; ring⟩
      rw [min_eq_right (by linarith), around]
      exact Real.Angle.abs_toReal_neg_coe_eq_self_iff.mpr ⟨by linarith, by linarith⟩
  rcases le_total 0 difference with nonnegative | negative
  · rw [abs_of_nonneg nonnegative] at range ⊢
    exact forward nonnegative range
  · have backward : (difference : Real.Angle) = -((-difference : ℝ) : Real.Angle) := by
      rw [← Real.Angle.coe_neg, neg_neg]
    rw [abs_of_nonpos negative] at range ⊢
    rw [backward, Real.Angle.abs_toReal_neg]
    exact forward (by linarith) range

/-- A full turn in degrees. -/
theorem full_turn : 2 * Real.pi * (180 / Real.pi) = 360 := by
  field_simp
  norm_num

theorem arg_diagonal {size : ℝ} (positive : 0 < size) :
    Complex.arg ⟨size, size⟩ = Real.pi / 4 := by
  have right : |Complex.arg ⟨size, size⟩| < Real.pi / 2 :=
    Complex.abs_arg_lt_pi_div_two_iff.mpr (.inl positive)
  obtain ⟨lower, upper⟩ := abs_lt.mp right
  rw [← Real.arctan_tan lower upper, Complex.tan_arg, div_self positive.ne', Real.arctan_one]

/-! ## Directions of vectors -/

namespace Ned

/-- A vector with finite horizontal parts, not both of which are zero. -/
structure Directed (way : Ned) : Prop where
  north : way.north.isFinite = true
  east : way.east.isFinite = true
  nonzero : ¬((way.north == 0) = true ∧ (way.east == 0) = true)

/-- The horizontal part of a vector, with the east along the real axis. -/
def horizontal (way : Ned) : ℂ := ⟨units way.east, units way.north⟩

/-- The angle of a vector in radians, from east over north. A vector to the south has a negative
angle, and so has one to the west with a negative zero to the north. -/
noncomputable def azimuth (way : Ned) : ℝ :=
  if Single.signBit way.north then -Complex.arg (conj way.horizontal)
  else Complex.arg way.horizontal

/-- The vector turned around. -/
structure Turned (way turned : Ned) : Prop where
  north : turned.north = -way.north
  east : turned.east = -way.east

/-- How far the angles of two vectors are apart, in degrees and without taking the shorter way. -/
noncomputable def separation (way course : Ned) : ℝ :=
  |way.azimuth - course.azimuth| * (180 / Real.pi)

variable {way course turned turned' : Ned}

theorem Directed.horizontal_ne (directed : way.Directed) : way.horizontal ≠ 0 := by
  intro zero
  have north : (units way.north : ℝ) = 0 := congrArg Complex.im zero
  have east : (units way.east : ℝ) = 0 := congrArg Complex.re zero
  have none {x : Float32} (finite : x.isFinite = true) (counted : units x = 0) :
      (x == 0) = true := by
    by_contra nonzero
    exact Single.units_ne_zero finite nonzero counted
  exact directed.nonzero
    ⟨none directed.north (Int.cast_eq_zero.mp north), none directed.east (Int.cast_eq_zero.mp east)⟩

theorem Directed.reversed (directed : way.Directed) (around : way.Turned turned) :
    turned.Directed := by
  refine ⟨?_, ?_, ?_⟩
  · rw [around.north, Single.isFinite_neg, directed.north]
  · rw [around.east, Single.isFinite_neg, directed.east]
  · rw [around.north, around.east, Single.neg_beq_zero_iff, Single.neg_beq_zero_iff]
    exact directed.nonzero

theorem Turned.horizontal (around : way.Turned turned) : turned.horizontal = -way.horizontal := by
  apply Complex.ext
  · show (units turned.east : ℝ) = -units way.east
    rw [around.east, Single.units_neg]
    push_cast
    rfl
  · show (units turned.north : ℝ) = -units way.north
    rw [around.north, Single.units_neg]
    push_cast
    rfl

/-- The angle is that of the vector, up to full turns. -/
theorem azimuth_coe (way : Ned) : (way.azimuth : Real.Angle) = Complex.arg way.horizontal := by
  unfold azimuth
  split
  · rw [Real.Angle.coe_neg, Complex.arg_conj_coe_angle, neg_neg]
  · rfl

section

variable (directed : way.Directed)

include directed

theorem Directed.upward (forward : Single.signBit way.north = false) : 0 ≤ way.horizontal.im := by
  have north := (Single.units_of_signBit directed.north).1 forward
  exact Int.cast_nonneg north

theorem Directed.downward (backward : Single.signBit way.north = true) :
    0 ≤ (conj way.horizontal).im := by
  have north := (Single.units_of_signBit directed.north).2 backward
  have reversed : (units way.north : ℝ) ≤ 0 := by exact_mod_cast north
  exact neg_nonneg.mpr reversed

theorem Directed.azimuth_forward (forward : Single.signBit way.north = false) :
    0 ≤ way.azimuth ∧ way.azimuth ≤ Real.pi := by
  have value : way.azimuth = Complex.arg way.horizontal := if_neg (ne_true_of_eq_false forward)
  rw [value]
  exact ⟨Complex.arg_nonneg_iff.mpr (directed.upward forward), Complex.arg_le_pi _⟩

theorem Directed.azimuth_backward (backward : Single.signBit way.north = true) :
    -Real.pi ≤ way.azimuth ∧ way.azimuth ≤ 0 := by
  have value : way.azimuth = -Complex.arg (conj way.horizontal) := if_pos backward
  rw [value]
  exact ⟨neg_le_neg (Complex.arg_le_pi _),
    neg_nonpos.mpr (Complex.arg_nonneg_iff.mpr (directed.downward backward))⟩

theorem Directed.abs_azimuth_le : |way.azimuth| ≤ Real.pi := by
  cases sign : Single.signBit way.north with
  | false =>
      obtain ⟨least, most⟩ := directed.azimuth_forward sign
      rwa [abs_of_nonneg least]
  | true =>
      obtain ⟨least, most⟩ := directed.azimuth_backward sign
      rw [abs_of_nonpos most]
      linarith

/-- Turned around, a vector has an angle on the other side of the east. -/
theorem Directed.azimuth_turned (around : way.Turned turned) :
    turned.azimuth =
      if Single.signBit way.north then way.azimuth + Real.pi else way.azimuth - Real.pi := by
  have nonzero := directed.horizontal_ne
  have bit : Single.signBit turned.north = !Single.signBit way.north := by
    rw [around.north, Single.signBit_neg directed.north]
  unfold azimuth
  rw [bit, around.horizontal]
  cases sign : Single.signBit way.north with
  | false =>
      have turns := arg_neg_conj (directed.upward sign) nonzero
      simp only [Bool.not_false, if_true, Bool.false_eq_true, if_false, map_neg]
      rw [turns]
      ring
  | true =>
      have turns := arg_neg_conj (directed.downward sign) ((map_ne_zero _).mpr nonzero)
      rw [Complex.conj_conj] at turns
      simp only [Bool.not_true, if_true, Bool.false_eq_true, if_false]
      rw [turns]
      ring

end

section

variable (directed : way.Directed) (directed' : course.Directed)

include directed directed'

theorem abs_sub_azimuth_le : |way.azimuth - course.azimuth| ≤ 2 * Real.pi := by
  have first := directed.abs_azimuth_le
  have second := directed'.abs_azimuth_le
  have apart := abs_sub way.azimuth course.azimuth
  linarith

/-- **The angle between two vectors is the shorter way from one to the other.** -/
theorem angle_eq_min : angle way.horizontal course.horizontal * (180 / Real.pi) =
    min (separation way course) (360 - separation way course) := by
  have nonzero := directed.horizontal_ne
  have nonzero' := directed'.horizontal_ne
  have positive : (0 : ℝ) ≤ 180 / Real.pi := by positivity
  rw [Complex.angle_eq_abs_arg nonzero nonzero', ← Complex.arg_coe_angle_toReal_eq_arg,
    Complex.arg_div_coe_angle nonzero nonzero', ← azimuth_coe, ← azimuth_coe,
    ← Real.Angle.coe_sub, abs_toReal_eq_min (abs_sub_azimuth_le directed directed'),
    min_mul_of_nonneg _ _ positive, sub_mul, full_turn]
  rfl

/-- **Turning both vectors around keeps how far their angles are apart if they lie on the same side
of the east-west line**, and turns it into the rest of the circle otherwise. -/
theorem separation_turned (around : way.Turned turned) (around' : course.Turned turned') :
    separation turned turned' =
      if Single.signBit way.north = Single.signBit course.north then separation way course
      else 360 - separation way course := by
  unfold separation
  rw [directed.azimuth_turned around, directed'.azimuth_turned around', ← full_turn, ← sub_mul]
  cases sign : Single.signBit way.north <;> cases sign' : Single.signBit course.north
  · simp
  · obtain ⟨least, most⟩ := directed.azimuth_forward sign
    obtain ⟨least', most'⟩ := directed'.azimuth_backward sign'
    simp only [Bool.false_eq_true, if_false, if_true]
    rw [abs_of_nonpos (by linarith), abs_of_nonneg (by linarith)]
    ring
  · obtain ⟨least, most⟩ := directed.azimuth_backward sign
    obtain ⟨least', most'⟩ := directed'.azimuth_forward sign'
    simp only [Bool.true_eq_false, if_false, if_true, Bool.false_eq_true]
    rw [abs_of_nonneg (by linarith), abs_of_nonpos (by linarith)]
    ring
  · simp

end

end Ned

/-! ## The computed angle -/

namespace Trigonometry

/-- The angle of a vector as a library has it. -/
def azimuth (trigonometry : Trigonometry) (way : Ned) : Float32 :=
  trigonometry.arcTangent way.north way.east

/-- A library finds the angle of a vector, up to the last place of a half turn. -/
structure Finds (trigonometry : Trigonometry) (way : Ned) : Prop where
  number : (trigonometry.azimuth way).isNaN = false
  close : |value (trigonometry.azimuth way) - way.azimuth| ≤ 1 / 2 ^ 22

theorem finds_of_units {trigonometry : Trigonometry} {way : Ned} {count : ℤ} {exact : ℝ}
    (counted : (trigonometry.azimuth way).isNaN = false ∧ units (trigonometry.azimuth way) = count)
    (azimuth : way.azimuth = exact) (near : |count / 2 ^ 149 - exact| ≤ 1 / 2 ^ 22) :
    trigonometry.Finds way := by
  refine ⟨counted.1, ?_⟩
  rw [Single.value_eq, counted.2, azimuth]
  exact near

theorem Finds.finite {trigonometry : Trigonometry} {way : Ned} (finds : trigonometry.Finds way)
    (directed : way.Directed) : (trigonometry.azimuth way).isFinite = true := by
  have range := directed.abs_azimuth_le
  have upper := Real.pi_lt_d6
  have close := finds.close
  have through := abs_sub_abs_le_abs_sub (value (trigonometry.azimuth way)) way.azimuth
  refine Single.finite_of_abs_value finds.number ?_
  norm_num at close ⊢
  linarith

end Trigonometry

/-- A threshold that does not lie where rounding decides, nor does the end of the circle. -/
structure Clear (separation threshold : ℝ) : Prop where
  apart : 1 / 1000 < |separation - threshold|
  short : separation + 1 / 1000 < 360

namespace ActiveLeg

/-- The vector from the active waypoint to the next one. -/
def way (leg : ActiveLeg) : Ned := leg.nextWaypoint.position - leg.waypoint.position

/-- The difference of the computed angles, in degrees. -/
def computed (trigonometry : Trigonometry) (leg : ActiveLeg) (vehicle : VehicleSnapshot) :
    Float32 :=
  Single.toDegrees (trigonometry.azimuth leg.way - trigonometry.azimuth vehicle.velocity)

theorem pointsTowardsNextBy_eq (trigonometry : Trigonometry) (leg : ActiveLeg)
    (vehicle : VehicleSnapshot) :
    leg.pointsTowardsNextBy trigonometry vehicle =
      decide (Single.remainder (leg.computed trigonometry vehicle).abs 360 ≤ leg.threshold) :=
  rfl

theorem abs_sub_le_of_close {x y exact exact' error error' : ℝ} (first : |x - exact| ≤ error)
    (second : |y - exact'| ≤ error') : |x - y - (exact - exact')| ≤ error + error' := by
  have split : x - y - (exact - exact') = (x - exact) - (y - exact') := by ring
  rw [split]
  exact (abs_sub _ _).trans (add_le_add first second)

theorem degrees_per_radian : value Single.degreesPerRadian = 15019745 / 2 ^ 18 ∧
    |15019745 / 2 ^ 18 - 180 / Real.pi| ≤ 2 / 10 ^ 5 := by
  have counted : units Single.degreesPerRadian = 15019745 * 2 ^ 131 := by decide +kernel
  have lower := Real.pi_gt_d6
  have upper := Real.pi_lt_d6
  have positive := Real.pi_pos
  refine ⟨?_, ?_⟩
  · rw [Single.value_eq, counted]
    norm_num
  · rw [abs_le, sub_le_iff_le_add, neg_le_sub_iff_le_add, div_le_iff₀ positive,
      ← sub_le_iff_le_add', le_div_iff₀ positive]
    constructor <;> nlinarith

theorem abs_mul_sub_mul_le (x exact factor factor' : ℝ) :
    |x * factor - exact * factor'| ≤ |x - exact| * |factor| + |exact| * |factor - factor'| := by
  have split : x * factor - exact * factor' =
      (x - exact) * factor + exact * (factor - factor') := by ring
  rw [split, ← abs_mul, ← abs_mul]
  exact abs_add_le _ _

section

variable {trigonometry : Trigonometry} {leg : ActiveLeg} {vehicle : VehicleSnapshot}
  (directed : leg.way.Directed) (directed' : vehicle.velocity.Directed)
  (finds : trigonometry.Finds leg.way) (finds' : trigonometry.Finds vehicle.velocity)

include directed directed' finds finds'

/-- **The computed difference is off by less than a thousandth of a degree.** -/
theorem computed_close :
    (leg.computed trigonometry vehicle).isNaN = false ∧
      |value (leg.computed trigonometry vehicle) -
        (leg.way.azimuth - vehicle.velocity.azimuth) * (180 / Real.pi)| ≤ 1 / 1000 := by
  have finite := finds.finite directed
  have finite' := finds'.finite directed'
  have range := Ned.abs_sub_azimuth_le directed directed'
  have upper := Real.pi_lt_d6
  obtain ⟨scale, scaled⟩ := degrees_per_radian
  have angles := abs_sub_le_of_close finds.close finds'.close
  unfold computed Single.toDegrees
  generalize trigonometry.azimuth leg.way = legAngle at finite angles ⊢
  generalize trigonometry.azimuth vehicle.velocity = courseAngle at finite' angles ⊢
  generalize leg.way.azimuth - vehicle.velocity.azimuth = exact at range angles ⊢
  have negated : (-courseAngle).isFinite = true := (Single.isFinite_neg _).trans finite'
  have short : |value legAngle + value (-courseAngle)| ≤ 2 ^ 3 := by
    rw [Single.value_neg, ← sub_eq_add_neg]
    have through := abs_sub_abs_le_abs_sub (value legAngle - value courseAngle) exact
    norm_num at angles ⊢
    linarith
  have subtracted := Single.add_error finite negated short (by decide)
  have number := (Single.add_nearest finite negated).number
  rw [Single.add_neg] at subtracted number
  rw [Single.value_neg, ← sub_eq_add_neg] at subtracted
  have difference : |value (legAngle - courseAngle) - exact| ≤ 1 / 2 ^ 20 := by
    have through := abs_sub_le (value (legAngle - courseAngle))
      (value legAngle - value courseAngle) exact
    norm_num at subtracted angles ⊢
    linarith
  have reach : |value (legAngle - courseAngle)| ≤ 7 := by
    have through := abs_sub_abs_le_abs_sub (value (legAngle - courseAngle)) exact
    norm_num at difference
    linarith
  have bounded : (legAngle - courseAngle).isFinite = true := by
    refine Single.finite_of_abs_value number ?_
    norm_num
    linarith
  have wide : |value (legAngle - courseAngle) * value Single.degreesPerRadian| ≤ 2 ^ 9 := by
    rw [abs_mul, scale]
    norm_num
    linarith
  have factor : Single.degreesPerRadian.isFinite = true := by decide +kernel
  have multiplied := Single.mul_error bounded factor wide (by decide)
  refine ⟨(Single.mul_nearest bounded factor).number, ?_⟩
  have spread := abs_mul_sub_mul_le (value (legAngle - courseAngle)) exact
    (value Single.degreesPerRadian) (180 / Real.pi)
  have through := abs_sub_le (value ((legAngle - courseAngle) * Single.degreesPerRadian))
    (value (legAngle - courseAngle) * value Single.degreesPerRadian) (exact * (180 / Real.pi))
  have drift : |exact| * |15019745 / 2 ^ 18 - 180 / Real.pi| ≤ 7 * (2 / 10 ^ 5) :=
    mul_le_mul (by linarith) scaled (abs_nonneg _) (by norm_num)
  rw [scale, abs_of_pos (show (0 : ℝ) < 15019745 / 2 ^ 18 by norm_num)] at spread
  rw [scale] at multiplied through
  calc
    _ ≤ _ := through
    _ ≤ 2 ^ 9 / 2 ^ 24 + (1 / 2 ^ 20 * (15019745 / 2 ^ 18) + 7 * (2 / 10 ^ 5)) := by
      refine add_le_add multiplied (spread.trans (add_le_add ?_ drift))
      exact mul_le_mul_of_nonneg_right difference (by norm_num)
    _ ≤ 1 / 1000 := by norm_num

/-- **The condition compares how far the two angles are apart**, not the angle between the two
directions. -/
theorem pointsTowardsNextBy_iff (number : leg.threshold.isNaN = false)
    (clear : Clear (leg.way.separation vehicle.velocity) (value leg.threshold)) :
    leg.pointsTowardsNextBy trigonometry vehicle = true ↔
      leg.way.separation vehicle.velocity ≤ value leg.threshold := by
  obtain ⟨ordinary, close⟩ := computed_close directed directed' finds finds'
  have near : |(|value (leg.computed trigonometry vehicle)|) -
      leg.way.separation vehicle.velocity| ≤ 1 / 1000 := by
    have positive : (0 : ℝ) ≤ 180 / Real.pi := by positivity
    unfold Ned.separation
    rw [← abs_of_nonneg positive, ← abs_mul]
    exact (abs_abs_sub_abs_le _ _).trans close
  have whole : (360 : Float32).isFinite = true ∧ units 360 = 360 * 2 ^ 149 := by decide +kernel
  have circle : value 360 = 360 := by
    rw [Single.value_eq, whole.2]
    norm_num
  rw [pointsTowardsNextBy_eq, decide_eq_true_iff]
  generalize leg.computed trigonometry vehicle = computed at ordinary near ⊢
  obtain ⟨least, most⟩ := abs_le.mp near
  have apart := clear.apart
  have short := clear.short
  have finite : computed.isFinite = true := by
    refine Single.finite_of_abs_value ordinary ?_
    norm_num
    linarith
  have less : |units computed| < |units 360| := by
    rw [← Single.units_abs, ← Single.units_abs, ← not_le, ← Single.value_le_value,
      Single.value_abs, Single.value_abs, circle]
    norm_num
    linarith
  obtain ⟨number', counted⟩ := Single.units_remainder_abs finite whole.1 less
  have reduced : value (Single.remainder computed.abs 360) = |value computed| := by
    rw [← Single.value_abs, Single.value_eq, Single.value_eq, counted, Single.units_abs]
  rw [Single.le_iff_units, ← Single.value_le_value, reduced]
  constructor
  · rintro ⟨-, -, order⟩
    by_contra beyond
    rw [abs_of_pos (by linarith)] at apart
    linarith
  · intro order
    rw [abs_of_nonpos (by linarith)] at apart
    exact ⟨number', number, by linarith⟩

end

/-! ## A leg to the southeast -/

/-- The angles of diagonal vectors, as a library finds them. -/
def diagonalAngles : Trigonometry where
  arcTangent north east :=
    let angle := Float32.ofBits (if 0 < east then 0x3f490fdb else 0x4016cbe4)
    if 0 < north then angle else -angle
  sine _ := 0
  cosine _ := 0

/-- A leg along a diagonal, with 120 degrees allowed. -/
def diagonalLeg (north east : UInt32) : ActiveLeg where
  index := 0
  waypoint := {}
  nextWaypoint := { north := ⟨north⟩, east := ⟨east⟩ }
  action :=
    { condition := .pointingTowardsNext
      conditionParameters := #v[⟨0x42f00000⟩, {}, {}, {}] }

def southeast : ActiveLeg := diagonalLeg 0xbf800000 0x3f800000

def northwest : ActiveLeg := diagonalLeg 0x3f800000 0xbf800000

def northeastCourse : VehicleSnapshot := { velocity := ⟨1, 1, 0⟩ }

def southwestCourse : VehicleSnapshot := { velocity := ⟨-1, -1, 0⟩ }

theorem diagonals_directed : southeast.way.Directed ∧ northeastCourse.velocity.Directed :=
  ⟨⟨by decide +kernel, by decide +kernel, by decide +kernel⟩,
    ⟨by decide +kernel, by decide +kernel, by decide +kernel⟩⟩

theorem diagonals_turned : southeast.way.Turned northwest.way ∧
    northeastCourse.velocity.Turned southwestCourse.velocity :=
  ⟨⟨by decide +kernel, by decide +kernel⟩, ⟨by decide +kernel, by decide +kernel⟩⟩

theorem diagonals_azimuth : southeast.way.azimuth = -(Real.pi / 4) ∧
    northeastCourse.velocity.azimuth = Real.pi / 4 := by
  have counted : Single.signBit southeast.way.north = true ∧
      units southeast.way.north = -2 ^ 149 ∧ units southeast.way.east = 2 ^ 149 ∧
      Single.signBit northeastCourse.velocity.north = false ∧
      units northeastCourse.velocity.north = 2 ^ 149 ∧
      units northeastCourse.velocity.east = 2 ^ 149 := by decide +kernel
  obtain ⟨south, down, right, north, up, right'⟩ := counted
  have diagonal := arg_diagonal (show (0 : ℝ) < 2 ^ 149 by positivity)
  have mirrored : conj southeast.way.horizontal = ⟨2 ^ 149, 2 ^ 149⟩ := by
    apply Complex.ext
    · show (units southeast.way.east : ℝ) = 2 ^ 149
      rw [right]
      norm_num
    · show -(units southeast.way.north : ℝ) = 2 ^ 149
      rw [down]
      norm_num
  have upright : northeastCourse.velocity.horizontal = ⟨2 ^ 149, 2 ^ 149⟩ := by
    unfold Ned.horizontal
    rw [up, right']
    norm_num
  unfold Ned.azimuth
  rw [south, north, mirrored, upright, diagonal]
  exact ⟨rfl, rfl⟩

theorem diagonals_found : ∀ way ∈ [southeast.way, northeastCourse.velocity, northwest.way,
    southwestCourse.velocity], diagonalAngles.Finds way := by
  obtain ⟨leg, course⟩ := diagonals_azimuth
  obtain ⟨directed, directed'⟩ := diagonals_directed
  obtain ⟨around, around'⟩ := diagonals_turned
  have signs : Single.signBit southeast.way.north = true ∧
      Single.signBit northeastCourse.velocity.north = false := by decide +kernel
  have leg' := directed.azimuth_turned around
  have course' := directed'.azimuth_turned around'
  rw [if_pos signs.1, leg] at leg'
  rw [if_neg (ne_true_of_eq_false signs.2), course] at course'
  have lower := Real.pi_gt_d20
  have upper := Real.pi_lt_d20
  have counted :
      ((diagonalAngles.azimuth southeast.way).isNaN = false ∧
        units (diagonalAngles.azimuth southeast.way) = -(13176795 * 2 ^ 125)) ∧
      ((diagonalAngles.azimuth northeastCourse.velocity).isNaN = false ∧
        units (diagonalAngles.azimuth northeastCourse.velocity) = 13176795 * 2 ^ 125) ∧
      ((diagonalAngles.azimuth northwest.way).isNaN = false ∧
        units (diagonalAngles.azimuth northwest.way) = 9882596 * 2 ^ 127) ∧
      (diagonalAngles.azimuth southwestCourse.velocity).isNaN = false ∧
        units (diagonalAngles.azimuth southwestCourse.velocity) = -(9882596 * 2 ^ 127) := by
    decide +kernel
  obtain ⟨first, second, third, fourth⟩ := counted
  simp only [List.forall_mem_cons, List.not_mem_nil, false_implies, implies_true, and_true]
  refine ⟨Trigonometry.finds_of_units first leg ?_, Trigonometry.finds_of_units second course ?_,
    Trigonometry.finds_of_units third leg' ?_, Trigonometry.finds_of_units fourth course' ?_⟩ <;>
  · rw [abs_le]
    push_cast
    constructor <;> linarith

theorem diagonals_clear : southeast.way.separation northeastCourse.velocity = 90 ∧
    value southeast.threshold = 120 ∧
    Clear (southeast.way.separation northeastCourse.velocity) (value southeast.threshold) ∧
    Clear (northwest.way.separation southwestCourse.velocity) (value southeast.threshold) := by
  obtain ⟨leg, course⟩ := diagonals_azimuth
  obtain ⟨directed, directed'⟩ := diagonals_directed
  obtain ⟨around, around'⟩ := diagonals_turned
  have counted : units southeast.threshold = 120 * 2 ^ 149 ∧
      ¬Single.signBit southeast.way.north = Single.signBit northeastCourse.velocity.north := by
    decide +kernel
  have allowed : value southeast.threshold = 120 := by
    rw [Single.value_eq, counted.1]
    norm_num
  have apart : southeast.way.separation northeastCourse.velocity = 90 := by
    have positive := Real.pi_pos
    unfold Ned.separation
    rw [leg, course, abs_of_neg (by linarith)]
    field_simp
    norm_num
  have turned := Ned.separation_turned directed directed' around around'
  rw [if_neg counted.2, apart] at turned
  rw [turned, apart, allowed]
  refine ⟨rfl, rfl, ⟨?_, ?_⟩, ⟨?_, ?_⟩⟩ <;> norm_num

/-! ## Turning around -/

/-- **Half a turn of the leg and of the course changes the answer if they lie on different sides of
the east-west line and the angle on one side of the circle is allowed, but not the one on the
other.** The condition accepts a course as long as the two angles, from -180 to 180 degrees, are no
further apart than allowed. So it accepts every course within the allowed angle of the leg, unless
the way to it leads over the west. -/
theorem turnedAround_iff {trigonometry : Trigonometry} {leg leg' : ActiveLeg}
    {vehicle vehicle' : VehicleSnapshot} (directed : leg.way.Directed)
    (directed' : vehicle.velocity.Directed) (around : leg.way.Turned leg'.way)
    (around' : vehicle.velocity.Turned vehicle'.velocity)
    (finds : ∀ way ∈ [leg.way, vehicle.velocity, leg'.way, vehicle'.velocity],
      trigonometry.Finds way)
    (same : leg'.threshold = leg.threshold) (number : leg.threshold.isNaN = false)
    (clear : Clear (leg.way.separation vehicle.velocity) (value leg.threshold))
    (clear' : Clear (leg'.way.separation vehicle'.velocity) (value leg.threshold)) :
    let apart := leg.way.separation vehicle.velocity
    let allowed := value leg.threshold
    (leg.pointsTowardsNextBy trigonometry vehicle = true ↔ apart ≤ allowed) ∧
    (leg'.pointsTowardsNextBy trigonometry vehicle' =
        leg.pointsTowardsNextBy trigonometry vehicle ↔
      Single.signBit leg.way.north = Single.signBit vehicle.velocity.north ∨
        (apart ≤ allowed ↔ 360 - apart ≤ allowed)) ∧
    ((leg.pointsTowardsNextBy trigonometry vehicle = true ↔
        angle leg.way.horizontal vehicle.velocity.horizontal * (180 / Real.pi) ≤ allowed) ↔
      (360 - apart ≤ allowed → apart ≤ allowed)) := by
  intro apart allowed
  simp only [List.forall_mem_cons, List.not_mem_nil, false_implies, implies_true, and_true] at finds
  obtain ⟨first, second, third, fourth⟩ := finds
  have accepts := pointsTowardsNextBy_iff directed directed' first second number clear
  have accepts' : leg'.pointsTowardsNextBy trigonometry vehicle' = true ↔
      leg'.way.separation vehicle'.velocity ≤ allowed := by
    have reversed := pointsTowardsNextBy_iff (directed.reversed around) (directed'.reversed around')
      third fourth (same ▸ number) (same ▸ clear')
    rwa [same] at reversed
  rw [Ned.separation_turned directed directed' around around'] at accepts'
  refine ⟨accepts, ?_, ?_⟩
  · rw [Bool.eq_iff_iff, accepts, accepts']
    by_cases alike : Single.signBit leg.way.north = Single.signBit vehicle.velocity.north
    · rw [if_pos alike]
      exact iff_of_true Iff.rfl (.inl alike)
    · rw [if_neg alike]
      exact ⟨fun agree => .inr agree.symm, fun either => (either.resolve_left alike).symm⟩
  · rw [accepts, Ned.angle_eq_min directed directed', min_le_iff]
    exact ⟨fun agrees within => agrees.mpr (.inr within), fun shorter =>
      ⟨.inl, fun within => within.elim id shorter⟩⟩

/-- The course to the northeast is accepted for the leg to the southeast, but not the course to the
southwest for the leg to the northwest. -/
theorem turnedAround_iff_southeast :
    southeast.pointsTowardsNextBy diagonalAngles northeastCourse = true ∧
      ¬northwest.pointsTowardsNextBy diagonalAngles southwestCourse =
        southeast.pointsTowardsNextBy diagonalAngles northeastCourse := by
  obtain ⟨directed, directed'⟩ := diagonals_directed
  obtain ⟨around, around'⟩ := diagonals_turned
  obtain ⟨apart, allowed, clear, clear'⟩ := diagonals_clear
  obtain ⟨accepts, agrees, -⟩ := turnedAround_iff directed directed' around around' diagonals_found
    rfl (by decide +kernel) clear clear'
  rw [apart, allowed] at accepts agrees
  refine ⟨accepts.mpr (by norm_num), fun agree => ?_⟩
  rcases agrees.mp agree with alike | rest
  · exact absurd alike (by decide +kernel)
  · exact absurd (rest.mp (by norm_num)) (by norm_num)

/-- Both courses are a quarter turn off their legs, which is allowed. -/
theorem quarterTurn_rejected :
    angle northwest.way.horizontal southwestCourse.velocity.horizontal * (180 / Real.pi) ≤
        value northwest.threshold ∧
      southeast.way.Turned northwest.way ∧
      northeastCourse.velocity.Turned southwestCourse.velocity ∧
      southeast.pointsTowardsNextBy diagonalAngles northeastCourse = true ∧
      northwest.pointsTowardsNextBy diagonalAngles southwestCourse = false := by
  obtain ⟨directed, directed'⟩ := diagonals_directed
  obtain ⟨around, around'⟩ := diagonals_turned
  obtain ⟨apart, allowed, -⟩ := diagonals_clear
  have answers : southeast.pointsTowardsNextBy diagonalAngles northeastCourse = true ∧
      northwest.pointsTowardsNextBy diagonalAngles southwestCourse = false ∧
      ¬Single.signBit southeast.way.north = Single.signBit northeastCourse.velocity.north := by
    decide +kernel
  have turned := Ned.separation_turned directed directed' around around'
  rw [if_neg answers.2.2, apart] at turned
  refine ⟨?_, around, around', answers.1, answers.2.1⟩
  rw [Ned.angle_eq_min (directed.reversed around) (directed'.reversed around'), turned]
  exact (min_le_right _ _).trans ((by norm_num : (360 : ℝ) - (360 - 90) ≤ 120).trans allowed.ge)

end ActiveLeg

end FlightGuidance
