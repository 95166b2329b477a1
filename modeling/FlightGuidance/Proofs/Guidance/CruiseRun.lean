import FlightGuidance.Proofs.Guidance.VarioRun
import FlightGuidance.Proofs.Single.Remainder
import FlightGuidance.Proofs.Stick.Deadband
import Mathlib.Analysis.SpecialFunctions.Complex.Arg

/-!
# The course of a cruise

A cruise keeps its course nowhere but in its target: the next heading is the direction from the held
point to where the target ends. This module follows a cruise while the vehicle stays at its position
and nobody steers (`Cruising.fly`), with any library of angles that keeps to what is documented of
all of them (`Trigonometry.Documented`). All bounds are crude, since they only have to keep every
quantity a number.

The thrust scales the way to the next target and is held above zero, so that the way has a direction
at all times. Away from the axes of the local frame that is not enough: at the least speed the way
is less than half of the last place of the coordinates, the target ends at the held point, and from
there every later target lies due north (`Northward.cruise`). So the course is lost for good once
the throttle has been closed (`closedThrottle_leads_north`).
-/

set_option autoImplicit false

namespace FlightGuidance

open Single (Within Below power grid_power power_lt_top)

/-! ## Sines of the table -/

namespace Degrees

variable {angle : Float32}

theorem quarterTable_below : ∀ lower : Fin 91, Below 0 quarterTable[lower.val] := by
  decide +kernel

theorem quarterTable_chord : ∀ lower : Fin 90,
    Below 0 (quarterTable[lower.val + 1] - quarterTable[lower.val]) := by
  decide +kernel

/-- The chord on which a sine lies. -/
theorem quarterSine_eq (angle : Float32) : ∃ lower : Fin 90,
    quarterSine angle = quarterTable[lower.val] +
      (quarterTable[lower.val + 1] - quarterTable[lower.val]) *
        (angle - Float32.ofNat lower.val) := by
  refine ⟨⟨Nat.min angle.toUInt8.toNat 89, Nat.lt_succ_of_le (Nat.min_le_right _ _)⟩, ?_⟩
  unfold quarterSine
  with_reducible rfl

theorem quarterSine_below (below : Below 11 angle) : Below 13 (quarterSine angle) := by
  obtain ⟨lower, chord⟩ := quarterSine_eq angle
  have start : Below 11 (Float32.ofNat lower.val) := by
    have few := lower.isLt
    obtain ⟨counted, finite⟩ := Single.units_ofNat (show lower.val < 2 ^ 24 by omega)
    refine ⟨(Single.ordinary_of_finite finite).1, ?_⟩
    have order : lower.val * 2 ^ 149 ≤ power 11 :=
      (Nat.mul_le_mul_right _ few.le).trans (by decide)
    have magnitude : |(lower.val * 2 ^ 149 : ℤ)| = ((lower.val * 2 ^ 149 : ℕ) : ℤ) := by
      push_cast
      exact abs_of_nonneg (by positivity)
    rw [counted, magnitude]
    exact Int.ofNat_le.mpr order
  have fraction : Below 12 (angle - Float32.ofNat lower.val) := below.sub start (by decide)
  have rise := (quarterTable_chord lower).mul fraction (by decide)
  have foot := quarterTable_below ⟨lower.val, by omega⟩
  rw [chord]
  exact Below.add (foot.mono (by decide)) rise (by decide)

/-- No sine of the table is large, whatever the angle is. -/
theorem sine_below (angle : Float32) : Below 13 (sine angle) := by
  have circle : (360 : Float32).isFinite = true ∧ ¬((360 : Float32) == 0) = true ∧
      Below 9 360 ∧ Below 8 180 ∧ Below 0 0 ∧ 0 < |Single.units 360| := by decide +kernel
  obtain ⟨whole, nonzero, turn, half, none, positive⟩ := circle
  unfold sine
  split
  · exact none.mono (by decide)
  next finite =>
    rw [Bool.not_eq_true, Bool.not_eq_false'] at finite
    obtain ⟨number, magnitude, -⟩ := Single.abs_units_remainder finite whole nonzero
    have reduced : Below 9 (Single.remainder angle 360) := by
      refine ⟨number, ?_⟩
      rw [magnitude]
      exact (Int.emod_lt_of_pos _ positive).le.trans turn.bounded
    have turned : Below 10 (if Single.remainder angle 360 < 0 then
        Single.remainder angle 360 + 360 else Single.remainder angle 360) := by
      split
      · exact reduced.add turn (by decide)
      · exact reduced.mono (by decide)
    dsimp only
    generalize (if Single.remainder angle 360 < 0 then
      Single.remainder angle 360 + 360 else Single.remainder angle 360) = within at turned ⊢
    split
    · exact quarterSine_below (turned.mono (by decide))
    · split
      · exact quarterSine_below (Below.sub (half.mono (by decide)) turned (by decide))
      · split
        · exact (quarterSine_below (turned.sub (half.mono (by decide)) (by decide))).neg
        · have rest := Below.sub (turn.mono (by decide)) turned (by decide)
          have chosen : Below 11 (Single.max (360 - within) 0) := by
            unfold Single.max
            split
            · exact none.mono (by decide)
            · split
              · exact none.mono (by decide)
              · exact rest
          exact (quarterSine_below chosen).neg

end Degrees

/-! ## The averaged step time -/

/-- An average that began at a number and weighs its intervals. -/
structure StepTime.Paced (time : StepTime) : Prop where
  expected : time.expected.isNaN = false
  low : time.bounds.low = 1e-6
  high : time.bounds.high = 1
  gain : Within (3 * 2 ^ 141) time.average.gain
  retention : Within (127 * 2 ^ 142) time.average.retention
  output : Below 1 time.average.output

theorem Micros.isNaN_toSeconds (duration : Micros) : duration.toSeconds.isNaN = false := by
  have counted : Single.Nearest ((duration.toNat : ℤ) * 2 ^ ((0 : ℤ) + 149))
      duration.toFloat32.toModel.unpack := Single.normalize_nearest _ 0 .positive
  have scales : (0 : Float32) < 1e-6 ∧ (1e-6 : Float32).isFinite = true := by decide +kernel
  exact (Single.mul_rounds scales.1 scales.2).number counted.number

theorem StepTime.Paced.call {time : StepTime} (paced : time.Paced) (now : Micros) :
    (time.call now).Paced := by
  obtain ⟨expected, low, high, gain, retention, output⟩ := paced
  refine ⟨expected, low, high, gain, retention, ?_⟩
  have weighed (interval : Float32) (number : interval.isNaN = false) :
      Below 1 (time.average.update (time.bounds.clamp interval)).output := by
    have ends : (1e-6 : Float32) ≤ 1 ∧ (-1 : Float32) ≤ 1e-6 ∧ Single.units 1 = power 0 := by
      decide +kernel
    have least := Single.low_le_clamp ends.1 number
    have most := Single.clamp_le_high ends.1 number
    have clamped : Below 0 (time.bounds.clamp interval) := by
      unfold Bounds.clamp
      rw [low, high]
      exact Single.within_of_le (Single.le_trans ends.2.1 least) most ends.2.2
    have fresh : Within (3 * 2 ^ 141) (time.average.gain * time.bounds.clamp interval) :=
      gain.mul clamped (by decide) (power_lt_top (by decide)) ⟨⟨3, 141, by decide, rfl⟩, by decide⟩
        (by decide)
    have kept : Within (127 * 2 ^ 143) (time.average.retention * time.average.output) :=
      retention.mul output (by decide) (power_lt_top (by decide))
        ⟨⟨127, 143, by decide, rfl⟩, by decide⟩ (by decide)
    exact fresh.add kept (by decide) (by decide) (grid_power (by decide)) (by decide)
  unfold StepTime.call
  split
  · exact weighed _ (Micros.isNaN_toSeconds _)
  · exact weighed _ expected

/-! ## Directions -/

theorem Stick.beyondDeadband_of_within {axis : Float32} (released : outside axis = false) :
    beyondDeadband axis = 0 := by
  have within := mt (outside_iff axis).mpr (ne_true_of_eq_false released)
  rw [not_or] at within
  rw [beyondDeadband_eq, travel_within within.1 within.2]
  rfl

namespace StickFlight

/-- A vector of at most a power of two along each axis. -/
structure Small (exponent : ℕ) (way : Ned) : Prop where
  north : Below exponent way.north
  east : Below exponent way.east
  down : Below exponent way.down

/-- The length by which a way is divided. -/
def divisor (way : Ned) : Float32 := if way.norm < 1e-9 then 1 else way.norm

theorem direction_eq (way : Ned) : direction way = way.divide (divisor way) := rfl

theorem divisor_pos {way : Ned} (small : Small 15 way) : 0 < divisor way := by
  obtain ⟨north, east, down⟩ := small
  have squares : Below 31 (way.north * way.north + way.east * way.east) :=
    (north.mul north (by decide)).add (east.mul east (by decide)) (by decide)
  have sum : Below 32 (way.dot way) :=
    squares.add ((down.mul down (by decide)).mono (by decide)) (by decide)
  have first : 0 ≤ Single.units (way.north * way.north + way.east * way.east) := by
    refine (Single.add_nearest ((north.mul north (by decide)).finite (by decide))
      ((east.mul east (by decide)).finite (by decide))).nonneg ?_
    have square := Single.square_nonneg (north.finite (by decide))
    have square' := Single.square_nonneg (east.finite (by decide))
    exact_mod_cast Int.add_nonneg square square'
  have second : 0 ≤ Single.units (way.dot way) := by
    refine (Single.add_nearest (squares.finite (by decide))
      ((down.mul down (by decide)).finite (by decide))).nonneg ?_
    have square := Single.square_nonneg (down.finite (by decide))
    exact_mod_cast Int.add_nonneg first square
  have number : way.norm.isNaN = false := Single.isNaN_sqrt (sum.finite (by decide)) second
  have scales : (0 : Float32) < 1 ∧ (0 : Float32) < 1e-9 ∧ (1e-9 : Float32).isNaN = false := by
    decide +kernel
  unfold divisor
  split
  · exact scales.1
  next long => exact Single.lt_of_lt_of_le scales.2.1 (Single.le_of_not_lt scales.2.2 number long)

/-- The parts of a direction are numbers. -/
theorem direction_number {way : Ned} (small : Small 15 way) :
    (direction way).north.isNaN = false ∧ (direction way).east.isNaN = false := by
  obtain ⟨zero, number, -⟩ := Single.lt_iff.mp (divisor_pos small)
  have nonzero : ¬(divisor way == 0) = true := fun none =>
    (Single.lt_iff_units.mp (divisor_pos small)).2.2.ne' (Single.beq_iff_units.mp none).2.2
  rw [direction_eq]
  exact ⟨Single.isNaN_div (small.north.finite (by decide)) number nonzero,
    Single.isNaN_div (small.east.finite (by decide)) number nonzero⟩

/-- No progress has been made where the vehicle is at the held point. -/
theorem advance_self {point : Ned} (small : Small 10 point) (heading : Ned) :
    advance point point heading = point := by
  have none {x : Float32} (below : Below 10 x) : x - x = 0 :=
    Single.sub_eq_zero (below.finite (by decide)) rfl
  refine if_neg (Single.Void.not_pos ?_)
  show Single.Void (((point.north - point.north) * heading.north +
    (point.east - point.east) * heading.east +
    (point.down - point.down) * heading.down).toModel.unpack)
  rw [none small.north, none small.east, none small.down]
  exact ((Single.void_zero_mul _).add (Single.void_zero_mul _)).add (Single.void_zero_mul _)

end StickFlight

/-! ## The library of angles -/

/-- What is documented of the angles of every library: they lie within a turn, sines and cosines
within one, and straight ahead all of them are exact. -/
structure Trigonometry.Documented (trigonometry : Trigonometry) : Prop where
  arcTangent : ∀ {east north : Float32}, east.isNaN = false → north.isNaN = false →
    Within (4 * 2 ^ 149) (trigonometry.arcTangent east north)
  sine : ∀ {angle : Float32}, angle.isFinite = true → Below 0 (trigonometry.sine angle)
  cosine : ∀ {angle : Float32}, angle.isFinite = true → Below 0 (trigonometry.cosine angle)
  ahead : ∀ {north : Float32}, north.isNaN = false → Single.signBit north = false →
    trigonometry.arcTangent 0 north = 0
  sine_zero : trigonometry.sine 0 = 0
  cosine_zero : trigonometry.cosine 0 = 1

namespace StickFlight

/-! ## One tick -/

/-- What one tick of a cruise meets. Of these records the target does not count, since it is the one
that the previous tick has left. -/
structure CruiseInput where
  board : Blackboard
  now : Micros

namespace CruiseInput

variable (input : CruiseInput)

/-- The share of the full speed. -/
def speed : Float32 := Single.clamp input.board.command.value.thrust 1e-6 1

/-- The vehicle is at the position, nobody steers it, and the thrust is anywhere in its range. -/
structure Hovers (position : Ned) : Prop where
  position : input.board.position.value = position
  settings : input.board.modeSettings.value = {}
  pitch : Stick.outside input.board.command.value.pitch = false
  yaw : Stick.outside input.board.command.value.yaw = false
  low : 0 ≤ input.board.command.value.thrust
  high : input.board.command.value.thrust ≤ 1

end CruiseInput

/-- A cruise that has just been engaged. -/
def engagedCruise (flight : StickFlight) (board : Blackboard) : Flown :=
  ⟨(flight.engageCruise board).1, (flight.engageCruise board).2.target⟩

namespace Flown

variable (trigonometry : Trigonometry) (flown : Flown) (input : CruiseInput)

def cruise : Flown :=
  let board := { input.board with target := flown.target }
  ⟨(flown.flight.runCruiseBy trigonometry board input.now).1,
    (flown.flight.runCruiseBy trigonometry board input.now).2.target⟩

/-- The direction in which the target lies. -/
def heading : Ned := StickFlight.direction (flown.target.value.stop - flown.flight.heldPoint)

/-- The angle of the next target, in radians. -/
def angle : Float32 :=
  Single.toRadians
    (Single.toDegrees (trigonometry.arcTangent flown.heading.east flown.heading.north) +
      turnRate * Stick.beyondDeadband input.board.command.value.yaw *
        (flown.flight.cruiseTime.call input.now).average.output)

/-- The way to the next target. -/
def travel : Ned :=
  let offset := input.board.modeSettings.value.holdOffset
  ⟨trigonometry.cosine (flown.angle trigonometry input) * offset.horizontal * input.speed,
    trigonometry.sine (flown.angle trigonometry input) * offset.horizontal * input.speed,
    -Stick.beyondDeadband input.board.command.value.pitch * offset.vertical * input.speed⟩

/-- Ticks one after the other. -/
def fly (inputs : List CruiseInput) : Flown := inputs.foldl (cruise trigonometry) flown

theorem heldPoint_cruise :
    (flown.cruise trigonometry input).flight.heldPoint =
      advance flown.flight.heldPoint input.board.position.value flown.heading :=
  rfl

theorem stop_cruise :
    (flown.cruise trigonometry input).target.value.stop =
      (flown.cruise trigonometry input).flight.heldPoint + flown.travel trigonometry input :=
  rfl

end Flown

namespace CruiseInput.Hovers

variable {input : CruiseInput} {position : Ned} (hovers : input.Hovers position)

include hovers

/-- The speed is never zero, so that the target keeps a direction. -/
theorem speed_range : 1e-6 ≤ input.speed ∧ input.speed ≤ 1 := by
  have ends : (1e-6 : Float32) ≤ 1 := by decide +kernel
  have number := (Single.le_iff.mp hovers.high).1
  exact ⟨Single.low_le_clamp ends number, Single.clamp_le_high ends number⟩

theorem speed_below : Below 0 input.speed := by
  have ends : (-1 : Float32) ≤ 1e-6 ∧ Single.units 1 = power 0 := by decide +kernel
  exact Single.within_of_le (Single.le_trans ends.1 hovers.speed_range.1) hovers.speed_range.2
    ends.2

theorem turn_none {time : StepTime} (paced : time.Paced) :
    Within 0 (turnRate * Stick.beyondDeadband input.board.command.value.yaw *
      time.average.output) := by
  have still : Within 0 (turnRate * 0) := by decide +kernel
  rw [Stick.beyondDeadband_of_within hovers.yaw]
  exact still.mul paced.output (by decide) (power_lt_top (by decide))
    (Single.grid_of_lt (by decide)) (by decide)

end CruiseInput.Hovers

/-! ## A cruise at a position -/

/-- A cruise at a position at which the vehicle has been since it was engaged. -/
structure Cruising (position : Ned) (flown : Flown) : Prop where
  heldPoint : flown.flight.heldPoint = position
  stop : Small 14 flown.target.value.stop
  paced : flown.flight.cruiseTime.Paced

namespace Cruising

variable {trigonometry : Trigonometry} (documented : trigonometry.Documented) {position : Ned}
  (small : Small 10 position) {flown : Flown} (cruising : Cruising position flown)
  {input : CruiseInput} (hovers : input.Hovers position)

theorem way_small (small : Small 10 position) (cruising : Cruising position flown) :
    Small 15 (flown.target.value.stop - flown.flight.heldPoint) := by
  rw [cruising.heldPoint]
  obtain ⟨north, east, down⟩ := cruising.stop
  exact ⟨Below.sub north (small.north.mono (by decide)) (by decide),
    Below.sub east (small.east.mono (by decide)) (by decide),
    Below.sub down (small.down.mono (by decide)) (by decide)⟩

include documented small cruising hovers

theorem angle_finite : (flown.angle trigonometry input).isFinite = true := by
  obtain ⟨north, east⟩ := direction_number (cruising.way_small small)
  have factors : Below 6 Single.degreesPerRadian ∧ Below 0 Single.radiansPerDegree := by
    decide +kernel
  have angle : Below 2 (trigonometry.arcTangent flown.heading.east flown.heading.north) :=
    (documented.arcTangent east north).mono (by decide)
  have degrees : Below 8 (Single.toDegrees
      (trigonometry.arcTangent flown.heading.east flown.heading.north)) :=
    angle.mul factors.1 (by decide)
  have turn : Below 8 _ := (hovers.turn_none (cruising.paced.call input.now)).mono (Nat.zero_le _)
  have radians : Below 9 (flown.angle trigonometry input) :=
    Below.mul (degrees.add turn (by decide)) factors.2 (by decide)
  exact radians.finite (by decide)

/-- The next target is as far ahead as the speed tells. -/
theorem travel_within {limit : ℕ} (speed : Within limit input.speed) (slow : limit ≤ power 0)
    {reach : ℕ} (on : Single.Grid reach) (reached : 10 * limit ≤ reach) :
    Within reach (flown.travel trigonometry input).north ∧
      Within reach (flown.travel trigonometry input).east ∧
      Below 4 (flown.travel trigonometry input).down := by
  have finite := cruising.angle_finite documented small hovers
  have ten : Within (10 * 2 ^ 149) 10 ∧ Below 2 4 ∧ Below 0 (-0) := by decide +kernel
  obtain ⟨horizontal, vertical, level⟩ := ten
  have least := slow.trans_lt (power_lt_top (by decide))
  have scaled {x : Float32} (below : Below 0 x) : Within reach (x * 10 * input.speed) := by
    have product : Within (10 * 2 ^ 149) (x * 10) :=
      Within.mul below horizontal (power_lt_top (by decide)) (by decide)
        ⟨⟨10, 149, by decide, rfl⟩, by decide⟩ (by decide)
    refine product.mul speed (by decide) least on ?_
    calc
      10 * 2 ^ 149 * limit = 10 * limit * 2 ^ 149 := by ring
      _ ≤ reach * 2 ^ 149 := Nat.mul_le_mul_right _ reached
  have offset : input.board.modeSettings.value.holdOffset = ⟨10, 4⟩ := by rw [hovers.settings]
  unfold Flown.travel
  rw [offset, Stick.beyondDeadband_of_within hovers.pitch]
  exact ⟨scaled (documented.cosine finite), scaled (documented.sine finite),
    ((level.mul vertical (by decide)).mul hovers.speed_below (by decide)).mono (by decide)⟩

/-- **The held point stays where the vehicle is, and the target is never far from it.** -/
theorem cruise : Cruising position (flown.cruise trigonometry input) := by
  have still : (flown.cruise trigonometry input).flight.heldPoint = position := by
    rw [flown.heldPoint_cruise, cruising.heldPoint, hovers.position, advance_self small]
  obtain ⟨north, east, down⟩ := cruising.travel_within documented small hovers hovers.speed_below
    le_rfl (grid_power (show 4 ≤ 127 by decide)) (by decide)
  refine ⟨still, ?_, cruising.paced.call input.now⟩
  rw [flown.stop_cruise, still]
  exact ⟨Below.add (small.north.mono (by decide)) (Below.mono north (by decide)) (by decide),
    Below.add (small.east.mono (by decide)) (Below.mono east (by decide)) (by decide),
    Below.add (small.down.mono (by decide)) (Below.mono down (by decide)) (by decide)⟩

/-- **With closed throttle the course is lost**, because the way that is left of it is less than
half of the last place of either coordinate. -/
theorem cruise_closed (north : 256 < position.north.abs) (east : 256 < position.east.abs)
    (closed : input.board.command.value.thrust ≤ 1e-6) :
    ((flown.cruise trigonometry input).target.value.stop.north == position.north) = true ∧
      ((flown.cruise trigonometry input).target.value.stop.east == position.east) = true := by
  have scales : Single.units 1e-6 = (8796093 * 2 ^ 106 : ℕ) ∧ Single.units 256 = 2 ^ 23 * 2 ^ 134 ∧
      (1e-6 : Float32) ≤ 1 ∧ Single.clamp 1e-6 1e-6 1 = (1e-6 : Float32) ∧
      (-1e-6 : Float32) ≤ 1e-6 := by
    decide +kernel
  obtain ⟨counted, far, range, least, sides⟩ := scales
  have slow : Within (8796093 * 2 ^ 106) input.speed :=
    Single.within_of_le (Single.le_trans sides hovers.speed_range.1)
      (least ▸ Single.clamp_le_clamp range closed) counted
  obtain ⟨ahead, aside, -⟩ := cruising.travel_within documented small hovers slow (by decide)
    ⟨⟨50, 127, by decide, rfl⟩, by decide⟩ (show 10 * (8796093 * 2 ^ 106) ≤ 50 * 2 ^ 127 by decide)
  have lost {x y : Float32} (below : Below 10 x) (distant : 256 < x.abs)
      (short : Within (50 * 2 ^ 127) y) : (x + y == x) = true := by
    have high := (Single.lt_iff_units.mp distant).2.2
    rw [Single.units_abs, far] at high
    exact Single.add_absorbed (below.finite (by decide)) high short (by decide)
  have still := (cruising.cruise documented small hovers).heldPoint
  rw [flown.stop_cruise, still]
  exact ⟨lost small.north north ahead, lost small.east east aside⟩

end Cruising

section

variable {trigonometry : Trigonometry} {position : Ned}

/-- Every cruise starts at the position of the vehicle, whatever its course is. -/
theorem cruising_engaged {flight : StickFlight} {board : Blackboard}
    (small : Small 10 board.position.value)
    (fresh : flight.cruiseTime.reset = ({} : StickFlight).cruiseTime) :
    Cruising board.position.value (engagedCruise flight board) := by
  have paced : ({} : StickFlight).cruiseTime.Paced :=
    ⟨by decide +kernel, rfl, rfl, by decide +kernel, by decide +kernel, by decide +kernel⟩
  rw [← fresh] at paced
  obtain ⟨north, east, down⟩ := small
  exact ⟨rfl,
    ⟨Below.add (north.mono (by decide)) (Degrees.sine_below _) (by decide),
      Below.add (east.mono (by decide)) (Degrees.sine_below _) (by decide),
      down.mono (by decide)⟩,
    paced⟩

theorem Cruising.fly (documented : trigonometry.Documented) (small : Small 10 position)
    {inputs : List CruiseInput} (hovers : ∀ input ∈ inputs, input.Hovers position) {flown : Flown}
    (cruising : Cruising position flown) : Cruising position (flown.fly trigonometry inputs) := by
  induction inputs generalizing flown with
  | nil => exact cruising
  | cons input inputs inductionHypothesis =>
      rw [List.forall_mem_cons] at hovers
      exact inductionHypothesis hovers.2 (cruising.cruise documented small hovers.1)

end

/-- A cruise whose target lies due north, or at the held point itself. -/
structure Northward (position : Ned) (flown : Flown) : Prop extends Cruising position flown where
  north : position.north ≤ flown.target.value.stop.north
  east : (flown.target.value.stop.east == position.east) = true

namespace Northward

variable {trigonometry : Trigonometry} (documented : trigonometry.Documented) {position : Ned}
  (small : Small 10 position) {flown : Flown} (northward : Northward position flown)
  (north : ¬(position.north == 0) = true) (east : ¬(position.east == 0) = true)
  {input : CruiseInput} (hovers : input.Hovers position)

include documented small northward north east

/-- **Where no way is left, the course is north.** -/
theorem arcTangent_heading :
    trigonometry.arcTangent flown.heading.east flown.heading.north = 0 := by
  have held := northward.heldPoint
  have positive := divisor_pos (northward.way_small small)
  obtain ⟨number, -⟩ := direction_number (northward.way_small small)
  have ahead : 0 < (flown.target.value.stop - flown.flight.heldPoint).north ∨
      (flown.target.value.stop - flown.flight.heldPoint).north = 0 := by
    rw [held]
    exact Single.sub_pos_or_zero (northward.stop.north.finite (by decide))
      (small.north.finite (by decide)) (Single.units_ne_zero (small.north.finite (by decide)) north)
      (Single.le_iff_units.mp northward.north).2.2
  have aside : (flown.target.value.stop - flown.flight.heldPoint).east = 0 := by
    rw [held]
    obtain ⟨first, second, ranks⟩ := Single.beq_iff.mp northward.east
    rcases Single.unpack_eq_of_rank first second ranks with same | ⟨-, zero⟩
    · exact Single.sub_eq_zero (small.east.finite (by decide)) same
    · exact absurd zero east
  have none : flown.heading.east = 0 := by
    show (flown.target.value.stop - flown.flight.heldPoint).east / divisor _ = 0
    rw [aside, Single.zero_div positive]
  rw [none]
  exact documented.ahead number (Single.signBit_div ahead positive)

include hovers

theorem angle_eq : flown.angle trigonometry input = 0 := by
  have scaled : Single.toDegrees 0 = 0 ∧ Single.toRadians 0 = 0 := by decide +kernel
  unfold Flown.angle
  rw [northward.arcTangent_heading documented small north east, scaled.1,
    Single.zero_add (hovers.turn_none (northward.paced.call input.now)), scaled.2]

/-- Any thrust leads north. -/
theorem cruise : Northward position (flown.cruise trigonometry input) ∧
    (flown.cruise trigonometry input).target.value.stop.north =
      position.north + 10 * input.speed := by
  have cruising := northward.toCruising.cruise documented small hovers
  have offset : input.board.modeSettings.value.holdOffset = ⟨10, 4⟩ := by rw [hovers.settings]
  have scales : (1 * 10 : Float32) = 10 ∧ (0 * 10 : Float32) = 0 ∧ (0 : Float32) ≤ 1e-6 ∧
      (0 : Float32) < 10 ∧ (10 : Float32).isFinite = true ∧ Within 0 0 := by
    decide +kernel
  obtain ⟨whole, none, above, positive, finite, void⟩ := scales
  have travelled : (flown.travel trigonometry input).north = 10 * input.speed ∧
      (flown.travel trigonometry input).east = 0 * input.speed := by
    unfold Flown.travel
    rw [northward.angle_eq documented small north east hovers, documented.cosine_zero,
      documented.sine_zero, offset]
    dsimp only
    rw [whole, none]
    exact ⟨rfl, rfl⟩
  have ahead : (flown.cruise trigonometry input).target.value.stop.north =
      position.north + 10 * input.speed := by
    rw [← travelled.1, ← cruising.heldPoint, flown.stop_cruise]
    rfl
  refine ⟨⟨cruising, ?_, ?_⟩, ahead⟩
  · have number := (small.north).number
    have forward : 0 ≤ 10 * input.speed := by
      have order : 0 * 10 ≤ input.speed * 10 :=
        (Single.mul_rounds positive finite).le (Single.le_trans above hovers.speed_range.1)
      rwa [none, Single.mul_swap] at order
    have reached := cruising.stop.north.number
    rw [ahead] at reached ⊢
    exact Single.le_of_not_lt number reached (Single.not_add_lt forward)
  · have aside : Within 0 (0 * input.speed) :=
      void.mul hovers.speed_below (by decide) (power_lt_top (by decide))
        (Single.grid_of_lt (by decide)) (by decide)
    rw [flown.stop_cruise, cruising.heldPoint]
    show (position.east + (flown.travel trigonometry input).east == position.east) = true
    rw [travelled.2]
    exact Single.beq_of_unpack small.east.number (Single.unpack_add_zero aside.beq_zero east)

omit hovers northward in
theorem fly {inputs : List CruiseInput} (hovers : ∀ input ∈ inputs, input.Hovers position)
    {flown : Flown} (northward : Northward position flown) :
    Northward position (flown.fly trigonometry inputs) := by
  induction inputs generalizing flown with
  | nil => exact northward
  | cons input inputs inductionHypothesis =>
      rw [List.forall_mem_cons] at hovers
      exact inductionHypothesis hovers.2 (northward.cruise documented small north east hovers.1).1

end Northward

/-! ## The course -/

/-- The direction in which one point lies as seen from another, in degrees from north over east. -/
noncomputable def bearing (point stop : Ned) : ℝ :=
  Complex.arg
    ⟨Single.units stop.north - Single.units point.north,
      Single.units stop.east - Single.units point.east⟩ * ((180 : ℕ) / Real.pi)

theorem bearing_eq_zero {point stop : Ned}
    (north : Single.units point.north ≤ Single.units stop.north)
    (east : Single.units stop.east = Single.units point.east) : bearing point stop = 0 := by
  have ahead : (0 : ℝ) ≤ Single.units stop.north - Single.units point.north := by
    exact_mod_cast Int.sub_nonneg_of_le north
  have aside : (Single.units stop.east : ℝ) - Single.units point.east = 0 := by rw [east, sub_self]
  unfold bearing
  rw [aside]
  exact mul_eq_zero_of_left (Complex.arg_ofReal_of_nonneg ahead) _

/-- A position of at most 1000 m along each axis and more than 256 m away from both horizontal
ones. -/
structure Distant (position : Ned) : Prop where
  north : 256 < position.north.abs ∧ position.north.abs ≤ 1000
  east : 256 < position.east.abs ∧ position.east.abs ≤ 1000
  down : position.down.abs ≤ 1000

namespace Distant

variable {position : Ned} (distant : Distant position)

include distant

theorem small : Small 10 position := by
  have counted : Single.units 1000 = (1000 * 2 ^ 149 : ℕ) := by decide +kernel
  have below {x : Float32} (order : x.abs ≤ 1000) : Below 10 x := by
    obtain ⟨number, -, bounded⟩ := Single.le_iff_units.mp order
    rw [Single.isNaN_abs] at number
    rw [Single.units_abs, counted] at bounded
    exact Within.mono ⟨number, bounded⟩ (by decide)
  exact ⟨below distant.north.2, below distant.east.2, below distant.down⟩

theorem nonzero : ¬(position.north == 0) = true ∧ ¬(position.east == 0) = true := by
  have far {x : Float32} (order : 256 < x.abs) : ¬(x == 0) = true := by
    intro zero
    have counted := (Single.beq_iff_units.mp zero).2.2
    have high := (Single.lt_iff_units.mp order).2.2
    rw [Single.units_abs, counted] at high
    exact absurd high (by decide +kernel)
  exact ⟨far distant.north.1, far distant.east.1⟩

end Distant

/-- The angles of an eastward flight that loses its course, as a library finds them. -/
def eastwardAngles : Trigonometry where
  arcTangent east _ := if east == 1 then Float32.ofBits 0x3fc90fdb else 0
  sine angle := if angle == 0 then 0 else 1
  cosine angle := if angle == 0 then 1 else Float32.ofBits 0xb33bbd2e

theorem eastwardAngles_documented : eastwardAngles.Documented := by
  have values : Within (4 * 2 ^ 149) (Float32.ofBits 0x3fc90fdb) ∧ Within (4 * 2 ^ 149) 0 ∧
      Below 0 0 ∧ Below 0 1 ∧ Below 0 (Float32.ofBits 0xb33bbd2e) := by decide +kernel
  obtain ⟨right, straight, none, one, little⟩ := values
  refine ⟨fun {east north} _ _ => ?_, fun {angle} _ => ?_, fun {angle} _ => ?_, fun _ _ => rfl,
    rfl, rfl⟩
  · show Within _ (if east == 1 then Float32.ofBits 0x3fc90fdb else 0)
    split <;> assumption
  · show Below 0 (if angle == 0 then 0 else 1)
    split <;> assumption
  · show Below 0 (if angle == 0 then 1 else Float32.ofBits 0xb33bbd2e)
    split <;> assumption

/-- A vehicle that heads east, 1000 m north and east of the origin. -/
def eastward (thrust : Float32) : Blackboard :=
  { position := ⟨⟨1000, 1000, -10⟩, 1⟩
    attitude := ⟨{ yaw := 90 }, 1⟩
    command := ⟨{ thrust }, 1⟩ }

theorem eastward_hovers {thrust : Float32} (low : 0 ≤ thrust) (high : thrust ≤ 1) (now : Micros) :
    CruiseInput.Hovers ⟨eastward thrust, now⟩ ⟨1000, 1000, -10⟩ :=
  have released : Stick.outside 0 = false := by decide +kernel
  ⟨rfl, rfl, released, released, low, high⟩

/-- **A cruise flies north once its throttle has been closed.** Away from the axes of the local
frame the way that is left at the least speed is lost in the coordinates of the target, and with it
the course, which is kept nowhere else. However long the vehicle has been held at its position
before and whatever course it was engaged with, from then on every thrust leads north. -/
theorem closedThrottle_leads_north {trigonometry : Trigonometry}
    (documented : trigonometry.Documented) {flight : StickFlight}
    (fresh : flight.cruiseTime.reset = ({} : StickFlight).cruiseTime) {board : Blackboard}
    (distant : Distant board.position.value) {before after : List CruiseInput}
    {closed opened : CruiseInput}
    (hovers : ∀ input ∈ before ++ closed :: (after ++ [opened]), input.Hovers board.position.value)
    (throttle : closed.board.command.value.thrust ≤ 1e-6) :
    let position := board.position.value
    let shut := ((engagedCruise flight board).fly trigonometry before).cruise trigonometry closed
    let flown := (shut.fly trigonometry after).cruise trigonometry opened
    (shut.flight.heldPoint = position ∧ (shut.target.value.stop.north == position.north) = true ∧
      (shut.target.value.stop.east == position.east) = true) ∧
    flown.flight.heldPoint = position ∧
      flown.target.value.stop.north = position.north + 10 * opened.speed ∧
      (flown.target.value.stop.east == position.east) = true ∧
      bearing flown.flight.heldPoint flown.target.value.stop = 0 := by
  intro position shut flown
  have small := distant.small
  obtain ⟨north, east⟩ := distant.nonzero
  rw [List.forall_mem_append, List.forall_mem_cons, List.forall_mem_append,
    List.forall_mem_singleton] at hovers
  obtain ⟨beforehand, closes, afterwards, opens⟩ := hovers
  have start := (cruising_engaged small fresh).fly documented small beforehand
  have closing := start.cruise documented small closes
  obtain ⟨ahead, aside⟩ := start.cruise_closed documented small closes distant.north.1
    distant.east.1 throttle
  obtain ⟨number, number', ranks⟩ := Single.beq_iff.mp ahead
  have lost : Northward position shut :=
    ⟨closing, Single.le_iff.mpr ⟨number', number, ranks.ge⟩, aside⟩
  obtain ⟨northward, reached⟩ :=
    (lost.fly documented small north east afterwards).cruise documented small north east opens
  have held := northward.heldPoint
  refine ⟨⟨closing.heldPoint, ahead, aside⟩, held, reached, northward.east, ?_⟩
  rw [held]
  exact bearing_eq_zero (Single.le_iff_units.mp northward.north).2.2
    (Single.beq_iff_units.mp northward.east).2.2

/-- The flight to the east with closed and then with open throttle. -/
theorem closedThrottle_leads_north_of_east :
    let closed : CruiseInput := ⟨eastward 0, 0⟩
    let opened : CruiseInput := ⟨eastward 1, 20000⟩
    let flown := ((engagedCruise {} (eastward 0)).cruise eastwardAngles closed).cruise
      eastwardAngles opened
    eastwardAngles.Documented ∧ Distant (eastward 0).position.value ∧
      (∀ input ∈ [closed, opened], input.Hovers (eastward 0).position.value) ∧
      closed.board.command.value.thrust ≤ 1e-6 ∧
      bearing flown.flight.heldPoint flown.target.value.stop = 0 := by
  intro closed opened flown
  have distant : Distant (eastward 0).position.value := by
    refine ⟨⟨?_, ?_⟩, ⟨?_, ?_⟩, ?_⟩ <;> decide +kernel
  have thrusts : (0 : Float32) ≤ 0 ∧ (0 : Float32) ≤ 1 ∧ (1 : Float32) ≤ 1 ∧
      (0 : Float32) ≤ 1e-6 := by decide +kernel
  have hovers : ∀ input ∈ [closed, opened], input.Hovers (eastward 0).position.value := by
    rw [List.forall_mem_cons, List.forall_mem_singleton]
    exact ⟨eastward_hovers thrusts.1 thrusts.2.1 0, eastward_hovers thrusts.2.1 thrusts.2.2.1 20000⟩
  have leads := @closedThrottle_leads_north eastwardAngles eastwardAngles_documented {} rfl
    (eastward 0) distant [] [] closed opened hovers thrusts.2.2.2
  exact ⟨eastwardAngles_documented, distant, hovers, thrusts.2.2.2, leads.2.2.2.2⟩

/-- The course of that flight was east, but it goes on to the north. -/
theorem closedThrottle_turns :
    let closed : CruiseInput := ⟨eastward 0, 0⟩
    let opened : CruiseInput := ⟨eastward 1, 20000⟩
    let flown := ((engagedCruise {} (eastward 0)).cruise eastwardAngles closed).cruise
      eastwardAngles opened
    (∀ input ∈ [closed, opened], input.Hovers (eastward 0).position.value) ∧
      (eastward 0).attitude.value.yaw = 90 ∧
      1 < |bearing flown.flight.heldPoint flown.target.value.stop - 90| := by
  intro closed opened flown
  have ends :
      Single.units flown.flight.heldPoint.north ≤ Single.units flown.target.value.stop.north ∧
        Single.units flown.target.value.stop.east = Single.units flown.flight.heldPoint.east := by
    decide +kernel
  have thrusts : (0 : Float32) ≤ 0 ∧ (0 : Float32) ≤ 1 ∧ (1 : Float32) ≤ 1 := by decide +kernel
  refine ⟨?_, rfl, ?_⟩
  · rw [List.forall_mem_cons, List.forall_mem_singleton]
    exact ⟨eastward_hovers thrusts.1 thrusts.2.1 0, eastward_hovers thrusts.2.1 thrusts.2.2 20000⟩
  · rw [bearing_eq_zero ends.1 ends.2]
    norm_num

end StickFlight
end FlightGuidance
