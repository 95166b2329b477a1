import FlightGuidance.Proofs.Single.Rounding
import FlightGuidance.Proofs.Takeoff.IdleBounds
import FlightGuidance.Proofs.Takeoff.Timing

/-!
# The thrust ramps of a takeoff

A takeoff raises its thrust bounds along two ramps. Spooling up takes both bounds from a small
thrust to the least one of the settings, and the climb takes the upper bound from there to a share
of the greatest one. Each ramp has equal steps and stops at its target (`Ramp`), so one that begins
below its target never goes down (`Ramp.bound_le_succ`), and one that begins above it falls at its
first tick, since the target is an upper bound only.

The settings order the least and the greatest thrust, and not the least thrust and the share of the
greatest one. So the second ramp can begin above its target, and what the ramps promise depends on
this (`Operated.ramps_iff`). Rounding can keep the first ramp from its end if the steps are tiny.
From a least thrust of 0.0502 on it does not, because the sum and the quotient of singles go to no
magnitude below whole places that the exact ones reach (`Ramp.le_units_bound`).
-/

set_option autoImplicit false

namespace FlightGuidance

/-- A bound that changes by a step each tick, and does not pass its target upward. -/
structure Ramp where
  start : Float32
  step : Float32
  target : Float32

namespace Ramp

open Float.Model.UnpackedFloat (Sign)

/-- The bound after some ticks. -/
def bound (ramp : Ramp) : ℕ → Float32
  | 0 => ramp.start
  | ticks + 1 => Single.min (ramp.bound ticks + ramp.step) ramp.target

/-- The ramp from a bound to a target in some number of equal steps. -/
def between (start target : Float32) (ticks : UInt32) : Ramp :=
  { start, step := (target - start) / ticks.toFloat32, target }

variable {ramp : Ramp}

theorem bound_le_target (below : ramp.start ≤ ramp.target) : ∀ ticks, ramp.bound ticks ≤ ramp.target
  | 0 => below
  | _ + 1 => Single.min_le_iff.mpr (Single.le_iff.mp below).2.1

/-- **A ramp that does not go down is monotonic.** -/
theorem bound_le_succ (rises : 0 ≤ ramp.step) (below : ramp.start ≤ ramp.target) (ticks : ℕ) :
    ramp.bound ticks ≤ ramp.bound (ticks + 1) := by
  have order := ramp.bound_le_target below ticks
  have number := (Single.le_iff.mp order).1
  show _ ≤ Single.min _ _
  by_cases sum : (ramp.bound ticks + ramp.step).isNaN = true
  · unfold Single.min
    rwa [if_pos sum]
  · have more := Single.le_of_not_lt number (Bool.eq_false_of_not_eq_true sum)
      (Single.not_add_lt rises)
    exact Single.le_min more order

theorem start_le_bound (rises : 0 ≤ ramp.step) (below : ramp.start ≤ ramp.target) :
    ∀ ticks, ramp.start ≤ ramp.bound ticks
  | 0 => Single.le_self (Single.le_iff.mp below).1
  | ticks + 1 =>
      Single.le_trans (start_le_bound rises below ticks) (bound_le_succ rises below ticks)

/-- A ramp rises at least by the whole units of a place that its step has, until it reaches its
target. Rounding goes to no magnitude below such whole units. -/
theorem le_units_bound {first each place target : ℕ} (nonzero : 0 < first)
    (start : ramp.start.isNaN = false ∧ (first * 2 ^ place : ℕ) ≤ Single.units ramp.start)
    (step : ramp.step.isNaN = false ∧ (each * 2 ^ place : ℕ) ≤ Single.units ramp.step)
    (number : ramp.target.isNaN = false) (ends : Single.units ramp.target = target)
    (positive : 0 < target) (few : target ≤ 2 ^ 24 * 2 ^ place) (ticks : ℕ) :
    (ramp.bound ticks).isNaN = false ∧
      (Min.min target ((first + ticks * each) * 2 ^ place) : ℕ) ≤
        Single.units (ramp.bound ticks) := by
  have on : Single.Grid target := .of_units ends
  induction ticks with
  | zero =>
      rw [Nat.zero_mul, Nat.add_zero]
      exact ⟨start.1, (Int.ofNat_le.mpr (Nat.min_le_right _ _)).trans start.2⟩
  | succ ticks ih =>
      obtain ⟨number', before⟩ := ih
      have split : (first + (ticks + 1) * each) * 2 ^ place =
          (first + ticks * each) * 2 ^ place + each * 2 ^ place := by
        rw [Nat.succ_mul, ← Nat.add_assoc, Nat.add_mul]
      have onGrid := on.min few (first + (ticks + 1) * each)
      have nonvanishing : 0 < Min.min target ((first + (ticks + 1) * each) * 2 ^ place) :=
        Nat.lt_min.mpr ⟨positive, Nat.mul_pos (Nat.add_pos_left nonzero _) (Nat.two_pow_pos _)⟩
      have least := Nat.min_le_left target ((first + (ticks + 1) * each) * 2 ^ place)
      have exact : Min.min target ((first + (ticks + 1) * each) * 2 ^ place) ≤
          Min.min target ((first + ticks * each) * 2 ^ place) + each * 2 ^ place := by omega
      generalize Min.min target ((first + (ticks + 1) * each) * 2 ^ place) = reached at *
      have sum : _ ∧ (reached : ℤ) ≤ Sign.positive.apply _ :=
        Single.le_units_add onGrid nonvanishing number' step.1
          ((Int.ofNat_le.mpr exact).trans (Int.add_le_add before step.2))
      refine ⟨Single.isNaN_min number, Single.le_units_min sum.2 ?_⟩
      rw [ends]
      exact Int.ofNat_le.mpr least

/-- A ramp to a higher target rises. -/
theorem between_rises {start target : Float32} {ticks : UInt32} {significand significand' : ℕ}
    {exponent exponent' : ℤ} {nonzero : 0 < significand} {nonzero' : 0 < significand'}
    (finite : start.toModel.unpack = .finite .positive significand exponent nonzero)
    (divisor : ticks.toFloat32.toModel.unpack =
      .finite .positive significand' exponent' nonzero')
    (order : start ≤ target) : 0 ≤ (between start target ticks).step :=
  Single.div_nonneg divisor (Single.sub_nonneg finite order)

end Ramp

namespace ThrustLimits

open Takeoff
open Float.Model.UnpackedFloat (Sign)

/-- The ramp of both bounds while the takeoff spools up. -/
def spoolRamp (limits : ThrustLimits) : Ramp :=
  .between spoolThrust (Single.max limits.min spoolThrust) slowStartTicks

/-- Where spooling up ends. -/
def spooled (limits : ThrustLimits) : Float32 := limits.spoolRamp.bound (slowStartTicks.toNat + 1)

/-- The ramp of the upper bound while the thrust is raised. -/
def climbRamp (limits : ThrustLimits) : Ramp :=
  .between limits.spooled (climbShare * limits.max) thrustUpTicks

/-- Thrust limits of a takeoff: in order, not below the thrust of spooling up, and not above one. -/
structure Usable (limits : ThrustLimits) : Prop extends limits.Ordered where
  spools : spoolThrust ≤ limits.min
  bounded : limits.max ≤ 1

variable {limits : ThrustLimits}

theorem unpack_spoolThrust :
    spoolThrust.toModel.unpack = .finite .positive 13421773 (-28) (by decide) :=
  rfl

theorem unpack_slowStartTicks :
    slowStartTicks.toFloat32.toModel.unpack = .finite .positive 10485760 (-18) (by decide) :=
  rfl

theorem unpack_thrustUpTicks :
    thrustUpTicks.toFloat32.toModel.unpack = .finite .positive 10485760 (-19) (by decide) :=
  rfl

namespace Usable

/-- Spooling up ends at the least thrust, if rounding does not prevent it. -/
theorem spoolRamp_target (usable : limits.Usable) : limits.spoolRamp.target = limits.min :=
  Single.max_of_le usable.spools

theorem spoolRamp_below (usable : limits.Usable) :
    limits.spoolRamp.start ≤ limits.spoolRamp.target :=
  usable.spoolRamp_target ▸ usable.spools

theorem spoolRamp_rises (usable : limits.Usable) : 0 ≤ limits.spoolRamp.step :=
  Ramp.between_rises unpack_spoolThrust unpack_slowStartTicks usable.spoolRamp_below

theorem spoolRamp_le_min (usable : limits.Usable) (ticks : ℕ) :
    limits.spoolRamp.bound ticks ≤ limits.min :=
  usable.spoolRamp_target ▸ limits.spoolRamp.bound_le_target usable.spoolRamp_below ticks

theorem spooled_le_min (usable : limits.Usable) : limits.spooled ≤ limits.min :=
  usable.spoolRamp_le_min _

theorem climbRamp_rises (usable : limits.Usable)
    (order : limits.spooled ≤ climbShare * limits.max) : 0 ≤ limits.climbRamp.step := by
  have positive : 0 < limits.spooled :=
    Single.lt_of_lt_of_le Sequence.spoolThrust_pos
      (Ramp.start_le_bound usable.spoolRamp_rises usable.spoolRamp_below _)
  have bounded : limits.spooled ≤ 1 :=
    Single.le_trans usable.spooled_le_min (Single.le_trans usable.min_le_max usable.bounded)
  obtain ⟨significand, exponent, nonzero, finite⟩ := Single.exists_finite positive bounded
  exact Ramp.between_rises finite unpack_thrustUpTicks order

end Usable

/-- The least thrust in units, and how many whole places it lies above the thrust at which spooling
up begins. The place is that of the last bit of a number just below one. -/
structure Counted (limits : ThrustLimits) (least rise : ℕ) : Prop where
  units : Single.units limits.min = least
  places : least / 2 ^ 125 = rise + 838861
  high : 3355 ≤ rise
  bounded : least ≤ 2 ^ 24 * 2 ^ 125

theorem Usable.exists_counted (usable : limits.Usable) (far : 0.0502 ≤ limits.min) :
    ∃ least rise, limits.Counted least rise := by
  have lower : ((842216 * 2 ^ 125 : ℕ) : ℤ) ≤ Single.units limits.min :=
    (by decide +kernel : ((842216 * 2 ^ 125 : ℕ) : ℤ) ≤ Single.units 0.0502).trans
      (Single.le_iff_units.mp far).2.2
  have upper : Single.units limits.min ≤ ((2 ^ 24 * 2 ^ 125 : ℕ) : ℤ) :=
    (Single.le_iff_units.mp (Single.le_trans usable.min_le_max usable.bounded)).2.2.trans
      (by decide +kernel)
  obtain ⟨least, counted⟩ := Int.eq_ofNat_of_zero_le ((Int.natCast_nonneg _).trans lower)
  rw [counted] at lower upper
  have many : 842216 ≤ least / 2 ^ 125 :=
    (Nat.le_div_iff_mul_le (Nat.two_pow_pos _)).mpr (Int.ofNat_le.mp lower)
  obtain ⟨rise, rises⟩ := Nat.exists_eq_add_of_le (show 838861 ≤ least / 2 ^ 125 by omega)
  exact ⟨least, rise, counted, rises.trans (Nat.add_comm _ _), by omega, Int.ofNat_le.mp upper⟩

namespace Counted

variable {least rise whole : ℕ}

theorem whole_le (counted : limits.Counted least rise) (within : whole ≤ rise + 838861) :
    whole * 2 ^ 125 ≤ least :=
  (Nat.le_div_iff_mul_le (Nat.two_pow_pos _)).mp (counted.places ▸ within)

/-- Whole places up to the least thrust are magnitudes of singles. -/
theorem grid (counted : limits.Counted least rise) (within : whole ≤ rise + 838861) :
    Single.Grid (whole * 2 ^ 125) :=
  Nat.min_eq_right (counted.whole_le within) ▸
    (Single.Grid.of_units counted.units).min counted.bounded whole

/-- The distance of the first ramp has its whole places. -/
theorem le_units_distance (counted : limits.Counted least rise)
    (number : limits.min.isNaN = false) :
    (limits.min - spoolThrust).isNaN = false ∧
      ((rise * 2 ^ 125 : ℕ) : ℤ) ≤
        Sign.positive.apply (Single.units (limits.min - spoolThrust)) := by
  have many := counted.high
  have start : Single.units spoolThrust = (13421773 * 2 ^ 121 : ℕ) := by decide +kernel
  have exact : rise * 2 ^ 125 + 13421773 * 2 ^ 121 ≤ least :=
    calc
      rise * 2 ^ 125 + 13421773 * 2 ^ 121 ≤ rise * 2 ^ 125 + 838861 * 2 ^ 125 :=
        Nat.add_le_add_left (by decide) _
      _ = (rise + 838861) * 2 ^ 125 := (Nat.add_mul _ _ _).symm
      _ ≤ least := counted.whole_le le_rfl
  rw [← Single.add_neg]
  refine Single.le_units_add (counted.grid (by omega)) (Nat.mul_pos (by omega) (Nat.two_pow_pos _))
    number rfl ?_
  show _ ≤ Single.units limits.min + Single.units (-spoolThrust)
  rw [Single.units_neg, counted.units, start, ← Int.sub_eq_add_neg]
  refine Int.le_sub_right_of_add_le ?_
  rw [← Int.natCast_add]
  exact Int.ofNat_le.mpr exact

/-- A step of the first ramp has a fortieth of them, but for the last ones. -/
theorem le_units_step (counted : limits.Counted least rise) (usable : limits.Usable) :
    limits.spoolRamp.step.isNaN = false ∧
      ((rise / 40 * 2 ^ 125 : ℕ) : ℤ) ≤
        Sign.positive.apply (Single.units limits.spoolRamp.step) := by
  have many := counted.high
  have distance := (counted.le_units_distance usable.min_number).2
  have exact : rise / 40 * 2 ^ 125 * 40 ≤ rise * 2 ^ 125 := by
    rw [Nat.mul_right_comm]
    exact Nat.mul_le_mul_right _ (Nat.div_mul_le_self _ _)
  have same : limits.spoolRamp.step =
      (limits.min - spoolThrust) / slowStartTicks.toFloat32 := by
    rw [← usable.spoolRamp_target]
    rfl
  rw [same]
  refine Single.le_units_div unpack_slowStartTicks (by decide) (counted.grid (by omega))
    (Nat.mul_pos (by omega) (Nat.two_pow_pos _)) ?_
  have scaled := Int.mul_le_mul_of_nonneg_right ((Int.ofNat_le.mpr exact).trans distance)
    (show (0 : ℤ) ≤ 2 ^ 18 by decide)
  rw [Int.natCast_mul, Int.mul_assoc] at scaled
  exact scaled

end Counted

/-- **Spooling up ends at the least thrust**, unless that is so close to the thrust at which it
begins that the steps are lost to rounding. -/
theorem Usable.min_le_spooled (usable : limits.Usable) (far : 0.0502 ≤ limits.min) :
    limits.min ≤ limits.spooled := by
  obtain ⟨least, rise, counted⟩ := usable.exists_counted far
  have many := counted.high
  have places := counted.places
  have target : limits.spoolRamp.target = limits.min := usable.spoolRamp_target
  have number : spoolThrust.isNaN = false := rfl
  have begins : ((838860 * 2 ^ 125 : ℕ) : ℤ) ≤ Single.units spoolThrust := by decide +kernel
  have positive : 0 < least :=
    (Nat.mul_pos (by decide) (Nat.two_pow_pos _)).trans_le
      (counted.whole_le (Nat.le_add_left 838861 rise))
  have reached := limits.spoolRamp.le_units_bound (by decide) ⟨number, begins⟩
    (counted.le_units_step usable) (target ▸ usable.min_number) (target ▸ counted.units) positive
    counted.bounded 41
  -- The forty steps and the one more make up for all that rounding takes from a step.
  have full : least ≤ (838860 + 41 * (rise / 40)) * 2 ^ 125 :=
    ((Nat.div_lt_iff_lt_mul (Nat.two_pow_pos _)).mp (by omega)).le
  rw [Nat.min_eq_left full] at reached
  exact Single.le_iff_units.mpr ⟨usable.min_number, reached.1, counted.units ▸ reached.2⟩

end ThrustLimits

namespace Takeoff
namespace Sequence

/-! ## The bounds along the ramps -/

/-- The sequence has been in a state for some ticks, with the upper bound on a ramp and with some
lower bound. -/
structure Along (ramp : Ramp) (state : State) (low : Float32) (ticks : ℕ) (sequence : Sequence) :
    Prop extends sequence.Timed state ticks where
  step : sequence.rampStep = ramp.step
  target : sequence.rampTarget = ramp.target
  low : sequence.thrustMin = low
  high : sequence.thrustMax = ramp.bound ticks
  free : sequence.constrainsThrust = false

/-- The sequence has spooled up for some ticks, with both bounds on their ramp. -/
abbrev Spooling (limits : ThrustLimits) (ticks : ℕ) (sequence : Sequence) : Prop :=
  sequence.Along limits.spoolRamp .slowStart (limits.spoolRamp.bound ticks) ticks

/-- The sequence has raised the thrust for some ticks, from the least thrust and with the upper
bound on its ramp. -/
abbrev Climbing (limits : ThrustLimits) (ticks : ℕ) (sequence : Sequence) : Prop :=
  sequence.Along limits.climbRamp .thrustUp limits.min ticks

variable {sequence : Sequence} {board : Blackboard} {limits : ThrustLimits} {ramp : Ramp}
  {state : State} {low : Float32} {ticks : ℕ}

theorem Along.relabel (along : sequence.Along ramp state low ticks) (nearGround : Bool)
    (status : Status) :
    ({ sequence with low := nearGround, status } : Sequence).Along ramp state low ticks :=
  ⟨along.toTimed.relabel nearGround status, along.step, along.target, along.low, along.high,
    along.free⟩

theorem Along.thrustBounds_eq (along : sequence.Along ramp state low ticks) :
    sequence.thrustBounds = (low, ramp.bound ticks) := by
  unfold thrustBounds
  rw [along.free, along.low, along.high]
  rfl

/-- Raising a bound takes it one tick further on the ramp. -/
theorem Along.ramp_bound (along : sequence.Along ramp state low ticks) :
    sequence.ramp (ramp.bound ticks) = ramp.bound (ticks + 1) := by
  unfold Sequence.ramp
  rw [along.step, along.target]
  rfl

/-- A tick takes the upper bound along the ramp, whatever it makes of the lower one. -/
theorem Along.update_early {lower : Float32} (along : sequence.Along ramp state low ticks)
    (ramps : state.ramps = true) (early : ticks < state.span)
    (lowered : sequence.ramped.thrustMin = lower) (board : Blackboard) :
    (sequence.update board).1.Along ramp state lower (ticks + 1) := by
  subst lowered
  have timed := along.toTimed.update_early ramps early board
  obtain ⟨nearGround, updated⟩ := along.toTimed.update_ramped ramps early board
  have raised := along.ramp_bound
  rw [← along.high] at raised
  rw [updated] at timed ⊢
  have present := along.present
  cases state with
  | slowStart | thrustUp =>
      unfold ramped at timed ⊢
      rw [present] at timed ⊢
      exact ⟨timed, along.step, along.target, rfl, raised, along.free⟩
  | inactive | checkState | takeoff | hold | thrustDown | thrustOff | disarmed => cases ramps

theorem moveTo_spooling (differs : sequence.state ≠ .slowStart)
    (free : sequence.constrainsThrust = false) (reason : ExitReason) :
    (sequence.moveTo board .slowStart reason).1.Spooling
      board.followerSettings.value.thrustLimits 0 := by
  obtain ⟨low, status, journal, status', takeoffStatus, changed⟩ :=
    sequence.moveTo_eq board differs reason
  rw [changed]
  exact ⟨⟨rfl, rfl, rfl⟩, rfl, rfl, rfl, rfl, free⟩

theorem moveTo_climbing (differs : sequence.state ≠ .thrustUp)
    (free : sequence.constrainsThrust = false)
    (high : sequence.thrustMax = board.followerSettings.value.thrustLimits.spooled)
    (reason : ExitReason) :
    (sequence.moveTo board .thrustUp reason).1.Climbing
      board.followerSettings.value.thrustLimits 0 := by
  obtain ⟨low, status, journal, status', takeoffStatus, changed⟩ :=
    sequence.moveTo_eq board differs reason
  rw [changed]
  refine ⟨⟨rfl, rfl, rfl⟩, ?_, rfl, rfl, high, free⟩
  unfold ThrustLimits.climbRamp
  rw [← high]
  rfl

/-- An initiation that leads to spooling up begins both ramps. -/
theorem setGate_spooling (resting : sequence.state ≠ .checkState)
    (spools : (sequence.setGate board .initiate).1.state = .slowStart) :
    (sequence.setGate board .initiate).1.Spooling
      board.followerSettings.value.thrustLimits 0 := by
  obtain ⟨low, status, journal, status', passed⟩ := setGate_initiate_eq resting board
  rw [passed] at spools ⊢
  unfold passCheck at spools ⊢
  by_cases flying : (Inputs.read board).flying = true
  · rw [if_pos flying] at spools
    exact absurd ((moveTo_state _ _ .hold _).symm.trans spools) nofun
  · let grounded : Sequence :=
      { sequence with
        state := .checkState, low, status, ticks := 0, timeout := 0
        constrainsThrust := false, thrustMin := -0.1, thrustMax := 0 }
    have leaves : grounded.state ≠ .slowStart := nofun
    have begun : (grounded.moveTo { board with journal } .slowStart .timeout).1.Spooling
        board.followerSettings.value.thrustLimits 0 := moveTo_spooling leaves rfl .timeout
    rw [if_neg flying]
    exact begun.relabel _ status'

theorem ramped_of_slowStart (spooling : sequence.state = .slowStart) :
    sequence.ramped =
      { sequence with
        thrustMin := sequence.ramp sequence.thrustMin
        thrustMax := sequence.ramp sequence.thrustMax } := by
  simp only [ramped, spooling]

theorem runState_of_spooled (spooling : sequence.state = .slowStart) (inputs : Inputs)
    (board : Blackboard) :
    sequence.runState true inputs board = sequence.ramped.moveTo board .thrustUp .timeout := by
  rw [ramped_of_slowStart spooling]
  simp only [runState, runSlowStart, expire, spooling, if_true]

/-- A tick takes both bounds along their ramp. -/
theorem Spooling.update_early (spooling : sequence.Spooling limits ticks)
    (early : ticks < slowStartTicks.toNat) (board : Blackboard) :
    (sequence.update board).1.Spooling limits (ticks + 1) := by
  have raised : sequence.ramped.thrustMin = limits.spoolRamp.bound (ticks + 1) := by
    rw [ramped_of_slowStart spooling.present, ← spooling.ramp_bound, ← spooling.low]
  exact Along.update_early spooling rfl early raised board

/-- The last tick of spooling up begins the second ramp where the first one ends. -/
theorem Spooling.update_due (spooling : sequence.Spooling limits slowStartTicks.toNat)
    (held : board.followerSettings.value.thrustLimits = limits) :
    (sequence.update board).1.Climbing limits 0 := by
  subst held
  let counted : Sequence := { sequence with ticks := sequence.ticks + 1 }
  have present : counted.state = .slowStart := spooling.present
  have ramped := ramped_of_slowStart present
  have ran := runState_of_spooled present (Inputs.read board) board
  have leaves : counted.ramped.state ≠ .thrustUp := by
    rw [ramped_state, present]
    decide
  have high : counted.ramped.thrustMax = board.followerSettings.value.thrustLimits.spooled := by
    rw [ramped]
    show sequence.ramp sequence.thrustMax = _
    rw [spooling.high, spooling.ramp_bound]
    rfl
  obtain ⟨low, updated⟩ := update_eq sequence board
  rw [updated, spooling.toTimed.timedOut (by decide) le_rfl]
  have free : counted.ramped.constrainsThrust = false := ramped ▸ spooling.free
  have begun := moveTo_climbing leaves free high .timeout
  rw [← ran] at begun
  exact begun.relabel low _

theorem Climbing.update_early (climbing : sequence.Climbing limits ticks)
    (early : ticks < thrustUpTicks.toNat) (board : Blackboard) :
    (sequence.update board).1.Climbing limits (ticks + 1) := by
  have kept : sequence.ramped.thrustMin = limits.min := by
    unfold ramped
    rw [climbing.present]
    exact climbing.low
  exact Along.update_early climbing rfl early kept board

/-! ## The whole ramp -/

/-- Thrust bounds that follow both ramps in turn, the first one at 41 times and the second one at
21. -/
structure Ramped (limits : ThrustLimits) (bounds : ℕ → Float32 × Float32) : Prop where
  spools : ∀ tick ≤ 40,
    bounds tick = (limits.spoolRamp.bound tick, limits.spoolRamp.bound tick)
  climbs : ∀ tick ≤ 20, bounds (41 + tick) = (limits.min, limits.climbRamp.bound tick)

theorem Spooling.after_early (begun : sequence.Spooling limits 0) (boards : ℕ → Blackboard) :
    ∀ tick ≤ 40, (sequence.after boards tick).Spooling limits tick
  | 0, _ => begun
  | tick + 1, early => (begun.after_early boards tick (by omega)).update_early early _

theorem Spooling.after_climbing (begun : sequence.Spooling limits 0) {boards : ℕ → Blackboard}
    (held : ∀ tick, (boards tick).followerSettings.value.thrustLimits = limits) :
    ∀ tick ≤ 20, (sequence.after boards (41 + tick)).Climbing limits tick
  | 0, _ => (begun.after_early boards 40 le_rfl).update_due (held 40)
  | tick + 1, early => (begun.after_climbing held tick (by omega)).update_early early _

/-- **The bounds follow the ramps** as long as the settings are held. -/
theorem Spooling.ramped (begun : sequence.Spooling limits 0) {boards : ℕ → Blackboard}
    (held : ∀ tick, (boards tick).followerSettings.value.thrustLimits = limits) :
    Ramped limits fun tick => (sequence.after boards tick).thrustBounds where
  spools tick early := (begun.after_early boards tick early).thrustBounds_eq
  climbs tick early := (begun.after_climbing held tick early).thrustBounds_eq

namespace Ramped

variable {bounds : ℕ → Float32 × Float32}

theorem upper_eq_climb (ramped : Ramped limits bounds) (tick : ℕ) (early : tick ≤ 20) :
    (bounds (41 + tick)).2 = limits.climbRamp.bound tick :=
  congrArg Prod.snd (ramped.climbs tick early)

theorem upper_eq_spool (ramped : Ramped limits bounds) (tick : ℕ) (early : tick ≤ 40) :
    (bounds tick).2 = limits.spoolRamp.bound tick :=
  congrArg Prod.snd (ramped.spools tick early)

/-- **When the upper bound never goes down.** -/
theorem rises_iff (ramped : Ramped limits bounds) (usable : limits.Usable) :
    (∀ tick < 61, (bounds tick).2 ≤ (bounds (tick + 1)).2) ↔
      limits.spooled ≤ climbShare * limits.max := by
  constructor
  · intro rises
    have first := rises 41 (by decide)
    rw [ramped.upper_eq_climb 0 (by decide), ramped.upper_eq_climb 1 (by decide)] at first
    exact Single.le_trans first
      (Single.min_le_iff.mpr (isNaN_climbTarget usable.max_number))
  · intro order tick before
    rcases Nat.lt_or_ge tick 41 with spools | climbs
    · have rises := Ramp.bound_le_succ usable.spoolRamp_rises usable.spoolRamp_below tick
      rw [ramped.upper_eq_spool tick (by omega)]
      rcases Nat.lt_or_ge tick 40 with within | last
      · rwa [ramped.upper_eq_spool (tick + 1) within]
      · obtain rfl : tick = 40 := by omega
        rwa [ramped.upper_eq_climb 0 (by decide)]
    · obtain ⟨climb, rfl⟩ := Nat.exists_eq_add_of_le climbs
      rw [ramped.upper_eq_climb climb (by omega), Nat.add_assoc,
        ramped.upper_eq_climb (climb + 1) (by omega)]
      exact Ramp.bound_le_succ (usable.climbRamp_rises order) order climb

/-- **When the lower bound never exceeds the upper one.** -/
theorem ordered_iff (ramped : Ramped limits bounds) (usable : limits.Usable) :
    (∀ tick ≤ 61, (bounds tick).1 ≤ (bounds tick).2) ↔
      limits.min ≤ limits.spooled ∧ limits.min ≤ climbShare * limits.max := by
  constructor
  · intro ordered
    have first := ordered 41 (by decide)
    have second := ordered 42 (by decide)
    rw [ramped.climbs 0 (by decide)] at first
    rw [ramped.climbs 1 (by decide)] at second
    exact ⟨first, Single.le_trans second
      (Single.min_le_iff.mpr (isNaN_climbTarget usable.max_number))⟩
  · intro ⟨reached, order⟩ tick early
    rcases Nat.lt_or_ge tick 41 with spools | climbs
    · rw [ramped.spools tick (by omega)]
      exact Single.le_self (Single.le_iff.mp (usable.spoolRamp_le_min tick)).1
    · obtain ⟨climb, rfl⟩ := Nat.exists_eq_add_of_le climbs
      rw [ramped.climbs climb (by omega)]
      have below := Single.le_trans usable.spooled_le_min order
      exact Single.le_trans reached
        (Ramp.start_le_bound (usable.climbRamp_rises below) below climb)

/-- The upper bound exceeds neither the least thrust nor the end of the second ramp, whichever is
larger. -/
theorem upper_le (ramped : Ramped limits bounds) (usable : limits.Usable) (tick : ℕ)
    (early : tick ≤ 61) :
    (bounds tick).2 ≤ Single.max limits.min (climbShare * limits.max) := by
  have least := Single.le_max_left (y := climbShare * limits.max) usable.min_number
  have most := isNaN_climbTarget usable.max_number
  rcases Nat.lt_or_ge tick 41 with spools | climbs
  · rw [ramped.upper_eq_spool tick (by omega)]
    exact Single.le_trans (usable.spoolRamp_le_min tick) least
  · obtain ⟨climb, rfl⟩ := Nat.exists_eq_add_of_le climbs
    rw [ramped.upper_eq_climb climb (by omega)]
    cases climb with
    | zero => exact Single.le_trans usable.spooled_le_min least
    | succ climb => exact Single.le_trans (Single.min_le_iff.mpr most) (Single.le_max most)

end Ramped
end Sequence

/-- Settings that pass their check have their thrust limits in order. -/
theorem ordered_of_check {settings : FollowerSettings} (checked : settings.check = .ok ()) :
    settings.thrustLimits.Ordered := by
  unfold FollowerSettings.check at checked
  dsimp only at checked
  split at checked
  next order =>
    obtain ⟨lower, upper⟩ := order
    exact ⟨(Single.le_iff.mp lower).1, (Single.le_iff.mp upper).1, (Single.le_iff.mp upper).2.1,
      Single.le_trans lower upper⟩
  next => cases checked

/-- **What the thrust ramps of a takeoff promise.** From its entry into spooling up until it leaves
the climb, the upper bound never goes down exactly if spooling up ends no higher than the climb, and
the lower bound never exceeds the upper one exactly if both end at the least thrust or above. That
rounding keeps spooling up from reaching the least thrust needs one below 0.0502. -/
theorem Operated.ramps_iff {sequence : Sequence} (run : Operated sequence) {board : Blackboard}
    {boards : ℕ → Blackboard} {settings : FollowerSettings} (checked : settings.check = .ok ())
    (spools : 0.05 ≤ settings.thrustLimits.min) (bounded : settings.thrustLimits.max ≤ 1)
    (held : board.followerSettings.value = settings)
    (holds : ∀ tick, (boards tick).followerSettings.value = settings)
    (begins : (sequence.setGate board .initiate).1.state = .slowStart) :
    let limits := settings.thrustLimits
    let bounds := fun tick => ((sequence.setGate board .initiate).1.after boards tick).thrustBounds
    ((∀ tick < 61, (bounds tick).2 ≤ (bounds (tick + 1)).2) ↔
        limits.spooled ≤ climbShare * limits.max) ∧
      ((∀ tick ≤ 61, (bounds tick).1 ≤ (bounds tick).2) ↔
        limits.min ≤ limits.spooled ∧ limits.min ≤ climbShare * limits.max) ∧
      (∀ tick ≤ 61, (bounds tick).2 ≤ Single.max limits.min (climbShare * limits.max)) ∧
      limits.spooled ≤ limits.min ∧ (0.0502 ≤ limits.min → limits.min ≤ limits.spooled) := by
  intro limits bounds
  have usable : limits.Usable := ⟨ordered_of_check checked, spools, bounded⟩
  have begun := Sequence.setGate_spooling run.resting begins
  rw [held] at begun
  have ramped : Sequence.Ramped limits bounds := begun.ramped fun tick => by rw [holds tick]
  exact ⟨ramped.rises_iff usable, ramped.ordered_iff usable, ramped.upper_le usable,
    usable.spooled_le_min, usable.min_le_spooled⟩

/-- A vehicle on the ground with some thrust limits. -/
def limited (limits : ThrustLimits) : Blackboard :=
  { followerSettings := ⟨{ thrustLimits := limits }, 1⟩ }

/-- The takeoff that is initiated there. -/
def ascent (limits : ThrustLimits) : ℕ → Sequence :=
  ((prepared {}).1.setGate (limited limits) .initiate).1.after fun _ => limited limits

/-- With the limits of a new vehicle the upper bound never goes down, and the bounds stay in
order. -/
theorem ramps_of_first_limits :
    (∀ tick < 61, (ascent {} tick).thrustBounds.2 ≤ (ascent {} (tick + 1)).thrustBounds.2) ∧
      ∀ tick ≤ 61, (ascent {} tick).thrustBounds.1 ≤ (ascent {} tick).thrustBounds.2 := by
  have prepared : Operated (prepared {}).1 := .perform .start .activate {}
  have spooling :
      ((Takeoff.prepared {}).1.setGate (limited {}) .initiate).1.state = .slowStart := by
    decide +kernel
  obtain ⟨rises, ordered, -, most, least⟩ := prepared.ramps_iff
    (if_pos (by decide +kernel)) (by decide +kernel) (by decide +kernel) (rfl : _ = _)
    (fun _ => (rfl : (limited {}).followerSettings.value = _)) spooling
  have climbs : ThrustLimits.min {} ≤ climbShare * ThrustLimits.max {} := by decide +kernel
  exact ⟨rises.mpr (Single.le_trans most climbs),
    ordered.mpr ⟨least (by decide +kernel), climbs⟩⟩

/-- With a least thrust of 0.9 the upper bound goes down at the first tick of the climb, to below
the lower bound. With one that is next to the thrust at which spooling up begins, the bounds do not
leave that thrust, and the climb begins with a lower bound above the upper one. -/
theorem ramps_of_narrow_limits :
    let steep : ThrustLimits := { min := 0.9, neutral := 0.95, max := 1 }
    let close : ThrustLimits := { min := Float32.ofBits 0x3d4cccce, max := 1 }
    (FollowerSettings.check { thrustLimits := steep } = .ok () ∧ 0.05 ≤ steep.min ∧
        (ascent steep 0).state = .slowStart ∧ (ascent steep 42).state = .thrustUp ∧
        (ascent steep 42).thrustBounds.2 < (ascent steep 41).thrustBounds.2 ∧
        (ascent steep 42).thrustBounds.2 < (ascent steep 42).thrustBounds.1) ∧
      FollowerSettings.check { thrustLimits := close } = .ok () ∧ 0.05 ≤ close.min ∧
        (ascent close 0).state = .slowStart ∧ (ascent close 41).state = .thrustUp ∧
        (ascent close 41).thrustBounds.2 < (ascent close 41).thrustBounds.1 := by
  intro steep close
  exact ⟨⟨if_pos (by decide +kernel), by decide +kernel⟩, if_pos (by decide +kernel),
    by decide +kernel⟩

end Takeoff
end FlightGuidance
