import FlightGuidance.Altitude.Controller
import FlightGuidance.Proofs.Single.Rounding
import Mathlib.Data.List.Basic

/-!
# The window of the hover estimate

The altitude controller is operated in any order (`Operation`), and two of its operations call the
estimator. A run keeps a log of these calls since the estimate was restarted, the newest one first
(`Flown`).

As long as no call has returned a correction, the window is the streak of stable calls with which
the log ends: the estimate counts the streak, and its sum runs over the streak without the calls of
the delay (`Tracks`). Nothing but the calls and the restarts touches the estimate, so this holds
throughout a run (`Flown.sound`). From it follows on which calls a correction is returned, of what
it is the average, and what becomes of the integral term (`Asked.corrects_iff`).
-/

set_option autoImplicit false

namespace FlightGuidance
namespace AltitudeController

/-! ## Operations -/

inductive Operation where
  | withThrustLimits (minThrust maxThrust : Float32)
  | configure (proportional integral derivative setpointWeight sampleTime velocityMax : Float32)
  | withPositionGain (positionGain : Float32)
  | withNeutral (neutral : Float32)
  | activate (thrust : Float32)
  | deactivate
  | withPositionSetpoint (positionSetpoint : Float32)
  | beginHold (position : Float32)
  | controlPosition (setpoint position : Float32)
  | followPath (path correction : Float32)
  | requestVelocity (velocity : Float32)
  | measureVelocity (velocity : Float32) (bounds : Option VerticalBounds)
  | measureBraking (velocity time rate : Float32)
  | command (bounds : Option VerticalBounds)
  | restartEstimate
  | advanceEstimate

/-- The controller after an operation. -/
def Operation.perform (controller : AltitudeController) : Operation → AltitudeController
  | withThrustLimits minThrust maxThrust => controller.withThrustLimits minThrust maxThrust
  | configure proportional integral derivative setpointWeight sampleTime velocityMax =>
    controller.configure proportional integral derivative setpointWeight sampleTime velocityMax
  | withPositionGain positionGain => controller.withPositionGain positionGain
  | withNeutral neutral => controller.withNeutral neutral
  | activate thrust => controller.activate thrust
  | deactivate => controller.deactivate
  | withPositionSetpoint positionSetpoint => controller.withPositionSetpoint positionSetpoint
  | beginHold position => controller.beginHold position
  | controlPosition setpoint position => (controller.controlPosition setpoint position).2
  | followPath path correction => controller.followPath path correction
  | requestVelocity velocity => controller.requestVelocity velocity
  | measureVelocity velocity bounds => controller.measureVelocity velocity bounds
  | measureBraking velocity time rate => controller.measureBraking velocity time rate
  | command bounds => controller.command bounds
  | restartEstimate => controller.restartEstimate
  | advanceEstimate => controller.advanceEstimate.2

/-- The controller that flies toward an altitude, before it advances the estimate. -/
def aimed (controller : AltitudeController) (setpoint position : Float32) : AltitudeController :=
  let placed := { controller with positionSetpoint := setpoint, position }
  placed.requestVelocity (placed.positionGain * (setpoint - position))

theorem controlPosition_eq (controller : AltitudeController) (setpoint position : Float32) :
    controller.controlPosition setpoint position =
      (controller.aimed setpoint position).advanceEstimate :=
  rfl

/-- The controller on which an operation calls the estimator, if it does. -/
def Operation.asked? (controller : AltitudeController) : Operation → Option AltitudeController
  | controlPosition setpoint position => some (controller.aimed setpoint position)
  | advanceEstimate => some controller
  | _ => none

/-- Whether an operation restarts the estimate. -/
def Operation.restarts : Operation → Bool
  | beginHold _ | restartEstimate => true
  | _ => false

/-! ## Calls -/

/-- A call of the estimator. -/
structure Call where
  /-- Whether the call found the vehicle stable. -/
  stable : Bool
  /-- The integral term that the call found. -/
  integral : Float32
  /-- What the call returned. -/
  correction : Option HoverCorrection

/-- The call of the estimator on a controller. -/
def call (controller : AltitudeController) : Call :=
  { stable := controller.stable
    integral := controller.pid.integral
    correction := controller.advanceEstimate.1 }

/-- The log of the calls after an operation. -/
def Operation.log (operation : Operation) (controller : AltitudeController) (calls : List Call) :
    List Call :=
  if operation.restarts then []
  else
    match operation.asked? controller with
    | some asked => asked.call :: calls
    | none => calls

/-- A run from a new controller, with the log of the calls since the last restart. -/
inductive Flown : AltitudeController → List Call → Prop where
  | start : Flown {} []
  | perform {controller : AltitudeController} {calls : List Call} (run : Flown controller calls)
      (operation : Operation) :
      Flown (operation.perform controller) (operation.log controller calls)

/-- The estimator is called in a run, by itself or by the outer loop, after the calls of the log. -/
inductive Asked (calls : List Call) : AltitudeController → Prop where
  | directly {controller : AltitudeController} (run : Flown controller calls) :
      Asked calls controller
  | byControl {controller : AltitudeController} (run : Flown controller calls)
      (setpoint position : Float32) : Asked calls (controller.aimed setpoint position)

/-- The run of some operations, with its log. -/
def fly (operations : List Operation) : AltitudeController × List Call :=
  operations.foldl
    (fun flight operation => (operation.perform flight.1, operation.log flight.1 flight.2)) ({}, [])

theorem flown_fly (operations : List Operation) : Flown (fly operations).1 (fly operations).2 := by
  unfold fly
  generalize begun : (({}, []) : AltitudeController × List Call) = flight
  have flown : Flown flight.1 flight.2 := begun ▸ .start
  clear begun
  induction operations generalizing flight with
  | nil => exact flown
  | cons operation operations inductionHypothesis =>
      exact inductionHypothesis _ (.perform flown operation)

/-! ## Streaks -/

/-- The stable calls since the last one that was not. -/
def streak (calls : List Call) : List Call := calls.takeWhile Call.stable

/-- The integral terms that are sampled in a streak, in the order of the calls. -/
def sampled (calls : List Call) : List Float32 :=
  (calls.reverse.drop HoverEstimate.delay.toNat).map Call.integral

/-- The sum of singles from left to right. -/
def total (terms : List Float32) : Float32 := terms.foldl (· + ·) 0

theorem streak_cons_of_stable {call : Call} (stable : call.stable = true) (calls : List Call) :
    streak (call :: calls) = call :: streak calls :=
  List.takeWhile_cons_of_pos stable

theorem streak_cons_of_unstable {call : Call} (unstable : ¬call.stable = true)
    (calls : List Call) : streak (call :: calls) = [] :=
  List.takeWhile_cons_of_neg unstable

/-- A streak is as long as the number of calls that are stable in a row. -/
theorem le_length_streak_iff (count : ℕ) (calls : List Call) :
    count ≤ (streak calls).length ↔
      count ≤ calls.length ∧ ∀ call ∈ calls.take count, call.stable = true := by
  induction calls generalizing count with
  | nil => simp [streak]
  | cons call calls inductionHypothesis =>
      cases count with
      | zero => simp
      | succ count =>
          by_cases stable : call.stable = true
          · rw [streak_cons_of_stable stable]
            simp [inductionHypothesis, stable]
          · rw [streak_cons_of_unstable stable]
            simp [stable]

/-- A streak is the beginning of the log. -/
theorem streak_eq_take (calls : List Call) : streak calls = calls.take (streak calls).length :=
  List.prefix_iff_eq_take.mp (List.takeWhile_prefix _)

theorem sampled_of_length_le {calls : List Call}
    (short : calls.length ≤ HoverEstimate.delay.toNat) : sampled calls = [] := by
  unfold sampled
  rw [List.drop_eq_nil_of_le (by rwa [List.length_reverse]), List.map_nil]

/-- A call after the delay is sampled. -/
theorem sampled_cons {calls : List Call} (late : HoverEstimate.delay.toNat ≤ calls.length)
    (call : Call) : sampled (call :: calls) = sampled calls ++ [call.integral] := by
  unfold sampled
  rw [List.reverse_cons, List.drop_append_of_le_length (by rwa [List.length_reverse]),
    List.map_append]
  rfl

theorem total_append (terms : List Float32) (term : Float32) :
    total (terms ++ [term]) = total terms + term := by
  unfold total
  rw [List.foldl_append]
  rfl

/-! ## One call -/

variable {controller : AltitudeController}

theorem advanceEstimate_of_complete (complete : controller.estimate.complete = true) :
    controller.advanceEstimate = (none, controller) := by
  unfold advanceEstimate
  rw [if_pos complete]

theorem advanceEstimate_of_unstable (pending : controller.estimate.complete = false)
    (unstable : ¬controller.stable = true) :
    controller.advanceEstimate =
      (none, { controller with estimate := controller.estimate.interrupt }) := by
  unfold advanceEstimate
  simp [pending, unstable]

/-- The estimate with the integral term of one more stable tick. -/
def sampledEstimate (controller : AltitudeController) : HoverEstimate :=
  controller.estimate.opened.sample controller.pid.integral

theorem advanceEstimate_of_short (pending : controller.estimate.complete = false)
    (stable : controller.stable = true)
    (short : controller.sampledEstimate.count < HoverEstimate.window) :
    controller.advanceEstimate =
      (none, { controller with estimate := controller.sampledEstimate }) := by
  unfold sampledEstimate at short
  unfold advanceEstimate
  simp [pending, stable, short, sampledEstimate]

/-- The call that fills the window takes the average out of the integral term. -/
theorem advanceEstimate_of_full (pending : controller.estimate.complete = false)
    (stable : controller.stable = true)
    (full : ¬controller.sampledEstimate.count < HoverEstimate.window) :
    controller.advanceEstimate =
      (some
        { correction := controller.sampledEstimate.finish.average
          accumulator := controller.pid.integral + -controller.sampledEstimate.finish.average
          range := controller.sampledEstimate.max - controller.sampledEstimate.min },
        { controller with
          estimate := controller.sampledEstimate.finish
          pid := controller.pid.offsetIntegral (-controller.sampledEstimate.finish.average) }) := by
  unfold sampledEstimate at full
  unfold advanceEstimate
  simp [pending, stable, full, sampledEstimate, Pid.offsetIntegral, HoverEstimate.finish]

/-! ## The window -/

/-- The count, the sum and the extremes of an estimate are those of a streak. The count is a word,
and stays the length of the streak because no streak is longer than the window. -/
structure Tallies (calls : List Call) (estimate : HoverEstimate) : Prop where
  count : estimate.count.toNat = calls.length
  sum : estimate.sum = total (sampled calls)
  min : estimate.min = (sampled calls).foldl Single.min 0
  max : estimate.max = (sampled calls).foldl Single.max 0

/-- An estimate in progress tallies the streak of the log. -/
structure Tracks (calls : List Call) (estimate : HoverEstimate) : Prop where
  tallies : Tallies (streak calls) estimate.opened
  short : (streak calls).length < HoverEstimate.window.toNat

theorem Tracks.restarted : Tracks [] {} := ⟨⟨rfl, rfl, rfl, rfl⟩, by decide⟩

/-- A call that is not stable ends the streak. -/
theorem Tracks.interrupted {call : Call} (unstable : ¬call.stable = true) (calls : List Call)
    (estimate : HoverEstimate) : Tracks (call :: calls) estimate.interrupt := by
  have ended := streak_cons_of_unstable unstable calls
  refine ⟨?_, ?_⟩
  · rw [ended]
    exact ⟨rfl, rfl, rfl, rfl⟩
  · rw [ended]
    decide

theorem opened_of_sampling {estimate : HoverEstimate} (sampling : estimate.sampling = true) :
    estimate.opened = estimate :=
  if_pos sampling

theorem opened_sampling (estimate : HoverEstimate) : estimate.opened.sampling = true := by
  unfold HoverEstimate.opened
  split
  · assumption
  · rfl

theorem sample_sampling (estimate : HoverEstimate) (integral : Float32) :
    (estimate.sample integral).sampling = estimate.sampling := by
  unfold HoverEstimate.sample
  dsimp only
  split <;> rfl

theorem sample_complete (estimate : HoverEstimate) (integral : Float32) :
    (estimate.sample integral).complete = estimate.complete := by
  unfold HoverEstimate.sample
  dsimp only
  split <;> rfl

theorem opened_complete (estimate : HoverEstimate) :
    estimate.opened.complete = estimate.complete := by
  unfold HoverEstimate.opened
  split <;> rfl

/-- One more stable call is tallied. -/
theorem Tallies.sample {calls : List Call} {estimate : HoverEstimate}
    (tallies : Tallies calls estimate) (short : calls.length < HoverEstimate.window.toNat)
    (call : Call) : Tallies (call :: calls) (estimate.sample call.integral) := by
  have count : (estimate.count + 1).toNat = (call :: calls).length := by
    rw [UInt32.toNat_add, tallies.count]
    exact Nat.mod_eq_of_lt (Nat.lt_of_le_of_lt short (by decide))
  have reached : HoverEstimate.delay < estimate.count + 1 ↔
      HoverEstimate.delay.toNat ≤ calls.length := by
    rw [UInt32.lt_iff_toNat_lt, count]
    exact Nat.lt_succ_iff
  unfold HoverEstimate.sample
  dsimp only
  by_cases late : HoverEstimate.delay.toNat ≤ calls.length
  · rw [if_pos (reached.mpr late)]
    refine ⟨count, ?_, ?_, ?_⟩ <;> dsimp only <;> rw [sampled_cons late]
    · rw [total_append, tallies.sum]
    · rw [List.foldl_append, tallies.min]
      rfl
    · rw [List.foldl_append, tallies.max]
      rfl
  · have early : (call :: calls).length ≤ HoverEstimate.delay.toNat := Nat.lt_of_not_le late
    have none : sampled (call :: calls) = sampled calls := by
      rw [sampled_of_length_le early, sampled_of_length_le (Nat.le_of_not_le late)]
    rw [if_neg (mt reached.mp late)]
    refine ⟨count, ?_, ?_, ?_⟩ <;> dsimp only <;> rw [none]
    · exact tallies.sum
    · exact tallies.min
    · exact tallies.max

theorem Tracks.sampled {calls : List Call} (tracks : Tracks calls controller.estimate)
    (stable : controller.stable = true) :
    Tallies (streak (controller.call :: calls)) controller.sampledEstimate := by
  have longer : streak (controller.call :: calls) = controller.call :: streak calls :=
    streak_cons_of_stable stable calls
  rw [longer]
  exact tracks.tallies.sample tracks.short controller.call

/-- Whether a stable call fills the window. -/
theorem Tracks.filled_iff {calls : List Call} (tracks : Tracks calls controller.estimate)
    (stable : controller.stable = true) :
    ¬controller.sampledEstimate.count < HoverEstimate.window ↔
      HoverEstimate.window.toNat ≤ (streak (controller.call :: calls)).length := by
  rw [UInt32.lt_iff_toNat_lt, (tracks.sampled stable).count, Nat.not_lt]

/-- A call that does not fill the window keeps an estimate in progress. -/
theorem Tracks.called {calls : List Call} (tracks : Tracks calls controller.estimate)
    (pending : controller.estimate.complete = false)
    (nothing : controller.advanceEstimate.1 = none) :
    Tracks (controller.call :: calls) controller.advanceEstimate.2.estimate := by
  by_cases stable : controller.stable = true
  · have tallies := tracks.sampled stable
    have opened : controller.sampledEstimate.opened = controller.sampledEstimate := by
      apply opened_of_sampling
      unfold sampledEstimate
      rw [sample_sampling, opened_sampling]
    by_cases short : controller.sampledEstimate.count < HoverEstimate.window
    · rw [advanceEstimate_of_short pending stable short]
      have room := (tracks.filled_iff stable).not_right.mp short
      exact ⟨opened.symm ▸ tallies, Nat.lt_of_not_le room⟩
    · rw [advanceEstimate_of_full pending stable short] at nothing
      cases nothing
  · rw [advanceEstimate_of_unstable pending stable]
    exact .interrupted stable calls _

/-- A call that returns a correction completes the estimate, and no other call does. -/
theorem advanceEstimate_complete (controller : AltitudeController) :
    (controller.advanceEstimate.1 = none ∧
        controller.advanceEstimate.2.estimate.complete = controller.estimate.complete) ∨
      (∃ correction, controller.advanceEstimate.1 = some correction ∧
        controller.estimate.complete = false ∧
        controller.advanceEstimate.2.estimate.complete = true) := by
  cases complete : controller.estimate.complete with
  | true =>
      rw [advanceEstimate_of_complete complete]
      exact .inl ⟨rfl, complete⟩
  | false =>
      by_cases stable : controller.stable = true
      · by_cases short : controller.sampledEstimate.count < HoverEstimate.window
        · rw [advanceEstimate_of_short complete stable short]
          refine .inl ⟨rfl, ?_⟩
          unfold sampledEstimate
          rw [sample_complete, opened_complete, complete]
        · rw [advanceEstimate_of_full complete stable short]
          exact .inr ⟨_, rfl, rfl, rfl⟩
      · rw [advanceEstimate_of_unstable complete stable]
        exact .inl ⟨rfl, complete⟩

/-- What is known of an estimate: it is complete once a call of the log has returned a
correction, and it follows the log until then. -/
structure Sound (calls : List Call) (estimate : HoverEstimate) : Prop where
  complete_iff : estimate.complete = true ↔ ∃ call ∈ calls, call.correction.isSome = true
  tracks : estimate.complete = false → Tracks calls estimate

theorem Sound.restarted : Sound [] {} :=
  ⟨⟨nofun, fun ⟨_, member, _⟩ => absurd member List.not_mem_nil⟩, fun _ => .restarted⟩

/-- A call that returns nothing leaves the estimate as complete as it was. -/
theorem Sound.complete_of_none {calls : List Call} {estimate : HoverEstimate}
    (sound : Sound calls controller.estimate) (none : controller.call.correction = none)
    (same : estimate.complete = controller.estimate.complete) :
    estimate.complete = true ↔
      ∃ call ∈ controller.call :: calls, call.correction.isSome = true := by
  rw [same, sound.complete_iff]
  simp [none]

/-- **A call keeps the estimate in agreement with the log.** -/
theorem Sound.call {calls : List Call} (sound : Sound calls controller.estimate) :
    Sound (controller.call :: calls) controller.advanceEstimate.2.estimate := by
  rcases controller.advanceEstimate_complete with
    ⟨nothing, same⟩ | ⟨correction, returned, -, complete⟩
  · refine ⟨sound.complete_of_none nothing same, fun pending => ?_⟩
    have before := same.symm.trans pending
    exact (sound.tracks before).called before nothing
  · have member : ∃ call ∈ controller.call :: calls, call.correction.isSome = true :=
      ⟨_, List.mem_cons_self, Option.isSome_of_eq_some returned⟩
    exact ⟨iff_of_true complete member, fun pending => absurd (complete.symm.trans pending) nofun⟩

/-! ## Runs -/

/-- Only the calls and the restarts touch the estimate. -/
theorem Operation.perform_estimate (operation : Operation) (controller : AltitudeController) :
    (operation.perform controller).estimate =
      if operation.restarts then {}
      else
        match operation.asked? controller with
        | some asked => asked.advanceEstimate.2.estimate
        | none => controller.estimate := by
  cases operation <;> rfl

theorem Operation.asked?_estimate {operation : Operation} {asked : AltitudeController}
    (called : operation.asked? controller = some asked) :
    asked.estimate = controller.estimate := by
  cases operation <;> cases called <;> rfl

theorem Flown.sound {calls : List Call} (run : Flown controller calls) :
    Sound calls controller.estimate := by
  induction run with
  | start => exact .restarted
  | @perform controller calls _ operation inductionHypothesis =>
      rw [operation.perform_estimate]
      unfold Operation.log
      split
      · exact .restarted
      · split
        next asked called =>
          rw [← Operation.asked?_estimate called] at inductionHypothesis
          exact inductionHypothesis.call
        next => exact inductionHypothesis

variable {calls : List Call} {asked : AltitudeController}

theorem Asked.sound (called : Asked calls asked) : Sound calls asked.estimate := by
  cases called with
  | directly run => exact run.sound
  | byControl run setpoint position => exact run.sound

/-! ## Corrections -/

/-- A full streak is sampled in its last calls. -/
theorem sampled_of_full {calls : List Call}
    (full : (streak calls).length = HoverEstimate.window.toNat) :
    sampled (streak calls) = (calls.take 80).reverse.map Call.integral := by
  have first := streak_eq_take calls
  rw [full] at first
  unfold sampled
  rw [List.drop_reverse, full, first, List.take_take]
  rfl

/-- The samples of the call that fills the window. -/
theorem Tracks.sampled_eq (tracks : Tracks calls asked.estimate) (stable : asked.stable = true)
    (full : ¬asked.sampledEstimate.count < HoverEstimate.window) :
    AltitudeController.sampled (streak (asked.call :: calls)) =
      ((asked.call :: calls).take 80).reverse.map Call.integral := by
  have long := (tracks.filled_iff stable).mp full
  have short := tracks.short
  have longer : (streak (asked.call :: calls)).length = (streak calls).length + 1 := by
    rw [streak_cons_of_stable stable]
    rfl
  exact sampled_of_full (by omega)

/-- The call that fills the window takes the average of the last integral terms. -/
theorem Tracks.average (tracks : Tracks calls asked.estimate) (stable : asked.stable = true)
    (full : ¬asked.sampledEstimate.count < HoverEstimate.window) :
    asked.sampledEstimate.finish.average =
      total (((asked.call :: calls).take 80).reverse.map Call.integral) / 80 := by
  show asked.sampledEstimate.sum / 80 = _
  rw [(tracks.sampled stable).sum, tracks.sampled_eq stable full]

/-- The spread that it returns starts from zero on either side. -/
theorem Tracks.range (tracks : Tracks calls asked.estimate) (stable : asked.stable = true)
    (full : ¬asked.sampledEstimate.count < HoverEstimate.window) :
    asked.sampledEstimate.max - asked.sampledEstimate.min =
      (((asked.call :: calls).take 80).reverse.map Call.integral).foldl Single.max 0 -
        (((asked.call :: calls).take 80).reverse.map Call.integral).foldl Single.min 0 := by
  rw [(tracks.sampled stable).max, (tracks.sampled stable).min, tracks.sampled_eq stable full]

/-- The call is the last of 120 stable ones, none of which has returned a correction. -/
structure Fills (calls : List Call) (asked : AltitudeController) : Prop where
  long : 120 ≤ (streak (asked.call :: calls)).length
  fresh : ∀ call ∈ calls, call.correction = none

theorem fills_iff : Fills calls asked ↔
    120 ≤ (asked.call :: calls).length ∧
      (∀ call ∈ (asked.call :: calls).take 120, call.stable = true) ∧
      ∀ call ∈ calls, call.correction = none := by
  rw [← and_assoc, ← le_length_streak_iff]
  exact ⟨fun fills => ⟨fills.long, fills.fresh⟩, fun ⟨long, fresh⟩ => ⟨long, fresh⟩⟩

/-- The call that fills the window returns the average and the spread, and takes the average out of
the integral term. -/
theorem Asked.corrects (called : Asked calls asked) (fills : Fills calls asked) :
    ∃ correction, asked.advanceEstimate.1 = some correction ∧
      correction.correction =
          total (((asked.call :: calls).take 80).reverse.map Call.integral) / 80 ∧
      correction.range =
          (((asked.call :: calls).take 80).reverse.map Call.integral).foldl Single.max 0 -
            (((asked.call :: calls).take 80).reverse.map Call.integral).foldl Single.min 0 ∧
      asked.advanceEstimate.2.pid =
        { asked.pid with integral := asked.pid.integral - correction.correction } := by
  have pending : asked.estimate.complete = false := by
    refine Bool.eq_false_of_not_eq_true fun complete => ?_
    obtain ⟨call, member, returned⟩ := called.sound.complete_iff.mp complete
    rw [fills.fresh call member] at returned
    cases returned
  have stable : asked.stable = true := by
    by_contra unstable
    have long := fills.long
    rw [streak_cons_of_unstable unstable] at long
    exact absurd long (by decide)
  have tracks := called.sound.tracks pending
  have full : ¬asked.sampledEstimate.count < HoverEstimate.window :=
    (tracks.filled_iff stable).mpr fills.long
  rw [advanceEstimate_of_full pending stable full]
  refine ⟨_, rfl, tracks.average stable full, tracks.range stable full, ?_⟩
  dsimp only [Pid.offsetIntegral]
  rw [Single.add_neg]

/-- Any other call returns nothing and leaves the integral term alone. -/
theorem Asked.rests (called : Asked calls asked) (unfilled : ¬Fills calls asked) :
    asked.advanceEstimate.1 = none ∧ asked.advanceEstimate.2.pid = asked.pid := by
  cases complete : asked.estimate.complete with
  | true =>
      rw [advanceEstimate_of_complete complete]
      exact ⟨rfl, rfl⟩
  | false =>
      by_cases stable : asked.stable = true
      · by_cases short : asked.sampledEstimate.count < HoverEstimate.window
        · rw [advanceEstimate_of_short complete stable short]
          exact ⟨rfl, rfl⟩
        · refine absurd ⟨?_, fun call member => ?_⟩ unfilled
          · exact ((called.sound.tracks complete).filled_iff stable).mp short
          · by_contra returned
            have done := called.sound.complete_iff.mpr
              ⟨call, member, Option.isSome_iff_ne_none.mpr returned⟩
            rw [complete] at done
            cases done
      · rw [advanceEstimate_of_unstable complete stable]
        exact ⟨rfl, rfl⟩

/-- A correction is returned by the call that fills the window. -/
theorem Asked.fills (called : Asked calls asked) {correction : HoverCorrection}
    (completes : asked.advanceEstimate.1 = some correction) : Fills calls asked := by
  by_contra unfilled
  rw [(called.rests unfilled).1] at completes
  cases completes

/-- **In every run, a call of the estimator returns a correction exactly if it is the last of 120
stable calls since the restart and no call since then has returned one.** The correction is the sum
of the last 80 integral terms divided by 80. It is subtracted from the integral term, which neither
the other calls nor the restarts change. -/
theorem Asked.corrects_iff (called : Asked calls asked) :
    (asked.advanceEstimate.1.isSome = true ↔
      120 ≤ (asked.call :: calls).length ∧
        (∀ call ∈ (asked.call :: calls).take 120, call.stable = true) ∧
        ∀ call ∈ calls, call.correction = none) ∧
    (∀ correction, asked.advanceEstimate.1 = some correction →
      correction.correction =
          total (((asked.call :: calls).take 80).reverse.map Call.integral) / 80 ∧
        asked.advanceEstimate.2.pid =
          { asked.pid with integral := asked.pid.integral - correction.correction }) ∧
    (asked.advanceEstimate.1 = none → asked.advanceEstimate.2.pid = asked.pid) ∧
    ∀ operation : Operation, operation.restarts = true →
      (operation.perform asked).pid = asked.pid := by
  have restarting (operation : Operation) (restarts : operation.restarts = true) :
      (operation.perform asked).pid = asked.pid := by
    cases operation <;> first | rfl | cases restarts
  rw [← fills_iff]
  by_cases fills : Fills calls asked
  · obtain ⟨correction, returned, average, -, pid⟩ := called.corrects fills
    rw [returned]
    refine ⟨iff_of_true rfl fills, ?_, nofun, restarting⟩
    rintro _ ⟨⟩
    exact ⟨average, pid⟩
  · obtain ⟨nothing, pid⟩ := called.rests fills
    rw [nothing]
    exact ⟨iff_of_false nofun fills, nofun, fun _ => pid, restarting⟩

/-- A hold above the neutral thrust, up to the last call but one of the window. -/
def hovering : List Operation :=
  [.configure 0.3 0.25 0 0.9 0.05 2, .activate 0.5625, .command none] ++
    List.replicate 119 .advanceEstimate

theorem corrects_hovering :
    Asked (fly hovering).2 (fly hovering).1 ∧
      ∃ correction, (fly hovering).1.advanceEstimate.1 = some correction ∧
        correction.correction =
          total ((((fly hovering).1.call :: (fly hovering).2).take 80).reverse.map Call.integral) /
            80 := by
  have called : Asked (fly hovering).2 (fly hovering).1 := .directly (flown_fly hovering)
  obtain ⟨returns, corrects, -⟩ := Asked.corrects_iff called
  have window : 120 ≤ ((fly hovering).1.call :: (fly hovering).2).length ∧
      (∀ call ∈ ((fly hovering).1.call :: (fly hovering).2).take 120, call.stable = true) ∧
      ∀ call ∈ (fly hovering).2, call.correction = none := by
    decide +kernel
  obtain ⟨correction, returned⟩ := Option.isSome_iff_exists.mp (returns.mpr window)
  exact ⟨called, correction, returned, (corrects correction returned).1⟩

end AltitudeController
end FlightGuidance
