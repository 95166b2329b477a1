import FlightGuidance.Altitude.Hover
import FlightGuidance.Filter.Pid

/-!
# The altitude controller

Two loops in a cascade. The outer one turns an altitude error into a vertical
velocity by a single gain, and the inner one turns the velocity error into a
thrust. A guidance sequence may shape the inner loop through `VerticalBounds`.
All vertical quantities point down.
-/

set_option autoImplicit false

namespace FlightGuidance

/-- How a sequence shapes the inner loop. -/
structure VerticalBounds where
  /-- The velocity that is flown in place of a set-point. -/
  velocity : Float32 → Float32 := fun velocity => velocity
  /-- The thrust bounds in place of the configured ones. -/
  thrust : Float32 → Float32 → Float32 × Float32 := fun low high => (low, high)

structure AltitudeController where
  pid : Pid := {}
  /-- The gain of the outer loop. -/
  positionGain : Float32 := 0
  /-- The greatest magnitude of the velocity set-point. -/
  velocityMax : Float32 := 1
  /-- The thrust around which the inner loop works. -/
  neutral : Float32 := 0.5
  minThrust : Float32 := 0.1
  maxThrust : Float32 := 0.6
  positionSetpoint : Float32 := 0
  position : Float32 := 0
  /-- The velocity that the outer loop asks for. -/
  velocityTarget : Float32 := 0
  /-- The velocity that the inner loop flies. -/
  velocitySetpoint : Float32 := 0
  velocity : Float32 := 0
  /-- The last thrust. -/
  thrust : Float32 := 0
  active : Bool := false
  estimate : HoverEstimate := {}

namespace AltitudeController

/-! ## Configuration -/

def withThrustLimits (controller : AltitudeController) (minThrust maxThrust : Float32) :
    AltitudeController :=
  { controller with minThrust, maxThrust }

/-- The ratio between the derivative time and the time constant of its filter. -/
def derivativeFilterRatio : Float32 := 10

/-- Program the inner loop for a sample time in seconds. Gains close to zero are not
divided by. -/
def configure (controller : AltitudeController)
    (proportional integral derivative setpointWeight sampleTime velocityMax : Float32) :
    AltitudeController :=
  let derivativeTime := if proportional < 1e-6 then 1e6 else derivative / proportional
  let tracking :=
    if integral < 1e-6 || proportional < 1e-6 then 0 else integral / proportional
  let filterTime := if derivative < 1e-6 then 0 else derivativeTime / derivativeFilterRatio
  let gains : Pid.Gains :=
    { proportional, integral, derivative, filterTime, tracking
      setpointWeight := Single.clamp setpointWeight 0.4 1
      start := controller.neutral
      bias := controller.neutral
      scale := -1 }
  { controller with pid := controller.pid.configure gains sampleTime, velocityMax }

def withPositionGain (controller : AltitudeController) (positionGain : Float32) :
    AltitudeController :=
  { controller with positionGain }

/-- Move the operating point, and continue from the last thrust if the
controller is active. -/
def withNeutral (controller : AltitudeController) (neutral : Float32) : AltitudeController :=
  let pid :=
    if controller.active then (controller.pid.withBias neutral).transfer controller.thrust
    else controller.pid
  { controller with pid, neutral }

/-- Take over from a thrust without a step in the output. -/
def activate (controller : AltitudeController) (thrust : Float32) : AltitudeController :=
  { controller with pid := controller.pid.transfer thrust, active := true }

/-- Stop, and leave the integrator as it is. -/
def deactivate (controller : AltitudeController) : AltitudeController :=
  { controller with active := false }

/-! ## The hover estimate -/

/-- Forget the estimate, for a new hold. -/
def restartEstimate (controller : AltitudeController) : AltitudeController :=
  { controller with estimate := {} }

/-- Whether the vehicle is stable enough for a sample. -/
def stable (controller : AltitudeController) : Bool :=
  (controller.positionSetpoint - controller.position).abs < 0.5
    && controller.velocitySetpoint.abs < 0.2
    && controller.velocity.abs < 0.2
    && (controller.velocitySetpoint - controller.velocity).abs < 0.1

/-- Advance the estimate by one tick. A correction is returned on the tick that
completes it. -/
def advanceEstimate (controller : AltitudeController) :
    Option HoverCorrection × AltitudeController :=
  if controller.estimate.complete then (none, controller)
  else if !controller.stable then
    (none, { controller with estimate := controller.estimate.interrupt })
  else
    let sampled := controller.estimate.opened.sample controller.pid.integral
    if sampled.count < HoverEstimate.window then
      (none, { controller with estimate := sampled })
    else
      let estimate := sampled.finish
      let pid := controller.pid.offsetIntegral (-estimate.average)
      (some
        { correction := estimate.correction
          accumulator := pid.integral
          range := estimate.max - estimate.min },
        { controller with estimate, pid })

/-! ## The outer loop -/

/-- Ask for a velocity, limited in magnitude. -/
def requestVelocity (controller : AltitudeController) (velocity : Float32) :
    AltitudeController :=
  { controller with
    velocityTarget :=
      if controller.velocityMax < velocity.abs then
        Single.copySign controller.velocityMax velocity
      else velocity }

def withPositionSetpoint (controller : AltitudeController) (positionSetpoint : Float32) :
    AltitudeController :=
  { controller with positionSetpoint }

/-- Begin a hold at an altitude. -/
def beginHold (controller : AltitudeController) (position : Float32) : AltitudeController :=
  { controller with position }.restartEstimate

/-- Fly toward an altitude, and advance the estimate. -/
def controlPosition (controller : AltitudeController) (setpoint position : Float32) :
    Option HoverCorrection × AltitudeController :=
  let placed := { controller with positionSetpoint := setpoint, position }
  (placed.requestVelocity (placed.positionGain * (setpoint - position))).advanceEstimate

/-- Follow the vertical part of a path and correct the distance from it. -/
def followPath (controller : AltitudeController) (path correction : Float32) :
    AltitudeController :=
  controller.requestVelocity (path + controller.positionGain * correction)

/-! ## The inner loop -/

/-- Feed a measured velocity. -/
def measureVelocity (controller : AltitudeController) (velocity : Float32)
    (bounds : Option VerticalBounds) : AltitudeController :=
  { controller with
    velocity
    velocitySetpoint :=
      match bounds with
      | some bounds => bounds.velocity controller.velocityTarget
      | none => controller.velocityTarget }

/-- The velocity after braking from `starting` for `time` seconds. It does not
cross zero and is not further from zero than the measured velocity. -/
def brakeVelocity (starting time rate measured : Float32) : Float32 :=
  if 0 ≤ starting then Single.max (Single.min (starting - time * rate) measured) 0
  else Single.min (Single.max (starting + time * rate) measured) 0

/-- Feed a measured velocity while the vehicle brakes. -/
def measureBraking (controller : AltitudeController) (velocity time rate : Float32) :
    AltitudeController :=
  { controller with
    velocity
    velocitySetpoint := brakeVelocity controller.velocityTarget time rate velocity }

/-- The thrust bounds of the inner loop. -/
def thrustBounds (controller : AltitudeController) (bounds : Option VerticalBounds) :
    Float32 × Float32 :=
  match bounds with
  | some bounds => bounds.thrust controller.minThrust controller.maxThrust
  | none => (controller.minThrust, controller.maxThrust)

/-- Run the inner loop once. The thrust is `thrust` of the result. -/
def command (controller : AltitudeController) (bounds : Option VerticalBounds) :
    AltitudeController :=
  let (low, high) := controller.thrustBounds bounds
  let (thrust, pid) :=
    controller.pid.update controller.velocitySetpoint controller.velocity low high
  { controller with thrust, pid }

end AltitudeController
end FlightGuidance
