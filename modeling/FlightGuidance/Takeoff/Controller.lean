import FlightGuidance.Takeoff.Sequence

/-!
# Flying a takeoff

The takeoff controller joins the takeoff sequence with the altitude controller.
The sequence decides the thrust envelope and the altitude controller flies
within it. Once the sequence holds, the altitude controller holds the end of the
target on its own bounds and learns the hover thrust.
-/

set_option autoImplicit false

namespace FlightGuidance
namespace Takeoff

structure Controller where
  sequence : Sequence := {}
  altitude : AltitudeController := {}
  /-- Whether the altitude hold has begun. -/
  holding : Bool := false
  active : Bool := false

namespace Controller

/-- The sample time of the guidance loop in seconds. -/
def sampleTime : Float32 := 0.05

/-- Program the altitude controller with the present settings and the learned
offset of the neutral thrust. -/
def applySettings (controller : Controller) (board : Blackboard) : Controller :=
  let settings := board.followerSettings.value
  let gains := settings.verticalVelocityGains
  let configured :=
    controller.altitude.configure gains.proportional gains.integral gains.derivative
      gains.setpointWeight sampleTime settings.verticalVelocityMax
  let positioned := configured.withPositionGain settings.verticalPositionGain
  let centered :=
    positioned.withNeutral (settings.thrustLimits.neutral + board.selfTuning.value.offset)
  { controller with
    altitude := centered.withThrustLimits settings.thrustLimits.min settings.thrustLimits.max }

/-- Engage a takeoff leg. An active controller is left as it is. -/
def activate (controller : Controller) (board : Blackboard) : Controller × Blackboard :=
  if controller.active then (controller, board)
  else
    let engaged := { controller with active := true, holding := false }.applySettings board
    let (sequence, board) := Sequence.activate board
    ({ engaged with sequence, altitude := engaged.altitude.activate board.demand.value.thrust },
      board)

/-- Leave a takeoff leg. -/
def deactivate (controller : Controller) (board : Blackboard) : Controller × Blackboard :=
  if controller.active then
    let (sequence, board) := Sequence.deactivate board
    ({ controller with active := false, sequence, altitude := controller.altitude.deactivate },
      board)
  else (controller, board)

/-- Follow the gate that the target carries, if it is another one. -/
def followGate (sequence : Sequence) (board : Blackboard) : Sequence × Blackboard :=
  match board.target.value.gate? with
  | some gate =>
    if gate = sequence.status.gate then (sequence, board) else sequence.setGate board gate
  | none => (sequence, board)

/-- Hold the altitude of the target, and publish what the hold has learned. -/
def hold (controller : Controller) (board : Blackboard) (targetDown : Float32) :
    Controller × Blackboard :=
  let down := board.position.value.down
  let started :=
    if controller.holding then controller.altitude else controller.altitude.beginHold down
  let (correction, altitude) := started.controlPosition targetDown down
  ({ controller with holding := true, altitude },
    match correction with
    | some correction =>
      { board with selfTuning := board.selfTuning.modify correction.applyTo }
    | none => board)

/-- Climb at the takeoff velocity. -/
def climb (controller : Controller) (board : Blackboard) : Controller :=
  { controller with
    altitude :=
      controller.altitude.requestVelocity (-board.followerSettings.value.takeoffVelocity) }

/-- Ask for a velocity, and give the bounds in which it is flown: those of the
sequence during the climb, and none of its own once it holds. -/
def steer (controller : Controller) (board : Blackboard) (targetDown : Float32) :
    Controller × Option VerticalBounds × Blackboard :=
  if controller.sequence.holdsAltitude then
    let (holding, board) := controller.hold board targetDown
    (holding, none, board)
  else (controller.climb board, some controller.sequence.verticalBounds, board)

/-- Run one tick and publish the demand. -/
def update (controller : Controller) (board : Blackboard) : Controller × Blackboard :=
  let targetDown := board.target.value.stop.down
  let (gated, board) := followGate controller.sequence board
  let (sequence, board) := gated.update board
  let (steered, bounds, board) := { controller with sequence }.steer board targetDown
  let altitude :=
    (steered.altitude.measureVelocity board.velocity.value.down bounds).command bounds
  let demand := sequence.constrain { board.demand.value with thrust := altitude.thrust }
  let board := { board with demand := board.demand.publish demand }
  ({ steered with altitude },
    if sequence.state = .disarmed then
      { board with report := board.report.modify fun report => { report with progress := 1 } }
    else board)

end Controller
end Takeoff
end FlightGuidance
