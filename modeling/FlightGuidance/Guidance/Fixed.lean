import FlightGuidance.Blackboard
import FlightGuidance.Single

/-!
# Targets that are set once

Some flight modes publish one target when they are engaged and leave it at that:
holding the position, returning to base, taking off, landing and braking. This
module holds their targets, and the two decisions that are taken while such a
target is flown: when the gate of a takeoff opens (`nextGate`), and what follows a
brake (`completeBrake`).
-/

set_option autoImplicit false

namespace FlightGuidance
namespace Guidance

/-! ## Holding the position -/

/-- Hold the present position. -/
def holdTarget (board : Blackboard) : Target :=
  ({ mode := .gotoEndpoint } : Target).holdingAt board.position.value
    board.modeSettings.value.holdOffset.horizontal

def hold (board : Blackboard) : Blackboard := board.publishTarget (holdTarget board)

/-! ## Returning to base -/

/-- Fly to the takeoff location, above the higher one of the present altitude
and that of the location. -/
def returnTarget (board : Blackboard) : Target :=
  let settings := board.modeSettings.value
  let takeoff := board.takeoffLocation.value.position
  let down := Single.min board.position.value.down takeoff.down - settings.returnAltitudeOffset
  let target : Target :=
    { startingVelocity := settings.returnVelocity
      endingVelocity := settings.returnVelocity
      mode := .gotoEndpoint
      parameters :=
        Parameters.write (Vector.replicate 4 0) Target.afterReturnSlot
          settings.afterReturn.code.toFloat32 }
  target.holdingAt ⟨takeoff.north, takeoff.east, down⟩ settings.holdOffset.horizontal

def returnToBase (board : Blackboard) : Blackboard := board.publishTarget (returnTarget board)

/-! ## Taking off -/

/-- Climb straight up by the configured height, behind a closed gate. -/
def takeoffTarget (board : Blackboard) : Target :=
  let position := board.position.value
  let height := board.modeSettings.value.takeoffHeight.abs
  ({ start := position
     stop := { position with down := position.down - height }
     mode := .autoTakeoff } : Target).withGate .waitForArmed

def takeoff (board : Blackboard) : Blackboard := board.publishTarget (takeoffTarget board)

/-- The throttle above which a takeoff begins. -/
def takeoffThrottle : Float32 := 0.3

/-- The gate after one look at the pilot: arming opens the first part and the
throttle the second. A vehicle that had to be disarmed first waits for arming
once it is. -/
def nextGate (armed : Bool) (throttle : Float32) : Takeoff.Gate → Takeoff.Gate
  | .waitForArmed => if armed then .waitForMidThrottle else .waitForArmed
  | .waitForMidThrottle =>
    if takeoffThrottle < throttle then .initiate else .waitForMidThrottle
  | .requireUnarmedFirst => if armed then .requireUnarmedFirst else .waitForArmed
  | gate => gate

/-- Advance the gate of a takeoff target. Other targets are left alone, and a
takeoff target without a gate counts as closed. -/
def advanceGate (board : Blackboard) : Blackboard :=
  let target := board.target.value
  if target.mode = .autoTakeoff then
    let gate := target.gate?.getD .waitForArmed
    let next := nextGate board.status.value.armed board.command.value.throttle gate
    if next = gate then board
    else
      let logged :=
        board.log .debug
          ("Auto-takeoff control state " ++ gate.label ++ " -> " ++ next.label)
      { logged with target := logged.target.modify fun target => target.withGate next }
  else board

/-! ## Landing -/

/-- Descend at the landing velocity and hold the horizontal position. -/
def landTarget (board : Blackboard) : Target :=
  let position := board.position.value
  { start := position
    stop := position
    mode := .land
    parameters :=
      Parameters.write #v[0, 0, board.modeSettings.value.landingVelocity, 0]
        Target.landOptionSlot LandOption.horizontalHold.code.toFloat32 }

def land (board : Blackboard) : Blackboard := board.publishTarget (landTarget board)

/-- Land once the sticks are released, without a brake, so that the descent
goes on. -/
def landFromRoam (board : Blackboard) : Blackboard := (land board).enterStage .hold

/-! ## Braking -/

/-- The least deceleration of a brake, in meters per second squared. -/
def minBrakeRate : Float32 := 0.2

/-- The time to rotate into a braking attitude, in seconds. -/
def brakeDelay : Float32 := 1

/-- The ratio between the timeout of a brake and its planned time, since the
deceleration can be well below the planned one. -/
def brakeTimeoutRatio : Float32 := 4

/-- The planned time until the vehicle stands, in seconds. -/
def timeToStop (speed rate : Float32) : Float32 :=
  Single.clamp (brakeDelay + speed / rate) 0.2 9

/-- Brake from the present velocity: keep it while the vehicle rotates, and then
slow down evenly. -/
def brakeTarget (board : Blackboard) : Target :=
  let position := board.position.value
  let velocity := board.velocity.value
  let speed := velocity.norm
  let rate := Single.max board.followerSettings.value.brakeRate minBrakeRate
  let time := timeToStop speed rate
  let way := velocity.scale brakeDelay + velocity.scale ((time - brakeDelay) * 0.5)
  { start := position
    stop := position + way
    startingVelocity := speed
    endingVelocity := 0
    mode := .brake
    parameters :=
      Parameters.write #v[velocity.north, velocity.east, velocity.down, 0]
        Target.brakeTimeoutSlot (time * brakeTimeoutRatio) }

/-- Brake, and enter the brake stage of assisted control. -/
def brake (board : Blackboard) : Blackboard :=
  (board.enterStage .brake).publishTarget (brakeTarget board)

/-- Hold the present position after a brake, whether the vehicle stands or the
brake timed out. -/
def completeBrake (board : Blackboard) : Blackboard := (hold board).enterStage .hold

end Guidance
end FlightGuidance
