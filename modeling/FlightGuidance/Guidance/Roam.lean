import FlightGuidance.Guidance.Fixed
import FlightGuidance.Stick

/-!
# Roaming

The sticks command a horizontal velocity in the heading of the vehicle. Once
they are released the vehicle brakes, or lands if it was landing.
-/

set_option autoImplicit false

namespace FlightGuidance
namespace Guidance

/-- Fly the horizontal velocity that the shaped sticks command, turned into the
heading of the vehicle. A landing vehicle also descends, and does not hold its
horizontal position. -/
def roamTarget (board : Blackboard) (roll pitch : Float32) : Target :=
  let landing := board.status.value.mode == .land
  let position := board.position.value
  let fastest := board.followerSettings.value.horizontalVelocityMax
  let heading := Single.toRadians board.attitude.value.yaw
  let sine := heading.sin
  let cosine := heading.cos
  let north := (-pitch * cosine - roll * sine) * fastest
  let east := (-pitch * sine + roll * cosine) * fastest
  let down := if landing then board.modeSettings.value.landingVelocity else 0
  let speed := (north * north + east * east).sqrt
  { start := position
    stop := position
    startingVelocity := speed
    endingVelocity := speed
    mode := if landing then .land else .velocity
    parameters :=
      Parameters.write #v[north, east, down, 0] Target.landOptionSlot
        LandOption.none.code.toFloat32 }

/-- Whether a shaped stick is centered. What is not a number is not. -/
def centered (deflection : Float32) : Bool := deflection.abs ≤ 0

/-- One tick of roaming. -/
def roam (board : Blackboard) : Blackboard :=
  let status := board.status.value
  let expo := board.stabilizationSettings.value.expo
  let roll := Stick.expo board.command.value.roll (Single.ofInt expo.roll.toInt)
  let pitch := Stick.expo board.command.value.pitch (Single.ofInt expo.pitch.toInt)
  if centered roll && centered pitch then
    if status.stage = .primary then
      if status.mode = .land then landFromRoam board else brake board
    else board
  else (board.publishTarget (roamTarget board roll pitch)).enterStage .primary

end Guidance
end FlightGuidance
