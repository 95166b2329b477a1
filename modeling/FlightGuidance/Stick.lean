import FlightGuidance.Single

/-!
# Shaping of the sticks

An exponential response softens or sharpens the center of a stick, and a
deadband removes the small deflections of a released one. Both keep a
deflection within the travel of the stick.
-/

set_option autoImplicit false

namespace FlightGuidance
namespace Stick

/-- The travel around the center that is ignored. -/
def deadband : Float32 := 0.1

/-- The base of the exponent: the hundredth root of two. An expo of 100 squares
a deflection and an expo of -100 takes its square root. -/
def expoBase : Float32 := 1.00695

/-- The exponential response to a deflection in `[-1, 1]`. The sign is kept and
the magnitude stays within `[0, 1]`. -/
def expo (deflection strength : Float32) : Float32 :=
  let exponent := Single.clamp (expoBase.pow strength) 0.5 2
  if 0 < deflection then Single.clamp (deflection.pow exponent) 0 1
  else if deflection < 0 then Single.clamp (-((-deflection).pow exponent)) (-1) 0
  else 0

/-- The sticks of a mode that moves the held position: roll, pitch and yaw in
`[-1, 1]`, and thrust in `[0, 1]` until it is centered. -/
structure Deflection where
  roll : Float32
  pitch : Float32
  yaw : Float32
  thrust : Float32

/-- Whether an axis lies outside the deadband. -/
def outside (axis : Float32) : Bool := axis < -deadband || deadband < axis

/-- The travel of an axis beyond the deadband, scaled to `[-1, 1]`. -/
def beyondDeadband (axis : Float32) : Float32 :=
  let travel :=
    if axis < -deadband then axis + deadband
    else if deadband < axis then axis - deadband
    else 0
  Single.clamp (travel * (1 / (1 - deadband))) (-1) 1

/-- Center the thrust and cut the deadband from every axis. The flag tells
whether any axis lies outside of it. -/
def Deflection.normalize (sticks : Deflection) : Bool × Deflection :=
  let thrust := 2 * sticks.thrust - 1
  (outside sticks.roll || outside sticks.pitch || outside sticks.yaw || outside thrust,
    { roll := beyondDeadband sticks.roll
      pitch := beyondDeadband sticks.pitch
      yaw := beyondDeadband sticks.yaw
      thrust := beyondDeadband thrust })

end Stick
end FlightGuidance
