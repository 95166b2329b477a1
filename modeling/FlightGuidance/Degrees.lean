import FlightGuidance.Single

/-!
# Sine and cosine of angles in degrees

The sine of a quarter turn is tabulated at every whole degree and interpolated
in between. Other angles are reduced by their remainder modulo a full turn and
by the symmetries of the four quarters. The cosine is the sine a quarter turn
later. An angle that is not finite has sine zero.
-/

set_option autoImplicit false

namespace FlightGuidance
namespace Degrees

/-- The sines of 0, 1, ..., 90 degrees. -/
def quarterTable : Vector Float32 91 := #v[
  0.0000000, 0.0174524, 0.0348995, 0.0523359, 0.0697564, 0.0871557,
  0.1045284, 0.1218693, 0.1391731, 0.1564344, 0.1736481, 0.1908090,
  0.2079116, 0.2249510, 0.2419219, 0.2588190, 0.2756373, 0.2923717,
  0.3090169, 0.3255681, 0.3420201, 0.3583679, 0.3746065, 0.3907311,
  0.4067366, 0.4226182, 0.4383711, 0.4539905, 0.4694715, 0.4848096,
  0.5000000, 0.5150380, 0.5299192, 0.5446390, 0.5591929, 0.5735764,
  0.5877852, 0.6018150, 0.6156614, 0.6293203, 0.6427876, 0.6560590,
  0.6691306, 0.6819983, 0.6946583, 0.7071067, 0.7193398, 0.7313537,
  0.7431448, 0.7547095, 0.7660444, 0.7771459, 0.7880107, 0.7986355,
  0.8090169, 0.8191520, 0.8290375, 0.8386705, 0.8480481, 0.8571673,
  0.8660254, 0.8746197, 0.8829475, 0.8910065, 0.8987940, 0.9063077,
  0.9135454, 0.9205048, 0.9271838, 0.9335804, 0.9396926, 0.9455185,
  0.9510565, 0.9563047, 0.9612617, 0.9659258, 0.9702957, 0.9743700,
  0.9781476, 0.9816271, 0.9848077, 0.9876883, 0.9902680, 0.9925461,
  0.9945219, 0.9961947, 0.9975640, 0.9986295, 0.9993908, 0.9998477,
  1.0000000]

/-- The sine of an angle between 0 and 90 degrees, on the chord of its whole
degree. -/
def quarterSine (angle : Float32) : Float32 :=
  let lower := Nat.min angle.toUInt8.toNat 89
  have bounded : lower ≤ 89 := Nat.min_le_right _ _
  let fraction := angle - Float32.ofNat lower
  quarterTable[lower] + (quarterTable[lower + 1] - quarterTable[lower]) * fraction

/-- The sine of an angle in degrees. -/
def sine (angle : Float32) : Float32 :=
  if !angle.isFinite then 0
  else
    let reduced := Single.remainder angle 360
    let turned := if reduced < 0 then reduced + 360 else reduced
    if turned ≤ 90 then quarterSine turned
    else if turned ≤ 180 then quarterSine (180 - turned)
    else if turned ≤ 270 then -quarterSine (turned - 180)
    else -quarterSine (Single.max (360 - turned) 0)

/-- The cosine of an angle in degrees. -/
def cosine (angle : Float32) : Float32 := sine (angle + 90)

end Degrees
end FlightGuidance
