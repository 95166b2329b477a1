/-!
# Rules of single precision

Every quantity of the library is an IEEE single, and every operation rounds
once, in the order in which it is written. This module holds the rules that
are not operations of `Float32`: the larger and the smaller of two numbers when
one of them is not a number, clamping, taking a sign from another number,
the exact remainder of a division, and the two conversions of angles. The functions of angles come
from a library (`Trigonometry`).

The remainder is computed on the integers behind the two singles. A finite
single is a significand below `2 ^ 24` times a power of two (`parts`), so the
remainder of two of them is again such a product and nothing is rounded.
-/

set_option autoImplicit false

namespace FlightGuidance
namespace Single

/-- The quiet number that is not a number, in its canonical form. -/
def nan : Float32 := Float32.ofBits 0x7fc00000

/-- Whether the sign bit is set, which tells the two zeros apart. -/
def signBit (x : Float32) : Bool := x.toBits &&& 0x80000000 != 0

/-- The larger of two numbers, and the other one if one is not a number. -/
def max (a b : Float32) : Float32 :=
  if a.isNaN then b else if a < b then b else a

/-- The smaller of two numbers, and the other one if one is not a number. -/
def min (a b : Float32) : Float32 :=
  if a.isNaN then b else if b < a then b else a

/-- The nearest point of the interval from `low` to `high`. What is not a
number stays so. -/
def clamp (x low high : Float32) : Float32 :=
  if x < low then low else if high < x then high else x

/-- The magnitude of the first number with the sign of the second. -/
def copySign (magnitude sign : Float32) : Float32 :=
  if signBit sign then -magnitude.abs else magnitude.abs

/-- The single nearest to an integer. -/
def ofInt (n : Int) : Float32 :=
  if n < 0 then -(Float32.ofNat n.natAbs) else Float32.ofNat n.natAbs

/-! ## Remainder -/

/-- The significand and the place of a finite single, whose magnitude is the
significand times two to the power `place - 149`. -/
def parts (x : Float32) : Nat × Nat :=
  let bits := x.toBits.toNat
  let exponent := (bits >>> 23) % 256
  let fraction := bits % 8388608
  if exponent = 0 then (fraction, 0) else (fraction + 8388608, exponent - 1)

/-- Two to the power `place - 149`, the value of one unit at a place. -/
def unit (place : Nat) : Float32 :=
  if place < 23 then Float32.ofBits (1 <<< UInt32.ofNat place)
  else Float32.ofBits (UInt32.ofNat (place - 22) <<< 23)

/-- The exact remainder of the division of `x` by `y` toward zero, which has the
sign of `x`. It is not a number if `x` is infinite or `y` is zero, and `x` itself
if `y` is infinite. -/
def remainder (x y : Float32) : Float32 :=
  if !x.isFinite || y.isNaN || y == 0 then nan
  else if y.isInf then x
  else
    let (significand, place) := parts x
    let (divisor, divisorPlace) := parts y
    let lowest := Nat.min place divisorPlace
    let rest := (significand <<< (place - lowest)) % (divisor <<< (divisorPlace - lowest))
    copySign (Float32.ofNat rest * unit lowest) x

/-! ## Angles -/

/-- The single nearest to pi / 180. -/
def radiansPerDegree : Float32 := Float32.ofBits 0x3c8efa35

/-- The single nearest to 180 / pi. -/
def degreesPerRadian : Float32 := Float32.ofBits 0x42652ee1

def toRadians (degrees : Float32) : Float32 := degrees * radiansPerDegree

def toDegrees (radians : Float32) : Float32 := radians * degreesPerRadian

end Single

/-- The functions of angles in radians, as a library for singles has them. -/
structure Trigonometry where
  arcTangent : Float32 → Float32 → Float32
  sine : Float32 → Float32
  cosine : Float32 → Float32

/-- The functions of the platform. -/
def Trigonometry.platform : Trigonometry := ⟨Float32.atan2, Float32.sin, Float32.cos⟩

end FlightGuidance
