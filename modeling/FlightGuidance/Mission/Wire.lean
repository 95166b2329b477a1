import FlightGuidance.Fault

/-!
# The wire form of stored records

A record is encoded as its fields in order, without padding or names: a word of
a single lowest byte first, a number in groups of seven bits with the lowest
group first and the high bit set on every byte but the last, and a signed
number through the natural number that lists zero, minus one, one, minus two and
so on.
-/

set_option autoImplicit false

namespace FlightGuidance
namespace Wire

/-- The bytes of a word, lowest first. -/
def word (value : UInt32) : List UInt8 :=
  [value.toUInt8, (value >>> 8).toUInt8, (value >>> 16).toUInt8, (value >>> 24).toUInt8]

/-- A number in at most the given number of groups of seven bits. -/
def groups : Nat → Nat → List UInt8
  | 0, _ => []
  | count + 1, value =>
    if value < 128 then [UInt8.ofNat value]
    else UInt8.ofNat (value % 128 + 128) :: groups count (value / 128)

/-- A number below `2 ^ 16`, for which three groups are enough. -/
def index (value : UInt16) : List UInt8 := groups 3 value.toNat

/-- The place of an integer in the list of zero, minus one, one, minus two and
so on. -/
def zigzag (value : Int) : Nat :=
  if 0 ≤ value then 2 * value.natAbs else 2 * value.natAbs - 1

/-- A signed number. -/
def signed (value : Int16) : List UInt8 := groups 3 (zigzag value.toInt)

/-- The room for one record. -/
def capacity : Nat := 64

/-- An encoded record, if it fits. -/
def fit (bytes : List UInt8) : Except EncodingError (List UInt8) :=
  if bytes.length ≤ capacity then .ok bytes else .error .bufferFull

end Wire
end FlightGuidance
