/-!
# The checksum of stored records

The checksum of a byte string is its eight bit cyclic redundancy check with
the generator `x^8 + x^7 + x^6 + x^4 + x^2 + 1`, most significant bit first,
starting from zero. It is computed a byte at a time from a table that holds
the remainder of every byte, and it can be continued over several strings:
the checksum of a concatenation is reached through the checksum of its first
part.

`shift` is one bit of the division and `divide` the division itself, bit after
bit. The table holds eight shifts of each byte.
-/

set_option autoImplicit false

namespace FlightGuidance
namespace Checksum

/-- The generator without its leading term. -/
def generator : UInt8 := 0xd5

/-- One step of the division: the remainder times `x`, reduced by the generator. -/
def shift (remainder : UInt8) : UInt8 :=
  if remainder &&& 0x80 = 0 then remainder <<< 1 else (remainder <<< 1) ^^^ generator

/-- A number of steps of the division. -/
def shifts : Nat → UInt8 → UInt8
  | 0, remainder => remainder
  | count + 1, remainder => shifts count (shift remainder)

/-- The remainder of every byte. -/
def table : Vector UInt8 256 := Vector.ofFn fun byte => shifts 8 (UInt8.ofNat byte.val)

/-- The checksum after one more byte. -/
def step (digest byte : UInt8) : UInt8 :=
  have bounded : (digest ^^^ byte).toNat < 256 := (digest ^^^ byte).toNat_lt
  table[(digest ^^^ byte).toNat]

/-- The checksum continued over a byte string. -/
def extend (digest : UInt8) (bytes : List UInt8) : UInt8 := bytes.foldl step digest

/-- The checksum of a byte string. -/
def ofBytes (bytes : List UInt8) : UInt8 := extend 0 bytes

theorem extend_append (digest : UInt8) (first second : List UInt8) :
    extend digest (first ++ second) = extend (extend digest first) second :=
  List.foldl_append

/-! ## Division bit by bit -/

/-- The bits of a byte, most significant first. -/
def bitsOf (byte : UInt8) : List Bool :=
  [7, 6, 5, 4, 3, 2, 1, 0].map fun index => byte.toNat.testBit index

/-- One step of the long division: the next bit is appended to the remainder,
which is reduced by the generator when its leading bit leaves. -/
def divideBit (remainder : UInt8) (bit : Bool) : UInt8 :=
  shift remainder ^^^ (if bit then 1 else 0)

/-- The remainder of a bit string by the generator, in long division. -/
def divide (remainder : UInt8) (bits : List Bool) : UInt8 := bits.foldl divideBit remainder

end Checksum
end FlightGuidance
