/-!
# Values at the boundary

The outer layer of the program decodes records from values without types and writes
them as such: numbers, texts, flags, lists, and parts by name. It decides nothing, and
the guidance does not depend on it. A number is kept as a decimal, so that nothing is
rounded before the type of the field is known. What cannot be decoded is refused for
one of two reasons (`Refusal`).
-/

set_option autoImplicit false

namespace FlightGuidance
namespace Telemetry

inductive Value where
  | null
  | flag (value : Bool)
  /-- The decimal number `mantissa / 10 ^ places`. -/
  | number (mantissa : Int) (places : Nat)
  | text (value : String)
  | list (items : List Value)
  | parts (entries : List (String × Value))
  deriving Inhabited

/-- Why a value is not decoded. -/
inductive Refusal where
  /-- The value does not have the form of the field. -/
  | malformed
  /-- The value has the form, and there is no room for it. -/
  | full
  deriving DecidableEq, Repr

/-- What is decoded, or why it is refused. -/
abbrev Received (α : Type) := Except Refusal α

/-- Refuse what is not there. -/
def Received.ofOption {α : Type} : Option α → Received α
  | some value => .ok value
  | none => .error .malformed

namespace Value

def ofInt (value : Int) : Value := .number value 0

def ofNat (value : Nat) : Value := .number value 0

def asText : Value → Received String
  | .text value => .ok value
  | _ => .error .malformed

def asList : Value → Received (List Value)
  | .list items => .ok items
  | _ => .error .malformed

def asParts : Value → Received (List (String × Value))
  | .parts entries => .ok entries
  | _ => .error .malformed

/-- An integer between two bounds. A number with decimal places is none. -/
def asInteger (low high : Int) : Value → Received Int
  | .number mantissa 0 =>
    if low ≤ mantissa ∧ mantissa ≤ high then .ok mantissa else .error .malformed
  | _ => .error .malformed

/-- A natural number below a bound. -/
def asNatural (bound : Nat) : Value → Received Nat
  | .number mantissa 0 =>
    if 0 ≤ mantissa ∧ mantissa < bound then .ok mantissa.toNat else .error .malformed
  | _ => .error .malformed

/-- A part by its name. -/
def part? (value : Value) (name : String) : Option Value :=
  match value with
  | .parts entries => entries.lookup name
  | _ => none

/-- A part that must be there. -/
def part (value : Value) (name : String) : Received Value :=
  Received.ofOption (value.part? name)

end Value

/-! ## Words -/

/-- The value of a hexadecimal digit of either case. -/
def hexDigit? (digit : Char) : Option Nat :=
  if digit.isDigit then some (digit.toNat - 48)
  else if 'a' ≤ digit ∧ digit ≤ 'f' then some (digit.toNat - 87)
  else if 'A' ≤ digit ∧ digit ≤ 'F' then some (digit.toNat - 55)
  else none

/-- The number that hexadecimal digits write, the highest first. -/
def hexNumber? (digits : List Char) : Option Nat :=
  digits.foldlM (fun number digit => (hexDigit? digit).map (16 * number + ·)) 0

/-- The lowest hexadecimal digits of a number, the highest first. -/
def hexText : Nat → Nat → List Char
  | 0, _ => []
  | width + 1, number => hexText width (number / 16) ++ [Nat.digitChar (number % 16)]

/-- The bytes that pairs of hexadecimal digits write. -/
def hexBytes? : List Char → Option (List UInt8)
  | [] => some []
  | [_] => none
  | high :: low :: rest => do
    let byte ← hexNumber? [high, low]
    let bytes ← hexBytes? rest
    pure (UInt8.ofNat byte :: bytes)

/-- The word of the single nearest to a decimal number, rounded through double
precision, or the word that eight hexadecimal digits write. -/
def Value.asWord : Value → Received UInt32
  | .number mantissa places =>
    let magnitude := (Float.ofScientific mantissa.natAbs true places).toFloat32
    .ok (if mantissa < 0 then -magnitude else magnitude).toBits
  | .text digits =>
    if digits.length = 8 then
      (Received.ofOption (hexNumber? digits.toList)).map UInt32.ofNat
    else .error .malformed
  | _ => .error .malformed

/-- A single as its word in eight hexadecimal digits. There is one word for what
is not a number, and one for zero. -/
def Value.ofSingle (value : Float32) : Value :=
  let word := if value.isNaN then 0x7fc00000 else if value == 0 then 0 else value.toBits
  .text (String.ofList (hexText 8 word.toNat))

end Telemetry
end FlightGuidance
