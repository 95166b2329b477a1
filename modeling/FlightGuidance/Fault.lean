/-!
# Faults

The causes for which a mission or a settings record is refused, and the text
in which each cause is reported. The cause is the value; the text is made of it
in one place (`PlanError.message`, `SettingsError.message`).
-/

set_option autoImplicit false

namespace FlightGuidance

/-- The two hexadecimal digits of a byte. -/
def hexByte (byte : UInt8) : String :=
  String.ofList [Nat.digitChar (byte.toNat / 16), Nat.digitChar (byte.toNat % 16)]

/-- Why a record could not be encoded. -/
inductive EncodingError where
  | bufferFull
  | unknownLength
  | unsupported
  deriving DecidableEq, Repr

def EncodingError.message : EncodingError → String
  | bufferFull => "Record does not fit in the encoding buffer"
  | unknownLength => "Record contains a sequence of unknown length"
  | unsupported => "Record failed to serialize"

/-- What can go wrong in the wire form of a record, on the way to it or back. -/
inductive WireFault where
  /-- The wire form has no place for a value of this kind, and will have none. -/
  | excluded
  /-- The wire form has no place for a value of this kind so far. -/
  | missing
  | bufferFull
  | unknownLength
  | unexpectedEnd
  | badNumber
  | badFlag
  | badCharacter
  | badText
  | badOption
  | badVariant
  | badEncoding
  | badChecksum
  /-- The record refused to be written. -/
  | writingRefused
  /-- The record refused to be read. -/
  | readingRefused
  | textLost
  deriving DecidableEq, Repr

/-- The cause as which a fault of the wire form is reported. A record that is written
meets two of the faults in practice, and the others are one cause. -/
def EncodingError.ofWire : WireFault → EncodingError
  | .bufferFull => bufferFull
  | .unknownLength => unknownLength
  | .excluded | .missing | .unexpectedEnd | .badNumber | .badFlag | .badCharacter | .badText
  | .badOption | .badVariant | .badEncoding | .badChecksum | .writingRefused | .readingRefused
  | .textLost => unsupported

/-- Why a plan was rejected. -/
inductive PlanError where
  | empty
  | waypointCount (declared loaded : UInt16)
  | actionCount (declared loaded : UInt16)
  | checksum (calculated stored : UInt8)
  | actionOutOfRange (waypoint action : UInt16)
  | jumpOutOfRange (action : UInt16)
  | errorJumpOutOfRange (action : UInt16)
  | encoding (cause : EncodingError)
  deriving DecidableEq, Repr

/-- The name of a cause. -/
def PlanError.label : PlanError → String
  | empty => "Empty"
  | waypointCount _ _ => "WaypointCount"
  | actionCount _ _ => "ActionCount"
  | checksum _ _ => "InvalidChecksum"
  | actionOutOfRange _ _ => "ActionOutOfRange"
  | jumpOutOfRange _ => "JumpOutOfRange"
  | errorJumpOutOfRange _ => "ErrorDestinationOutOfRange"
  | encoding _ => "Encoding"

/-- The decimal digits of an index. -/
private def digits (index : UInt16) : String := Nat.repr index.toNat

def PlanError.message : PlanError → String
  | empty => "The path plan contains no waypoints."
  | waypointCount declared loaded =>
    "The path plan declares " ++ digits declared ++ " waypoints, but only "
      ++ digits loaded ++ " are loaded."
  | actionCount declared loaded =>
    "The path plan declares " ++ digits declared ++ " actions, but only "
      ++ digits loaded ++ " are loaded."
  | checksum calculated stored =>
    "Calculated checksum 0x" ++ hexByte calculated ++ " did not match the stored 0x"
      ++ hexByte stored ++ "."
  | actionOutOfRange waypoint action =>
    "Waypoint " ++ digits waypoint ++ " refers to the out of range action "
      ++ digits action ++ "."
  | jumpOutOfRange action =>
    "Action " ++ digits action ++ " has an out of range jump destination."
  | errorJumpOutOfRange action =>
    "Action " ++ digits action ++ " has an out of range error destination."
  | encoding cause => "Unable to encode mission records: " ++ cause.message

/-- Why a settings record was rejected. -/
inductive SettingsError where
  | thrustLimits
  | holdOffset
  | failsafePosition (position : UInt8)
  | varioSmoothing
  | stickExpo
  deriving DecidableEq, Repr

/-- The name of a cause. -/
def SettingsError.label : SettingsError → String
  | thrustLimits => "ThrustLimits"
  | holdOffset => "PositionHoldOffset"
  | failsafePosition _ => "FailsafePosition"
  | varioSmoothing => "VarioAlpha"
  | stickExpo => "StickExpo"

def SettingsError.message : SettingsError → String
  | thrustLimits => "The thrust limits must satisfy min <= neutral <= max."
  | holdOffset => "The position hold offsets must be strictly positive."
  | failsafePosition position =>
    "The battery failsafe switch position " ++ Nat.repr position.toNat ++ " is out of range."
  | varioSmoothing => "The vario low-pass alpha must lie within [0, 1)."
  | stickExpo => "The stick expo must lie within [-100, 100]."

/-- Any fault of the guidance. -/
inductive GuidanceError where
  | plan (cause : PlanError)
  | settings (cause : SettingsError)
  | encoding (cause : EncodingError)
  deriving DecidableEq, Repr

def GuidanceError.message : GuidanceError → String
  | plan cause => "Path plan error: " ++ cause.message
  | settings cause => "Configuration error: " ++ cause.message
  | encoding cause => "Postcard ser/de error: " ++ cause.message

end FlightGuidance
