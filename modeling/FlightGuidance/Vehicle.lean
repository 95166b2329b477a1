import FlightGuidance.Ned

/-!
# The vehicle and its pilot

The records that the estimator and the receiver publish, and the demand that
the guidance sends to the stabilization loops.
-/

set_option autoImplicit false

namespace FlightGuidance

/-- The estimated attitude in degrees. -/
structure Attitude where
  roll : Float32 := 0
  pitch : Float32 := 0
  yaw : Float32 := 0

structure Airspeed where
  /-- The calibrated airspeed in meters per second. -/
  calibrated : Float32 := 0

/-- The place at which the vehicle was last armed. -/
structure TakeoffLocation where
  position : Ned := {}
  valid : Bool := false

/-- The pilot's input. -/
structure PilotCommand where
  /-- The roll stick, in `[-1, 1]`. -/
  roll : Float32 := 0
  /-- The pitch stick, in `[-1, 1]`. -/
  pitch : Float32 := 0
  /-- The yaw stick, in `[-1, 1]`. -/
  yaw : Float32 := 0
  /-- The demanded thrust, in `[0, 1]`, and negative when it is cut. -/
  thrust : Float32 := 0
  /-- The raw throttle stick, in `[-1, 1]`. -/
  throttle : Float32 := -1
  switchPosition : UInt8 := 0

/-- Whether any roll or pitch is commanded. What is not a number is a command. -/
def PilotCommand.hasRollOrPitch (command : PilotCommand) : Bool :=
  command.roll != 0 || command.pitch != 0

/-- The auxiliary channels, each in `[-1, 1]`. -/
structure Accessory where
  channels : Vector Float32 4 := Vector.replicate 4 0

/-- Attitude and thrust for the stabilization loops. -/
structure Demand where
  roll : Float32 := 0
  pitch : Float32 := 0
  yaw : Float32 := 0
  thrust : Float32 := 0

end FlightGuidance
