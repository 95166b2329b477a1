import FlightGuidance.Fault
import FlightGuidance.FlightMode
import FlightGuidance.Target

/-!
# Settings

The three settings records, with their defaults, and the check that each must
pass before it is used (`Settings.check`). Records are compared as their numbers
are: a record with an entry that is not a number differs from itself.
-/

set_option autoImplicit false

namespace FlightGuidance

/-- The thrust handling of a bank of stabilized flight. -/
inductive ThrustMode where
  | manual
  | cruiseControl
  | altitudeHold
  | altitudeVario
  deriving DecidableEq, Repr

/-- The switch positions to which a low battery moves. -/
structure FailsafePositions where
  warning : Option UInt8 := none
  critical : Option UInt8 := none
  deriving BEq

/-- The distance between the ends of a hold target, and the reach of the modes
that move the held position, in meters. -/
structure HoldOffset where
  horizontal : Float32
  vertical : Float32
  deriving BEq

/-- The modes of the switch positions unless others are chosen. -/
def ModeSettings.defaultPositions : Vector FlightMode 6 :=
  #v[.stabilized1, .stabilized2, .stabilized3, .positionHold, .returnToBase, .land]

/-- The settings of the flight modes. -/
structure ModeSettings where
  /-- The mode of each switch position. -/
  positions : Vector FlightMode 6 := ModeSettings.defaultPositions
  /-- The thrust mode of each stabilized bank. -/
  bankThrust : Vector ThrustMode 6 := Vector.replicate 6 .manual
  /-- The accessory channel that switches the stabilization of an armed vehicle. -/
  alwaysStabilizeChannel : Option UInt8 := none
  alwaysStabilizeThrottle : Float32 := 0
  /-- The time for which a battery alarm must last, in milliseconds. -/
  failsafeDebounce : UInt32 := 5000
  failsafePositions : FailsafePositions := {}
  holdOffset : HoldOffset := ⟨10, 4⟩
  varioSmoothing : Float32 := 0.98
  returnAltitudeOffset : Float32 := 10
  returnVelocity : Float32 := 2
  afterReturn : AfterReturn := .hold
  takeoffHeight : Float32 := 2.5
  landingVelocity : Float32 := 0.6
  /-- Whether a mission starts over when its mode is entered again. -/
  modeChangeRestartsPlan : Bool := true
  deriving BEq

structure ThrustLimits where
  min : Float32 := 0.2
  neutral : Float32 := 0.5
  max : Float32 := 0.9
  deriving BEq

/-- The gains of the vertical velocity loop. -/
structure VelocityGains where
  proportional : Float32
  integral : Float32
  derivative : Float32
  setpointWeight : Float32
  deriving BEq

/-- The settings of the path follower. -/
structure FollowerSettings where
  thrustLimits : ThrustLimits := {}
  /-- The greatest horizontal speed in meters per second. -/
  horizontalVelocityMax : Float32 := 10
  /-- The greatest vertical speed in meters per second. -/
  verticalVelocityMax : Float32 := 4
  /-- The deceleration of a planned brake in meters per second squared. -/
  brakeRate : Float32 := 2.5
  /-- The gain from an altitude error to a vertical velocity. -/
  verticalPositionGain : Float32 := 0.4
  verticalVelocityGains : VelocityGains := ⟨0.3, 0.25, 0, 0.9⟩
  /-- The climb rate of a takeoff in meters per second. -/
  takeoffVelocity : Float32 := 0.6
  deriving BEq

/-- Which modes a switch position assists. -/
inductive AssistMap where
  | none
  | gpsAssist
  deriving DecidableEq, Repr

/-- The expo of each stick, in `[-100, 100]`, where zero is linear. -/
structure StickExpo where
  roll : Int8 := 0
  pitch : Int8 := 0
  yaw : Int8 := 0
  deriving DecidableEq

/-- The settings of the stabilized modes. -/
structure StabilizationSettings where
  assistMap : Vector AssistMap 6 := Vector.replicate 6 .none
  expo : StickExpo := {}
  deriving BEq

/-! ## Consistency -/

/-- A settings record that can be checked for consistency before it is used. -/
class Settings (α : Type) where
  check : α → Except SettingsError Unit

/-- Whether a configured failsafe position is not a position of the switch. -/
def FailsafePositions.outOfRange? (positions : FailsafePositions) : Option UInt8 :=
  ([positions.warning, positions.critical].filterMap id).find? fun position => 6 ≤ position

/-- Both offsets are positive, the failsafe positions are positions of the
switch, and the smoothing is a share below one. -/
def ModeSettings.check (settings : ModeSettings) : Except SettingsError Unit :=
  if ¬(0 < settings.holdOffset.horizontal ∧ 0 < settings.holdOffset.vertical) then
    .error .holdOffset
  else
    match settings.failsafePositions.outOfRange? with
    | some position => .error (.failsafePosition position)
    | none =>
      if 0 ≤ settings.varioSmoothing ∧ settings.varioSmoothing < 1 then .ok ()
      else .error .varioSmoothing

/-- The thrust limits are in order. -/
def FollowerSettings.check (settings : FollowerSettings) : Except SettingsError Unit :=
  let limits := settings.thrustLimits
  if limits.min ≤ limits.neutral ∧ limits.neutral ≤ limits.max then .ok ()
  else .error .thrustLimits

/-- The expo of every stick is at most one hundred in magnitude. -/
def StabilizationSettings.check (settings : StabilizationSettings) : Except SettingsError Unit :=
  let sound (expo : Int8) : Bool := -100 ≤ expo && expo ≤ 100
  if sound settings.expo.roll && sound settings.expo.pitch && sound settings.expo.yaw then .ok ()
  else .error .stickExpo

instance : Settings ModeSettings := ⟨ModeSettings.check⟩
instance : Settings FollowerSettings := ⟨FollowerSettings.check⟩
instance : Settings StabilizationSettings := ⟨StabilizationSettings.check⟩

end FlightGuidance
