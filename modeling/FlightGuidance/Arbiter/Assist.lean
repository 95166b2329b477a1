import FlightGuidance.Settings
import FlightGuidance.Vehicle

/-!
# Assisted control

In an assisted mode the vehicle brakes when the pilot releases the sticks, and
then holds its position. The thrust may be left to the path follower meanwhile;
the pilot takes it back by leaving the band of thrust in which the brake began.
Once the thrust of a hold is manual, it stays manual until the mode is entered
again.
-/

set_option autoImplicit false

namespace FlightGuidance

/-- The thrust mode that decides how a flight mode is assisted. -/
def FlightMode.thrustMode (mode : FlightMode) (settings : ModeSettings) : ThrustMode :=
  match mode with
  | .positionHold | .velocityRoam => .altitudeVario
  | _ =>
    match mode.bank? with
    | some bank => settings.bankThrust[bank]
    | none => .cruiseControl

/-- The assistance of a flight mode at a switch position. -/
def Assist.ofMode (position : UInt8) (mode : FlightMode) (settings : ModeSettings)
    (stabilization : StabilizationSettings) : Assist :=
  if mode = .autoTune then .none
  else
    match stabilization.assistMap[position.toNat]? with
    | Option.none | some .none => .none
    | some .gpsAssist =>
      match mode.thrustMode settings with
      | .altitudeHold | .altitudeVario => .primaryThrust
      | .manual | .cruiseControl => .full

/-- The throttle stage with which an assisted mode begins. -/
def Assist.throttle : Assist → ThrottleStage
  | full => .auto
  | primaryThrust | none => .manual

/-- The next stages, and whether the path follower flies them. -/
structure AssistDecision where
  stage : AssistStage
  throttle : ThrottleStage
  follows : Bool
  deriving DecidableEq, Repr

/-- The pilot flies. -/
def AssistDecision.pilot : AssistDecision := ⟨.primary, .manual, false⟩

/-- The band of thrust that was noted when the last brake began. -/
structure BrakeBand where
  low : Float32 := 0
  high : Float32 := 0

namespace BrakeBand

/-- The band around the thrust of the pilot. -/
def around (thrust : Float32) : BrakeBand := ⟨0.96 * thrust, 1.04 * thrust⟩

/-- Whether the pilot has moved the thrust out of the band. -/
def left (band : BrakeBand) (thrust : Float32) : Bool := thrust < band.low || band.high < thrust

/-- Whether the thrust is close to the neutral one, which is where the pilot may
take it over. -/
def nearNeutral (thrust neutral : Float32) : Bool :=
  let range := neutral * 0.2
  neutral - range < thrust && thrust < neutral + range

/-- The throttle stage of a hold. -/
def holdThrottle (assist : Assist) (throttle : ThrottleStage) (near : Bool) : ThrottleStage :=
  match assist, throttle with
  | .full, .auto => if near then .autoOverride else .auto
  | .full, .autoOverride => if near then .autoOverride else .manual
  | _, _ => .manual

/-- The next stages of an assisted mode. A brake that begins below the least
thrust leaves the thrust to the pilot, since the path follower is meant to settle
a hover and not to lift off. -/
def next (band : BrakeBand) (assist : Assist) (stage : AssistStage)
    (throttle : ThrottleStage) (command : PilotCommand) (limits : ThrustLimits)
    (neutralOffset : Float32) : AssistDecision × BrakeBand :=
  if command.hasRollOrPitch then (.pilot, band)
  else
    match stage with
    | .primary =>
      (⟨.brake, if command.thrust < limits.min then .manual else assist.throttle, true⟩,
        around command.thrust)
    | .brake =>
      let manual := assist.throttle == .auto && band.left command.thrust
      (⟨.brake, if manual then .manual else assist.throttle, true⟩, band)
    | .hold =>
      let near := nearNeutral command.thrust (limits.neutral + neutralOffset)
      (⟨.hold, holdThrottle assist throttle near, true⟩, band)

end BrakeBand
end FlightGuidance
