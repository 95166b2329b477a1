import FlightGuidance.Arbiter.Assist
import FlightGuidance.Arbiter.BatteryFailsafe
import FlightGuidance.Guidance.ModeGuidance
import FlightGuidance.Settings.Report

/-!
# The arbiter

On every tick the arbiter decides how the vehicle is flown. The switch position
in force selects the flight mode, the mode selects its assistance and the handler,
and the sticks move assisted control from stage to stage. The decision is a
function of what the tick has read (`decide`); it is published when it differs
from the published one, and then the handler of the mode runs, from the start if the
decision has changed.
-/

set_option autoImplicit false

namespace FlightGuidance

structure Arbiter where
  /-- Whether no tick has been made. -/
  first : Bool := true
  /-- The switch position of the last published decision. -/
  lastPosition : UInt8 := 0
  failsafe : BatteryFailsafe := {}
  band : BrakeBand := {}
  guidance : ModeGuidance := {}
  modeSettings : SettingsGuard ModeSettings := ⟨{}, none⟩
  stabilizationSettings : SettingsGuard StabilizationSettings := ⟨{}, none⟩
  followerSettings : SettingsGuard FollowerSettings := ⟨{}, none⟩

/-- The outcome of a tick. -/
structure Arbitration where
  handler : ControlHandler
  /-- Whether the decision has changed, so that the handler starts over. -/
  fresh : Bool
  deriving DecidableEq, Repr

namespace Arbiter

/-- The name of the arbiter in messages. -/
def name : String := "manual_control"

/-! ## The flight mode -/

/-- The flight mode of a switch position, and the position that counts as selected.
A position without a mode keeps the mode, and so does a takeoff that is
selected while the vehicle is armed, since it may fly already. -/
def selectMode (position lastPosition : UInt8) (settings : ModeSettings)
    (status : FlightStatus) : FlightMode × UInt8 :=
  let mode := settings.positions[position.toNat]?.getD status.mode
  if mode = .autoTakeoff ∧ status.armed then (status.mode, lastPosition) else (mode, position)

/-- Assistance and its stages. -/
structure Progress where
  assist : Assist
  stage : AssistStage
  throttle : ThrottleStage
  deriving DecidableEq, Repr

/-- Assistance that has not begun. -/
def Progress.fresh (assist : Assist) : Progress := ⟨assist, .primary, .manual⟩

/-- The progress with which a tick begins: that of the published decision, unless
the mode changes. -/
def startProgress (mode : FlightMode) (status : FlightStatus) : Progress :=
  if mode = status.mode then ⟨status.assist, status.stage, status.throttle⟩ else .fresh .none

/-- What the decision of a tick reads besides the mode. -/
structure Context where
  position : UInt8
  status : FlightStatus
  command : PilotCommand
  accessory : Accessory
  modes : ModeSettings
  stabilization : StabilizationSettings
  limits : ThrustLimits
  neutralOffset : Float32

/-- The stages of a stabilized mode. A change of its assistance starts them over. -/
def stabilize (mode : FlightMode) (context : Context) (progress : Progress)
    (band : BrakeBand) : ControlHandler × Progress × BrakeBand :=
  let assist := Assist.ofMode context.position mode context.modes context.stabilization
  let progress :=
    if assist = context.status.assist then { progress with assist } else .fresh assist
  if assist = .none then (.stabilized, progress, band)
  else
    let (decision, band) :=
      band.next assist progress.stage progress.throttle context.command context.limits
        context.neutralOffset
    (if decision.follows then .pathFollower else .stabilized,
      ⟨assist, decision.stage, decision.throttle⟩, band)

/-- The handler and the assistance of a mode. -/
def handle (mode : FlightMode) (context : Context) (band : BrakeBand) :
    ControlHandler × Progress × BrakeBand :=
  let progress := startProgress mode context.status
  match mode with
  | .manual => (.manual, progress, band)
  | .stabilized1 | .stabilized2 | .stabilized3 | .stabilized4 | .stabilized5 | .stabilized6
  | .autoTune => stabilize mode context progress band
  | .velocityRoam =>
    (.pathFollower, { progress with assist := .primaryThrust, throttle := .manual }, band)
  | .positionHold | .land | .autoTakeoff =>
    let assist := Assist.ofMode context.position mode context.modes context.stabilization
    (.pathFollower,
      { progress with
        assist
        throttle := if assist = .none then progress.throttle else assist.throttle },
      band)
  | .courseLock | .positionRoam | .homeLeash | .absolutePosition | .returnToBase | .poi
  | .autoCruise => (.pathFollower, progress, band)
  | .pathPlanner => (.pathPlanner, progress, band)

/-! ## Stabilization of an armed vehicle -/

/-- The deflection of an accessory channel that counts as switched. -/
def accessoryThreshold : Float32 := 0.05

/-- Whether an armed vehicle is always stabilized: the configured channel switches
it off, switches it on once the throttle is high enough, and otherwise leaves it. -/
def alwaysStabilize (context : Context) : Bool :=
  let channel :=
    context.modes.alwaysStabilizeChannel.bind fun channel =>
      context.accessory.channels[channel.toNat]?
  match channel with
  | none => false
  | some value =>
    if value ≤ -accessoryThreshold then false
    else if accessoryThreshold ≤ value
        ∧ context.modes.alwaysStabilizeThrottle ≤ context.command.throttle then true
    else context.status.alwaysStabilizeWhenArmed

/-! ## The decision -/

/-- The handler of a mode, and the flight status that goes with it. -/
def decide (mode : FlightMode) (context : Context) (band : BrakeBand) :
    ControlHandler × FlightStatus × BrakeBand :=
  let (handler, progress, band) := handle mode context band
  (handler,
    { armed := context.status.armed
      mode
      chain := handler.chain
      alwaysStabilizeWhenArmed := alwaysStabilize context
      assist := progress.assist
      stage := progress.stage
      throttle := progress.throttle },
    band)

/-- Whether a decision differs from the published one. The engaged loops follow
from the rest and do not count. -/
def differs (next status : FlightStatus) : Bool :=
  next.mode != status.mode
    || next.alwaysStabilizeWhenArmed != status.alwaysStabilizeWhenArmed
    || next.assist != status.assist
    || next.stage != status.stage
    || next.throttle != status.throttle

/-- Publish a decision. Arming is not the arbiter's to write. -/
def commit (board : Blackboard) (next : FlightStatus) : Blackboard :=
  let status := board.status.value
  let logged :=
    if next.mode = status.mode then board
    else
      board.log .info
        (name ++ ": Flight mode " ++ status.mode.label ++ " -> " ++ next.mode.label)
  logged.modifyStatus fun status => { next with armed := status.armed }

/-! ## Ticks -/

/-- Check the three settings records. Rejected ones are restored before any handler
reads them. -/
def checkSettings (arbiter : Arbiter) (board : Blackboard) : Arbiter × Blackboard :=
  let (modeSettings, board) := arbiter.modeSettings.checkRecord .modes name board
  let (stabilizationSettings, board) :=
    arbiter.stabilizationSettings.checkRecord .stabilization name board
  let (followerSettings, board) := arbiter.followerSettings.checkRecord .follower name board
  ({ arbiter with modeSettings, stabilizationSettings, followerSettings }, board)

/-- What a tick reads from the blackboard, at a switch position. -/
def context (arbiter : Arbiter) (board : Blackboard) (position : UInt8) : Context :=
  { position
    status := board.status.value
    command := board.command.value
    accessory := board.accessory.value
    modes := arbiter.modeSettings.lastValid
    stabilization := arbiter.stabilizationSettings.lastValid
    limits := arbiter.followerSettings.lastValid.thrustLimits
    neutralOffset := board.selfTuning.value.offset }

/-- Look at the battery. The first part is the switch position in force. -/
def resolvePosition (arbiter : Arbiter) (board : Blackboard) (now : Micros) :
    UInt8 × Arbiter × Blackboard :=
  let (position, failsafe, messages) :=
    arbiter.failsafe.apply board.command.value.switchPosition board.status.value.armed
      board.alarms.value.battery arbiter.modeSettings.lastValid now
  (position, { arbiter with failsafe },
    { board with journal := board.journal ++ messages.toArray })

/-- Run the handler. Manual and stabilized flight need none. -/
def runHandler (arbiter : Arbiter) (board : Blackboard) (handler : ControlHandler)
    (fresh : Bool) (now : Micros) : Arbiter × Blackboard :=
  match handler with
  | .manual | .stabilized => (arbiter, board)
  | .pathFollower =>
    let (guidance, board) := arbiter.guidance.follow fresh board now
    ({ arbiter with guidance }, board)
  | .pathPlanner =>
    let (guidance, board) := arbiter.guidance.followMission fresh board
    ({ arbiter with guidance }, board)

/-- One tick. -/
def tick (arbiter : Arbiter) (board : Blackboard) (now : Micros) :
    Arbitration × Arbiter × Blackboard :=
  let (arbiter, board) := arbiter.checkSettings board
  let (position, arbiter, board) := arbiter.resolvePosition board now
  let status := board.status.value
  let (mode, position) :=
    selectMode position arbiter.lastPosition arbiter.modeSettings.lastValid status
  let (handler, next, band) := decide mode (arbiter.context board position) arbiter.band
  let fresh := arbiter.first || differs next status
  let arbiter :=
    { arbiter with
      band
      first := arbiter.first && !fresh
      lastPosition := if fresh then position else arbiter.lastPosition }
  let board := if fresh then commit board next else board
  let (arbiter, board) := arbiter.runHandler board handler fresh now
  (⟨handler, fresh⟩, arbiter, board)

end Arbiter
end FlightGuidance
