import FlightGuidance.Guidance.Roam
import FlightGuidance.Guidance.StickFlight

/-!
# Guidance of the flight modes

A flight mode that the path follower flies publishes its first target when it is
engaged, and the modes that follow the sticks keep updating it on every tick
after that. A stabilized mode with assistance plans a brake whenever it enters the
brake stage. In a mission the targets come from the sequencer, and only the gate
of a takeoff leg is advanced here.
-/

set_option autoImplicit false

namespace FlightGuidance

structure ModeGuidance where
  sticks : StickFlight := {}
  /-- Whether the last tick was in the brake stage. -/
  braking : Bool := false

namespace ModeGuidance

/-- Engage a mode. A stabilized mode plans its brake on entry of the brake
stage, not here. -/
def engage (guidance : ModeGuidance) (mode : FlightMode) (assist : Assist)
    (board : Blackboard) : ModeGuidance × Blackboard :=
  match mode with
  | .positionHold =>
    (guidance, if assist = .full then Guidance.brake board else Guidance.hold board)
  | .poi => (guidance, Guidance.hold board)
  | .returnToBase => (guidance, Guidance.returnToBase board)
  | .land => (guidance, Guidance.land board)
  | .autoTakeoff => (guidance, Guidance.takeoff board)
  | .velocityRoam => ({ guidance with sticks := guidance.sticks.engageRoam board }, board)
  | .courseLock | .positionRoam | .homeLeash | .absolutePosition =>
    let (sticks, board) := guidance.sticks.engageVario board
    ({ guidance with sticks }, board)
  | .autoCruise =>
    let (sticks, board) := guidance.sticks.engageCruise board
    ({ guidance with sticks }, board)
  | .stabilized1 | .stabilized2 | .stabilized3 | .stabilized4 | .stabilized5 | .stabilized6 =>
    (guidance, board)
  | .manual | .autoTune | .pathPlanner => (guidance, Guidance.hold board)

/-- One tick of an engaged mode. The other modes keep the target of their
engagement. -/
def run (guidance : ModeGuidance) (mode : FlightMode) (assist : Assist)
    (board : Blackboard) (now : Micros) : ModeGuidance × Blackboard :=
  match mode with
  | .courseLock | .positionRoam | .homeLeash | .absolutePosition =>
    match VarioFrame.ofMode? mode with
    | some frame =>
      let (sticks, board) := guidance.sticks.runVario frame board
      ({ guidance with sticks }, board)
    | none => (guidance, board)
  | .velocityRoam => (guidance, Guidance.roam board)
  | .land => (guidance, if assist = .none then board else Guidance.roam board)
  | .autoTakeoff => (guidance, Guidance.advanceGate board)
  | .autoCruise =>
    let (sticks, board) := guidance.sticks.runCruise board now
    ({ guidance with sticks }, board)
  | .manual | .stabilized1 | .stabilized2 | .stabilized3 | .stabilized4 | .stabilized5
  | .stabilized6 | .autoTune | .positionHold | .returnToBase | .poi | .pathPlanner =>
    (guidance, board)

/-- Plan a brake if a stabilized mode has just entered the brake stage. -/
def planBrake (guidance : ModeGuidance) (status : FlightStatus) (board : Blackboard) :
    ModeGuidance × Blackboard :=
  let braking := status.stage == .brake
  ({ guidance with braking },
    if status.mode.bank?.isSome && braking && !guidance.braking then Guidance.brake board
    else board)

/-- One tick of a mode that the path follower flies. A fresh mode is engaged and
runs from the next tick on. -/
def follow (guidance : ModeGuidance) (fresh : Bool) (board : Blackboard) (now : Micros) :
    ModeGuidance × Blackboard :=
  let status := board.status.value
  if fresh then
    let board := board.log .debug ("Path follower engaged in " ++ status.mode.label)
    let (engaged, board) := guidance.engage status.mode status.assist board
    engaged.planBrake status board
  else
    let (planned, board) := guidance.planBrake status board
    planned.run status.mode status.assist board now

/-- One tick of a mission. -/
def followMission (guidance : ModeGuidance) (fresh : Bool) (board : Blackboard) :
    ModeGuidance × Blackboard :=
  let (guidance, board) :=
    if fresh then ({ guidance with braking := false }, board.log .debug "Path planner engaged")
    else (guidance, board)
  (guidance,
    if board.target.value.mode = .autoTakeoff then Guidance.advanceGate board else board)

end ModeGuidance
end FlightGuidance
