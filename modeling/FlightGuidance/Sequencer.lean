import FlightGuidance.Guidance.Fixed
import FlightGuidance.Mission.Plan
import FlightGuidance.Sequencer.Condition
import FlightGuidance.Settings.Report

/-!
# The sequencer

The sequencer walks the waypoints of a mission. It checks the plan on every tick,
holds the position when it is asked to fly a plan that is not valid, and otherwise
hands each leg to the path follower as a target. It looks at the leg again once
the follower reports back the target of the leg: a follower that has failed leads
to the error destination of the action, and the end condition and the command of
the action decide between staying, going on and jumping (`next?`).
-/

set_option autoImplicit false

namespace FlightGuidance

structure Sequencer where
  /-- Whether a mission is engaged. -/
  active : Bool := false
  /-- Whether the position is held since the plan was found not to be valid. -/
  holdsInvalidPlan : Bool := false
  /-- The revision of the mission whose leg was published last. -/
  missionRevision : UInt64 := 0
  timer : LegTimer := {}
  settings : SettingsGuard ModeSettings := ⟨{}, none⟩

namespace Sequencer

/-- The name of the sequencer in messages. -/
def name : String := "path_planner"

/-! ## Legs -/

/-- The waypoint and the action of an index, if both are loaded. -/
def leg? (mission : Mission) (index : UInt16) : Option (Waypoint × PathAction) :=
  match mission.waypoint? index with
  | none => none
  | some waypoint => (mission.action? waypoint.action).map (waypoint, ·)

/-- The waypoint before an index, if there is one. -/
def previous? (mission : Mission) (index : UInt16) : Option Waypoint :=
  if index = 0 then none else mission.waypoint? (index - 1)

/-- The target of a leg. It starts at the waypoint before, and the first leg at
the present position. -/
def legTarget (mission : Mission) (position : Ned) (index : UInt16) (waypoint : Waypoint)
    (action : PathAction) : Target :=
  let (start, startingVelocity) :=
    match previous? mission index with
    | some previous => (previous.position, previous.velocity.value)
    | none => (position, waypoint.velocity.value)
  { start
    stop := waypoint.position
    startingVelocity
    endingVelocity := waypoint.velocity.value
    mode := action.mode
    parameters := action.modeParameters.map StoredSingle.value
    sequenceId := index.toInt16 }

/-- Publish the target of the active leg. -/
def publishLeg (sequencer : Sequencer) (board : Blackboard) : Blackboard :=
  if sequencer.active then
    let mission := board.mission.value
    let index := board.activeWaypoint.value.index
    match leg? mission index with
    | none => board
    | some (waypoint, action) =>
      board.publishTarget (legTarget mission board.position.value index waypoint action)
  else board

/-- The index itself within the plan, and the first one past the end of it. -/
def wrap (index count : UInt16) : UInt16 := if count ≤ index then 0 else index

/-- Activate a waypoint and publish its leg. -/
def setWaypoint (sequencer : Sequencer) (board : Blackboard) (index : UInt16) : Blackboard :=
  let index := wrap index board.plan.value.waypointCount
  let board :=
    board.log .debug (name ++ ": Active waypoint " ++ Nat.repr index.toNat)
  sequencer.publishLeg
    { board with activeWaypoint := board.activeWaypoint.publish { index } }

/-! ## The end of a leg -/

/-- The waypoint to go to when the follower has failed, if the action names one
other than the active one. -/
def errorJump? (index : UInt16) (action : PathAction) (report : FollowerReport) :
    Option UInt16 :=
  if report.state = .critical ∧ 0 ≤ action.errorJump ∧ index.toInt16 ≠ action.errorJump then
    some action.errorJump.toUInt16
  else none

/-- The index after another one, at most the last one there is. -/
def successor (index : UInt16) : UInt16 := if index = 65535 then index else index + 1

/-- The waypoint that follows from the outcome of the end condition, before it is
wrapped around the end of the plan. -/
def next? (index : UInt16) (action : PathAction) (complete : Bool) : Option UInt16 :=
  let next := successor index
  let jump := jumpDestination index action.jump
  match action.command with
  | .onConditionNext => if complete then some next else none
  | .onNotConditionNext => if complete then none else some next
  | .onConditionJump => if complete then some jump else none
  | .onNotConditionJump => if complete then none else some jump
  | .ifConditionJumpElseNext => some (if complete then jump else next)

/-- The loaded waypoint after an index, which is the first after the last. -/
def following? (mission : Mission) (index : UInt16) : Option Waypoint :=
  mission.waypoint? (UInt16.ofNat ((index.toNat + 1) % max mission.waypoints.length 1))

/-- What the end conditions read from the blackboard. -/
def snapshot (board : Blackboard) : VehicleSnapshot :=
  { position := board.position.value
    velocity := board.velocity.value
    airspeed := board.airspeed.value.calibrated
    report := board.report.value }

/-- Look at the active leg, once the follower flies it. -/
def fly (sequencer : Sequencer) (board : Blackboard) (mission : Mission) (index : UInt16)
    (now : Micros) : Sequencer × Blackboard :=
  match leg? mission index with
  | none => (sequencer, board)
  | some (waypoint, action) =>
    if board.report.value.sequenceId ≠ board.target.value.sequenceId then (sequencer, board)
    else
      match errorJump? index action board.report.value with
      | some destination =>
        let board :=
          board.log .warn
            (name ++ ": Path follower failed, jumping to waypoint "
              ++ Nat.repr destination.toNat)
        (sequencer, sequencer.setWaypoint board destination)
      | none =>
        match following? mission index with
        | none => (sequencer, board)
        | some nextWaypoint =>
          let leg : ActiveLeg := { index, waypoint, nextWaypoint, action }
          let (complete, timer) := leg.complete (snapshot board) sequencer.timer now
          let sequencer := { sequencer with timer }
          match next? index action complete with
          | some next => (sequencer, sequencer.setWaypoint board next)
          | none => (sequencer, board)

/-! ## Ticks -/

/-- Engage the mission, at its first waypoint or where it was left. -/
def engage (sequencer : Sequencer) (board : Blackboard) : Sequencer × Blackboard :=
  let engaged :=
    { sequencer with active := true, missionRevision := board.mission.revision }
  let index :=
    if engaged.settings.lastValid.modeChangeRestartsPlan then 0
    else board.activeWaypoint.value.index
  (engaged, engaged.setWaypoint (board.log .info (name ++ ": Path plan engaged")) index)

/-- Publish the leg anew if another mission was loaded. -/
def followMission (sequencer : Sequencer) (board : Blackboard) : Sequencer × Blackboard :=
  if board.mission.revision = sequencer.missionRevision then (sequencer, board)
  else
    let sequencer := { sequencer with missionRevision := board.mission.revision }
    (sequencer, sequencer.publishLeg board)

/-- A tick outside of mission flight. -/
def standDown (sequencer : Sequencer) (board : Blackboard) : Sequencer × Blackboard :=
  ({ sequencer with active := false }, board.setPlanAlarm .ok)

/-- A tick on a plan that is not valid. The position is held from the first of
them on. -/
def refuse (sequencer : Sequencer) (board : Blackboard) (cause : PlanError) :
    Sequencer × Blackboard :=
  let board :=
    if sequencer.holdsInvalidPlan then board
    else
      Guidance.hold (board.log .error (name ++ ": Path plan rejected: " ++ cause.message))
  ({ sequencer with active := false, holdsInvalidPlan := true }, board.setPlanAlarm .critical)

/-- A tick on a valid plan. The vehicle may still have to be armed. -/
def proceed (sequencer : Sequencer) (board : Blackboard) (now : Micros) :
    Sequencer × Blackboard :=
  let sequencer := { sequencer with holdsInvalidPlan := false }
  let board := board.setPlanAlarm .ok
  if !board.status.value.armed then (sequencer, board)
  else if !sequencer.active then sequencer.engage board
  else
    let mission := board.mission.value
    let index := board.activeWaypoint.value.index
    let (sequencer, board) := sequencer.followMission board
    sequencer.fly board mission index now

/-- One tick. -/
def tick (sequencer : Sequencer) (board : Blackboard) (now : Micros) : Sequencer × Blackboard :=
  let (settings, board) := sequencer.settings.checkRecord .modes name board
  let sequencer := { sequencer with settings }
  if !board.status.value.chain.contains .pathPlanner then sequencer.standDown board
  else
    match board.plan.value.check board.mission.value with
    | .error cause => sequencer.refuse board cause
    | .ok () => sequencer.proceed board now

end Sequencer
end FlightGuidance
