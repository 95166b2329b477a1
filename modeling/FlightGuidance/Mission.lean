import FlightGuidance.Checksum
import FlightGuidance.Fault
import FlightGuidance.Mission.Wire
import FlightGuidance.Target

/-!
# Missions

A mission is a list of waypoints and a list of path actions. A waypoint names
the action that is flown toward it, and an action says in which manner it is
flown, when it is complete, and where the mission goes on. The plan is the
header of a mission: how many records of each list it declares, and the
checksum of their wire form.

The numbers of a mission are kept in the words in which they were loaded, since
the checksum covers every bit of them.
-/

set_option autoImplicit false

namespace FlightGuidance

/-- A single in the word in which it was loaded. -/
structure StoredSingle where
  word : UInt32 := 0
  deriving DecidableEq

def StoredSingle.value (single : StoredSingle) : Float32 := Float32.ofBits single.word

structure Waypoint where
  north : StoredSingle := {}
  east : StoredSingle := {}
  down : StoredSingle := {}
  /-- The speed at which the waypoint is reached. -/
  velocity : StoredSingle := {}
  /-- The index of the action that is flown toward the waypoint. -/
  action : UInt16 := 0
  deriving DecidableEq

def Waypoint.position (waypoint : Waypoint) : Ned :=
  ⟨waypoint.north.value, waypoint.east.value, waypoint.down.value⟩

/-- When the active waypoint is complete. -/
inductive EndCondition where
  | none
  | timeOut
  | distanceToTarget
  | legRemaining
  | belowError
  | aboveAltitude
  | aboveSpeed
  | pointingTowardsNext
  | script
  | immediate
  deriving DecidableEq, Repr

/-- What follows from the outcome of the end condition. -/
inductive LegCommand where
  | onConditionNext
  | onNotConditionNext
  | onConditionJump
  | onNotConditionJump
  | ifConditionJumpElseNext
  deriving DecidableEq, Repr

structure PathAction where
  mode : PathMode := .flyEndpoint
  modeParameters : Vector StoredSingle 4 := Vector.replicate 4 {}
  condition : EndCondition := .none
  conditionParameters : Vector StoredSingle 4 := Vector.replicate 4 {}
  command : LegCommand := .onConditionNext
  /-- The waypoint of a jump. A negative number jumps forward by its magnitude. -/
  jump : Int16 := 0
  /-- The waypoint to go to when the follower fails. A negative number is none. -/
  errorJump : Int16 := -1
  deriving DecidableEq

/-- The first parameter of the end condition, at which it is met. -/
def PathAction.threshold (action : PathAction) : Float32 := action.conditionParameters[0].value

/-- Whether the second parameter of the end condition asks for its other measure. -/
def PathAction.alternative (action : PathAction) : Bool :=
  (0.5 : Float32) < action.conditionParameters[1].value

/-- The header of a mission. -/
structure PathPlan where
  waypointCount : UInt16 := 0
  actionCount : UInt16 := 0
  crc : UInt8 := 0
  deriving DecidableEq

structure ActiveWaypoint where
  index : UInt16 := 0
  deriving DecidableEq

/-! ## Wire form -/

/-- The number of a mode on the wire. -/
def PathMode.code : PathMode → Nat
  | flyEndpoint => 0
  | flyVector => 1
  | flyCircleRight => 2
  | flyCircleLeft => 3
  | gotoEndpoint => 4
  | followVector => 5
  | circleRight => 6
  | circleLeft => 7
  | fixedAttitude => 8
  | setAccessory => 9
  | disarmAlarm => 10
  | land => 11
  | brake => 12
  | velocity => 13
  | autoTakeoff => 14

/-- The number of a condition on the wire. -/
def EndCondition.code : EndCondition → Nat
  | none => 0
  | timeOut => 1
  | distanceToTarget => 2
  | legRemaining => 3
  | belowError => 4
  | aboveAltitude => 5
  | aboveSpeed => 6
  | pointingTowardsNext => 7
  | script => 8
  | immediate => 9

/-- The number of a command on the wire. -/
def LegCommand.code : LegCommand → Nat
  | onConditionNext => 0
  | onNotConditionNext => 1
  | onConditionJump => 2
  | onNotConditionJump => 3
  | ifConditionJumpElseNext => 4

/-- The words of four singles. -/
def Wire.words (singles : Vector StoredSingle 4) : List UInt8 :=
  Wire.word singles[0].word ++ Wire.word singles[1].word ++ Wire.word singles[2].word
    ++ Wire.word singles[3].word

def Waypoint.encode (waypoint : Waypoint) : List UInt8 :=
  Wire.word waypoint.north.word ++ Wire.word waypoint.east.word ++ Wire.word waypoint.down.word
    ++ Wire.word waypoint.velocity.word ++ Wire.index waypoint.action

def PathAction.encode (action : PathAction) : List UInt8 :=
  Wire.groups 1 action.mode.code ++ Wire.words action.modeParameters
    ++ Wire.groups 1 action.condition.code ++ Wire.words action.conditionParameters
    ++ Wire.groups 1 action.command.code ++ Wire.signed action.jump
    ++ Wire.signed action.errorJump

/-! ## The store -/

/-- The loaded records. There is room for 64 waypoints and 32 actions. -/
structure Mission where
  waypoints : List Waypoint := []
  actions : List PathAction := []
  waypoints_le : waypoints.length ≤ 64 := by decide
  actions_le : actions.length ≤ 32 := by decide

namespace Mission

/-- The store before anything is loaded. -/
def empty : Mission := {}

/-- The mission of two lists, if there is room for them. -/
def ofLists? (waypoints : List Waypoint) (actions : List PathAction) : Option Mission :=
  if waypoints_le : waypoints.length ≤ 64 then
    if actions_le : actions.length ≤ 32 then some { waypoints, actions, waypoints_le, actions_le }
    else none
  else none

def waypoint? (mission : Mission) (index : UInt16) : Option Waypoint :=
  mission.waypoints[index.toNat]?

def action? (mission : Mission) (index : UInt16) : Option PathAction :=
  mission.actions[index.toNat]?

/-- The checksum continued over encoded records, each of which must fit. -/
def extendChecksum (digest : UInt8) (records : List (List UInt8)) : Except EncodingError UInt8 :=
  records.foldlM (fun digest bytes => (Wire.fit bytes).map (Checksum.extend digest)) digest

/-- The checksum of the wire form of the first waypoints, followed by the first
actions. -/
def checksum (mission : Mission) (waypointCount actionCount : UInt16) :
    Except PlanError UInt8 :=
  let waypoints := (mission.waypoints.take waypointCount.toNat).map Waypoint.encode
  let actions := (mission.actions.take actionCount.toNat).map PathAction.encode
  (extendChecksum 0 (waypoints ++ actions)).mapError .encoding

/-- The header that declares every loaded record. -/
def pathPlan (mission : Mission) : Except PlanError PathPlan :=
  let waypointCount := UInt16.ofNat mission.waypoints.length
  let actionCount := UInt16.ofNat mission.actions.length
  (mission.checksum waypointCount actionCount).map fun crc => { waypointCount, actionCount, crc }

end Mission
end FlightGuidance
