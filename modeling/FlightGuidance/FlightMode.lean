/-!
# Flight modes

The flight modes that the switch selects, the handlers that fly them and the
control loops that a handler engages. Mode, loops and the progress of assisted
control are published together as one record, the flight status.
-/

set_option autoImplicit false

namespace FlightGuidance

inductive FlightMode where
  | manual
  | stabilized1
  | stabilized2
  | stabilized3
  | stabilized4
  | stabilized5
  | stabilized6
  | autoTune
  | positionHold
  | land
  | autoTakeoff
  | velocityRoam
  | courseLock
  | positionRoam
  | homeLeash
  | absolutePosition
  | returnToBase
  | poi
  | autoCruise
  | pathPlanner
  deriving DecidableEq, Repr

namespace FlightMode

/-- The index of a stabilized mode in the settings of the banks. -/
def bank? : FlightMode → Option (Fin 6)
  | stabilized1 => some 0
  | stabilized2 => some 1
  | stabilized3 => some 2
  | stabilized4 => some 3
  | stabilized5 => some 4
  | stabilized6 => some 5
  | _ => none

/-- The name of a mode in messages. -/
def label : FlightMode → String
  | manual => "Manual"
  | stabilized1 => "Stabilized1"
  | stabilized2 => "Stabilized2"
  | stabilized3 => "Stabilized3"
  | stabilized4 => "Stabilized4"
  | stabilized5 => "Stabilized5"
  | stabilized6 => "Stabilized6"
  | autoTune => "AutoTune"
  | positionHold => "PositionHold"
  | land => "Land"
  | autoTakeoff => "AutoTakeoff"
  | velocityRoam => "VelocityRoam"
  | courseLock => "CourseLock"
  | positionRoam => "PositionRoam"
  | homeLeash => "HomeLeash"
  | absolutePosition => "AbsolutePosition"
  | returnToBase => "ReturnToBase"
  | poi => "Poi"
  | autoCruise => "AutoCruise"
  | pathPlanner => "PathPlanner"

end FlightMode

/-! ## Control loops -/

/-- The engaged control loops, one bit each. Bits without a meaning are kept. -/
structure ControlChain where
  bits : UInt8
  deriving DecidableEq, Repr

namespace ControlChain

def none : ControlChain := ⟨0⟩

/-- The loops that stabilize the attitude. -/
def stabilization : ControlChain := ⟨1⟩

/-- The loop that flies the guidance target. -/
def pathFollower : ControlChain := ⟨2⟩

/-- The loop that walks the waypoints. -/
def pathPlanner : ControlChain := ⟨4⟩

def union (a b : ControlChain) : ControlChain := ⟨a.bits ||| b.bits⟩

/-- Whether all loops of `b` are engaged in `a`. -/
def contains (a b : ControlChain) : Bool := a.bits &&& b.bits == b.bits

end ControlChain

/-- The handler that flies a mode. -/
inductive ControlHandler where
  | manual
  | stabilized
  | pathFollower
  | pathPlanner
  deriving DecidableEq, Repr

/-- The loops that a handler engages. Each handler after the first adds one. -/
def ControlHandler.chain : ControlHandler → ControlChain
  | manual => .none
  | stabilized => .stabilization
  | pathFollower => ControlChain.stabilization.union .pathFollower
  | pathPlanner => (ControlChain.stabilization.union .pathFollower).union .pathPlanner

/-! ## Assisted control -/

/-- How a mode is assisted by the position estimate. -/
inductive Assist where
  | none
  /-- The position is assisted and the pilot keeps control of the thrust. -/
  | primaryThrust
  | full
  deriving DecidableEq, Repr

/-- The stages of assisted control: the pilot flies, the vehicle brakes, the
vehicle holds its position. -/
inductive AssistStage where
  | primary
  | brake
  | hold
  deriving DecidableEq, Repr

/-- Who controls the thrust while the vehicle brakes and holds. -/
inductive ThrottleStage where
  | manual
  | auto
  | autoOverride
  deriving DecidableEq, Repr

/-- The published decision on how the vehicle is flown. -/
structure FlightStatus where
  armed : Bool := false
  mode : FlightMode := .manual
  chain : ControlChain := .none
  alwaysStabilizeWhenArmed : Bool := false
  assist : Assist := .none
  stage : AssistStage := .primary
  throttle : ThrottleStage := .manual
  deriving DecidableEq, Repr

end FlightGuidance
