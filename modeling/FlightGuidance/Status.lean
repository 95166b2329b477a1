/-!
# Alarms and telemetry

The alarms that the guidance raises or consumes, and what it reports about the
takeoff and the learned hover thrust.
-/

set_option autoImplicit false

namespace FlightGuidance

inductive Severity where
  | uninitialised
  | ok
  | warning
  | critical
  | error
  deriving DecidableEq, Repr

structure Alarms where
  battery : Severity := .uninitialised
  guidance : Severity := .uninitialised
  pathPlan : Severity := .uninitialised
  /-- Raised when the last settings record was rejected. -/
  settings : Severity := .uninitialised
  deriving DecidableEq, Repr

/-- What was learned about the hover thrust in flight. -/
structure SelfTuning where
  /-- The sum of all corrections, which offsets the configured neutral thrust. -/
  offset : Float32 := 0
  /-- The last correction. -/
  correction : Float32 := 0
  /-- The integral term after the last correction. -/
  accumulator : Float32 := 0
  /-- The spread of the integral term over the last window. -/
  range : Float32 := 0

namespace Takeoff

/-- The states of the takeoff sequence. -/
inductive State where
  | inactive
  | checkState
  | slowStart
  | thrustUp
  | takeoff
  | hold
  | thrustDown
  | thrustOff
  | disarmed
  deriving DecidableEq, Repr

namespace State

/-- The slot of a state in the telemetry. -/
def index : State → Fin 9
  | inactive => 0
  | checkState => 1
  | slowStart => 2
  | thrustUp => 3
  | takeoff => 4
  | hold => 5
  | thrustDown => 6
  | thrustOff => 7
  | disarmed => 8

/-- The name of a state in messages. -/
def label : State → String
  | inactive => "Inactive"
  | checkState => "CheckState"
  | slowStart => "SlowStart"
  | thrustUp => "ThrustUp"
  | takeoff => "Takeoff"
  | hold => "Hold"
  | thrustDown => "ThrustDown"
  | thrustOff => "ThrustOff"
  | disarmed => "Disarmed"

end State

/-- Why the sequence left a state. -/
inductive ExitReason where
  | none
  | timeout
  | zeroThrust
  | positionError
  | arrivedAtAltitude
  deriving DecidableEq, Repr

/-- The gate between the pilot and the sequence. -/
inductive Gate where
  | waitForArmed
  | waitForMidThrottle
  | requireUnarmedFirst
  | initiate
  | positionHold
  | abort
  deriving DecidableEq, Repr

namespace Gate

/-- The number that stands for a gate in the parameters of a target. -/
def code : Gate → UInt8
  | waitForArmed => 0
  | waitForMidThrottle => 1
  | requireUnarmedFirst => 2
  | initiate => 3
  | positionHold => 4
  | abort => 5

/-- The gate for which a number stands. -/
def ofCode? : UInt8 → Option Gate
  | 0 => some waitForArmed
  | 1 => some waitForMidThrottle
  | 2 => some requireUnarmedFirst
  | 3 => some initiate
  | 4 => some positionHold
  | 5 => some abort
  | _ => Option.none

/-- The name of a gate in messages. -/
def label : Gate → String
  | waitForArmed => "WaitForArmed"
  | waitForMidThrottle => "WaitForMidThrottle"
  | requireUnarmedFirst => "RequireUnarmedFirst"
  | initiate => "Initiate"
  | positionHold => "PositionHold"
  | abort => "Abort"

theorem ofCode?_code (gate : Gate) : ofCode? gate.code = some gate := by cases gate <;> rfl

end Gate

inductive AltitudeBand where
  | low
  | high
  deriving DecidableEq, Repr

/-- The telemetry of the sequence. -/
structure Status where
  state : State := .inactive
  /-- The altitude above the takeoff location when each state was entered. -/
  entryAltitudes : Vector Float32 9 := Vector.replicate 9 0
  /-- The reason for which each state was last left. -/
  exitReasons : Vector ExitReason 9 := Vector.replicate 9 .none
  altitude : AltitudeBand := .low
  gate : Gate := .waitForArmed

end Takeoff
end FlightGuidance
