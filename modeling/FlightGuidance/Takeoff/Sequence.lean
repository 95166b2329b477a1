import FlightGuidance.Altitude.Controller
import FlightGuidance.Blackboard

/-!
# The takeoff sequence

The sequence shapes a takeoff and does not fly it: it bounds the thrust, zeroes
the horizontal stabilization while the vehicle may not correct its position, and
tells when to hold the altitude. Spooling up and the two ramps are counted in
ticks of the guidance loop, of which there are twenty in a second.

Every change of state goes through `moveTo` or `setState`. A change notes the
reason in the slot of the state that is left, and the altitude in the slot of
the state that is entered, starts the tick count over, prepares the new state and
publishes the telemetry. `State.checkState` is never a state of rest: preparing
it moves on at once, to a hold if the vehicle already flies and to spooling up
otherwise (`setState`).
-/

set_option autoImplicit false

namespace FlightGuidance
namespace Takeoff

/-- The ticks of spooling up, of the thrust ramp and of the descent of the
thrust. -/
def slowStartTicks : UInt32 := 40

def thrustUpTicks : UInt32 := 20

def thrustDownTicks : UInt32 := 100

/-- The vehicle is low while it is not higher than this, in meters down. -/
def lowAltitude : Float32 := -5

/-- The thrust at which spooling up begins. -/
def spoolThrust : Float32 := 0.05

/-- The end of the thrust ramp, as a share of the greatest thrust. -/
def climbShare : Float32 := 0.8

/-- The sideways drift in meters that aborts a takeoff. -/
def maxDrift : Float32 := 3

/-- The vertical distance in meters at which the altitude is reached. -/
def arrivalTolerance : Float32 := 0.5

/-- What one step of the sequence reads from the blackboard. -/
structure Inputs where
  thrust : Float32
  position : Ned
  limits : ThrustLimits
  targetDown : Float32
  chain : ControlChain

def Inputs.read (board : Blackboard) : Inputs :=
  { thrust := board.demand.value.thrust
    position := board.position.value
    limits := board.followerSettings.value.thrustLimits
    targetDown := board.target.value.stop.down
    chain := board.status.value.chain }

/-- Whether the demanded thrust exceeds the least one, so that the vehicle is
taken to fly. -/
def Inputs.flying (inputs : Inputs) : Bool := inputs.limits.min < inputs.thrust

structure Sequence where
  state : State := .inactive
  /-- The ticks since the state was entered. -/
  ticks : UInt32 := 0
  /-- The ticks after which the state times out, and zero for no timeout. -/
  timeout : UInt32 := 0
  thrustMin : Float32 := 0
  thrustMax : Float32 := 0
  /-- The upper bound of the thrust while it is constrained. -/
  thrustLimit : Float32 := 0
  /-- The change of a bound per tick. -/
  rampStep : Float32 := 0
  /-- The value at which a rising bound stops. -/
  rampTarget : Float32 := 0
  /-- The place above which the takeoff began. -/
  expectedNorth : Float32 := 0
  expectedEast : Float32 := 0
  low : Bool := false
  holdsAltitude : Bool := false
  zeroesHorizontal : Bool := false
  constrainsThrust : Bool := false
  takeoffLocation : TakeoffLocation := {}
  status : Status := {}

namespace Sequence

/-! ## What the sequence shapes -/

/-- The thrust bounds. -/
def thrustBounds (sequence : Sequence) : Float32 × Float32 :=
  (sequence.thrustMin,
    if sequence.constrainsThrust then sequence.thrustLimit else sequence.thrustMax)

/-- The bounds for the altitude controller: the thrust is bounded and the
velocity is not. -/
def verticalBounds (sequence : Sequence) : VerticalBounds :=
  { thrust := fun _ _ => sequence.thrustBounds }

/-- The demand with the horizontal stabilization zeroed, as long as the vehicle
may not correct its position. -/
def constrain (sequence : Sequence) (demand : Demand) : Demand :=
  if sequence.zeroesHorizontal then { demand with roll := 0, pitch := 0, yaw := 0 } else demand

/-- The height of a position relative to the takeoff location, pointing down. A
location that is not valid lies at zero. -/
def relativeDown (sequence : Sequence) (down : Float32) : Float32 :=
  down - (if sequence.takeoffLocation.valid then sequence.takeoffLocation.position.down else 0)

/-- Note whether the vehicle is low. -/
def assessAltitude (sequence : Sequence) (down : Float32) : Sequence :=
  { sequence with low := lowAltitude ≤ sequence.relativeDown down }

/-! ## Entering a state -/

/-- The end of the thrust: no thrust and nothing above it. -/
def cutThrust (sequence : Sequence) : Sequence :=
  { sequence with
    thrustLimit := -1, constrainsThrust := true, thrustMin := -0.1, thrustMax := 0 }

/-- Begin to spool up from a small thrust to the least one. -/
def prepareSlowStart (sequence : Sequence) (inputs : Inputs) : Sequence :=
  let ceiling := Single.max inputs.limits.min spoolThrust
  { sequence with
    timeout := slowStartTicks
    zeroesHorizontal := true
    rampStep := (ceiling - spoolThrust) / slowStartTicks.toFloat32
    rampTarget := ceiling
    thrustMin := spoolThrust
    thrustMax := spoolThrust
    expectedNorth := inputs.position.north
    expectedEast := inputs.position.east }

/-- Begin to raise the upper bound of the thrust. -/
def prepareThrustUp (sequence : Sequence) (inputs : Inputs) : Sequence :=
  let rampTarget := climbShare * inputs.limits.max
  { sequence with
    timeout := thrustUpTicks
    zeroesHorizontal := false
    rampTarget
    rampStep := (rampTarget - sequence.thrustMax) / thrustUpTicks.toFloat32
    thrustMin := inputs.limits.min }

/-- Begin to lower the thrust from where it is. -/
def prepareThrustDown (sequence : Sequence) (inputs : Inputs) : Sequence :=
  { sequence with
    timeout := thrustDownTicks
    zeroesHorizontal := true
    constrainsThrust := true
    thrustLimit := inputs.thrust
    rampStep := inputs.thrust / thrustDownTicks.toFloat32
    thrustMin := -0.1
    thrustMax := inputs.limits.neutral }

/-- Raise the guidance alarm, unless a mission is being flown. -/
def raiseAlarm (inputs : Inputs) (board : Blackboard) : Blackboard :=
  if inputs.chain.contains .pathPlanner then board
  else board.modifyAlarms fun alarms => { alarms with guidance := .critical }

/-- Prepare a state of rest. -/
def prepare (sequence : Sequence) (inputs : Inputs) (board : Blackboard) :
    State → Sequence × Blackboard
  | .inactive => ({ sequence with zeroesHorizontal := false, constrainsThrust := false }, board)
  | .checkState => (sequence, board)
  | .slowStart => (sequence.prepareSlowStart inputs, board)
  | .thrustUp => (sequence.prepareThrustUp inputs, board)
  | .takeoff => ({ sequence with zeroesHorizontal := false }, board)
  | .hold => ({ sequence with zeroesHorizontal := false, holdsAltitude := true }, board)
  | .thrustDown => (sequence.prepareThrustDown inputs, board)
  | .thrustOff => (sequence.cutThrust, board)
  | .disarmed =>
    ({ sequence.cutThrust with zeroesHorizontal := true }, raiseAlarm inputs board)

/-- Note in the telemetry why the present state is left. -/
def noteExit (sequence : Sequence) (reason : ExitReason) : Sequence :=
  { sequence with
    status :=
      { sequence.status with
        exitReasons := sequence.status.exitReasons.set sequence.state.index reason } }

/-- Note in the telemetry at which altitude the present state was entered. -/
def noteAltitude (sequence : Sequence) (down : Float32) : Sequence :=
  let assessed := sequence.assessAltitude down
  { assessed with
    status :=
      { assessed.status with
        entryAltitudes :=
          assessed.status.entryAltitudes.set assessed.state.index
            (-(sequence.relativeDown down)) } }

/-- Publish the telemetry. -/
def publish (sequence : Sequence) (board : Blackboard) : Sequence × Blackboard :=
  let status :=
    { sequence.status with
      state := sequence.state
      altitude := if sequence.low then .low else .high }
  ({ sequence with status },
    { board with takeoffStatus := board.takeoffStatus.publish status })

/-- Change to another state, which is prepared by `enter`. A change to the
present state only notes the reason. -/
def change (enter : Sequence → Inputs → Blackboard → Sequence × Blackboard)
    (sequence : Sequence) (board : Blackboard) (next : State) (reason : ExitReason) :
    Sequence × Blackboard :=
  let left := sequence.noteExit reason
  if sequence.state = next then (left, board)
  else
    let board :=
      board.log .debug ("Auto-takeoff state " ++ sequence.state.label ++ " -> " ++ next.label)
    let inputs := Inputs.read board
    let entered := { left with state := next }
    let noted := if next = .inactive then entered else entered.noteAltitude inputs.position.down
    let (prepared, board) := enter { noted with ticks := 0, timeout := 0 } inputs board
    prepared.publish board

/-- Change to a state of rest. -/
def moveTo (sequence : Sequence) (board : Blackboard) (next : State) (reason : ExitReason) :
    Sequence × Blackboard :=
  sequence.change (fun entered inputs board => entered.prepare inputs board next) board next reason

/-- Pass through the check: a vehicle that flies holds, and another one spools up
from no thrust at all. -/
def passCheck (sequence : Sequence) (inputs : Inputs) (board : Blackboard) :
    Sequence × Blackboard :=
  if inputs.flying then sequence.moveTo board .hold .none
  else
    { sequence with constrainsThrust := false, thrustMin := -0.1, thrustMax := 0 }.moveTo board
      .slowStart .timeout

/-- Change to any state. -/
def setState (sequence : Sequence) (board : Blackboard) (next : State) (reason : ExitReason) :
    Sequence × Blackboard :=
  if next = .checkState then sequence.change passCheck board next reason
  else sequence.moveTo board next reason

/-! ## Running a state -/

/-- Raise a bound by one step of the ramp. -/
def ramp (sequence : Sequence) (bound : Float32) : Float32 :=
  Single.min (bound + sequence.rampStep) sequence.rampTarget

/-- Leave the present state if it has timed out. -/
def expire (sequence : Sequence) (timedOut : Bool) (board : Blackboard) (next : State) :
    Sequence × Blackboard :=
  if timedOut then sequence.moveTo board next .timeout else (sequence, board)

def runSlowStart (sequence : Sequence) (timedOut : Bool) (board : Blackboard) :
    Sequence × Blackboard :=
  let ramped :=
    { sequence with
      thrustMin := sequence.ramp sequence.thrustMin
      thrustMax := sequence.ramp sequence.thrustMax }
  ramped.expire timedOut board .thrustUp

def runThrustUp (sequence : Sequence) (timedOut : Bool) (board : Blackboard) :
    Sequence × Blackboard :=
  let ramped := { sequence with thrustMax := sequence.ramp sequence.thrustMax }
  ramped.expire timedOut board .takeoff

/-- The sideways drift since the takeoff began. -/
def drift (sequence : Sequence) (position : Ned) : Float32 :=
  let north := sequence.expectedNorth - position.north
  let east := sequence.expectedEast - position.east
  (north * north + east * east).sqrt

def runTakeoff (sequence : Sequence) (inputs : Inputs) (board : Blackboard) :
    Sequence × Blackboard :=
  if inputs.thrust < 0 then sequence.moveTo board .thrustOff .zeroThrust
  else if maxDrift < sequence.drift inputs.position then
    sequence.moveTo board .thrustDown .positionError
  else if (inputs.targetDown - inputs.position.down).abs < arrivalTolerance then
    sequence.moveTo board .hold .arrivedAtAltitude
  else (sequence, board)

def runThrustDown (sequence : Sequence) (timedOut : Bool) (inputs : Inputs)
    (board : Blackboard) : Sequence × Blackboard :=
  let lowered := { sequence with thrustLimit := sequence.thrustLimit - sequence.rampStep }
  let (lowered, board) :=
    if inputs.thrust < 0 || lowered.thrustLimit < 0 then
      lowered.moveTo board .thrustOff .zeroThrust
    else (lowered, board)
  lowered.expire timedOut board .thrustOff

/-- Run one tick of the present state. -/
def runState (sequence : Sequence) (timedOut : Bool) (inputs : Inputs) (board : Blackboard) :
    Sequence × Blackboard :=
  match sequence.state with
  | .inactive | .checkState | .hold => (sequence, board)
  | .slowStart => sequence.runSlowStart timedOut board
  | .thrustUp => sequence.runThrustUp timedOut board
  | .takeoff => sequence.runTakeoff inputs board
  | .thrustDown => sequence.runThrustDown timedOut inputs board
  | .thrustOff => sequence.moveTo board .disarmed .none
  | .disarmed => (sequence, raiseAlarm inputs board)

/-! ## Operations -/

/-- Start over in the inactive state. -/
def deactivate (board : Blackboard) : Sequence × Blackboard :=
  ({} : Sequence).setState board .inactive .none

/-- Prepare for a takeoff. A vehicle that already flies goes straight to a
hold. -/
def activate (board : Blackboard) : Sequence × Blackboard :=
  let fresh : Sequence :=
    { low := true, zeroesHorizontal := true, takeoffLocation := board.takeoffLocation.value }
  let inputs := Inputs.read board
  let assessed := fresh.assessAltitude inputs.position.down
  assessed.setState board (if inputs.flying then .hold else .inactive) .none

/-- Run one tick. -/
def update (sequence : Sequence) (board : Blackboard) : Sequence × Blackboard :=
  let counted := { sequence with ticks := sequence.ticks + 1 }
  let timedOut := 0 < counted.timeout && counted.timeout < counted.ticks
  let inputs := Inputs.read board
  let (ran, board) := counted.runState timedOut inputs board
  (if ran.state = .inactive then ran else ran.assessAltitude inputs.position.down, board)

/-- The state to which a gate leads. -/
def gateState : Gate → State
  | .waitForArmed | .waitForMidThrottle | .requireUnarmedFirst => .inactive
  | .initiate => .checkState
  | .positionHold | .abort => .hold

/-- Apply a gate. -/
def setGate (sequence : Sequence) (board : Blackboard) (gate : Gate) : Sequence × Blackboard :=
  { sequence with status := { sequence.status with gate } }.setState board (gateState gate) .none

end Sequence
end Takeoff
end FlightGuidance
