import FlightGuidance.Ned
import FlightGuidance.Status

/-!
# Guidance targets

A target tells the path follower where to fly, how fast and in which manner.
Its four parameters mean different things in different modes; some of them
carry an enumeration as a number (`parameterAs?`).
-/

set_option autoImplicit false

namespace FlightGuidance

/-- The manner in which the path follower flies a target. -/
inductive PathMode where
  | flyEndpoint
  | flyVector
  | flyCircleRight
  | flyCircleLeft
  | gotoEndpoint
  | followVector
  | circleRight
  | circleLeft
  | fixedAttitude
  | setAccessory
  | disarmAlarm
  | land
  | brake
  | velocity
  | autoTakeoff
  deriving DecidableEq, Repr

/-- Four parameters, whose meaning depends on the mode or condition. -/
abbrev Parameters := Vector Float32 4

/-- The parameters with another value in a slot. -/
def Parameters.write (parameters : Parameters) (slot : Fin 4) (value : Float32) : Parameters :=
  parameters.set slot value

/-- What the vehicle does once it has returned to base. -/
inductive AfterReturn where
  | hold
  | land
  deriving DecidableEq, Repr

namespace AfterReturn

def code : AfterReturn → UInt8
  | hold => 0
  | land => 1

def ofCode? : UInt8 → Option AfterReturn
  | 0 => some hold
  | 1 => some land
  | _ => none

end AfterReturn

/-- Whether a landing vehicle also holds its horizontal position. -/
inductive LandOption where
  | none
  | horizontalHold
  deriving DecidableEq, Repr

namespace LandOption

def code : LandOption → UInt8
  | none => 0
  | horizontalHold => 1

def ofCode? : UInt8 → Option LandOption
  | 0 => some none
  | 1 => some horizontalHold
  | _ => Option.none

end LandOption

structure Target where
  start : Ned := {}
  stop : Ned := {}
  startingVelocity : Float32 := 0
  endingVelocity : Float32 := 0
  mode : PathMode := .gotoEndpoint
  parameters : Parameters := Vector.replicate 4 0
  /-- The number that the follower reports back once it flies the target. A leg of
  a mission has that of its waypoint. -/
  sequenceId : Int16 := 0

namespace Target

/-- The slot of the next command in an endpoint target. -/
def afterReturnSlot : Fin 4 := 0

/-- The slot of the option in a landing target. -/
def landOptionSlot : Fin 4 := 3

/-- The slot of the timeout in a brake target. -/
def brakeTimeoutSlot : Fin 4 := 3

/-- The slot of the gate in a takeoff target. -/
def gateSlot : Fin 4 := 3

/-- Read a parameter that carries an enumeration. Fractions are cut off, and
what lies outside of the byte range stands for nothing. -/
def parameterAs? {α : Type} (decode : UInt8 → Option α) (target : Target) (slot : Nat) :
    Option α :=
  match target.parameters[slot]? with
  | none => none
  | some value => if 0 ≤ value ∧ value ≤ 255 then decode value.toUInt8 else none

/-- The gate that a target carries. -/
def gate? (target : Target) : Option Takeoff.Gate :=
  target.parameterAs? Takeoff.Gate.ofCode? gateSlot

/-- The target with another gate. -/
def withGate (target : Target) (gate : Takeoff.Gate) : Target :=
  { target with parameters := target.parameters.write gateSlot gate.code.toFloat32 }

/-- A slot names a gate by its code. -/
theorem gate?_of_slot {target : Target} {gate : Takeoff.Gate}
    (carried : target.parameters[(gateSlot : Nat)]? = some gate.code.toFloat32) :
    target.gate? = some gate := by
  have range : 0 ≤ gate.code.toFloat32 ∧ gate.code.toFloat32 ≤ 255 := by
    cases gate <;> decide +kernel
  have code : gate.code.toFloat32.toUInt8 = gate.code := by cases gate <;> decide +kernel
  unfold gate? parameterAs?
  rw [carried]
  dsimp only
  rw [if_pos range, code, Takeoff.Gate.ofCode?_code]

/-- A gate is read back as it was written. -/
theorem gate?_withGate (target : Target) (gate : Takeoff.Gate) :
    (target.withGate gate).gate? = some gate :=
  gate?_of_slot (by simp [withGate, Parameters.write, gateSlot])

/-- The target that ends at a point and starts to the north of it. The direction
of the offset does not matter to the follower. -/
def holdingAt (target : Target) (stop : Ned) (offset : Float32) : Target :=
  { target with start := stop.offsetNorth offset, stop }

end Target

/-! ## Reports of the follower -/

inductive FollowerState where
  | inProgress
  | completed
  | warning
  | critical
  deriving DecidableEq, Repr

/-- The progress that the path follower reports. -/
structure FollowerReport where
  /-- The completed fraction of the leg, in `[0, 1]`. -/
  progress : Float32 := 0
  /-- The distance from the path in meters. -/
  error : Float32 := 0
  /-- The number of the target to which the report refers. -/
  sequenceId : Int16 := -1
  state : FollowerState := .inProgress

end FlightGuidance
