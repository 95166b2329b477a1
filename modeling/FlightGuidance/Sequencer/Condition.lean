import FlightGuidance.Clock
import FlightGuidance.Mission

/-!
# End conditions

When the active waypoint is complete. Every condition is a predicate of what is
known of the vehicle at the tick, and of the four parameters of the action; only
the timeout keeps a timer.
-/

set_option autoImplicit false

namespace FlightGuidance

/-- What the end conditions read of the vehicle. -/
structure VehicleSnapshot where
  position : Ned := {}
  velocity : Ned := {}
  airspeed : Float32 := 0
  report : FollowerReport := {}

/-- The active leg of a mission. -/
structure ActiveLeg where
  index : UInt16
  waypoint : Waypoint
  /-- The waypoint after the active one, which is the first after the last. -/
  nextWaypoint : Waypoint
  action : PathAction

/-- The timer of the timeout. It starts when the timeout of a waypoint is looked at
first, and starts over after it has fired. -/
structure LegTimer where
  /-- The waypoint that is timed, and the start of its time. -/
  running : Option (UInt16 × Micros) := none

/-- Look at the timeout of a waypoint: whether the time has passed, and the timer
after it. -/
def LegTimer.elapsed (timer : LegTimer) (index : UInt16) (seconds : Float32) (now : Micros) :
    Bool × LegTimer :=
  let start :=
    match timer.running with
    | some (timed, start) => if timed = index then start else now
    | none => now
  if Micros.ofSeconds seconds ≤ Micros.since now start then (true, ⟨none⟩)
  else (false, ⟨some (index, start)⟩)

namespace ActiveLeg

/-- The value at which the end condition is met. -/
def threshold (leg : ActiveLeg) : Float32 := leg.action.threshold

/-- Whether the end condition is judged by its other measure. -/
def alternative (leg : ActiveLeg) : Bool := leg.action.alternative

/-- The distance to the waypoint is at most the threshold. It is measured
horizontally, or alternatively in space. -/
def nearWaypoint (leg : ActiveLeg) (vehicle : VehicleSnapshot) : Bool :=
  let way := leg.waypoint.position - vehicle.position
  let distance := if leg.alternative then way.norm else way.horizontalNorm
  distance ≤ leg.threshold

/-- At most the threshold, as a fraction of the leg, remains. -/
def almostFlown (leg : ActiveLeg) (vehicle : VehicleSnapshot) : Bool :=
  1 - leg.threshold ≤ vehicle.report.progress

/-- The distance from the path is at most the threshold. -/
def onPath (leg : ActiveLeg) (vehicle : VehicleSnapshot) : Bool :=
  vehicle.report.error ≤ leg.threshold

/-- The altitude is at least the threshold. -/
def highEnough (leg : ActiveLeg) (vehicle : VehicleSnapshot) : Bool :=
  leg.threshold ≤ -vehicle.position.down

/-- The speed over ground, or alternatively through the air, is at least the
threshold. -/
def fastEnough (leg : ActiveLeg) (vehicle : VehicleSnapshot) : Bool :=
  let speed := if leg.alternative then vehicle.airspeed else vehicle.velocity.norm
  leg.threshold ≤ speed

/-- The angle between the course and the next leg is at most the threshold, in
degrees and modulo a full turn. -/
def pointsTowardsNextBy (trigonometry : Trigonometry) (leg : ActiveLeg)
    (vehicle : VehicleSnapshot) : Bool :=
  let way := leg.nextWaypoint.position - leg.waypoint.position
  let legAngle := trigonometry.arcTangent way.north way.east
  let courseAngle := trigonometry.arcTangent vehicle.velocity.north vehicle.velocity.east
  let difference := Single.remainder (Single.toDegrees (legAngle - courseAngle)).abs 360
  difference ≤ leg.threshold

def pointsTowardsNext (leg : ActiveLeg) (vehicle : VehicleSnapshot) : Bool :=
  leg.pointsTowardsNextBy .platform vehicle

/-- Whether the leg is complete. A script counts as satisfied. -/
def complete (leg : ActiveLeg) (vehicle : VehicleSnapshot) (timer : LegTimer) (now : Micros) :
    Bool × LegTimer :=
  match leg.action.condition with
  | .none => (false, timer)
  | .timeOut => timer.elapsed leg.index (leg.threshold) now
  | .distanceToTarget => (leg.nearWaypoint vehicle, timer)
  | .legRemaining => (leg.almostFlown vehicle, timer)
  | .belowError => (leg.onPath vehicle, timer)
  | .aboveAltitude => (leg.highEnough vehicle, timer)
  | .aboveSpeed => (leg.fastEnough vehicle, timer)
  | .pointingTowardsNext => (leg.pointsTowardsNext vehicle, timer)
  | .script | .immediate => (true, timer)

end ActiveLeg
end FlightGuidance
