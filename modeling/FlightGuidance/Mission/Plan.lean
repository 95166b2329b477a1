import FlightGuidance.Mission

/-!
# Checking a plan

A plan is accepted if it declares at least one waypoint and no more records than
are loaded, if its checksum is that of the declared records, and if every index
in a declared record stays within the plan. The first violation in this order is
reported, and of several records the first.
-/

set_option autoImplicit false

namespace FlightGuidance
namespace PathPlan

/-- The first waypoint whose action the plan does not declare. -/
def waypointFault? (plan : PathPlan) (waypoints : List Waypoint) : Option PlanError :=
  (waypoints.take plan.waypointCount.toNat).zipIdx.findSome? fun (waypoint, index) =>
    if plan.actionCount ≤ waypoint.action then
      some (.actionOutOfRange (UInt16.ofNat index) waypoint.action)
    else none

/-- The first action that jumps out of the plan. -/
def actionFault? (plan : PathPlan) (actions : List PathAction) : Option PlanError :=
  (actions.take plan.actionCount.toNat).zipIdx.findSome? fun (action, index) =>
    if (plan.waypointCount.toNat : Int) ≤ action.jump.toInt then
      some (.jumpOutOfRange (UInt16.ofNat index))
    else if (plan.waypointCount.toNat : Int) ≤ action.errorJump.toInt then
      some (.errorJumpOutOfRange (UInt16.ofNat index))
    else none

/-- The fault of the indices of a plan, waypoints before actions. -/
def indexFault? (plan : PathPlan) (mission : Mission) : Option PlanError :=
  (plan.waypointFault? mission.waypoints).or (plan.actionFault? mission.actions)

/-- Check a plan against the loaded records. -/
def check (plan : PathPlan) (mission : Mission) : Except PlanError Unit :=
  let loadedWaypoints := UInt16.ofNat mission.waypoints.length
  let loadedActions := UInt16.ofNat mission.actions.length
  if plan.waypointCount = 0 then .error .empty
  else if loadedWaypoints < plan.waypointCount then
    .error (.waypointCount plan.waypointCount loadedWaypoints)
  else if loadedActions < plan.actionCount then
    .error (.actionCount plan.actionCount loadedActions)
  else
    match mission.checksum plan.waypointCount plan.actionCount with
    | .error cause => .error cause
    | .ok calculated =>
      if calculated ≠ plan.crc then .error (.checksum calculated plan.crc)
      else
        match plan.indexFault? mission with
        | some cause => .error cause
        | none => .ok ()

end PathPlan

/-- The waypoint to which a destination leads from the active one. A negative
destination leads forward by its magnitude, at most to the last index there
is. -/
def jumpDestination (active : UInt16) (destination : Int16) : UInt16 :=
  if destination < 0 then UInt16.ofNat (min (active.toNat + destination.toInt.natAbs) 65535)
  else destination.toUInt16

end FlightGuidance
