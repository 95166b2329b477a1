import FlightGuidance.Mission.Plan
import Mathlib.Logic.Basic

/-!
# What an accepted plan promises

A plan that passes its check declares at least one waypoint and no more records
than are loaded, and every index in a declared record stays within the plan: the
action of each declared waypoint is a declared action, and no declared action
jumps past the last declared waypoint. These facts are collected in `Sound`, and a
plan is accepted exactly when it is sound and carries the checksum of the
declared records (`check_eq_ok_iff`).

The numbers of records fit in their words, since there is room for 64 waypoints
and 32 actions.
-/

set_option autoImplicit false

namespace FlightGuidance

namespace Mission

/-- The number of loaded waypoints survives the conversion to its word. -/
theorem toNat_waypointCount (mission : Mission) :
    (UInt16.ofNat mission.waypoints.length).toNat = mission.waypoints.length :=
  UInt16.toNat_ofNat_of_lt' (Nat.lt_of_le_of_lt mission.waypoints_le (by decide))

theorem toNat_actionCount (mission : Mission) :
    (UInt16.ofNat mission.actions.length).toNat = mission.actions.length :=
  UInt16.toNat_ofNat_of_lt' (Nat.lt_of_le_of_lt mission.actions_le (by decide))

end Mission

namespace PathPlan

/-- Every index in a declared record stays within the plan, and every declared
record is loaded. -/
structure Sound (plan : PathPlan) (mission : Mission) : Prop where
  waypointCount_pos : 0 < plan.waypointCount.toNat
  waypointCount_le : plan.waypointCount.toNat ≤ mission.waypoints.length
  actionCount_le : plan.actionCount.toNat ≤ mission.actions.length
  action_lt : ∀ waypoint ∈ mission.waypoints.take plan.waypointCount.toNat,
    waypoint.action.toNat < plan.actionCount.toNat
  jump_lt : ∀ action ∈ mission.actions.take plan.actionCount.toNat,
    action.jump.toInt < plan.waypointCount.toNat
  errorJump_lt : ∀ action ∈ mission.actions.take plan.actionCount.toNat,
    action.errorJump.toInt < plan.waypointCount.toNat

/-! ## The two walks over the declared records -/

theorem waypointFault?_eq_none_iff (plan : PathPlan) (waypoints : List Waypoint) :
    plan.waypointFault? waypoints = none ↔
      ∀ waypoint ∈ waypoints.take plan.waypointCount.toNat,
        waypoint.action.toNat < plan.actionCount.toNat := by
  simp only [waypointFault?, List.findSome?_eq_none_iff]
  constructor
  · intro passed waypoint member
    obtain ⟨index, position⟩ := List.mem_iff_getElem?.mp member
    have here := passed (waypoint, index) (List.mk_mem_zipIdx_iff_getElem?.mpr position)
    simpa [UInt16.le_iff_toNat_le] using here
  · rintro bounded ⟨waypoint, index⟩ member
    have declared := bounded waypoint
      (List.mem_iff_getElem?.mpr ⟨index, List.mk_mem_zipIdx_iff_getElem?.mp member⟩)
    simpa [UInt16.le_iff_toNat_le] using declared

theorem actionFault?_eq_none_iff (plan : PathPlan) (actions : List PathAction) :
    plan.actionFault? actions = none ↔
      ∀ action ∈ actions.take plan.actionCount.toNat,
        action.jump.toInt < plan.waypointCount.toNat ∧
          action.errorJump.toInt < plan.waypointCount.toNat := by
  simp only [actionFault?, List.findSome?_eq_none_iff]
  constructor
  · intro passed action member
    obtain ⟨index, position⟩ := List.mem_iff_getElem?.mp member
    have here := passed (action, index) (List.mk_mem_zipIdx_iff_getElem?.mpr position)
    simp only [ite_eq_iff, reduceCtorEq, and_false, and_true, false_or, Int.not_le] at here
    exact here
  · rintro bounded ⟨action, index⟩ member
    obtain ⟨jump, errorJump⟩ := bounded action
      (List.mem_iff_getElem?.mpr ⟨index, List.mk_mem_zipIdx_iff_getElem?.mp member⟩)
    show (if _ then _ else _) = none
    rw [if_neg (Int.not_le.mpr jump), if_neg (Int.not_le.mpr errorJump)]

theorem indexFault?_eq_none_iff (plan : PathPlan) (mission : Mission) :
    plan.indexFault? mission = none ↔
      plan.waypointFault? mission.waypoints = none ∧
        plan.actionFault? mission.actions = none := by
  simp only [indexFault?, Option.or_eq_none_iff]

/-! ## Acceptance -/

theorem check_of_empty {plan : PathPlan} (empty : plan.waypointCount = 0) (mission : Mission) :
    plan.check mission = .error .empty :=
  if_pos empty

theorem check_of_isOk {plan : PathPlan} {mission : Mission}
    (valid : (plan.check mission).isOk = true) : plan.check mission = .ok () := by
  cases verdict : plan.check mission with
  | ok => rfl
  | error cause =>
      rw [verdict] at valid
      cases valid

/-- **A plan is accepted exactly when it is sound and carries the checksum of the
records it declares.** -/
theorem check_eq_ok_iff (plan : PathPlan) (mission : Mission) :
    plan.check mission = .ok () ↔
      plan.Sound mission ∧
        mission.checksum plan.waypointCount plan.actionCount = .ok plan.crc := by
  have waypoints := mission.toNat_waypointCount
  have actions := mission.toNat_actionCount
  have faults := plan.indexFault?_eq_none_iff mission
  rw [waypointFault?_eq_none_iff, actionFault?_eq_none_iff] at faults
  simp only [check]
  constructor
  · intro accepted
    split at accepted
    · cases accepted
    next nonempty =>
    split at accepted
    · cases accepted
    next waypointsLoaded =>
    split at accepted
    · cases accepted
    next actionsLoaded =>
    split at accepted
    · cases accepted
    next calculated checksum =>
    split at accepted
    · cases accepted
    next equal =>
    split at accepted
    · cases accepted
    next noFault =>
    obtain ⟨waypointIndices, actionIndices⟩ := faults.mp noFault
    rw [UInt16.lt_iff_toNat_lt, waypoints] at waypointsLoaded
    rw [UInt16.lt_iff_toNat_lt, actions] at actionsLoaded
    refine ⟨⟨?_, by omega, by omega, waypointIndices, fun action member =>
      (actionIndices action member).1, fun action member => (actionIndices action member).2⟩, ?_⟩
    · exact Nat.pos_of_ne_zero fun zero => nonempty (UInt16.toNat_inj.mp zero)
    · rw [checksum, not_not.mp equal]
  · rintro ⟨sound, checksum⟩
    have nonempty : plan.waypointCount ≠ 0 := by
      rintro zero
      have positive := sound.waypointCount_pos
      rw [zero] at positive
      exact absurd positive (by decide)
    have noFault := faults.mpr ⟨sound.action_lt, fun action member =>
      ⟨sound.jump_lt action member, sound.errorJump_lt action member⟩⟩
    have waypointsLoaded : ¬UInt16.ofNat mission.waypoints.length < plan.waypointCount := by
      rw [UInt16.lt_iff_toNat_lt, waypoints]
      exact Nat.not_lt.mpr sound.waypointCount_le
    have actionsLoaded : ¬UInt16.ofNat mission.actions.length < plan.actionCount := by
      rw [UInt16.lt_iff_toNat_lt, actions]
      exact Nat.not_lt.mpr sound.actionCount_le
    simp only [nonempty, waypointsLoaded, actionsLoaded, checksum, noFault, if_false, ne_eq,
      not_true_eq_false]

/-! ## Records of a sound plan -/

namespace Sound

variable {plan : PathPlan} {mission : Mission}

/-- A declared waypoint is loaded. -/
theorem waypoint (sound : plan.Sound mission) {index : UInt16}
    (inside : index.toNat < plan.waypointCount.toNat) :
    ∃ waypoint ∈ mission.waypoints.take plan.waypointCount.toNat,
      mission.waypoint? index = some waypoint := by
  have loaded : index.toNat < mission.waypoints.length :=
    Nat.lt_of_lt_of_le inside sound.waypointCount_le
  refine ⟨mission.waypoints[index.toNat], ?_, List.getElem?_eq_getElem loaded⟩
  exact List.mem_take_iff_getElem.mpr ⟨index.toNat, by omega, rfl⟩

/-- The action of a declared waypoint is loaded and declared. -/
theorem action (sound : plan.Sound mission) {waypoint : Waypoint}
    (declared : waypoint ∈ mission.waypoints.take plan.waypointCount.toNat) :
    ∃ action ∈ mission.actions.take plan.actionCount.toNat,
      mission.action? waypoint.action = some action := by
  have inside := sound.action_lt waypoint declared
  have loaded : waypoint.action.toNat < mission.actions.length :=
    Nat.lt_of_lt_of_le inside sound.actionCount_le
  refine ⟨mission.actions[waypoint.action.toNat], ?_, List.getElem?_eq_getElem loaded⟩
  exact List.mem_take_iff_getElem.mpr ⟨waypoint.action.toNat, by omega, rfl⟩

/-- A sound plan declares at most as many waypoints as there is room for. -/
theorem waypointCount_le_room (sound : plan.Sound mission) : plan.waypointCount.toNat ≤ 64 :=
  Nat.le_trans sound.waypointCount_le mission.waypoints_le

end Sound
end PathPlan
end FlightGuidance
