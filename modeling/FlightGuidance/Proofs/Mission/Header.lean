import FlightGuidance.Proofs.Mission.Acceptance
import FlightGuidance.Proofs.Mission.Encoding

/-!
# The header of a mission under its own check

The header that declares every loaded record is always there, and it can only be refused for what
the records say: the counts and the checksum in it are those of the mission. So the check of a
mission under its own header is a verdict on the mission alone (`Mission.Verdict`). It is refused
for having no waypoint, else for the first waypoint whose action is not loaded, else for the first
action that leads out of the mission, and it is accepted otherwise (`Mission.check_pathPlan`).

The walks over the records stop at the first fault. `waypointFault?_eq_some_iff` and
`actionFault?_eq_some_iff` split the records there: those before it are in order.
-/

set_option autoImplicit false

namespace FlightGuidance

/-- A search that numbers the elements finds the first one that is not sound. -/
theorem findSome?_zipIdx_eq_some_iff {α β : Type} {fault? : α × Nat → Option β} (sound : α → Prop)
    (silent : ∀ element index, fault? (element, index) = none ↔ sound element) {list : List α}
    {found : β} :
    list.zipIdx.findSome? fault? = some found ↔
      ∃ before element after, list = before ++ element :: after ∧
        (∀ earlier ∈ before, sound earlier) ∧ fault? (element, before.length) = some found := by
  rw [List.findSome?_eq_some_iff]
  constructor
  · rintro ⟨passed, hit, rest, split, faulty, quiet⟩
    obtain ⟨before, behind, rfl, rfl, numbered⟩ := List.zipIdx_eq_append_iff.mp split
    cases behind with
    | nil => cases numbered
    | cons element after =>
        rw [List.zipIdx_cons, List.cons.injEq, Nat.zero_add] at numbered
        obtain ⟨rfl, -⟩ := numbered
        refine ⟨before, element, after, rfl, ?_, faulty⟩
        intro earlier member
        obtain ⟨index, place⟩ := List.mem_iff_getElem?.mp member
        exact (silent earlier index).mp (quiet _ (List.mk_mem_zipIdx_iff_getElem?.mpr place))
  · rintro ⟨before, element, after, rfl, sound, faulty⟩
    refine ⟨before.zipIdx, (element, before.length), after.zipIdx (before.length + 1), ?_, faulty,
      ?_⟩
    · rw [List.zipIdx_append, List.zipIdx_cons, Nat.zero_add]
    · rintro ⟨earlier, index⟩ member
      exact (silent earlier index).mpr (sound earlier (List.fst_mem_of_mem_zipIdx member))

namespace PathPlan

/-- The walk over the waypoints stops at the first one whose action is not declared. -/
theorem waypointFault?_eq_some_iff (plan : PathPlan) (waypoints : List Waypoint)
    (cause : PlanError) :
    plan.waypointFault? waypoints = some cause ↔
      ∃ (before : List Waypoint) (waypoint : Waypoint) (after : List Waypoint),
        waypoints.take plan.waypointCount.toNat = before ++ waypoint :: after ∧
          (∀ earlier ∈ before, earlier.action.toNat < plan.actionCount.toNat) ∧
          plan.actionCount.toNat ≤ waypoint.action.toNat ∧
          cause = .actionOutOfRange (UInt16.ofNat before.length) waypoint.action := by
  unfold waypointFault?
  rw [findSome?_zipIdx_eq_some_iff fun waypoint : Waypoint =>
    waypoint.action.toNat < plan.actionCount.toNat]
  · simp only [Option.ite_none_right_eq_some, Option.some.injEq, UInt16.le_iff_toNat_le,
      eq_comm (b := cause)]
  · intro waypoint index
    simp only [ite_eq_right_iff, reduceCtorEq, imp_false, UInt16.le_iff_toNat_le, Nat.not_le]

/-- The walk over the actions stops at the first one that leads out of the plan. Its jump is looked
at before its error destination. -/
theorem actionFault?_eq_some_iff (plan : PathPlan) (actions : List PathAction)
    (cause : PlanError) :
    plan.actionFault? actions = some cause ↔
      ∃ (before : List PathAction) (action : PathAction) (after : List PathAction),
        actions.take plan.actionCount.toNat = before ++ action :: after ∧
          (∀ earlier ∈ before, earlier.jump.toInt < plan.waypointCount.toNat ∧
            earlier.errorJump.toInt < plan.waypointCount.toNat) ∧
          (plan.waypointCount.toNat ≤ action.jump.toInt ∧
              cause = .jumpOutOfRange (UInt16.ofNat before.length) ∨
            action.jump.toInt < plan.waypointCount.toNat ∧
              plan.waypointCount.toNat ≤ action.errorJump.toInt ∧
              cause = .errorJumpOutOfRange (UInt16.ofNat before.length)) := by
  unfold actionFault?
  rw [findSome?_zipIdx_eq_some_iff fun action : PathAction =>
    action.jump.toInt < plan.waypointCount.toNat ∧
      action.errorJump.toInt < plan.waypointCount.toNat]
  · simp only [ite_eq_iff, Option.some.injEq, reduceCtorEq, and_false, or_false, Int.not_le,
      eq_comm (b := cause)]
  · intro action index
    simp only [ite_eq_iff, reduceCtorEq, and_false, and_true, false_or, Int.not_le]

end PathPlan

namespace Mission

variable (mission : Mission)

/-- The action of a waypoint is loaded. -/
def Serves (waypoint : Waypoint) : Prop := waypoint.action.toNat < mission.actions.length

/-- Neither the jump nor the error destination of an action leads past the last waypoint. -/
structure Keeps (action : PathAction) : Prop where
  jump_lt : action.jump.toInt < mission.waypoints.length
  errorJump_lt : action.errorJump.toInt < mission.waypoints.length

/-- There is a waypoint, and every index of a record stays within the mission. -/
structure Closed : Prop where
  nonempty : mission.waypoints ≠ []
  serves : ∀ waypoint ∈ mission.waypoints, mission.Serves waypoint
  keeps : ∀ action ∈ mission.actions, mission.Keeps action

/-- The verdicts on a mission, waypoints before actions, and of several faulty records the
first. -/
inductive Verdict : Except PlanError Unit → Prop where
  | accepted (closed : mission.Closed) : Verdict (.ok ())
  | empty (nothing : mission.waypoints = []) : Verdict (.error .empty)
  | actionOutOfRange {before after : List Waypoint} {waypoint : Waypoint} {index : UInt16}
      (split : mission.waypoints = before ++ waypoint :: after)
      (place : index.toNat = before.length)
      (served : ∀ earlier ∈ before, mission.Serves earlier)
      (stray : mission.actions.length ≤ waypoint.action.toNat) :
      Verdict (.error (.actionOutOfRange index waypoint.action))
  | jumpOutOfRange {before after : List PathAction} {action : PathAction} {index : UInt16}
      (nonempty : mission.waypoints ≠ [])
      (serves : ∀ waypoint ∈ mission.waypoints, mission.Serves waypoint)
      (split : mission.actions = before ++ action :: after)
      (place : index.toNat = before.length)
      (kept : ∀ earlier ∈ before, mission.Keeps earlier)
      (stray : mission.waypoints.length ≤ action.jump.toInt) :
      Verdict (.error (.jumpOutOfRange index))
  | errorJumpOutOfRange {before after : List PathAction} {action : PathAction} {index : UInt16}
      (nonempty : mission.waypoints ≠ [])
      (serves : ∀ waypoint ∈ mission.waypoints, mission.Serves waypoint)
      (split : mission.actions = before ++ action :: after)
      (place : index.toNat = before.length)
      (kept : ∀ earlier ∈ before, mission.Keeps earlier)
      (jump_lt : action.jump.toInt < mission.waypoints.length)
      (stray : mission.waypoints.length ≤ action.errorJump.toInt) :
      Verdict (.error (.errorJumpOutOfRange index))

/-! ## The header -/

/-- The header of a mission. -/
def header : PathPlan :=
  { waypointCount := UInt16.ofNat mission.waypoints.length
    actionCount := UInt16.ofNat mission.actions.length
    crc := Checksum.ofBytes (mission.encoded (UInt16.ofNat mission.waypoints.length)
      (UInt16.ofNat mission.actions.length)) }

theorem pathPlan_eq : mission.pathPlan = .ok mission.header := by
  simp only [pathPlan, checksum_eq]
  rfl

theorem toNat_header_waypointCount :
    mission.header.waypointCount.toNat = mission.waypoints.length :=
  mission.toNat_waypointCount

theorem toNat_header_actionCount : mission.header.actionCount.toNat = mission.actions.length :=
  mission.toNat_actionCount

/-- Under its own header a mission is refused for having no waypoint, or for an index. -/
theorem check_header_of_empty (nothing : mission.waypoints = []) :
    mission.header.check mission = .error .empty := by
  refine PathPlan.check_of_empty (UInt16.toNat_inj.mp ?_) mission
  rw [toNat_header_waypointCount, nothing]
  rfl

theorem check_header_of_nonempty (nonempty : mission.waypoints ≠ []) :
    mission.header.check mission =
      (mission.header.indexFault? mission).elim (.ok ()) .error := by
  have declares : mission.header.waypointCount ≠ 0 := by
    intro zero
    have count := mission.toNat_header_waypointCount
    rw [zero] at count
    exact nonempty (List.length_eq_zero_iff.mp count.symm)
  have waypoints : ¬UInt16.ofNat mission.waypoints.length < mission.header.waypointCount :=
    UInt16.lt_irrefl _
  have actions : ¬UInt16.ofNat mission.actions.length < mission.header.actionCount :=
    UInt16.lt_irrefl _
  have checksum : mission.checksum mission.header.waypointCount mission.header.actionCount =
      .ok mission.header.crc :=
    mission.checksum_eq _ _
  simp only [PathPlan.check, declares, waypoints, actions, checksum, if_false, ne_eq,
    not_true_eq_false]
  cases mission.header.indexFault? mission <;> rfl

theorem header_waypointFault?_eq_none_iff :
    mission.header.waypointFault? mission.waypoints = none ↔
      ∀ waypoint ∈ mission.waypoints, mission.Serves waypoint := by
  rw [PathPlan.waypointFault?_eq_none_iff, toNat_header_waypointCount, toNat_header_actionCount,
    List.take_length]
  rfl

theorem header_waypointFault?_eq_some_iff (cause : PlanError) :
    mission.header.waypointFault? mission.waypoints = some cause ↔
      ∃ before waypoint after, mission.waypoints = before ++ waypoint :: after ∧
        (∀ earlier ∈ before, mission.Serves earlier) ∧
        mission.actions.length ≤ waypoint.action.toNat ∧
        cause = .actionOutOfRange (UInt16.ofNat before.length) waypoint.action := by
  rw [PathPlan.waypointFault?_eq_some_iff, toNat_header_waypointCount, toNat_header_actionCount,
    List.take_length]
  rfl

theorem keeps_iff_lt (action : PathAction) :
    mission.Keeps action ↔ action.jump.toInt < mission.waypoints.length ∧
      action.errorJump.toInt < mission.waypoints.length :=
  ⟨fun keeps => ⟨keeps.jump_lt, keeps.errorJump_lt⟩, fun ⟨jump, errorJump⟩ => ⟨jump, errorJump⟩⟩

theorem header_actionFault?_eq_none_iff :
    mission.header.actionFault? mission.actions = none ↔
      ∀ action ∈ mission.actions, mission.Keeps action := by
  rw [PathPlan.actionFault?_eq_none_iff, toNat_header_waypointCount, toNat_header_actionCount,
    List.take_length]
  simp only [keeps_iff_lt]

theorem header_actionFault?_eq_some_iff (cause : PlanError) :
    mission.header.actionFault? mission.actions = some cause ↔
      ∃ (before : List PathAction) (action : PathAction) (after : List PathAction),
        mission.actions = before ++ action :: after ∧
          (∀ earlier ∈ before, mission.Keeps earlier) ∧
          (mission.waypoints.length ≤ action.jump.toInt ∧
              cause = .jumpOutOfRange (UInt16.ofNat before.length) ∨
            action.jump.toInt < mission.waypoints.length ∧
              mission.waypoints.length ≤ action.errorJump.toInt ∧
              cause = .errorJumpOutOfRange (UInt16.ofNat before.length)) := by
  rw [PathPlan.actionFault?_eq_some_iff, toNat_header_waypointCount, toNat_header_actionCount,
    List.take_length]
  simp only [keeps_iff_lt]

/-! ## The verdict -/

variable {mission}

/-- The place of a record fits in its word. -/
theorem toNat_place {α : Type} {records before after : List α} {record : α}
    (split : records = before ++ record :: after) (room : records.length ≤ 64) :
    (UInt16.ofNat before.length).toNat = before.length := by
  refine UInt16.toNat_ofNat_of_lt' (Nat.lt_of_le_of_lt ?_ (by decide : 64 < UInt16.size))
  rw [split, List.length_append] at room
  exact Nat.le_trans (Nat.le_add_right _ _) room

theorem eq_place {index : UInt16} {count : Nat} (place : index.toNat = count) :
    index = UInt16.ofNat count := by
  rw [← place, UInt16.ofNat_toNat]

variable (mission) in
/-- The check comes to a verdict. -/
theorem verdict_check : mission.Verdict (mission.header.check mission) := by
  by_cases nothing : mission.waypoints = []
  · rw [mission.check_header_of_empty nothing]
    exact .empty nothing
  rw [mission.check_header_of_nonempty nothing, PathPlan.indexFault?]
  cases waypointFault : mission.header.waypointFault? mission.waypoints with
  | some cause =>
      obtain ⟨before, waypoint, after, split, served, stray, rfl⟩ :=
        (mission.header_waypointFault?_eq_some_iff cause).mp waypointFault
      exact .actionOutOfRange split (toNat_place split mission.waypoints_le) served stray
  | none =>
      have serves := mission.header_waypointFault?_eq_none_iff.mp waypointFault
      rw [Option.none_or]
      cases actionFault : mission.header.actionFault? mission.actions with
      | none =>
          exact .accepted ⟨nothing, serves,
            mission.header_actionFault?_eq_none_iff.mp actionFault⟩
      | some cause =>
          obtain ⟨before, action, after, split, kept, stray⟩ :=
            (mission.header_actionFault?_eq_some_iff cause).mp actionFault
          have place := toNat_place split (Nat.le_trans mission.actions_le (by decide))
          rcases stray with ⟨stray, rfl⟩ | ⟨jump_lt, stray, rfl⟩
          · exact .jumpOutOfRange nothing serves split place kept stray
          · exact .errorJumpOutOfRange nothing serves split place kept jump_lt stray

theorem nonempty_of_split {before after : List Waypoint} {waypoint : Waypoint}
    (split : mission.waypoints = before ++ waypoint :: after) : mission.waypoints ≠ [] := by
  rw [split]
  exact List.append_ne_nil_of_right_ne_nil _ (List.cons_ne_nil _ _)

/-- A fault of an action is reported once all waypoints are in order. -/
theorem check_header_of_actionFault (nonempty : mission.waypoints ≠ [])
    (serves : ∀ waypoint ∈ mission.waypoints, mission.Serves waypoint) {cause : PlanError}
    (fault : mission.header.actionFault? mission.actions = some cause) :
    mission.header.check mission = .error cause := by
  rw [mission.check_header_of_nonempty nonempty, PathPlan.indexFault?,
    mission.header_waypointFault?_eq_none_iff.mpr serves, fault]
  rfl

/-- There is no other verdict. -/
theorem Verdict.check_eq {verdict : Except PlanError Unit} (reached : mission.Verdict verdict) :
    mission.header.check mission = verdict := by
  cases reached with
  | accepted closed =>
      rw [mission.check_header_of_nonempty closed.nonempty, PathPlan.indexFault?,
        mission.header_waypointFault?_eq_none_iff.mpr closed.serves,
        mission.header_actionFault?_eq_none_iff.mpr closed.keeps]
      rfl
  | empty nothing => exact mission.check_header_of_empty nothing
  | actionOutOfRange split place served stray =>
      have fault := (mission.header_waypointFault?_eq_some_iff _).mpr
        ⟨_, _, _, split, served, stray, rfl⟩
      rw [mission.check_header_of_nonempty (nonempty_of_split split), PathPlan.indexFault?, fault,
        eq_place place]
      rfl
  | jumpOutOfRange nonempty serves split place kept stray =>
      rw [eq_place place]
      exact check_header_of_actionFault nonempty serves
        ((mission.header_actionFault?_eq_some_iff _).mpr
          ⟨_, _, _, split, kept, .inl ⟨stray, rfl⟩⟩)
  | errorJumpOutOfRange nonempty serves split place kept jump_lt stray =>
      rw [eq_place place]
      exact check_header_of_actionFault nonempty serves
        ((mission.header_actionFault?_eq_some_iff _).mpr
          ⟨_, _, _, split, kept, .inr ⟨jump_lt, stray, rfl⟩⟩)

/-- **A mission under its own header.** The header is always there. It is accepted exactly if the
mission is closed, and of any other mission the check gives the verdict that its records deserve.
It never finds fault with the counts, the checksum or the wire form. -/
theorem check_pathPlan (mission : Mission) :
    ∃ plan, mission.pathPlan = .ok plan ∧
      (plan.check mission = .ok () ↔
        mission.waypoints ≠ [] ∧
          (∀ waypoint ∈ mission.waypoints, waypoint.action.toNat < mission.actions.length) ∧
          ∀ action ∈ mission.actions, action.jump.toInt < mission.waypoints.length ∧
            action.errorJump.toInt < mission.waypoints.length) ∧
      (∀ verdict, plan.check mission = verdict ↔ mission.Verdict verdict) ∧
      ∀ cause, plan.check mission = .error cause →
        cause.label ∉ ["WaypointCount", "ActionCount", "InvalidChecksum", "Encoding"] := by
  have decides (verdict : Except PlanError Unit) :
      mission.header.check mission = verdict ↔ mission.Verdict verdict :=
    ⟨fun same => same ▸ mission.verdict_check, Verdict.check_eq⟩
  refine ⟨mission.header, mission.pathPlan_eq, ?_, decides, ?_⟩
  · rw [decides]
    constructor
    · rintro ⟨nonempty, serves, keeps⟩
      exact ⟨nonempty, serves,
        fun action member => (mission.keeps_iff_lt action).mp (keeps action member)⟩
    · rintro ⟨nonempty, serves, keeps⟩
      exact .accepted ⟨nonempty, serves,
        fun action member => (mission.keeps_iff_lt action).mpr (keeps action member)⟩
  · intro cause refused
    cases (decides _).mp refused with
    | empty => decide
    | actionOutOfRange =>
        show "ActionOutOfRange" ∉ _
        decide
    | jumpOutOfRange =>
        show "JumpOutOfRange" ∉ _
        decide
    | errorJumpOutOfRange =>
        show "ErrorDestinationOutOfRange" ∉ _
        decide

/-- A second waypoint whose action is not loaded. -/
theorem refused_second_waypoint :
    let mission : Mission := { waypoints := [{}, { action := 5 }], actions := [{}] }
    ∃ plan, mission.pathPlan = .ok plan ∧
      plan.check mission = .error (.actionOutOfRange 1 5) ∧
      (PlanError.actionOutOfRange 1 5).label ∉
        ["WaypointCount", "ActionCount", "InvalidChecksum", "Encoding"] := by
  intro mission
  obtain ⟨plan, produced, -, decides, sound⟩ := mission.check_pathPlan
  have served : ∀ earlier ∈ [({} : Waypoint)], mission.Serves earlier := by
    intro earlier member
    obtain rfl := List.mem_singleton.mp member
    exact Nat.zero_lt_one
  have refused := (decides _).mpr
    (@Verdict.actionOutOfRange mission [{}] [] { action := 5 } 1 rfl rfl served (by decide))
  exact ⟨plan, produced, refused, sound _ refused⟩

end Mission
end FlightGuidance
