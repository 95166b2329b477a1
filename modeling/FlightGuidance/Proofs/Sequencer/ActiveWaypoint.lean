import FlightGuidance.Proofs.Sequencer.Run

/-!
# The active waypoint and the plan

An index past the end of the plan is wrapped when it is stored, so that the sequencer never
activates a waypoint which the plan of that moment does not declare. The plan may be replaced
by a shorter one later on. Then the active waypoint stays where it is until a tick engages the
mission anew or goes on from the leg (`Run.inside_iff`); and if the new mission does not hold
its records any more, there is no leg to go on from (`outside_shorter_plan`).
-/

set_option autoImplicit false

namespace FlightGuidance
namespace Sequencer

/-- An active sequencer has flown the mission if the vehicle is armed. -/
theorem flies_of_active {sequencer : Sequencer} {board : Blackboard} {now : Micros}
    (active : (sequencer.tick board now).1.active = true)
    (armed : board.status.value.armed = true) : Flies board := by
  have outcome := sequencer.tick_outcome board now
  generalize sequencer.tick board now = after at outcome active
  cases outcome with
  | grounded idle stands =>
      obtain ⟨unarmed, -⟩ := stands active
      rw [armed] at unarmed
      cases unarmed
  | stays flies => exact flies
  | activates flies => exact flies

/-- **When the active waypoint is one of the plan.** After a tick of mission flight it is
declared exactly if it was declared before the tick or the tick has activated it. In any
case it is declared by the plan under which it was activated. -/
theorem Run.inside_iff {sequencer : Sequencer} {board : Blackboard} {history : History}
    (run : Run sequencer board history) (now : Micros)
    (active : (sequencer.tick board now).1.active = true)
    (armed : board.status.value.armed = true) :
    let after := (sequencer.tick board now).2
    (after.activeWaypoint.value.index.toNat < after.plan.value.waypointCount.toNat ↔
      board.activeWaypoint.value.index.toNat < board.plan.value.waypointCount.toNat ∨
        sequencer.Moves board now) ∧
    after.activeWaypoint.value.index.toNat < (history.tick board after).declared.toNat := by
  have flies := flies_of_active active armed
  refine ⟨?_, (run.consistent.tick now).inside active⟩
  have outcome := sequencer.tick_outcome board now
  generalize sequencer.tick board now = after at outcome
  cases outcome with
  | grounded idle => exact absurd flies idle
  | stays _ _ keeps => simp [keeps]
  | activates _ moves _ _ inside => simpa [moves] using inside

/-! ## Two waypoints and one

Both missions are complete at once, so that a report of the leg is enough to go on. -/

/-- A mission of one waypoint, which is complete at once. -/
def immediateAlone : Mission :=
  { immediatePair with waypoints := [{}], waypoints_le := by decide }

/-- The parameters of a condition with a threshold of ten. -/
def tenParameters : Vector StoredSingle 4 := #v[⟨0x41200000⟩, {}, {}, {}]

/-- The header of the mission of one waypoint. -/
def alonePlan : PathPlan := { waypointCount := 1, actionCount := 1, crc := 32 }

/-- The header of the mission of two waypoints. -/
def pairPlan : PathPlan := { waypointCount := 2, actionCount := 1, crc := 204 }

/-- An armed vehicle is sent out on a mission. -/
def sentOut (plan : PathPlan) (mission : Mission) (board : Blackboard) : Blackboard :=
  { board with
    plan := ⟨plan, 1⟩
    mission := ⟨mission, 1⟩
    status :=
      ⟨{ armed := true, mode := .pathPlanner, chain := ControlHandler.pathPlanner.chain }, 1⟩ }

/-- The mission is engaged, and the follower reports the first leg. -/
def reported (sequencer : Sequencer) (board : Blackboard) : Sequencer × Blackboard :=
  let engaged := sequencer.tick board 0
  (engaged.1, { engaged.2 with report := engaged.2.report.publish { sequenceId := 0 } })

theorem run_reported (board : Blackboard) :
    ∃ history, Run (({} : Sequencer).reported board).1 (({} : Sequencer).reported board).2
      history :=
  ⟨_, ((Run.start board).tick 0).report { sequenceId := 0 }⟩

/-- The first leg is complete, and a mission of one waypoint is sent with its plan. -/
def shortened (sequencer : Sequencer) (board : Blackboard) : Sequencer × Blackboard :=
  let waiting := sequencer.reported board
  let flying := waiting.1.tick waiting.2 0
  (flying.1,
    { flying.2 with
      mission := flying.2.mission.publish immediateAlone
      plan := flying.2.plan.publish alonePlan })

theorem run_shortened (board : Blackboard) :
    ∃ history, Run (({} : Sequencer).shortened board).1 (({} : Sequencer).shortened board).2
      history := by
  obtain ⟨history, run⟩ := run_reported board
  exact ⟨_, ((run.tick 0).load immediateAlone).change _ rfl rfl rfl rfl⟩

/-- The tick that goes on to the second waypoint finds it in the plan. -/
theorem inside_of_second_waypoint :
    let ready := ({} : Sequencer).reported (sentOut pairPlan immediatePair {})
    let after := ready.1.tick ready.2 0
    after.1.active = true ∧ ready.2.status.value.armed = true ∧
      after.2.activeWaypoint.value.index = 1 ∧
      after.2.activeWaypoint.value.index.toNat < after.2.plan.value.waypointCount.toNat := by
  intro ready after
  obtain ⟨history, run⟩ : ∃ history, Run ready.1 ready.2 history := run_reported _
  have ticked : after.1.active = true ∧ ready.2.status.value.armed = true ∧
      after.2.activeWaypoint.value.index = 1 ∧
      ready.2.activeWaypoint.value.index.toNat < ready.2.plan.value.waypointCount.toNat := by
    decide +kernel
  obtain ⟨active, armed, second, declared⟩ := ticked
  clear_value ready
  exact ⟨active, armed, second, (run.inside_iff 0 active armed).1.mpr (.inl declared)⟩

/-- The sequencer stays on the second waypoint of a plan that declares one. -/
theorem outside_shorter_plan :
    let flying := ({} : Sequencer).shortened (sentOut pairPlan immediatePair {})
    let after := flying.1.tick flying.2 0
    (∃ history, Run flying.1 flying.2 history) ∧ Flies flying.2 ∧ after.1.active = true ∧
      after.2.plan.value.waypointCount = 1 ∧ after.2.activeWaypoint.value.index = 1 := by
  intro flying after
  have run : ∃ history, Run flying.1 flying.2 history := run_shortened _
  have ticked : flying.2.status.value.armed = true ∧ after.1.active = true ∧
      after.2.plan.value.waypointCount = 1 ∧ after.2.activeWaypoint.value.index = 1 := by
    decide +kernel
  obtain ⟨armed, active, count, index⟩ := ticked
  clear_value flying
  exact ⟨run, flies_of_active active armed, active, count, index⟩

end Sequencer
end FlightGuidance
