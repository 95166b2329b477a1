import FlightGuidance.Proofs.Sequencer.Tick

/-!
# What the sequencer writes

A tick of the sequencer puts a rejected settings record back, reports in the settings alarm
and the plan alarm, and hands legs to the path follower. `tick_writes` gives the blackboard
after a tick as the one before it with new contents for these parts. The target is only
written while the control chain engages the sequencer, and the active waypoint only in mission
flight.

Walking the mission is a matter of the journal, the active waypoint and the target
(`Walked`). All alarms are written before it begins.
-/

set_option autoImplicit false

namespace FlightGuidance
namespace Sequencer

/-! ## Walking the mission -/

/-- The journal, the active waypoint and the target may differ. -/
def Walked (before after : Blackboard) : Prop :=
  ∃ journal activeWaypoint target, after = { before with journal, activeWaypoint, target }

theorem Walked.refl (board : Blackboard) : Walked board board := ⟨_, _, _, rfl⟩

theorem Walked.trans {first second third : Blackboard} (former : Walked first second)
    (latter : Walked second third) : Walked first third := by
  obtain ⟨_, _, _, rfl⟩ := former
  obtain ⟨journal, activeWaypoint, target, rfl⟩ := latter
  exact ⟨journal, activeWaypoint, target, rfl⟩

theorem Walked.log (board : Blackboard) (level : Level) (text : String) :
    Walked board (board.log level text) :=
  ⟨_, _, _, rfl⟩

theorem setWaypoint_walked (sequencer : Sequencer) (board : Blackboard) (index : UInt16) :
    Walked board (sequencer.setWaypoint board index) := by
  unfold setWaypoint
  dsimp only
  obtain ⟨target, published⟩ := publishLeg_frame sequencer _
  rw [published]
  exact ⟨_, _, target, rfl⟩

theorem engage_walked (sequencer : Sequencer) (board : Blackboard) :
    Walked board (sequencer.engage board).2 := by
  unfold engage
  dsimp only
  exact (Walked.log board _ _).trans (setWaypoint_walked _ _ _)

theorem followMission_walked (sequencer : Sequencer) (board : Blackboard) :
    Walked board (sequencer.followMission board).2 := by
  rw [followMission_eq]
  exact ⟨_, _, _, rfl⟩

theorem fly_walked (sequencer : Sequencer) (board : Blackboard) (mission : Mission)
    (index : UInt16) (now : Micros) : Walked board (sequencer.fly board mission index now).2 := by
  unfold fly
  split
  · exact .refl board
  · split
    · exact .refl board
    · split
      · exact (Walked.log board _ _).trans (setWaypoint_walked _ _ _)
      · split
        · exact .refl board
        · dsimp only
          split
          · exact setWaypoint_walked _ _ _
          · exact .refl board

/-! ## The ways of a tick -/

/-- The plan alarm may differ, and what walking the mission touches. -/
def Guided (before after : Blackboard) : Prop :=
  ∃ pathPlan alarmed, alarmed.value = { before.alarms.value with pathPlan } ∧
    Walked { before with alarms := alarmed } after

theorem guided_of_setPlanAlarm {before walked after : Blackboard} {severity : Severity}
    (former : Walked before walked) (latter : Walked (walked.setPlanAlarm severity) after) :
    Guided before after := by
  obtain ⟨journal, activeWaypoint, target, rfl⟩ := former
  obtain ⟨alarms, frame, raised⟩ := Blackboard.setPlanAlarm_eq
    { before with journal, activeWaypoint, target } severity
  rw [frame] at latter
  obtain ⟨journal', activeWaypoint', target', rfl⟩ := latter
  exact ⟨severity, alarms, raised, journal', activeWaypoint', target', rfl⟩

theorem standDown_guided (sequencer : Sequencer) (board : Blackboard) :
    Guided board (sequencer.standDown board).2 :=
  guided_of_setPlanAlarm (.refl board) (.refl _)

/-- The position is held before the alarm is raised. -/
theorem refuse_guided (sequencer : Sequencer) (board : Blackboard) (cause : PlanError) :
    Guided board (sequencer.refuse board cause).2 := by
  unfold refuse
  cases sequencer.holdsInvalidPlan with
  | true => exact guided_of_setPlanAlarm (.refl board) (.refl _)
  | false =>
      have held : Walked board (Guidance.hold
          (board.log .error (name ++ ": Path plan rejected: " ++ cause.message))) :=
        ⟨_, _, _, rfl⟩
      exact guided_of_setPlanAlarm held (.refl _)

theorem proceed_guided (sequencer : Sequencer) (board : Blackboard) (now : Micros) :
    Guided board (sequencer.proceed board now).2 := by
  suffices walked : Walked (board.setPlanAlarm .ok) (sequencer.proceed board now).2 from
    guided_of_setPlanAlarm (.refl board) walked
  cases armed : board.status.value.armed with
  | false =>
      rw [proceed_of_unarmed sequencer board armed now]
      exact .refl _
  | true =>
      cases active : sequencer.active with
      | false =>
          rw [proceed_of_inactive sequencer board armed active now]
          exact engage_walked _ _
      | true =>
          rw [proceed_of_active sequencer board armed active now]
          exact (followMission_walked _ _).trans (fly_walked _ _ _ _ _)

/-! ## A tick -/

/-- **What a tick writes**: the settings that it restores, the settings alarm and the plan alarm,
and what walking the mission touches. -/
theorem tick_writes (sequencer : Sequencer) (board : Blackboard) (now : Micros) :
    ∃ modeSettings alarms journal activeWaypoint target,
      (sequencer.tick board now).2 =
        { board with modeSettings, alarms, journal, activeWaypoint, target } ∧
      ∃ settings pathPlan, alarms.value = { board.alarms.value with settings, pathPlan } := by
  obtain ⟨journal, ticked⟩ := sequencer.tick_of_reported board now
  obtain ⟨settings, reported⟩ :=
    (sequencer.settings.check board.modeSettings).1.value_setAlarm board.alarms
  let settled : Blackboard := { board with
    journal
    modeSettings := (sequencer.settings.check board.modeSettings).2.2
    alarms := (sequencer.settings.check board.modeSettings).1.setAlarm board.alarms }
  have guided : Guided settled (sequencer.tick board now).2 := by
    rw [ticked]
    split
    · split
      · exact refuse_guided _ settled _
      · exact proceed_guided _ settled now
    · exact standDown_guided _ settled
  obtain ⟨pathPlan, alarms, raised, journal', activeWaypoint, target, frame⟩ := guided
  refine ⟨_, alarms, journal', activeWaypoint, target, frame, settings, pathPlan, ?_⟩
  rw [raised]
  dsimp only [settled]
  rw [reported]

/-- A control chain that does not engage the sequencer keeps it from the target. -/
theorem tick_target (sequencer : Sequencer) {board : Blackboard}
    (idle : board.status.value.chain.contains .pathPlanner = false) (now : Micros) :
    (sequencer.tick board now).2.target = board.target := by
  obtain ⟨settings, modeSettings, alarms, journal, ticked⟩ := sequencer.tick_of_checked board now
  dsimp only at ticked
  rw [idle, if_neg Bool.false_ne_true] at ticked
  obtain ⟨cleared, stands⟩ := { sequencer with settings }.standDown_frame
    { board with modeSettings, alarms, journal }
  rw [ticked, stands]

/-- Outside of mission flight the active waypoint stays. -/
theorem tick_activeWaypoint (sequencer : Sequencer) {board : Blackboard} (idle : ¬Flies board)
    (now : Micros) : (sequencer.tick board now).2.activeWaypoint = board.activeWaypoint := by
  have outcome := sequencer.tick_of_not_flies idle now
  generalize sequencer.tick board now = ticked at outcome ⊢
  cases outcome with
  | grounded => rfl
  | stays => rfl
  | activates flies => exact absurd flies idle

end Sequencer
end FlightGuidance
