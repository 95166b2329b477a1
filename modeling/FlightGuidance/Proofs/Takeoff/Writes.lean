import FlightGuidance.Proofs.Takeoff.ControllerOperation

/-!
# What the takeoff controller writes

The alarms are one record with several writers, and the takeoff sequence raises the guidance
alarm by making a new record of the published one. All operations of the sequence leave the
other alarms as they are (`Warned`). A tick of the controller also publishes the demand, the
telemetry and what the hold has learned, and completes the progress in the follower's report,
of which it keeps the rest. `update_writes` gives the blackboard after a tick as the one before
it with new contents for these parts.
-/

set_option autoImplicit false

namespace FlightGuidance
namespace Takeoff

/-- Of the alarms only that of the guidance may differ. -/
def Warned (before after : Blackboard) : Prop :=
  ∃ guidance, after.alarms.value = { before.alarms.value with guidance }

theorem Warned.refl (board : Blackboard) : Warned board board := ⟨_, rfl⟩

theorem Warned.trans {first second third : Blackboard} (former : Warned first second)
    (latter : Warned second third) : Warned first third := by
  obtain ⟨_, before⟩ := former
  obtain ⟨guidance, after⟩ := latter
  exact ⟨guidance, by rw [after, before]⟩

namespace Sequence

/-! ## Changes of state -/

theorem raiseAlarm_warned (inputs : Inputs) (board : Blackboard) :
    Warned board (raiseAlarm inputs board) := by
  unfold raiseAlarm
  split
  · exact .refl board
  · exact ⟨.critical, rfl⟩

theorem prepare_warned (sequence : Sequence) (inputs : Inputs) (board : Blackboard)
    (next : State) : Warned board (sequence.prepare inputs board next).2 := by
  cases next with
  | disarmed => exact raiseAlarm_warned inputs board
  | _ => exact .refl board

/-- A change of state warns as entering the state does. -/
theorem change_warned {enter : Sequence → Inputs → Blackboard → Sequence × Blackboard}
    (warns : ∀ entered inputs board, Warned board (enter entered inputs board).2)
    (sequence : Sequence) (board : Blackboard) (next : State) (reason : ExitReason) :
    Warned board (sequence.change enter board next reason).2 := by
  unfold change
  dsimp only
  split
  · exact .refl board
  · exact warns _ _ (board.log _ _)

theorem moveTo_warned (sequence : Sequence) (board : Blackboard) (next : State)
    (reason : ExitReason) : Warned board (sequence.moveTo board next reason).2 :=
  change_warned (fun entered inputs board => prepare_warned entered inputs board next) sequence
    board next reason

theorem passCheck_warned (sequence : Sequence) (inputs : Inputs) (board : Blackboard) :
    Warned board (sequence.passCheck inputs board).2 := by
  unfold passCheck
  split <;> exact moveTo_warned _ _ _ _

theorem setState_warned (sequence : Sequence) (board : Blackboard) (next : State)
    (reason : ExitReason) : Warned board (sequence.setState board next reason).2 := by
  unfold setState
  split
  · exact change_warned passCheck_warned _ _ _ _
  · exact moveTo_warned _ _ _ _

/-! ## Running a state -/

theorem runTakeoff_warned (sequence : Sequence) (inputs : Inputs) (board : Blackboard) :
    Warned board (sequence.runTakeoff inputs board).2 := by
  unfold runTakeoff
  split
  · exact moveTo_warned _ _ _ _
  · split
    · exact moveTo_warned _ _ _ _
    · split
      · exact moveTo_warned _ _ _ _
      · exact .refl board

theorem expire_warned (sequence : Sequence) (timedOut : Bool) (board : Blackboard)
    (next : State) : Warned board (sequence.expire timedOut board next).2 := by
  unfold expire
  split
  · exact moveTo_warned _ _ _ _
  · exact .refl board

/-- A descent that ends without thrust may time out in the same tick. -/
theorem runThrustDown_warned (sequence : Sequence) (timedOut : Bool) (inputs : Inputs)
    (board : Blackboard) : Warned board (sequence.runThrustDown timedOut inputs board).2 := by
  let lowered : Sequence :=
    { sequence with thrustLimit := sequence.thrustLimit - sequence.rampStep }
  let ended : Sequence × Blackboard :=
    if inputs.thrust < 0 || lowered.thrustLimit < 0 then
      lowered.moveTo board .thrustOff .zeroThrust
    else (lowered, board)
  have first : Warned board ended.2 := by
    dsimp only [ended]
    split
    · exact moveTo_warned _ _ _ _
    · exact .refl board
  exact first.trans (ended.1.expire_warned timedOut ended.2 .thrustOff)

theorem runState_warned (sequence : Sequence) (timedOut : Bool) (inputs : Inputs)
    (board : Blackboard) : Warned board (sequence.runState timedOut inputs board).2 := by
  unfold runState
  cases sequence.state with
  | inactive | checkState | hold => exact .refl board
  | slowStart | thrustUp => exact expire_warned _ timedOut board _
  | takeoff => exact sequence.runTakeoff_warned inputs board
  | thrustDown => exact sequence.runThrustDown_warned timedOut inputs board
  | thrustOff => exact moveTo_warned _ _ _ _
  | disarmed => exact raiseAlarm_warned inputs board

theorem update_warned (sequence : Sequence) (board : Blackboard) :
    Warned board (sequence.update board).2 :=
  runState_warned _ _ _ _

end Sequence

namespace Controller

theorem followGate_warned (sequence : Sequence) (board : Blackboard) :
    Warned board (followGate sequence board).2 := by
  unfold followGate
  split
  · split
    · exact .refl board
    · exact Sequence.setState_warned _ _ _ _
  · exact .refl board

theorem ranSequence_warned (controller : Controller) (board : Blackboard) :
    Warned board (controller.ranSequence board).2 :=
  (followGate_warned _ _).trans (Sequence.update_warned _ _)

/-! ## A tick -/

/-- Only what was learned may differ after steering. -/
theorem steer_frame (controller : Controller) (board : Blackboard) (targetDown : Float32) :
    ∃ selfTuning, (controller.steer board targetDown).2.2 = { board with selfTuning } := by
  by_cases holds : controller.sequence.holdsAltitude = true
  · rw [steer_of_holds holds]
    dsimp only [hold]
    split
    · exact ⟨_, rfl⟩
    · exact ⟨board.selfTuning, rfl⟩
  · rw [steer_of_climbs holds]
    exact ⟨board.selfTuning, rfl⟩

/-- The end of a tick publishes the demand, and completes the progress of a takeoff that is over. -/
theorem update_published (controller : Controller) (board : Blackboard) :
    ∃ demand report,
      (controller.update board).2 = { (controller.steered board).2.2 with demand, report } ∧
      ∃ progress, report.value = { (controller.steered board).2.2.report.value with progress } := by
  have updated : ∃ demand, (controller.update board).2 =
      if (controller.ranSequence board).1.state = .disarmed then
        { (controller.steered board).2.2 with
          demand
          report := (controller.steered board).2.2.report.modify fun report =>
            { report with progress := 1 } }
      else { (controller.steered board).2.2 with demand } := ⟨_, rfl⟩
  obtain ⟨demand, published⟩ := updated
  rw [published]
  split
  · exact ⟨demand, _, rfl, 1, rfl⟩
  · exact ⟨demand, _, rfl, _, rfl⟩

/-- **What a tick writes**: the demand, the telemetry, what was learned, the guidance alarm, and
the progress in the report. -/
theorem update_writes (controller : Controller) (board : Blackboard) :
    ∃ alarms takeoffStatus journal selfTuning demand report,
      (controller.update board).2 =
        { board with alarms, takeoffStatus, journal, selfTuning, demand, report } ∧
      (∃ guidance, alarms.value = { board.alarms.value with guidance }) ∧
      ∃ progress, report.value = { board.report.value with progress } := by
  obtain ⟨alarms, takeoffStatus, journal, ran⟩ := controller.ranSequence_frame board
  have warned := controller.ranSequence_warned board
  obtain ⟨selfTuning, steered⟩ := steer_frame
    { controller with sequence := (controller.ranSequence board).1 }
    (controller.ranSequence board).2 board.target.value.stop.down
  obtain ⟨demand, report, published, progressed⟩ := controller.update_published board
  have left : (controller.steered board).2.2 =
      { board with alarms, takeoffStatus, journal, selfTuning } :=
    Eq.trans steered (by rw [ran])
  rw [ran] at warned
  rw [left] at published progressed
  exact ⟨alarms, takeoffStatus, journal, selfTuning, demand, report, published, warned, progressed⟩

end Controller
end Takeoff
end FlightGuidance
