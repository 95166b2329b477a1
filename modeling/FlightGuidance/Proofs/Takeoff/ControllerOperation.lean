import FlightGuidance.Proofs.Altitude.HoverWindow
import FlightGuidance.Proofs.Takeoff.Operation
import FlightGuidance.Proofs.Takeoff.ThrustEnvelope

/-!
# The operations of the takeoff controller

A takeoff controller is engaged, left, given the settings, and run, each time on any blackboard.
The operations are data here (`Controller.Operation`), so that a run is a series of them.

The sequence touches the alarms, its telemetry and the journal, and nothing else of the blackboard
(`Framed`), so what a tick writes of the learned record is written by the hold. A tick either climbs
or holds (`Stepped`), and in both cases it keeps the velocity loop around its neutral thrust
(`update_keeps`).
-/

set_option autoImplicit false

namespace FlightGuidance

namespace AltitudeController

/-- The estimator touches the estimate and the integral term. -/
theorem advanceEstimate_frame (controller : AltitudeController) :
    ∃ estimate pid, controller.advanceEstimate.2 = { controller with estimate, pid } := by
  unfold advanceEstimate
  split
  · exact ⟨_, _, rfl⟩
  · split
    · exact ⟨_, _, rfl⟩
    · dsimp only
      split <;> exact ⟨_, _, rfl⟩

end AltitudeController

namespace Takeoff

/-! ## The frame of the sequence -/

/-- The alarms, the telemetry of the takeoff and the journal may differ. -/
def Framed (before after : Blackboard) : Prop :=
  ∃ alarms takeoffStatus journal, after = { before with alarms, takeoffStatus, journal }

theorem Framed.refl (board : Blackboard) : Framed board board := ⟨_, _, _, rfl⟩

theorem Framed.trans {first second third : Blackboard} (former : Framed first second)
    (latter : Framed second third) : Framed first third := by
  obtain ⟨_, _, _, rfl⟩ := former
  obtain ⟨alarms, takeoffStatus, journal, rfl⟩ := latter
  exact ⟨alarms, takeoffStatus, journal, rfl⟩

theorem Framed.selfTuning {before after : Blackboard} (frame : Framed before after) :
    after.selfTuning = before.selfTuning := by
  obtain ⟨_, _, _, rfl⟩ := frame
  rfl

theorem Framed.writes_eq {before after : Blackboard} (frame : Framed before after) :
    (after.selfTuning.revision - before.selfTuning.revision).toNat = 0 := by
  rw [frame.selfTuning, UInt64.sub_self]
  rfl

namespace Sequence

theorem passCheck_frame (sequence : Sequence) (inputs : Inputs) (board : Blackboard) :
    Framed board (sequence.passCheck inputs board).2 := by
  unfold passCheck
  split <;> exact moveTo_frame _ _ _ _

theorem setState_frame (sequence : Sequence) (board : Blackboard) (next : State)
    (reason : ExitReason) : Framed board (sequence.setState board next reason).2 := by
  unfold setState
  by_cases check : next = .checkState
  · rw [if_pos check]
    by_cases same : sequence.state = next
    · unfold change
      rw [if_pos same]
      exact .refl board
    · obtain ⟨low, status, journal, status', takeoffStatus, changed⟩ :=
        change_eq passCheck sequence board same reason
      obtain ⟨alarms, _, journal, passed⟩ := passCheck_frame
        { sequence with state := next, low, status, ticks := 0, timeout := 0 } (Inputs.read board)
        { board with journal }
      rw [changed]
      refine ⟨alarms, takeoffStatus, journal, ?_⟩
      dsimp only
      rw [passed]
  · rw [if_neg check]
    exact moveTo_frame _ _ _ _

theorem setGate_frame (sequence : Sequence) (board : Blackboard) (gate : Gate) :
    Framed board (sequence.setGate board gate).2 :=
  setState_frame _ _ _ _

theorem activate_frame (board : Blackboard) : Framed board (Sequence.activate board).2 :=
  setState_frame _ _ _ _

theorem deactivate_frame (board : Blackboard) : Framed board (Sequence.deactivate board).2 :=
  setState_frame _ _ _ _

theorem update_frame (sequence : Sequence) (board : Blackboard) :
    Framed board (sequence.update board).2 := by
  obtain ⟨ran, low, runs, updated⟩ := sequence.update_ran board
  rw [updated]
  cases runs with
  | stays alarms => exact ⟨alarms, board.takeoffStatus, board.journal, rfl⟩
  | leaves => exact moveTo_frame _ _ _ _

end Sequence

namespace Controller

theorem followGate_frame (sequence : Sequence) (board : Blackboard) :
    Framed board (followGate sequence board).2 := by
  unfold followGate
  split
  · split
    · exact .refl board
    · exact Sequence.setGate_frame _ _ _
  · exact .refl board

theorem ranSequence_frame (controller : Controller) (board : Blackboard) :
    Framed board (controller.ranSequence board).2 :=
  (followGate_frame _ _).trans (Sequence.update_frame _ _)

theorem activate_frame (controller : Controller) (board : Blackboard) :
    Framed board (controller.activate board).2 := by
  unfold activate
  split
  · exact .refl board
  · exact Sequence.activate_frame board

theorem deactivate_frame (controller : Controller) (board : Blackboard) :
    Framed board (controller.deactivate board).2 := by
  unfold deactivate
  split
  · exact Sequence.deactivate_frame board
  · exact .refl board

/-! ## Operations -/

inductive Operation where
  | activate
  | deactivate
  | applySettings
  | update

/-- The controller and the blackboard after an operation. -/
def Operation.perform (controller : Controller) (board : Blackboard) :
    Operation → Controller × Blackboard
  | activate => controller.activate board
  | deactivate => controller.deactivate board
  | applySettings => (controller.applySettings board, board)
  | update => controller.update board

/-- Whether an operation activates a controller that was not active. -/
def Operation.engages (controller : Controller) : Operation → Bool
  | activate => !controller.active
  | _ => false

/-! ## Ticks -/

/-- The controller on which a hold calls the estimator. -/
def asked (controller : Controller) (targetDown down : Float32) : AltitudeController :=
  (if controller.holding then controller.altitude else controller.altitude.beginHold down).aimed
    targetDown down

/-- What a tick does to a controller, and to what was learned: it climbs, or it holds. A hold that
was not begun begins with a new estimate. -/
inductive Stepped (controller : Controller) (tuning : Topic SelfTuning) :
    Controller → Topic SelfTuning → Prop where
  | climbs (sequence : Sequence) (climb velocity : Float32) (bounds : Option VerticalBounds) :
      Stepped controller tuning
        { controller with
          sequence
          altitude :=
            ((controller.altitude.requestVelocity climb).measureVelocity velocity bounds).command
              bounds }
        tuning
  | holds (sequence : Sequence) (targetDown down velocity : Float32) :
      Stepped controller tuning
        { controller with
          sequence
          holding := true
          altitude :=
            ((controller.asked targetDown down).advanceEstimate.2.measureVelocity velocity
              none).command none }
        (match (controller.asked targetDown down).advanceEstimate.1 with
        | some correction => tuning.modify correction.applyTo
        | none => tuning)

theorem update_selfTuning (controller : Controller) (board : Blackboard) :
    (controller.update board).2.selfTuning = (controller.steered board).2.2.selfTuning := by
  unfold update
  dsimp only
  split <;> rfl

theorem steer_of_holds {controller : Controller}
    (holds : controller.sequence.holdsAltitude = true) (board : Blackboard) (targetDown : Float32) :
    controller.steer board targetDown =
      ((controller.hold board targetDown).1, none, (controller.hold board targetDown).2) :=
  if_pos holds

theorem steer_of_climbs {controller : Controller}
    (climbs : ¬controller.sequence.holdsAltitude = true) (board : Blackboard)
    (targetDown : Float32) :
    controller.steer board targetDown =
      (controller.climb board, some controller.sequence.verticalBounds, board) :=
  if_neg climbs

theorem hold_selfTuning (controller : Controller) (board : Blackboard) (targetDown : Float32) :
    (controller.hold board targetDown).2.selfTuning =
      match (controller.asked targetDown board.position.value.down).advanceEstimate.1 with
      | some correction => board.selfTuning.modify correction.applyTo
      | none => board.selfTuning := by
  unfold hold asked
  dsimp only
  rw [AltitudeController.controlPosition_eq]
  generalize AltitudeController.advanceEstimate _ = advanced
  cases advanced.1 <;> rfl

/-- **What a tick does.** -/
theorem update_stepped (controller : Controller) (board : Blackboard) :
    Stepped controller board.selfTuning (controller.update board).1
      (controller.update board).2.selfTuning := by
  obtain ⟨velocity, updated, -⟩ := controller.update_eq board
  have same := (controller.ranSequence_frame board).selfTuning
  rw [updated, update_selfTuning]
  by_cases holds : (controller.ranSequence board).1.holdsAltitude = true
  · have held : controller.steered board = _ := steer_of_holds holds _ _
    rw [held, hold_selfTuning, same]
    exact .holds _ _ _ _
  · have climbed : controller.steered board = _ := steer_of_climbs holds _ _
    rw [climbed]
    dsimp only
    rw [same]
    exact .climbs _ _ _ _

/-- A tick keeps the velocity loop in operation, around the same neutral thrust. -/
theorem update_keeps (controller : Controller) (board : Blackboard) :
    (controller.update board).1.active = controller.active ∧
      (controller.update board).1.altitude.active = controller.altitude.active ∧
      (controller.update board).1.altitude.neutral = controller.altitude.neutral := by
  have stepped := controller.update_stepped board
  generalize (controller.update board).1 = after,
    (controller.update board).2.selfTuning = tuning at stepped ⊢
  cases stepped with
  | climbs => exact ⟨rfl, rfl, rfl⟩
  | holds sequence targetDown down velocity =>
      obtain ⟨estimate, pid, frame⟩ := (controller.asked targetDown down).advanceEstimate_frame
      rw [frame]
      unfold asked
      split <;> exact ⟨rfl, rfl, rfl⟩

end Controller
end Takeoff
end FlightGuidance
