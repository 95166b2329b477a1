import FlightGuidance.Guidance.Fixed
import FlightGuidance.Proofs.Takeoff.ControllerOperation
import FlightGuidance.Proofs.Takeoff.Telemetry
import FlightGuidance.Proofs.Takeoff.Timing

/-!
# A takeoff that flies a target of another mode

All components share one target, and the slot in which a takeoff target carries its gate carries a
timeout in a brake target and an option in a landing target. A takeoff that goes on while another
mode has published its target reads that slot as a gate, since it does not look at the mode.

So a tick leaves the sequence to its own course exactly if the slot names no other gate than the
present one (`Controller.Operated.update_of_target`). Otherwise the sequence is where the named gate
leads, which is known without a run: the tick that follows the gate does not move it on. A target
that holds the position or returns to base names a gate on the ground (`gate?_holdTarget`,
`gate?_returnTarget`), and so does one that lands (`gate?_landTarget`).
-/

set_option autoImplicit false

namespace FlightGuidance

namespace Guidance

/-- A hold names the gate of a takeoff that has not begun. -/
theorem gate?_holdTarget (board : Blackboard) :
    (holdTarget board).gate? = some .waitForArmed :=
  Target.gate?_of_slot rfl

theorem gate?_returnTarget (board : Blackboard) :
    (returnTarget board).gate? = some .waitForArmed :=
  Target.gate?_of_slot rfl

/-- A landing that holds its horizontal position names the gate of a takeoff that is armed. -/
theorem gate?_landTarget (board : Blackboard) :
    (landTarget board).gate? = some .waitForMidThrottle :=
  Target.gate?_of_slot rfl

end Guidance

namespace Takeoff
namespace Sequence

/-! ## The gate of a sequence -/

theorem change_gate {enter : Sequence → Inputs → Blackboard → Sequence × Blackboard}
    (keeps : ∀ sequence inputs board,
      (enter sequence inputs board).1.status.gate = sequence.status.gate)
    (sequence : Sequence) (board : Blackboard) (next : State) (reason : ExitReason) :
    (sequence.change enter board next reason).1.status.gate = sequence.status.gate := by
  unfold change
  dsimp only
  split
  · rfl
  · refine (keeps _ _ _).trans ?_
    split <;> rfl

theorem prepare_gate (sequence : Sequence) (inputs : Inputs) (board : Blackboard) (next : State) :
    (sequence.prepare inputs board next).1.status.gate = sequence.status.gate := by
  cases next <;> rfl

theorem moveTo_gate (sequence : Sequence) (board : Blackboard) (next : State)
    (reason : ExitReason) :
    (sequence.moveTo board next reason).1.status.gate = sequence.status.gate :=
  change_gate (fun entered inputs board => entered.prepare_gate inputs board next) _ _ _ _

theorem setState_gate (sequence : Sequence) (board : Blackboard) (next : State)
    (reason : ExitReason) :
    (sequence.setState board next reason).1.status.gate = sequence.status.gate := by
  have passes (sequence : Sequence) (inputs : Inputs) (board : Blackboard) :
      (sequence.passCheck inputs board).1.status.gate = sequence.status.gate := by
    unfold passCheck
    split <;> exact moveTo_gate _ _ _ _
  unfold setState
  split
  · exact change_gate passes _ _ _ _
  · exact moveTo_gate _ _ _ _

/-- A tick keeps the gate. -/
theorem update_gate (sequence : Sequence) (board : Blackboard) :
    (sequence.update board).1.status.gate = sequence.status.gate := by
  obtain ⟨ran, low, runs, updated⟩ := sequence.update_ran board
  rw [updated]
  cases runs with
  | stays => exact congrArg Status.gate (ramped_status _)
  | leaves => exact (moveTo_gate _ _ _ _).trans (congrArg Status.gate (ramped_status _))

variable {sequence : Sequence}

theorem setGate_summary (resting : sequence.state ≠ .checkState) (board : Blackboard)
    (gate : Gate) :
    (sequence.setGate board gate).1.summary = (gate.landing (Inputs.read board).flying, gate) :=
  congrArg₂ Prod.mk (setGate_state resting board gate) (setState_gate _ _ _ _)

/-- The tick that follows a gate stays where the gate leads. -/
theorem update_setGate_summary (resting : sequence.state ≠ .checkState) (board next : Blackboard)
    (gate : Gate) :
    ((sequence.setGate board gate).1.update next).1.summary =
      (gate.landing (Inputs.read board).flying, gate) := by
  have landed := setGate_state resting board gate
  have stays : ((sequence.setGate board gate).1.update next).1.state =
      (sequence.setGate board gate).1.state := by
    obtain ⟨rfl, spools⟩ | lasts := Gate.landing_cases (Inputs.read board).flying gate
    · have timed := setGate_initiate_timed resting board
      rw [landed]
      rw [spools] at timed ⊢
      exact (timed.update_early rfl (by decide) next).present
    · exact update_of_lasts (landed ▸ lasts) next
  rw [(update_reports _ next).2 stays, setGate_summary resting]

end Sequence

namespace Controller

/-! ## The gate of a target -/

theorem ranSequence_of_gate {controller : Controller} {board : Blackboard} {gate : Gate}
    (carried : board.target.value.gate? = some gate)
    (other : gate ≠ controller.sequence.status.gate) :
    controller.ranSequence board =
      let landed := controller.sequence.setGate board gate
      landed.1.update landed.2 := by
  unfold ranSequence followGate
  rw [carried]
  dsimp only
  rw [if_neg other]

theorem ranSequence_of_no_gate {controller : Controller} {board : Blackboard}
    (same : ∀ gate, board.target.value.gate? = some gate →
      gate = controller.sequence.status.gate) :
    controller.ranSequence board = controller.sequence.update board := by
  unfold ranSequence followGate
  cases carried : board.target.value.gate? with
  | none => rfl
  | some gate =>
      dsimp only
      rw [if_pos (same gate carried)]

/-- A controller after a series of operations, each on any blackboard. -/
inductive Operated : Controller → Prop where
  | start : Operated {}
  | perform {controller : Controller} (run : Operated controller) (operation : Operation)
      (board : Blackboard) : Operated (operation.perform controller board).1

theorem operated_followGate {sequence : Sequence} (run : Takeoff.Operated sequence)
    (board : Blackboard) : Takeoff.Operated (followGate sequence board).1 := by
  unfold followGate
  split
  next gate _ =>
    split
    · exact run
    · exact run.perform (.setGate gate) board
  next => exact run

/-- The sequence of a controller is operated as well. -/
theorem Operated.sequence {controller : Controller} (run : Operated controller) :
    Takeoff.Operated controller.sequence := by
  induction run with
  | start => exact .start
  | @perform controller _ operation board ih =>
      cases operation with
      | activate =>
          show Takeoff.Operated (controller.activate board).1.sequence
          unfold Controller.activate
          split
          · exact ih
          · exact ih.perform .activate board
      | deactivate =>
          show Takeoff.Operated (controller.deactivate board).1.sequence
          unfold Controller.deactivate
          split
          · exact ih.perform .deactivate board
          · exact ih
      | applySettings => exact ih
      | update =>
          show Takeoff.Operated (controller.update board).1.sequence
          rw [update_sequence]
          exact (operated_followGate ih board).perform .update _

/-- **What a tick makes of the target**, whatever its mode. The sequence takes its own course
exactly if the slot of the gate names no other gate than the present one. Another gate is
followed. -/
theorem Operated.update_of_target {controller : Controller} (run : Operated controller)
    (board : Blackboard) :
    ((controller.update board).1.sequence.summary = (controller.sequence.update board).1.summary ↔
        ∀ gate, board.target.value.gate? = some gate → gate = controller.sequence.status.gate) ∧
      ∀ gate, board.target.value.gate? = some gate → gate ≠ controller.sequence.status.gate →
        (controller.update board).1.sequence.summary =
          (gate.landing (Inputs.read board).flying, gate) := by
  have follows (gate : Gate) (carried : board.target.value.gate? = some gate)
      (other : gate ≠ controller.sequence.status.gate) :
      (controller.update board).1.sequence.summary =
        (gate.landing (Inputs.read board).flying, gate) := by
    rw [update_sequence, ranSequence_of_gate carried other]
    exact Sequence.update_setGate_summary run.sequence.resting _ _ _
  refine ⟨⟨fun same gate carried => ?_, fun same => ?_⟩, follows⟩
  · by_contra other
    have gates := congrArg Prod.snd ((follows gate carried other).symm.trans same)
    exact other (gates.trans (controller.sequence.update_gate board))
  · rw [update_sequence, ranSequence_of_no_gate same]

/-- A takeoff that has begun to spool up. -/
def spooling : Controller × Blackboard :=
  let initiates : Blackboard :=
    { target := { value := ({ mode := .autoTakeoff } : Target).withGate .initiate } }
  let engaged := ({} : Controller).activate initiates
  engaged.1.update engaged.2

theorem operated_spooling : Operated spooling.1 :=
  .perform (.perform .start .activate _) .update _

/-- A takeoff that spools up is broken off by the target of a landing. -/
theorem sequence_of_landing :
    let landing := Guidance.land spooling.2
    spooling.1.sequence.summary = (.slowStart, .initiate) ∧
      landing.target.value.mode = .land ∧
      (spooling.1.update landing).1.sequence.summary = (.inactive, .waitForMidThrottle) := by
  intro landing
  have spools : spooling.1.sequence.summary = (.slowStart, .initiate) := by decide +kernel
  have other : Gate.waitForMidThrottle ≠ spooling.1.sequence.status.gate :=
    fun same => nomatch same.trans (congrArg Prod.snd spools)
  exact ⟨spools, rfl, (operated_spooling.update_of_target landing).2 .waitForMidThrottle
    (Guidance.gate?_landTarget spooling.2) other⟩

/-- The brake of a vehicle that stands puts a takeoff that spools up into a hold, where its own
course goes on spooling up. The timeout of four seconds names the gate of a hold. -/
theorem sequence_of_brake :
    let braking := Guidance.brake spooling.2
    Operated spooling.1 ∧ spooling.1.sequence.summary = (.slowStart, .initiate) ∧
      braking.target.value.mode = .brake ∧
      (spooling.1.sequence.update braking).1.summary = (.slowStart, .initiate) ∧
      (spooling.1.update braking).1.sequence.summary = (.hold, .positionHold) :=
  ⟨operated_spooling, by decide +kernel⟩

end Controller
end Takeoff
end FlightGuidance
