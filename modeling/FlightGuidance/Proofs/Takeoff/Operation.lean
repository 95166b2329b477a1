import FlightGuidance.Proofs.Takeoff.Sequence

/-!
# The operations of the takeoff sequence

A sequence is started over by an activation or a deactivation, is told a gate, runs its ticks, and
may be told an altitude between them. The operations are data here (`Operation`), so that a run is a
series of them.

A tick does one of two things to the state in which it finds the sequence (`Ran`): it takes the
bounds one step along their ramps and stays, or it does this and then changes to one of the few
states to which that state leads. Later modules split a tick by these two and do not open it.
-/

set_option autoImplicit false

namespace FlightGuidance
namespace Takeoff

/-- The states to which a tick leads from a state. -/
inductive State.Leads : State → State → Prop where
  | spooled : Leads .slowStart .thrustUp
  | raised : Leads .thrustUp .takeoff
  | arrived : Leads .takeoff .hold
  | drifted : Leads .takeoff .thrustDown
  | ended : Leads .takeoff .thrustOff
  | lowered : Leads .thrustDown .thrustOff
  | stopped : Leads .thrustOff .disarmed

theorem State.Leads.ne {state next : State} (leads : state.Leads next) : state ≠ next := by
  cases leads <;> nofun

namespace Sequence

/-- The bounds one tick further on their ramps. -/
def ramped (sequence : Sequence) : Sequence :=
  match sequence.state with
  | .slowStart =>
    { sequence with
      thrustMin := sequence.ramp sequence.thrustMin
      thrustMax := sequence.ramp sequence.thrustMax }
  | .thrustUp => { sequence with thrustMax := sequence.ramp sequence.thrustMax }
  | .thrustDown => { sequence with thrustLimit := sequence.thrustLimit - sequence.rampStep }
  | _ => sequence

theorem ramped_state (sequence : Sequence) : sequence.ramped.state = sequence.state := by
  unfold ramped
  split <;> rfl

theorem ramped_status (sequence : Sequence) : sequence.ramped.status = sequence.status := by
  unfold ramped
  split <;> rfl

/-- A change to the present state notes the reason. -/
theorem moveTo_of_eq {sequence : Sequence} {next : State} (same : sequence.state = next)
    (board : Blackboard) (reason : ExitReason) :
    sequence.moveTo board next reason = (sequence.noteExit reason, board) :=
  if_pos same

/-- What running a state does. -/
inductive Ran (sequence : Sequence) (board : Blackboard) : Sequence × Blackboard → Prop where
  | stays (alarms : Topic Alarms) : Ran sequence board (sequence.ramped, { board with alarms })
  | leaves {next : State} (leads : sequence.state.Leads next) (reason : ExitReason)
      (exitReasons : Vector ExitReason 9) :
      Ran sequence board
        (let moved := sequence.ramped.moveTo board next reason
        ({ moved.1 with status := { moved.1.status with exitReasons } }, moved.2))

variable {sequence : Sequence}

theorem Ran.stay {after : Sequence} (same : sequence.ramped = after) (board : Blackboard) :
    Ran sequence board (after, board) :=
  same ▸ .stays board.alarms

theorem Ran.leave {after : Sequence} (same : sequence.ramped = after) {next : State}
    (leads : sequence.state.Leads next) (board : Blackboard) (reason : ExitReason) :
    Ran sequence board (after.moveTo board next reason) :=
  same ▸ .leaves leads reason _

/-- A state whose bounds have gone along their ramps is left when it times out. -/
theorem Ran.expire {after : Sequence} (same : sequence.ramped = after) {next : State}
    (leads : sequence.state.Leads next) (board : Blackboard) (timedOut : Bool) :
    Ran sequence board (after.expire timedOut board next) := by
  unfold Sequence.expire
  split
  · exact .leave same leads board .timeout
  · exact .stay same board

theorem runTakeoff_ran (flying : sequence.state = .takeoff) (board : Blackboard)
    (inputs : Inputs) : Ran sequence board (sequence.runTakeoff inputs board) := by
  have same : sequence.ramped = sequence := by simp only [ramped, flying]
  unfold runTakeoff
  split
  · exact .leave same (flying ▸ .ended) board .zeroThrust
  · split
    · exact .leave same (flying ▸ .drifted) board .positionError
    · split
      · exact .leave same (flying ▸ .arrived) board .arrivedAtAltitude
      · exact .stay same board

theorem runThrustDown_ran (lowering : sequence.state = .thrustDown) (board : Blackboard)
    (timedOut : Bool) (inputs : Inputs) :
    Ran sequence board (sequence.runThrustDown timedOut inputs board) := by
  have leads : sequence.state.Leads .thrustOff := lowering ▸ .lowered
  let after : Sequence := { sequence with thrustLimit := sequence.thrustLimit - sequence.rampStep }
  have same : sequence.ramped = after := by simp only [ramped, lowering, after]
  show Ran sequence board
    (let ended := if inputs.thrust < 0 || after.thrustLimit < 0 then
        after.moveTo board .thrustOff .zeroThrust
      else (after, board)
    ended.1.expire timedOut ended.2 .thrustOff)
  by_cases zero : (inputs.thrust < 0 || after.thrustLimit < 0) = true
  · simp only [if_pos zero]
    unfold Sequence.expire
    split
    · -- The thrust has ended already when the state times out.
      rw [moveTo_of_eq (moveTo_state _ _ _ _), ← same]
      exact .leaves leads .zeroThrust _
    · exact .leave same leads board .zeroThrust
  · simp only [if_neg zero]
    exact .expire same leads board timedOut

/-- **What running a state does.** -/
theorem runState_ran (sequence : Sequence) (board : Blackboard) (timedOut : Bool)
    (inputs : Inputs) : Ran sequence board (sequence.runState timedOut inputs board) := by
  cases state : sequence.state with
  | inactive | checkState | hold =>
      simp only [runState, state]
      exact .stay (by simp only [ramped, state]) board
  | slowStart =>
      simp only [runState, state]
      exact .expire (by simp only [ramped, state]) (state ▸ .spooled) board timedOut
  | thrustUp =>
      simp only [runState, state]
      exact .expire (by simp only [ramped, state]) (state ▸ .raised) board timedOut
  | takeoff =>
      simp only [runState, state]
      exact runTakeoff_ran state board inputs
  | thrustDown =>
      simp only [runState, state]
      exact runThrustDown_ran state board timedOut inputs
  | thrustOff =>
      simp only [runState, state]
      exact .leave (by simp only [ramped, state]) (state ▸ .stopped) board .none
  | disarmed =>
      obtain ⟨alarms, raised⟩ := raiseAlarm_frame inputs board
      have same : sequence.ramped = sequence := by simp only [ramped, state]
      have stays : Ran sequence board (sequence.ramped, { board with alarms }) := .stays alarms
      simp only [runState, state]
      rw [raised]
      rw [same] at stays
      exact stays

/-- A tick counts, runs the state, and notes whether the vehicle is low. -/
theorem update_ran (sequence : Sequence) (board : Blackboard) :
    ∃ ran low, Ran { sequence with ticks := sequence.ticks + 1 } board ran ∧
      sequence.update board = ({ ran.1 with low }, ran.2) := by
  let counted : Sequence := { sequence with ticks := sequence.ticks + 1 }
  let timedOut : Bool := 0 < counted.timeout && counted.timeout < counted.ticks
  let ran := counted.runState timedOut (Inputs.read board) board
  have runs : Ran counted board ran := runState_ran counted board timedOut (Inputs.read board)
  by_cases idle : ran.1.state = .inactive
  · exact ⟨ran, ran.1.low, runs, Prod.ext (if_pos idle) rfl⟩
  · exact ⟨ran, _, runs, Prod.ext (if_neg idle) rfl⟩

end Sequence

/-! ## Operations -/

inductive Operation where
  | activate
  | deactivate
  | setGate (gate : Gate)
  | update
  | assessAltitude (down : Float32)

/-- Perform an operation. The first two start the sequence over. -/
def Operation.perform (operation : Operation) (sequence : Sequence) (board : Blackboard) :
    Sequence × Blackboard :=
  match operation with
  | .activate => Sequence.activate board
  | .deactivate => Sequence.deactivate board
  | .setGate gate => sequence.setGate board gate
  | .update => sequence.update board
  | .assessAltitude down => (sequence.assessAltitude down, board)

/-- A sequence that is prepared for a takeoff. -/
def prepared (board : Blackboard) : Sequence × Blackboard := Operation.activate.perform {} board

/-- The takeoff is initiated. -/
def initiated (board : Blackboard) : Sequence × Blackboard :=
  (Operation.setGate .initiate).perform (prepared board).1 (prepared board).2

end Takeoff
end FlightGuidance
