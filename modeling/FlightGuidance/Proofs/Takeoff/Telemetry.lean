import FlightGuidance.Proofs.Takeoff.Operation

/-!
# The telemetry of the takeoff sequence

The telemetry carries the state and the gate of the sequence, and it is published by a change of
state and by nothing else (`Reports`). So a tick never leaves it behind (`Reported.of_update`),
but a gate that leads to the present state does, and so do the operations that start the sequence
over: they replace its state without a change.

In a run in which only the sequence writes its telemetry, the published state and gate are those
with which an operation has changed the state last. They are the present ones exactly if the
operation has changed the state itself, or has come back to what was published
(`Reported.published_iff`).
-/

set_option autoImplicit false

namespace FlightGuidance
namespace Takeoff

/-- The state and the gate that are told by the telemetry. -/
def Status.told (status : Status) : State × Gate := (status.state, status.gate)

namespace Sequence

/-- The state and the gate that the telemetry has to tell. -/
def summary (sequence : Sequence) : State × Gate := (sequence.state, sequence.status.gate)

/-- What an operation does to the telemetry: one that changes the state publishes, and another
one does not. -/
structure Reports (board : Blackboard) (changes : Bool) (after : Sequence × Blackboard) :
    Prop where
  published : changes = true → after.2.takeoffStatus.value.told = after.1.summary
  silent : changes = false → after.2.takeoffStatus = board.takeoffStatus

/-! ## Operations -/

/-- **A change to another state publishes it, and one to the present state does not.** -/
theorem change_reports (enter : Sequence → Inputs → Blackboard → Sequence × Blackboard)
    (sequence : Sequence) (board : Blackboard) (next : State) (reason : ExitReason) :
    Reports board (sequence.state != next) (sequence.change enter board next reason) := by
  unfold change
  dsimp only
  by_cases same : sequence.state = next
  · rw [if_pos same]
    exact ⟨fun differs => absurd same (bne_iff_ne.mp differs), fun _ => rfl⟩
  · rw [if_neg same]
    exact ⟨fun _ => rfl, fun kept => absurd (bne_eq_false_iff_eq.mp kept) same⟩

theorem setState_reports (sequence : Sequence) (board : Blackboard) (next : State)
    (reason : ExitReason) :
    Reports board (sequence.state != next) (sequence.setState board next reason) := by
  unfold setState moveTo
  split
  · exact sequence.change_reports passCheck board next reason
  · exact sequence.change_reports _ board next reason

theorem setGate_reports (sequence : Sequence) (board : Blackboard) (gate : Gate) :
    Reports board (sequence.state != gateState gate) (sequence.setGate board gate) := by
  let gated : Sequence := { sequence with status := { sequence.status with gate } }
  exact gated.setState_reports board (gateState gate) .none

/-- An activation changes the state of the new sequence only if the vehicle flies. -/
theorem activate_reports (board : Blackboard) :
    Reports board (Inputs.read board).flying (Sequence.activate board) := by
  let fresh : Sequence :=
    { low := true, zeroesHorizontal := true, takeoffLocation := board.takeoffLocation.value }
  let assessed := fresh.assessAltitude board.position.value.down
  unfold Sequence.activate
  dsimp only
  cases (Inputs.read board).flying with
  | true => exact assessed.setState_reports board .hold .none
  | false => exact assessed.setState_reports board .inactive .none

theorem deactivate_reports (board : Blackboard) :
    Reports board false (Sequence.deactivate board) :=
  setState_reports {} board .inactive .none

theorem Ran.reports {sequence : Sequence} {board : Blackboard} {after : Sequence × Blackboard}
    (ran : Ran sequence board after) :
    Reports board (after.1.state != sequence.state) after ∧
      (after.1.state = sequence.state → after.1.summary = sequence.summary) := by
  cases ran with
  | stays alarms =>
      have same : sequence.ramped.state = sequence.state := sequence.ramped_state
      have kept : sequence.ramped.summary = sequence.summary :=
        congrArg₂ Prod.mk same (congrArg Status.gate sequence.ramped_status)
      exact ⟨⟨fun changes => absurd same (bne_iff_ne.mp changes), fun _ => rfl⟩, fun _ => kept⟩
  | @leaves next leads reason exitReasons =>
      have state := sequence.ramped.moveTo_state board next reason
      have differs := leads.ne
      rw [← sequence.ramped_state] at differs
      have reports := sequence.ramped.change_reports
        (fun entered inputs board => entered.prepare inputs board next) board next reason
      have published := reports.published (bne_iff_ne.mpr differs)
      have changes : (sequence.ramped.moveTo board next reason).1.state ≠ sequence.state := by
        rw [state]
        exact leads.ne.symm
      exact ⟨⟨fun _ => published, fun stays => absurd (bne_eq_false_iff_eq.mp stays) changes⟩,
        fun stays => absurd stays changes⟩

/-- A tick that stays in its state keeps the gate as well. -/
theorem update_reports (sequence : Sequence) (board : Blackboard) :
    Reports board ((sequence.update board).1.state != sequence.state) (sequence.update board) ∧
      ((sequence.update board).1.state = sequence.state →
        (sequence.update board).1.summary = sequence.summary) := by
  obtain ⟨ran, low, runs, updated⟩ := sequence.update_ran board
  rw [updated]
  obtain ⟨reports, stays⟩ := runs.reports
  exact ⟨⟨reports.published, reports.silent⟩, stays⟩

end Sequence

/-- Whether an operation changes the state of the sequence that it is performed on, or of the new
one if it starts over. -/
def Operation.changes (operation : Operation) (sequence : Sequence) (board : Blackboard) : Bool :=
  match operation with
  | .activate => (Inputs.read board).flying
  | .deactivate | .assessAltitude _ => false
  | .setGate gate => sequence.state != Sequence.gateState gate
  | .update => (sequence.update board).1.state != sequence.state

theorem Operation.reports (operation : Operation) (sequence : Sequence) (board : Blackboard) :
    Sequence.Reports board (operation.changes sequence board)
      (operation.perform sequence board) := by
  cases operation with
  | activate => exact Sequence.activate_reports board
  | deactivate => exact Sequence.deactivate_reports board
  | setGate gate => exact sequence.setGate_reports board gate
  | update => exact (sequence.update_reports board).1
  | assessAltitude => exact ⟨nofun, fun _ => rfl⟩

/-! ## Runs -/

/-- A run in which only the sequence writes its telemetry, with the state and the gate with which
an operation has changed the state last. -/
inductive Reported : Sequence → Blackboard → State × Gate → Prop where
  | start (board : Blackboard) : Reported {} board board.takeoffStatus.value.told
  | change {sequence : Sequence} {board : Blackboard} {last : State × Gate}
      (run : Reported sequence board last) (next : Blackboard)
      (kept : next.takeoffStatus = board.takeoffStatus) : Reported sequence next last
  | perform {sequence : Sequence} {board : Blackboard} {last : State × Gate}
      (run : Reported sequence board last) (operation : Operation) :
      Reported (operation.perform sequence board).1 (operation.perform sequence board).2
        (if operation.changes sequence board then (operation.perform sequence board).1.summary
          else last)

namespace Reported

variable {sequence : Sequence} {board : Blackboard} {last : State × Gate}

/-- The telemetry tells the last change. -/
theorem told (run : Reported sequence board last) : board.takeoffStatus.value.told = last := by
  induction run with
  | start board => rfl
  | change _ next kept inductionHypothesis =>
      rw [kept]
      exact inductionHypothesis
  | @perform sequence board last _ operation inductionHypothesis =>
      have reports := operation.reports sequence board
      split
      next changes => exact reports.published changes
      next stays =>
        rw [reports.silent (Bool.eq_false_of_not_eq_true stays)]
        exact inductionHypothesis

/-- A tick does not leave the telemetry behind. -/
theorem of_update (run : Reported sequence board last) (current : sequence.summary = last) :
    (sequence.update board).2.takeoffStatus.value.told = (sequence.update board).1.summary := by
  obtain ⟨reports, stays⟩ := sequence.update_reports board
  by_cases same : (sequence.update board).1.state = sequence.state
  · rw [reports.silent (bne_eq_false_iff_eq.mpr same), run.told, stays same, current]
  · exact reports.published (bne_iff_ne.mpr same)

/-- **When the telemetry is up to date.** After an operation the published state and gate are those
of the sequence exactly if the operation has changed the state, or has led back to the state and
the gate of the last change. An operation that does not change the state publishes nothing. -/
theorem published_iff (run : Reported sequence board last) (operation : Operation) :
    let after := operation.perform sequence board
    (after.2.takeoffStatus.value.told = after.1.summary ↔
        operation.changes sequence board = true ∨ after.1.summary = last) ∧
      (operation.changes sequence board = false →
        after.2.takeoffStatus = board.takeoffStatus) := by
  intro after
  have reports := operation.reports sequence board
  refine ⟨?_, reports.silent⟩
  cases changes : operation.changes sequence board with
  | true => exact ⟨fun _ => .inl rfl, fun _ => reports.published changes⟩
  | false =>
      rw [reports.silent changes, run.told, eq_comm]
      exact (or_iff_right nofun).symm

theorem stay (run : Reported sequence board last) {operation : Operation}
    (stays : operation.changes sequence board = false) :
    Reported (operation.perform sequence board).1 (operation.perform sequence board).2 last := by
  have performed := run.perform operation
  rw [stays] at performed
  exact performed

/-- The initiated takeoff is published. -/
theorem published_of_initiate :
    (initiated {}).2.takeoffStatus.value.told = (initiated {}).1.summary := by
  have prepared : Reported (prepared {}).1 (prepared {}).2 (.inactive, .waitForArmed) :=
    (start {}).stay (by decide +kernel)
  exact (prepared.published_iff (.setGate .initiate)).1.mpr (.inl (by decide +kernel))

/-- A takeoff that is left while it spools up, and the next one that waits on the ground, still
appear as the one that was initiated. -/
theorem left_takeoff_not_published :
    let spooled := initiated {}
    let left := Operation.deactivate.perform spooled.1 spooled.2
    let again := Operation.activate.perform left.1 left.2
    Reported left.1 left.2 spooled.1.summary ∧ Reported again.1 again.2 spooled.1.summary ∧
      left.1.summary = (.inactive, .waitForArmed) ∧ again.1.summary = (.inactive, .waitForArmed) ∧
      left.2.takeoffStatus.value.told = (.slowStart, .initiate) ∧
      again.2.takeoffStatus.value.told = (.slowStart, .initiate) := by
  intro spooled left again
  have prepared : Reported (prepared {}).1 (prepared {}).2 (.inactive, .waitForArmed) :=
    (start {}).stay (by decide +kernel)
  have spooling : Reported spooled.1 spooled.2 spooled.1.summary :=
    prepared.perform (.setGate .initiate)
  have leaving : Reported left.1 left.2 spooled.1.summary := spooling.stay rfl
  have waiting : Reported again.1 again.2 spooled.1.summary := leaving.stay (by decide +kernel)
  exact ⟨leaving, waiting, by decide +kernel, by decide +kernel, by decide +kernel,
    by decide +kernel⟩

end Reported
end Takeoff
end FlightGuidance
