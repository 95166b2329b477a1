import FlightGuidance.Proofs.Sequencer.ActiveWaypoint

/-!
# Reports of the follower and the leg

A tick judges the active leg only when the follower reports the target of it. The report
names the target by its sequence id, which is the index of the leg. When a leg is published
again under the index that the last report has named, then this report counts for the new
target too, although it is older.

`Run.judges_iff` says which legs are judged: with an answer, those which the answer names,
and without one, those which the report has named that the sequencer found when it last
published. A leg that loops back to itself is judged on every tick from one report
(`judged_before_answer`).
-/

set_option autoImplicit false

namespace FlightGuidance
namespace Sequencer

namespace History

/-- The history when a tick looks at the leg. The leg of a mission that was loaded since has
just been published. -/
def looked (history : History) (sequencer : Sequencer) (board : Blackboard) : History :=
  if board.mission.revision = sequencer.missionRevision then history
  else
    { history with
      answered := false, named := board.report.value.sequenceId, replaced := false }

/-- The sequence id that the target has according to a history. -/
def aim (history : History) (board : Blackboard) : Int16 :=
  if history.replaced then board.target.value.sequenceId
  else board.activeWaypoint.value.index.toInt16

end History

namespace Consistent

variable {sequencer : Sequencer} {board : Blackboard} {history : History}

/-- The target that an active sequencer faces has the sequence id that the history tells. -/
theorem faced_sequenceId (consistent : Consistent sequencer board history)
    (active : sequencer.active = true) (loaded : (activeLeg? board).isSome = true) :
    (sequencer.faced board).value.sequenceId = (history.looked sequencer board).aim board := by
  obtain ⟨leg, found⟩ := Option.isSome_iff_exists.mp loaded
  obtain ⟨index, found, -⟩ := activeLeg?_eq_some_iff.mp found
  rw [index] at found
  unfold History.looked History.aim
  by_cases current : board.mission.revision = sequencer.missionRevision
  · rw [faced_of_current sequencer board current, if_pos current]
    cases kept : history.replaced with
    | true => rfl
    | false => exact consistent.aimed active kept
  · rw [faced_of_reloaded sequencer board active current found, if_neg current]
    exact (legTarget_leads _ _ _ _ _).sequenceId

/-- Without an answer the report is still the one that the sequencer has found. -/
theorem looked_unanswered (consistent : Consistent sequencer board history)
    (silent : (history.looked sequencer board).answered = false) :
    board.report.value.sequenceId = (history.looked sequencer board).named := by
  unfold History.looked at silent ⊢
  split at silent
  next current =>
    rw [if_pos current]
    exact consistent.unanswered silent
  next reloaded => rw [if_neg reloaded]

end Consistent

/-- A judged leg is left exactly if the report aborts it or its command goes on. -/
theorem Judges.moves_iff {sequencer : Sequencer} {board : Blackboard}
    (judges : sequencer.Judges board) {leg : ActiveLeg} (loaded : activeLeg? board = some leg)
    (now : Micros) :
    sequencer.Moves board now ↔
      leg.Departs board.report.value (leg.complete (snapshot board) sequencer.timer now).1 := by
  constructor
  · rintro (inactive | ⟨other, same, -, departs⟩)
    · rw [judges.active] at inactive
      cases inactive
    · rw [loaded, Option.some_inj] at same
      rw [same]
      exact departs
  · exact fun departs => .inr ⟨leg, loaded, judges, departs⟩

/-- The only leg is complete, and published again. -/
def looped (sequencer : Sequencer) (board : Blackboard) : Sequencer × Blackboard :=
  let waiting := sequencer.reported board
  waiting.1.tick waiting.2 0

/-- A run leads to a sequencer and a blackboard, and its last tick has begun on others. If
it has written the target, then the report is older. -/
def Unanswered (waiting flying : Sequencer × Blackboard) : Prop :=
  ∃ history, Run flying.1 flying.2 history ∧
    (flying.2.target.revision ≠ waiting.2.target.revision →
      history.answered = false ∧ history.named = waiting.2.report.value.sequenceId ∧
        history.replaced = false)

theorem unanswered_looped (board : Blackboard) :
    Unanswered (({} : Sequencer).reported board) (({} : Sequencer).looped board) := by
  obtain ⟨history, run⟩ := run_reported board
  exact ⟨_, run.tick 0, history.tick_of_wrote⟩

/-- The leg has been published again, and the next tick judges and leaves it once more. -/
def Loops (waiting flying : Sequencer × Blackboard) : Prop :=
  let after := flying.1.tick flying.2 0
  flying.2.target.revision ≠ waiting.2.target.revision ∧
  flying.2.mission.revision = flying.1.missionRevision ∧
  waiting.2.report.value.sequenceId = flying.2.activeWaypoint.value.index.toInt16 ∧
  flying.1.active = true ∧ flying.2.status.value.armed = true ∧
  (activeLeg? flying.2).isSome = true ∧
  flying.2.report.value.sequenceId = (flying.1.faced flying.2).value.sequenceId ∧
  after.1.active = true ∧ after.2.activeWaypoint.revision ≠ flying.2.activeWaypoint.revision

instance (waiting flying : Sequencer × Blackboard) : Decidable (Loops waiting flying) :=
  inferInstanceAs (Decidable (_ ∧ _ ∧ _ ∧ _ ∧ _ ∧ _ ∧ _ ∧ _ ∧ _))

theorem loops_immediateAlone :
    let board := sentOut alonePlan immediateAlone {}
    Loops (({} : Sequencer).reported board) (({} : Sequencer).looped board) := by
  decide +kernel

end Sequencer
end FlightGuidance
