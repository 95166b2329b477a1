import FlightGuidance.Proofs.Sequencer.Handover

/-!
# Holding on an invalid plan

When the mission is selected and its plan is not valid, the sequencer holds the position. It
publishes the hold once and notes it, so that the vehicle stays at the point which it was given
and does not drift along with it. The note is dropped by a tick that finds a valid plan in a
selected mission, and by no other one: `Alternating` follows ticks of the arbiter and of the
sequencer in any order, with arbitrary changes in between, and remembers what the sequencer has
found when the mission was selected last.

So the position is held anew exactly if that was not an invalid plan (`Alternating.holds_iff`).
A pilot who leaves a mission with an invalid plan and selects it again elsewhere gets no new
hold; the target stays what it was, which may be the hold of the first time
(`not_held_after_excursion`).
-/

set_option autoImplicit false

namespace FlightGuidance

/-- A hold of the present position has been published, at the offset of the settings that are in
force after the tick. -/
def Blackboard.HoldsPosition (before after : Blackboard) : Prop :=
  ∃ target, after.target = before.target.publish target ∧ target.mode = .gotoEndpoint ∧
    target.stop = before.position.value ∧
    target.start =
      before.position.value.offsetNorth after.modeSettings.value.holdOffset.horizontal

namespace Sequencer

/-- Whether the plan was valid on the last tick that has found the mission selected. -/
def lastVerdict (board : Blackboard) (before : Option Bool) : Option Bool :=
  if board.status.value.chain.contains .pathPlanner then
    some (board.plan.value.check board.mission.value).isOk
  else before

/-- The arbiter and the sequencer after ticks in any order, between which the whole blackboard may
change. The last index tells whether the plan was valid on the last tick of the sequencer that
has found the mission selected. -/
inductive Alternating : Arbiter → Sequencer → Blackboard → Option Bool → Prop where
  | start (board : Blackboard) : Alternating {} {} board none
  | arbitrate {arbiter : Arbiter} {sequencer : Sequencer} {board : Blackboard}
      {verdict : Option Bool} (run : Alternating arbiter sequencer board verdict)
      (now : Micros) :
      Alternating (arbiter.tick board now).2.1 sequencer (arbiter.tick board now).2.2 verdict
  | sequence {arbiter : Arbiter} {sequencer : Sequencer} {board : Blackboard}
      {verdict : Option Bool} (run : Alternating arbiter sequencer board verdict)
      (now : Micros) :
      Alternating arbiter (sequencer.tick board now).1 (sequencer.tick board now).2
        (lastVerdict board verdict)
  | change {arbiter : Arbiter} {sequencer : Sequencer} {board : Blackboard}
      {verdict : Option Bool} (run : Alternating arbiter sequencer board verdict)
      (next : Blackboard) : Alternating arbiter sequencer next verdict

/-! ## The note of a hold -/

theorem tick_holdsInvalidPlan (sequencer : Sequencer) (board : Blackboard) (now : Micros) :
    (sequencer.tick board now).1.holdsInvalidPlan =
      if board.status.value.chain.contains .pathPlanner then
        !(board.plan.value.check board.mission.value).isOk
      else sequencer.holdsInvalidPlan := by
  by_cases flies : Flies board
  · obtain ⟨timer, settings, flown⟩ := sequencer.tick_of_flies flies now
    rw [flown, flies.selected, flies.accepted]
    rfl
  · obtain ⟨active, settings, grounded⟩ := sequencer.tick_of_grounded flies now
    rw [grounded]

/-- The note is whether an invalid plan was found when the mission was selected last. -/
theorem Alternating.noted {arbiter : Arbiter} {sequencer : Sequencer} {board : Blackboard}
    {verdict : Option Bool} (run : Alternating arbiter sequencer board verdict) :
    sequencer.holdsInvalidPlan = (verdict == some false) := by
  induction run with
  | start board => rfl
  | arbitrate _ now inductionHypothesis => exact inductionHypothesis
  | @sequence _ sequencer board _ _ now inductionHypothesis =>
      rw [tick_holdsInvalidPlan, lastVerdict]
      split
      · cases (board.plan.value.check board.mission.value).isOk <;> rfl
      · exact inductionHypothesis
  | change _ next inductionHypothesis => exact inductionHypothesis

/-! ## The hold -/

/-- A tick that finds the plan of a selected mission invalid publishes a hold unless it has noted
one. -/
theorem tick_of_refused (sequencer : Sequencer) {board : Blackboard}
    (selected : board.status.value.chain.contains .pathPlanner = true) {cause : PlanError}
    (invalid : board.plan.value.check board.mission.value = .error cause) (now : Micros) :
    if sequencer.holdsInvalidPlan then (sequencer.tick board now).2.target = board.target
    else board.HoldsPosition (sequencer.tick board now).2 := by
  obtain ⟨settings, modeSettings, alarms, journal, ticked⟩ := sequencer.tick_of_checked board now
  rw [ticked, if_pos selected, invalid]
  dsimp only [refuse]
  cases sequencer.holdsInvalidPlan with
  | true =>
      obtain ⟨raised, same⟩ :=
        ({ board with modeSettings, alarms, journal } : Blackboard).setPlanAlarm_frame .critical
      simp only [if_true, same]
  | false =>
      let settled : Blackboard := { board with modeSettings, alarms, journal }
      let held := Guidance.hold
        (settled.log .error (name ++ ": Path plan rejected: " ++ cause.message))
      obtain ⟨raised, same⟩ := held.setPlanAlarm_frame .critical
      have refuses : held.setPlanAlarm .critical = { held with alarms := raised } := same
      simp only [Bool.false_eq_true, if_false]
      show board.HoldsPosition (held.setPlanAlarm .critical)
      rw [refuses]
      exact ⟨_, rfl, rfl, rfl, rfl⟩

/-- **When the position is held.** A tick that finds the plan of a selected mission invalid holds
the present position exactly if the plan was valid when the mission was selected last, or it has
not been selected before. Else it leaves the target as it was. -/
theorem Alternating.holds_iff {arbiter : Arbiter} {sequencer : Sequencer} {board : Blackboard}
    {verdict : Option Bool} (run : Alternating arbiter sequencer board verdict)
    (selected : board.status.value.chain.contains .pathPlanner = true) {cause : PlanError}
    (invalid : board.plan.value.check board.mission.value = .error cause) (now : Micros) :
    (board.HoldsPosition (sequencer.tick board now).2 ↔ verdict ≠ some false) ∧
      (verdict = some false → (sequencer.tick board now).2.target = board.target) := by
  have refused := sequencer.tick_of_refused selected invalid now
  simp only [run.noted, beq_iff_eq] at refused
  by_cases again : verdict = some false
  · rw [if_pos again] at refused
    refine ⟨⟨?_, fun first => absurd again first⟩, fun _ => refused⟩
    rintro ⟨target, published, -⟩
    rw [refused] at published
    exact absurd published.symm (Topic.publish_ne _ _)
  · rw [if_neg again] at refused
    exact ⟨⟨fun _ => again, fun _ => refused⟩, fun same => absurd same again⟩

/-! ## An excursion from an invalid plan

The pilot selects a mission that was never loaded, flies on in a stabilized mode, and selects it
again at another place. -/

/-- The first switch position selects the mission, and the others a stabilized mode. -/
def unplanned (board : Blackboard) : Blackboard :=
  { board with
    position := board.position.publish ⟨1, 2, -3⟩
    modeSettings := board.modeSettings.publish
      { positions :=
          Vector.ofFn fun position => if position.val = 0 then .pathPlanner else .stabilized2 } }

/-- The vehicle is somewhere else. -/
def moved (board : Blackboard) : Blackboard :=
  { board with position := board.position.publish ⟨50, 60, -20⟩ }

/-- The arbiter and the blackboard once the mission has been selected. -/
def misled : Arbitration × Arbiter × Blackboard := switched 0 {} (unplanned {})

/-- The position is held, and the pilot flies on. -/
def flownOn : Arbitration × Arbiter × Blackboard :=
  switched 1 misled.2.1 (moved (({} : Sequencer).tick misled.2.2 0).2)

/-- The sequencer after a tick in the stabilized mode, and the mission selected again. -/
def misledAgain : Arbitration × Arbiter × Blackboard :=
  switched 0 flownOn.2.1 ((({} : Sequencer).tick misled.2.2 0).1.tick flownOn.2.2 0).2

theorem Alternating.switched {arbiter : Arbiter} {sequencer : Sequencer} {board : Blackboard}
    {verdict : Option Bool} (run : Alternating arbiter sequencer board verdict)
    (position : UInt8) :
    let after := Sequencer.switched position arbiter board
    Alternating after.2.1 sequencer after.2.2 verdict :=
  (run.change _).arbitrate 0

/-- The first tick on an invalid plan holds the position. -/
theorem held_at_first :
    misled.2.2.HoldsPosition (({} : Sequencer).tick misled.2.2 0).2 := by
  have run : Alternating misled.2.1 {} misled.2.2 none :=
    ((Alternating.start {}).change (unplanned {})).switched 0
  have invalid : misled.2.2.plan.value.check misled.2.2.mission.value = .error .empty :=
    PathPlan.check_of_empty (by decide +kernel) _
  exact (run.holds_iff (by decide +kernel) invalid 0).1.mpr (by decide)

/-- After the excursion the target still leads to the place where the position was held first. -/
theorem not_held_after_excursion :
    let left := (({} : Sequencer).tick misled.2.2 0).1.tick flownOn.2.2 0
    let after := left.1.tick misledAgain.2.2 0
    Alternating misledAgain.2.1 left.1 misledAgain.2.2 (some false) ∧
      flownOn.2.2.status.value.chain.contains .pathPlanner = false ∧
      misledAgain.2.2.status.value.chain.contains .pathPlanner = true ∧
      misledAgain.2.2.plan.value.check misledAgain.2.2.mission.value = .error .empty ∧
      (misledAgain.2.2.position.value.north == 50) = true ∧
      (after.2.target.value.stop.north == 1) = true ∧
      ¬misledAgain.2.2.HoldsPosition after.2 := by
  intro left after
  have held := (((Alternating.start {}).change (unplanned {})).switched 0).sequence 0
  have away := ((held.change (moved (({} : Sequencer).tick misled.2.2 0).2)).switched 1).sequence 0
  have found : lastVerdict flownOn.2.2 (lastVerdict misled.2.2 none) = some false := by
    decide +kernel
  have again : Alternating misledAgain.2.1 left.1 misledAgain.2.2 _ := away.switched 0
  have before : misledAgain.2.2.target.revision = 1 := by decide +kernel
  have kept : after.2.target.revision = 1 := by decide +kernel
  refine ⟨found ▸ again, by decide +kernel, by decide +kernel,
    PathPlan.check_of_empty (by decide +kernel) _, by decide +kernel, by decide +kernel, ?_⟩
  rintro ⟨target, published, -⟩
  rw [published, Topic.revision_publish, before] at kept
  exact absurd kept (by decide)

end Sequencer
end FlightGuidance
