import FlightGuidance.Proofs.Arbiter.Decision
import FlightGuidance.Proofs.Sequencer.ActiveWaypoint

/-!
# The target between arbiter and sequencer

The arbiter and the sequencer tick at their own rates on one blackboard, and the modes of the
path follower publish the target that is the sequencer's in a mission. The sequencer learns of
another mode only from the engaged loops that it finds on its own ticks. Whatever the arbiter
does, a run of both is one of the sequencer in which the target is replaced now and then
(`Shared.run`).

An active sequencer leads along the leg of the active waypoint if its records are loaded and
no mode of the path follower has flown since it last wrote the target (`Shared.onLeg_iff`).
A mode that comes and goes between two of its ticks keeps the target
(`Sequencer.not_onLeg_after_excursion`).
-/

set_option autoImplicit false

namespace FlightGuidance
namespace Sequencer

/-- The history after a tick of the arbiter: the modes of the path follower replace the
target. -/
def History.arbitrate (history : History) (handler : ControlHandler) : History :=
  { history with replaced := history.replaced || handler == .pathFollower }

theorem History.arbitrate_of_ne (history : History) {handler : ControlHandler}
    (other : handler ≠ .pathFollower) : history.arbitrate handler = history := by
  rw [arbitrate, beq_eq_false_iff_ne.mpr other, Bool.or_false]

/-- The arbiter and the sequencer on one blackboard, in any order of their ticks and of changes
between them, and the history of the sequencer. -/
inductive Shared : Arbiter → Sequencer → Blackboard → History → Prop where
  | start (board : Blackboard) : Shared {} {} board {}
  | arbitrate {arbiter : Arbiter} {sequencer : Sequencer} {board : Blackboard}
      {history : History} (run : Shared arbiter sequencer board history) (now : Micros) :
      Shared (arbiter.tick board now).2.1 sequencer (arbiter.tick board now).2.2
        (history.arbitrate (arbiter.tick board now).1.handler)
  | sequence {arbiter : Arbiter} {sequencer : Sequencer} {board : Blackboard}
      {history : History} (run : Shared arbiter sequencer board history) (now : Micros) :
      Shared arbiter (sequencer.tick board now).1 (sequencer.tick board now).2
        (history.tick board (sequencer.tick board now).2)
  /-- The path follower reports. -/
  | report {arbiter : Arbiter} {sequencer : Sequencer} {board : Blackboard}
      {history : History} (run : Shared arbiter sequencer board history)
      (report : FollowerReport) :
      Shared arbiter sequencer { board with report := board.report.publish report }
        { history with answered := true }
  /-- A mission is sent. -/
  | load {arbiter : Arbiter} {sequencer : Sequencer} {board : Blackboard}
      {history : History} (run : Shared arbiter sequencer board history) (mission : Mission) :
      Shared arbiter sequencer { board with mission := board.mission.publish mission }
        { history with uploads := history.uploads + 1 }
  /-- The records that neither of the two publishes change, and the vehicle is armed or
  disarmed. -/
  | change {arbiter : Arbiter} {sequencer : Sequencer} {board : Blackboard}
      {history : History} (run : Shared arbiter sequencer board history) (next : Blackboard)
      (waypoint : next.activeWaypoint = board.activeWaypoint)
      (target : next.target = board.target) (report : next.report = board.report)
      (mission : next.mission = board.mission)
      (status : ∃ armed, next.status.value = { board.status.value with armed }) :
      Shared arbiter sequencer next history

/-- A tick of the arbiter is a move of the others in a run of the sequencer. -/
theorem Run.arbitrate {sequencer : Sequencer} {board : Blackboard} {history : History}
    (run : Run sequencer board history) (arbiter : Arbiter) (now : Micros) :
    Run sequencer (arbiter.tick board now).2.2
      (history.arbitrate (arbiter.tick board now).1.handler) := by
  obtain ⟨modeSettings, stabilizationSettings, followerSettings, alarms, status, journal, target,
    steered, hands⟩ := arbiter.tick_steers board now
  rw [steered]
  generalize (arbiter.tick board now).1.handler = handler at hands
  let quiet : Blackboard := { board with
    modeSettings, stabilizationSettings, followerSettings, alarms, status, journal }
  have changed : Run sequencer quiet history := run.change quiet rfl rfl rfl rfl
  cases handler with
  | manual | stabilized =>
      rw [history.arbitrate_of_ne (by decide), show target = board.target from hands]
      exact changed
  | pathFollower =>
      rw [History.arbitrate, beq_self_eq_true, Bool.or_true]
      exact changed.replace target
  | pathPlanner =>
      rw [history.arbitrate_of_ne (by decide)]
      rcases hands with same | ⟨takeoff, gate, gated⟩
      · rw [same]
        exact changed
      · rw [gated]
        exact changed.gate takeoff gate

/-- **A run of both is a run of the sequencer.** -/
theorem Shared.run {arbiter : Arbiter} {sequencer : Sequencer} {board : Blackboard}
    {history : History} (run : Shared arbiter sequencer board history) :
    Run sequencer board history := by
  induction run with
  | start board => exact .start board
  | arbitrate _ now inductionHypothesis => exact inductionHypothesis.arbitrate _ now
  | sequence _ now inductionHypothesis => exact inductionHypothesis.tick now
  | report _ report inductionHypothesis => exact inductionHypothesis.report report
  | load _ mission inductionHypothesis => exact inductionHypothesis.load mission
  | change _ next waypoint target report mission _ inductionHypothesis =>
      exact inductionHypothesis.change next waypoint target report mission

/-! ## The target after a tick -/

section Tick

variable {sequencer : Sequencer} {board : Blackboard}

/-- The leg of another mission is the only target that an active sequencer publishes before it
judges the leg. -/
theorem faced_eq_of_revision (active : sequencer.active = true)
    (same : (sequencer.faced board).revision = board.target.revision) :
    sequencer.faced board = board.target := by
  by_cases current : board.mission.revision = sequencer.missionRevision
  · exact faced_of_current sequencer board current
  · cases found : leg? board.mission.value board.activeWaypoint.value.index with
    | none => exact faced_of_unloaded sequencer board found
    | some records =>
        rw [faced_of_reloaded sequencer board active current found] at same
        simp at same

/-- A tick of mission flight notes the mission. -/
theorem tick_noted (flies : Flies board) (now : Micros) :
    let after := sequencer.tick board now
    after.2.mission.revision = after.1.missionRevision := by
  have outcome := sequencer.tick_outcome board now
  generalize sequencer.tick board now = after at outcome
  cases outcome with
  | grounded idle => exact absurd flies idle
  | stays => rfl
  | activates _ _ _ noted => exact noted.symm

/-- A tick of mission flight that does not write the target keeps the leg. -/
theorem tick_of_target_kept (flies : Flies board) (now : Micros)
    (same : (sequencer.tick board now).2.target.revision = board.target.revision) :
    let after := (sequencer.tick board now).2
    after.target = board.target ∧ after.activeWaypoint = board.activeWaypoint ∧
      after.mission = board.mission := by
  have outcome := sequencer.tick_outcome board now
  generalize sequencer.tick board now = after at outcome same
  cases outcome with
  | grounded idle => exact absurd flies idle
  | stays _ active => exact ⟨faced_eq_of_revision active same, rfl, rfl⟩
  | activates _ _ _ _ _ _ written => exact absurd same written

end Tick

/-- If the target was not replaced since, a tick of mission flight leads along the leg that is
loaded for the active waypoint. -/
theorem Run.onLeg_of_kept {sequencer : Sequencer} {board : Blackboard} {history : History}
    (run : Run sequencer board history) (few : history.uploads < UInt64.size) (now : Micros)
    (active : (sequencer.tick board now).1.active = true) (flies : Flies board)
    (kept : (history.tick board (sequencer.tick board now).2).replaced = false)
    (loaded : (leg? (sequencer.tick board now).2.mission.value
      (sequencer.tick board now).2.activeWaypoint.value.index).isSome = true) :
    (sequencer.tick board now).2.OnLeg := by
  obtain ⟨⟨waypoint, action⟩, found⟩ := Option.isSome_iff_exists.mp loaded
  obtain ⟨since, past, counted, leads⟩ := (run.consistent.tick now).noted few active
  have current : since = 0 := Consistent.since_eq_zero past few counted (tick_noted flies now)
  exact ⟨waypoint, action, found, leads current kept waypoint action found⟩

/-- **When the target is that of the active leg.** If the target was not replaced since the
sequencer last wrote it, then after a tick of mission flight it leads along the leg of the
active waypoint exactly if the leg is loaded. If it was replaced, also during ticks of the
arbiter of which the sequencer has seen nothing, then the tick keeps it. -/
theorem Shared.onLeg_iff {arbiter : Arbiter} {sequencer : Sequencer} {board : Blackboard}
    {history : History} (run : Shared arbiter sequencer board history)
    (few : history.uploads < UInt64.size) (now : Micros)
    (active : (sequencer.tick board now).1.active = true)
    (armed : board.status.value.armed = true) :
    let after := (sequencer.tick board now).2
    let kept := history.tick board after
    (kept.replaced = false → (after.OnLeg ↔
      (leg? after.mission.value after.activeWaypoint.value.index).isSome = true)) ∧
    (kept.replaced = true → after.target = board.target ∧
      after.activeWaypoint = board.activeWaypoint ∧ (after.OnLeg ↔ board.OnLeg)) := by
  intro after kept
  have flies := flies_of_active active armed
  refine ⟨fun unreplaced => ⟨?_, ?_⟩, fun replaced => ?_⟩
  · rintro ⟨waypoint, action, found, -⟩
    rw [found]
    rfl
  · exact run.run.onLeg_of_kept few now active flies unreplaced
  · have same : after.target.revision = board.target.revision := by
      refine Decidable.byContradiction fun wrote => ?_
      have written : kept.replaced = false := (history.tick_of_wrote wrote).2.2
      rw [replaced] at written
      cases written
    obtain ⟨target, waypoint, mission⟩ := tick_of_target_kept flies now same
    refine ⟨target, waypoint, ?_⟩
    rw [Blackboard.OnLeg, Blackboard.OnLeg, target, waypoint, mission]

/-! ## An excursion from the mission

The pilot holds the position for one tick of the arbiter, and goes back to the mission before
the sequencer ticks. -/

/-- An armed vehicle. Its first switch position selects the mission, and the others hold the
position. -/
def dispatched (board : Blackboard) : Blackboard :=
  { board with
    mission := board.mission.publish immediateAlone
    plan := board.plan.publish alonePlan
    modeSettings := board.modeSettings.publish
      { positions :=
          Vector.ofFn fun position => if position.val = 0 then .pathPlanner else .positionHold }
    status := board.status.modify fun status => { status with armed := true } }

/-- The pilot moves the switch, and the arbiter ticks. -/
def switched (position : UInt8) (arbiter : Arbiter) (board : Blackboard) :
    Arbitration × Arbiter × Blackboard :=
  arbiter.tick
    { board with
      command := board.command.modify fun command => { command with switchPosition := position } }
    0

theorem Shared.switched {arbiter : Arbiter} {sequencer : Sequencer} {board : Blackboard}
    {history : History} (run : Shared arbiter sequencer board history) (position : UInt8) :
    let after := Sequencer.switched position arbiter board
    Shared after.2.1 sequencer after.2.2 (history.arbitrate after.1.handler) :=
  (run.change
    { board with
      command := board.command.modify fun command => { command with switchPosition := position } }
    rfl rfl rfl rfl ⟨board.status.value.armed, rfl⟩).arbitrate 0

theorem shared_dispatched (board : Blackboard) :
    Shared {} {} (dispatched board) { uploads := 1 } :=
  ((Shared.start board).load immediateAlone).change (dispatched board) rfl rfl rfl rfl
    ⟨true, rfl⟩

theorem shared_selected (board : Blackboard) :
    let ready := switched 0 {} (dispatched board)
    ∃ history, Shared ready.2.1 {} ready.2.2 history ∧ history.uploads = 1 :=
  ⟨_, (shared_dispatched board).switched 0, rfl⟩

/-- The sequencer engages the mission, and the pilot makes the excursion. -/
def strayed (arbiter : Arbiter) (sequencer : Sequencer) (board : Blackboard) :
    Arbiter × Sequencer × Blackboard :=
  let selected := switched 0 arbiter (dispatched board)
  let engaged := sequencer.tick selected.2.2 0
  let away := switched 1 selected.2.1 engaged.2
  let back := switched 0 away.2.1 away.2.2
  (back.2.1, engaged.1, back.2.2)

theorem shared_strayed (board : Blackboard) :
    ∃ history, Shared (strayed {} {} board).1 (strayed {} {} board).2.1 (strayed {} {} board).2.2
      history := by
  obtain ⟨history, run, -⟩ := shared_selected board
  dsimp only [strayed]
  exact ⟨_, ((run.sequence 0).switched 1).switched 0⟩

theorem not_onLeg_of_mode {board : Blackboard} {mode : PathMode}
    (found : (leg? board.mission.value board.activeWaypoint.value.index).map
      (fun records => records.2.mode) = some mode)
    (other : board.target.value.mode ≠ mode) : ¬board.OnLeg := by
  rintro ⟨waypoint, action, same, leads⟩
  rw [same, Option.map_some, Option.some_inj] at found
  exact other (leads.mode.trans found)

/-- The tick that engages the mission leads along its leg. -/
theorem onLeg_of_engaged :
    let ready := switched 0 {} (dispatched {})
    let after := ({} : Sequencer).tick ready.2.2 0
    (∃ history, Shared ready.2.1 {} ready.2.2 history ∧ history.uploads < UInt64.size) ∧
      after.1.active = true ∧ ready.2.2.status.value.armed = true ∧ after.2.OnLeg := by
  intro ready after
  obtain ⟨history, run, uploads⟩ : ∃ history, Shared ready.2.1 {} ready.2.2 history ∧
    history.uploads = 1 := shared_selected {}
  have ticked : after.1.active = true ∧ ready.2.2.status.value.armed = true ∧
      after.2.target.revision ≠ ready.2.2.target.revision ∧
      (leg? after.2.mission.value after.2.activeWaypoint.value.index).isSome = true := by
    decide +kernel
  obtain ⟨active, armed, wrote, loaded⟩ := ticked
  clear_value ready
  have few : history.uploads < UInt64.size := by
    rw [uploads]
    decide
  exact ⟨⟨history, run, few⟩, active, armed,
    ((run.onLeg_iff few 0 active armed).1 (history.tick_of_wrote wrote).2.2).mpr loaded⟩

/-- After the excursion the target still holds the position, and the leg is loaded. -/
theorem not_onLeg_after_excursion :
    let ready := strayed {} {} {}
    let after := ready.2.1.tick ready.2.2 0
    (∃ history, Shared ready.1 ready.2.1 ready.2.2 history) ∧
      after.1.active = true ∧ after.2.status.value.armed = true ∧
      after.2.status.value.chain.contains .pathPlanner = true ∧
      (leg? after.2.mission.value after.2.activeWaypoint.value.index).isSome = true ∧
      ¬after.2.OnLeg := by
  intro ready after
  have run : ∃ history, Shared ready.1 ready.2.1 ready.2.2 history := shared_strayed {}
  have ticked : after.1.active = true ∧ after.2.status.value.armed = true ∧
      after.2.status.value.chain.contains .pathPlanner = true ∧
      (leg? after.2.mission.value after.2.activeWaypoint.value.index).isSome = true ∧
      (leg? after.2.mission.value after.2.activeWaypoint.value.index).map
        (fun records => records.2.mode) = some .flyEndpoint ∧
      after.2.target.value.mode ≠ .flyEndpoint := by
    decide +kernel
  obtain ⟨active, armed, chain, loaded, mode, other⟩ := ticked
  clear_value ready
  exact ⟨run, active, armed, chain, loaded, not_onLeg_of_mode mode other⟩

end Sequencer
end FlightGuidance
