import FlightGuidance.Proofs.Sequencer.Tick

/-!
# Runs of the sequencer

A run is any order of ticks of the sequencer and of writes by the other components,
from a new sequencer on. Only the active waypoint is the sequencer's alone; the path
follower reports, missions and plans are sent, and another component may replace the
target or advance the gate of a takeoff in it.

What such a run has been through shows neither in the sequencer nor on the blackboard. It is
remembered in a `History`, and `Consistent` says what the history tells of the present
records: under which plan the active waypoint was activated, whether the target is still
that of the active leg, and which leg a report named that is older than the target.
-/

set_option autoImplicit false

namespace FlightGuidance

/-! ## Targets of a leg -/

/-- A target leads along a leg: it is the one of the leg up to the gate of a takeoff. -/
structure Target.Leads (target : Target) (index : UInt16) (waypoint : Waypoint)
    (action : PathAction) : Prop where
  stop : target.stop = waypoint.position
  endingVelocity : target.endingVelocity = waypoint.velocity.value
  mode : target.mode = action.mode
  sequenceId : target.sequenceId = index.toInt16
  parameters : target.parameters = action.modeParameters.map StoredSingle.value ∨
    action.mode = .autoTakeoff ∧ ∃ gate : Takeoff.Gate, target.parameters.toList =
      (action.modeParameters.map StoredSingle.value).toList.set Target.gateSlot
        gate.code.toFloat32

namespace Sequencer

theorem legTarget_leads (mission : Mission) (position : Ned) (index : UInt16)
    (waypoint : Waypoint) (action : PathAction) :
    (legTarget mission position index waypoint action).Leads index waypoint action := by
  unfold legTarget
  cases previous? mission index with
  | none => exact ⟨rfl, rfl, rfl, rfl, .inl rfl⟩
  | some previous => exact ⟨rfl, rfl, rfl, rfl, .inl rfl⟩

end Sequencer

theorem Target.Leads.withGate {target : Target} {index : UInt16} {waypoint : Waypoint}
    {action : PathAction} (leads : target.Leads index waypoint action)
    (takeoff : target.mode = .autoTakeoff) (gate : Takeoff.Gate) :
    (target.withGate gate).Leads index waypoint action := by
  refine ⟨leads.stop, leads.endingVelocity, leads.mode, leads.sequenceId, .inr ?_⟩
  refine ⟨leads.mode ▸ takeoff, gate, ?_⟩
  rcases leads.parameters with same | ⟨-, earlier, gated⟩
  · simp only [Target.withGate, Parameters.write, Vector.toList_set, same]
  · simp only [Target.withGate, Parameters.write, Vector.toList_set, gated, List.set_set]

/-- The target leads along the leg of the active waypoint. -/
def Blackboard.OnLeg (board : Blackboard) : Prop :=
  ∃ waypoint action,
    Sequencer.leg? board.mission.value board.activeWaypoint.value.index =
      some (waypoint, action) ∧
    board.target.value.Leads board.activeWaypoint.value.index waypoint action

namespace Sequencer

/-! ## Histories -/

/-- What is remembered of a run. -/
structure History where
  /-- The number of missions that were sent. -/
  uploads : Nat := 0
  /-- Whether the follower has reported since the sequencer last wrote the target. -/
  answered : Bool := true
  /-- The leg that the report named when the sequencer last wrote the target. -/
  named : Int16 := -1
  /-- Whether another component has replaced the target since. -/
  replaced : Bool := false
  /-- The number of waypoints of the plan when the sequencer last activated one. -/
  declared : UInt16 := 0

namespace History

/-- The history after a tick of the sequencer. -/
def tick (history : History) (before after : Blackboard) : History :=
  let wrote := after.target.revision != before.target.revision
  { history with
    answered := history.answered && !wrote
    named := if wrote then before.report.value.sequenceId else history.named
    replaced := history.replaced && !wrote
    declared :=
      if after.activeWaypoint.revision = before.activeWaypoint.revision then history.declared
      else before.plan.value.waypointCount }

/-- A tick that writes the target waits for an answer to it. -/
theorem tick_of_wrote (history : History) {before after : Blackboard}
    (wrote : after.target.revision ≠ before.target.revision) :
    (history.tick before after).answered = false ∧
      (history.tick before after).named = before.report.value.sequenceId ∧
      (history.tick before after).replaced = false := by
  simp [tick, bne_iff_ne.mpr wrote]

end History

/-- The sequencer and the blackboard in the course of a run, and the history of it. -/
inductive Run : Sequencer → Blackboard → History → Prop where
  | start (board : Blackboard) : Run {} board {}
  | tick {sequencer : Sequencer} {board : Blackboard} {history : History}
      (run : Run sequencer board history) (now : Micros) :
      Run (sequencer.tick board now).1 (sequencer.tick board now).2
        (history.tick board (sequencer.tick board now).2)
  /-- The path follower reports. -/
  | report {sequencer : Sequencer} {board : Blackboard} {history : History}
      (run : Run sequencer board history) (report : FollowerReport) :
      Run sequencer { board with report := board.report.publish report }
        { history with answered := true }
  /-- A mission is sent. -/
  | load {sequencer : Sequencer} {board : Blackboard} {history : History}
      (run : Run sequencer board history) (mission : Mission) :
      Run sequencer { board with mission := board.mission.publish mission }
        { history with uploads := history.uploads + 1 }
  /-- Another component writes the target. -/
  | replace {sequencer : Sequencer} {board : Blackboard} {history : History}
      (run : Run sequencer board history) (target : Topic Target) :
      Run sequencer { board with target } { history with replaced := true }
  /-- The gate of a takeoff is written into the target. -/
  | gate {sequencer : Sequencer} {board : Blackboard} {history : History}
      (run : Run sequencer board history) (takeoff : board.target.value.mode = .autoTakeoff)
      (gate : Takeoff.Gate) :
      Run sequencer
        { board with target := board.target.modify fun target => target.withGate gate } history
  /-- All other records change. -/
  | change {sequencer : Sequencer} {board : Blackboard} {history : History}
      (run : Run sequencer board history) (next : Blackboard)
      (waypoint : next.activeWaypoint = board.activeWaypoint)
      (target : next.target = board.target) (report : next.report = board.report)
      (mission : next.mission = board.mission) :
      Run sequencer next history

/-! ## What a history tells -/

/-- The records of a run are as its history tells. -/
structure Consistent (sequencer : Sequencer) (board : Blackboard) (history : History) :
    Prop where
  /-- The active waypoint is one of the plan under which it was activated. -/
  inside : sequencer.active = true →
    board.activeWaypoint.value.index.toNat < history.declared.toNat
  /-- The target names the active waypoint unless it was replaced. -/
  aimed : sequencer.active = true → history.replaced = false →
    board.target.value.sequenceId = board.activeWaypoint.value.index.toInt16
  /-- Without an answer the report is the one that the sequencer has found. -/
  unanswered : history.answered = false → board.report.value.sequenceId = history.named
  /-- The sequencer has noted the mission that was loaded some uploads ago. If there were
  none since, then the target leads along the active leg unless it was replaced. -/
  noted : history.uploads < UInt64.size → sequencer.active = true → ∃ since ≤ history.uploads,
    board.mission.revision = sequencer.missionRevision + UInt64.ofNat since ∧
    (since = 0 → history.replaced = false → ∀ waypoint action,
      leg? board.mission.value board.activeWaypoint.value.index = some (waypoint, action) →
      board.target.value.Leads board.activeWaypoint.value.index waypoint action)

namespace Consistent

variable {sequencer : Sequencer} {board : Blackboard} {history : History}

theorem start (board : Blackboard) : Consistent {} board {} where
  inside active := nomatch active
  aimed active := nomatch active
  unanswered silent := nomatch silent
  noted _ active := nomatch active

/-! ### Writes by others -/

theorem report (consistent : Consistent sequencer board history) (report : FollowerReport) :
    Consistent sequencer { board with report := board.report.publish report }
      { history with answered := true } where
  inside := consistent.inside
  aimed := consistent.aimed
  unanswered silent := nomatch silent
  noted := consistent.noted

theorem load (consistent : Consistent sequencer board history) (mission : Mission) :
    Consistent sequencer { board with mission := board.mission.publish mission }
      { history with uploads := history.uploads + 1 } where
  inside := consistent.inside
  aimed := consistent.aimed
  unanswered := consistent.unanswered
  noted few active := by
    obtain ⟨since, past, counted, -⟩ :=
      consistent.noted (Nat.lt_of_le_of_lt (Nat.le_succ _) few) active
    refine ⟨since + 1, Nat.succ_le_succ past, ?_, fun none => nomatch none⟩
    rw [Topic.revision_publish, counted, UInt64.ofNat_add, ← UInt64.add_assoc]
    rfl

theorem replace (consistent : Consistent sequencer board history) (target : Topic Target) :
    Consistent sequencer { board with target } { history with replaced := true } where
  inside := consistent.inside
  aimed _ kept := nomatch kept
  unanswered := consistent.unanswered
  noted few active := by
    obtain ⟨since, past, counted, -⟩ := consistent.noted few active
    exact ⟨since, past, counted, fun _ kept => nomatch kept⟩

theorem gate (consistent : Consistent sequencer board history)
    (takeoff : board.target.value.mode = .autoTakeoff) (gate : Takeoff.Gate) :
    Consistent sequencer
      { board with target := board.target.modify fun target => target.withGate gate }
      history where
  inside := consistent.inside
  aimed := consistent.aimed
  unanswered := consistent.unanswered
  noted few active := by
    obtain ⟨since, past, counted, leads⟩ := consistent.noted few active
    refine ⟨since, past, counted, fun current kept waypoint action found => ?_⟩
    exact (leads current kept waypoint action found).withGate takeoff gate

theorem change (consistent : Consistent sequencer board history) {next : Blackboard}
    (waypoint : next.activeWaypoint = board.activeWaypoint) (target : next.target = board.target)
    (report : next.report = board.report) (mission : next.mission = board.mission) :
    Consistent sequencer next history where
  inside := by rw [waypoint]; exact consistent.inside
  aimed := by rw [waypoint, target]; exact consistent.aimed
  unanswered := by rw [report]; exact consistent.unanswered
  noted := by rw [waypoint, target, mission]; exact consistent.noted

/-! ### Ticks -/

theorem unanswered_tick (consistent : Consistent sequencer board history) {after : Blackboard}
    (same : after.report = board.report)
    (silent : (history.tick board after).answered = false) :
    after.report.value.sequenceId = (history.tick board after).named := by
  rw [same]
  simp only [History.tick] at silent ⊢
  split
  · rfl
  next kept => exact consistent.unanswered (by simpa [kept] using silent)

/-- An active sequencer that has noted a mission and finds its revision finds the mission. -/
theorem since_eq_zero {since : Nat} (past : since ≤ history.uploads)
    (few : history.uploads < UInt64.size)
    (counted : board.mission.revision = sequencer.missionRevision + UInt64.ofNat since)
    (current : board.mission.revision = sequencer.missionRevision) : since = 0 := by
  rw [current, UInt64.left_eq_add] at counted
  have word : (UInt64.ofNat since).toNat = since :=
    UInt64.toNat_ofNat_of_lt' (Nat.lt_of_le_of_lt past few)
  rw [← word, counted]
  rfl

/-- The target that an active sequencer faces leads along the leg if it has not been
replaced, also when the mission is another one. -/
theorem faced_leads (consistent : Consistent sequencer board history)
    (active : sequencer.active = true) (few : history.uploads < UInt64.size)
    (kept : (sequencer.faced board).revision = board.target.revision → history.replaced = false)
    {waypoint : Waypoint} {action : PathAction}
    (found : leg? board.mission.value board.activeWaypoint.value.index =
      some (waypoint, action)) :
    (sequencer.faced board).value.Leads board.activeWaypoint.value.index waypoint action := by
  by_cases current : board.mission.revision = sequencer.missionRevision
  · rw [faced_of_current sequencer board current] at kept ⊢
    obtain ⟨since, past, counted, leads⟩ := consistent.noted few active
    exact leads (since_eq_zero past few counted current) (kept rfl) waypoint action found
  · rw [faced_of_reloaded sequencer board active current found]
    exact legTarget_leads _ _ _ _ _

/-- The target that an active sequencer faces names the active waypoint if it has not been
replaced. -/
theorem faced_aimed (consistent : Consistent sequencer board history)
    (active : sequencer.active = true)
    (kept : (sequencer.faced board).revision = board.target.revision → history.replaced = false) :
    (sequencer.faced board).value.sequenceId = board.activeWaypoint.value.index.toInt16 := by
  by_cases current : board.mission.revision = sequencer.missionRevision
  · rw [faced_of_current sequencer board current] at kept ⊢
    exact consistent.aimed active (kept rfl)
  · cases found : leg? board.mission.value board.activeWaypoint.value.index with
    | none =>
        rw [faced_of_unloaded sequencer board found] at kept ⊢
        exact consistent.aimed active (kept rfl)
    | some records =>
        rw [faced_of_reloaded sequencer board active current found]
        exact (legTarget_leads _ _ _ _ _).sequenceId

/-- What the history tells of a target that a tick has left alone. -/
theorem replaced_of_tick {after : Blackboard}
    (kept : (history.tick board after).replaced = false)
    (same : after.target.revision = board.target.revision) : history.replaced = false := by
  simpa [History.tick, same] using kept

theorem tick (consistent : Consistent sequencer board history) (now : Micros) :
    let after := sequencer.tick board now
    Consistent after.1 after.2 (history.tick board after.2) := by
  have outcome := sequencer.tick_outcome board now
  generalize sequencer.tick board now = after at outcome
  cases outcome with
  | grounded idle stands =>
      refine ⟨fun active => ?_, fun active kept => ?_, consistent.unanswered_tick rfl,
        fun few active => ?_⟩
      · obtain ⟨-, active, -⟩ := stands active
        simpa [History.tick] using consistent.inside active
      · obtain ⟨-, active, -, same⟩ := stands active
        have unreplaced := replaced_of_tick kept (congrArg Topic.revision same)
        rw [same]
        exact consistent.aimed active unreplaced
      · obtain ⟨-, active, revision, same⟩ := stands active
        obtain ⟨since, past, counted, leads⟩ := consistent.noted few active
        refine ⟨since, past, revision ▸ counted, fun current kept => ?_⟩
        have unreplaced := replaced_of_tick kept (congrArg Topic.revision same)
        rw [same]
        exact leads current unreplaced
  | stays flies active keeps =>
      refine ⟨fun _ => ?_, fun _ kept => ?_, consistent.unanswered_tick rfl, fun few _ => ?_⟩
      · simpa [History.tick] using consistent.inside active
      · exact consistent.faced_aimed active (replaced_of_tick kept)
      · refine ⟨0, Nat.zero_le _, by simp, fun _ kept waypoint action found => ?_⟩
        exact consistent.faced_leads active few (replaced_of_tick kept) found
  | activates flies moves active noted inside found written =>
      refine ⟨fun _ => ?_, fun _ _ => ?_, consistent.unanswered_tick rfl, fun _ _ => ?_⟩
      · simpa [History.tick] using inside
      · exact (legTarget_leads _ _ _ _ _).sequenceId
      · refine ⟨0, Nat.zero_le _, by simp [noted], fun _ _ waypoint action same => ?_⟩
        dsimp only [Topic.value_publish] at same ⊢
        rw [found, Option.some_inj, Prod.mk.injEq] at same
        obtain ⟨rfl, rfl⟩ := same
        exact legTarget_leads _ _ _ _ _

end Consistent

/-- **The records of a run are as its history tells.** -/
theorem Run.consistent {sequencer : Sequencer} {board : Blackboard} {history : History}
    (run : Run sequencer board history) : Consistent sequencer board history := by
  induction run with
  | start board => exact .start board
  | tick _ now inductionHypothesis => exact inductionHypothesis.tick now
  | report _ report inductionHypothesis => exact inductionHypothesis.report report
  | load _ mission inductionHypothesis => exact inductionHypothesis.load mission
  | replace _ target inductionHypothesis => exact inductionHypothesis.replace target
  | gate _ takeoff gate inductionHypothesis => exact inductionHypothesis.gate takeoff gate
  | change _ next waypoint target report mission inductionHypothesis =>
      exact inductionHypothesis.change waypoint target report mission

end Sequencer
end FlightGuidance
