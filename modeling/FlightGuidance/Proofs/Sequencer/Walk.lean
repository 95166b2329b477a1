import FlightGuidance.Proofs.Mission.Acceptance
import FlightGuidance.Proofs.Settings.Frame
import FlightGuidance.Sequencer

/-!
# The walk over a mission

While a vehicle stays armed in mission flight, nothing but the sequencer moves the
active waypoint. This module describes the walk in plain numbers: the command of
an action chooses between staying, going on and jumping (`LegCommand.course`), a
course leads to an index of the plan (`Course.lead`), and a report of failure leads
to the error destination (`Aborts`). The sequencer computes in words of sixteen bits
and with saturation; within a sound plan none of this shows (`toNat_wrap_next?`,
`errorJump?_eq`).

`Flight` holds of a sequencer and a blackboard after the tick that engages a
mission and any number of further ticks, between which all records but the mission,
the plan, the active waypoint and the target may change. It keeps the active
waypoint inside the plan, so that every record that a tick looks up is loaded, and
each tick moves as the walk says (`Flight.walks`).
-/

set_option autoImplicit false

namespace FlightGuidance

/-! ## The walk in plain numbers -/

/-- The ways on from a leg. -/
inductive Course where
  | stay
  | next
  | jump
  deriving DecidableEq, Repr

/-- The course that a command chooses by the outcome of the end condition. -/
def LegCommand.course : LegCommand → Bool → Course
  | .onConditionNext, complete => if complete then .next else .stay
  | .onNotConditionNext, complete => if complete then .stay else .next
  | .onConditionJump, complete => if complete then .jump else .stay
  | .onNotConditionJump, complete => if complete then .stay else .jump
  | .ifConditionJumpElseNext, complete => if complete then .jump else .next

namespace Course

/-- An index of a plan with `count` waypoints: the first one in place of an index
past the end. -/
def within (count index : Nat) : Nat := if count ≤ index then 0 else index

/-- The index to which a course leads from another one. A negative jump leads forward by
its magnitude. -/
def lead (count index : Nat) (jump : Int) : Course → Nat
  | stay => index
  | next => within count (index + 1)
  | .jump => within count (if jump < 0 then index + jump.natAbs else jump.toNat)

theorem within_lt {count : Nat} (positive : 0 < count) (index : Nat) :
    within count index < count := by
  unfold within
  split <;> omega

end Course

/-- Whether a report aborts the leg of an index: the follower has failed, and the
action names another waypoint to go to. -/
def FollowerReport.Aborts (report : FollowerReport) (action : PathAction) (index : Nat) : Prop :=
  report.state = .critical ∧ 0 ≤ action.errorJump.toInt ∧ action.errorJump.toInt ≠ index

instance (report : FollowerReport) (action : PathAction) (index : Nat) :
    Decidable (report.Aborts action index) :=
  inferInstanceAs (Decidable (_ ∧ _ ∧ _))

/-! ## The sequencer's arithmetic -/

namespace Sequencer

theorem toNat_wrap (index count : UInt16) :
    (wrap index count).toNat = Course.within count.toNat index.toNat := by
  simp only [wrap, Course.within, UInt16.le_iff_toNat_le]
  split <;> rfl

theorem toNat_successor {index : UInt16} (small : index.toNat ≤ 64) :
    (successor index).toNat = index.toNat + 1 := by
  unfold successor
  split
  next last => simp [last] at small
  next => rw [UInt16.toNat_add]; exact Nat.mod_eq_of_lt (by simp; omega)

/-- A destination that is not negative keeps its value in the word of an index. -/
theorem toNat_toUInt16 {destination : Int16} (nonneg : 0 ≤ destination.toInt) :
    destination.toUInt16.toNat = destination.toInt.toNat := by
  rw [Int16.toNat_toUInt16_of_le (Int16.le_iff_toInt_le.mpr nonneg), Int16.toNat_toInt]

theorem toNat_jumpDestination {index : UInt16} (small : index.toNat ≤ 64) (destination : Int16) :
    (jumpDestination index destination).toNat =
      if destination.toInt < 0 then index.toNat + destination.toInt.natAbs
      else destination.toInt.toNat := by
  have backward : destination < 0 ↔ destination.toInt < 0 := Int16.lt_iff_toInt_lt
  unfold jumpDestination
  by_cases negative : destination.toInt < 0
  · rw [if_pos (backward.mpr negative), if_pos negative]
    have magnitude := destination.le_toInt
    have room : index.toNat + destination.toInt.natAbs < 65535 := by omega
    rw [Nat.min_eq_left (by omega), UInt16.toNat_ofNat_of_lt' (by simp [UInt16.size]; omega)]
  · rw [if_neg (mt backward.mp negative), if_neg negative, toNat_toUInt16 (by omega)]

/-- A small index is the same number as a signed word. -/
theorem toInt_toInt16 {index : UInt16} (small : index.toNat ≤ 64) :
    index.toInt16.toInt = index.toNat := by
  have bound : 2 * index.toBitVec.toNat < 2 ^ 16 := by
    rw [UInt16.toNat_toBitVec]
    omega
  rw [← Int16.toInt_toBitVec, UInt16.toBitVec_toInt16, BitVec.toInt_eq_toNat_of_lt bound,
    UInt16.toNat_toBitVec]

theorem toNat_wrap_next? {index : UInt16} (small : index.toNat ≤ 64) (count : UInt16)
    (action : PathAction) (complete : Bool) :
    ((next? index action complete).map fun next => (wrap next count).toNat).getD index.toNat =
      (action.command.course complete).lead count.toNat index.toNat action.jump.toInt := by
  have next := toNat_successor small
  have jump := toNat_jumpDestination small action.jump
  unfold next? LegCommand.course
  cases action.command <;> cases complete <;>
    simp [Course.lead, toNat_wrap, next, jump]

theorem errorJump?_eq {index : UInt16} (small : index.toNat ≤ 64) (action : PathAction)
    (report : FollowerReport) :
    errorJump? index action report =
      if report.Aborts action index.toNat then some action.errorJump.toUInt16 else none := by
  have signed := toInt_toInt16 small
  have same : index.toInt16 ≠ action.errorJump ↔ action.errorJump.toInt ≠ index.toNat := by
    rw [ne_eq, ne_eq, ← Int16.toInt_inj, signed, eq_comm]
  have forward : 0 ≤ action.errorJump ↔ 0 ≤ action.errorJump.toInt := Int16.le_iff_toInt_le
  unfold errorJump?
  by_cases aborts : report.Aborts action index.toNat
  · obtain ⟨failed, named, other⟩ := aborts
    rw [if_pos ⟨failed, forward.mpr named, same.mpr other⟩, if_pos ⟨failed, named, other⟩]
  · rw [if_neg aborts, if_neg]
    rintro ⟨failed, named, other⟩
    exact aborts ⟨failed, forward.mp named, same.mp other⟩

/-! ## One tick of mission flight -/

/-- Mission flight with the records of a plan and a mission in place: the vehicle is
armed and the sequencer is engaged in the control chain. -/
structure InMission (plan : Topic PathPlan) (mission : Topic Mission) (board : Blackboard) :
    Prop where
  planned : board.plan = plan
  loaded : board.mission = mission
  armed : board.status.value.armed = true
  selected : board.status.value.chain.contains .pathPlanner = true

/-- With an accepted plan, a tick of mission flight first touches the settings, the
alarms and the journal, and then engages the mission or looks at the active leg. -/
theorem tick_of_inMission {plan : Topic PathPlan} {mission : Topic Mission} {board : Blackboard}
    (accepted : plan.value.check mission.value = .ok ()) (here : InMission plan mission board)
    (sequencer : Sequencer) (now : Micros) :
    ∃ settings modeSettings alarms journal,
      let checked := { sequencer with settings, holdsInvalidPlan := false }
      let settled := { board with modeSettings, alarms, journal }
      sequencer.tick board now =
        if sequencer.active then
          (checked.followMission settled).1.fly (checked.followMission settled).2
            board.mission.value board.activeWaypoint.value.index now
        else checked.engage settled := by
  obtain ⟨rfl, rfl, armed, selected⟩ := here
  obtain ⟨modeSettings, alarms, journal, frame⟩ :=
    sequencer.settings.checkRecord_frame .modes name board
  obtain ⟨cleared, alarmFrame⟩ :=
    ({ board with modeSettings, alarms, journal } : Blackboard).setPlanAlarm_frame .ok
  rcases outcome : sequencer.settings.checkRecord .modes name board with ⟨settings, checked⟩
  rw [outcome] at frame
  dsimp only [SettingsTopic.modes] at frame
  subst frame
  refine ⟨settings, modeSettings, cleared, journal, ?_⟩
  simp only [tick, outcome, selected, accepted, proceed, alarmFrame, armed]
  cases sequencer.active <;> rfl

/-! ## The active leg of a sound plan -/

section Leg

variable {plan : PathPlan} {mission : Mission} {index : UInt16}

/-- Within a sound plan the waypoint of an index and its action are loaded, and the
action leads nowhere past the plan. -/
theorem leg?_of_sound (sound : plan.Sound mission)
    (inside : index.toNat < plan.waypointCount.toNat) :
    ∃ waypoint action, leg? mission index = some (waypoint, action) ∧
      action.errorJump.toInt < plan.waypointCount.toNat := by
  obtain ⟨waypoint, declared, waypointLoaded⟩ := sound.waypoint inside
  obtain ⟨action, actionDeclared, actionLoaded⟩ := sound.action declared
  refine ⟨waypoint, action, ?_, sound.errorJump_lt action actionDeclared⟩
  simp only [leg?, waypointLoaded, actionLoaded, Option.map_some]

/-- A mission with a waypoint has one after every other. -/
theorem following?_of_sound (sound : plan.Sound mission) (index : UInt16) :
    ∃ waypoint, following? mission index = some waypoint := by
  have loaded : 0 < mission.waypoints.length :=
    Nat.lt_of_lt_of_le sound.waypointCount_pos sound.waypointCount_le
  have inside : (index.toNat + 1) % max mission.waypoints.length 1 < mission.waypoints.length := by
    rw [Nat.max_eq_left loaded]
    exact Nat.mod_lt _ loaded
  have word : (UInt16.ofNat ((index.toNat + 1) % max mission.waypoints.length 1)).toNat =
      (index.toNat + 1) % max mission.waypoints.length 1 :=
    UInt16.toNat_ofNat_of_lt' (Nat.lt_of_lt_of_le inside
      (Nat.le_trans mission.waypoints_le (by decide)))
  refine ⟨mission.waypoints[(index.toNat + 1) % max mission.waypoints.length 1], ?_⟩
  unfold following? Mission.waypoint?
  rw [word]
  exact List.getElem?_eq_getElem inside

end Leg

/-- What is known of a sequencer that has engaged a mission, and of the blackboard it
has left. -/
structure Engaged (plan : Topic PathPlan) (mission : Topic Mission) (sequencer : Sequencer)
    (board : Blackboard) : Prop where
  active : sequencer.active = true
  current : sequencer.missionRevision = mission.revision
  inside : board.activeWaypoint.value.index.toNat < plan.value.waypointCount.toNat
  aimed : board.target.value.sequenceId = board.activeWaypoint.value.index.toInt16

variable {plan : Topic PathPlan} {mission : Topic Mission}

theorem Engaged.index_lt_room (sound : plan.value.Sound mission.value) {sequencer : Sequencer}
    {board : Blackboard} (engaged : Engaged plan mission sequencer board) :
    board.activeWaypoint.value.index.toNat < 64 :=
  Nat.lt_of_lt_of_le engaged.inside sound.waypointCount_le_room

theorem setWaypoint_index (sequencer : Sequencer) (board : Blackboard) (index : UInt16) :
    (sequencer.setWaypoint board index).activeWaypoint.value.index =
      wrap index board.plan.value.waypointCount := by
  unfold setWaypoint publishLeg
  split
  · dsimp only
    split <;> rfl
  · rfl

/-- An active sequencer that changes the waypoint finds the leg of the new one, and
publishes it. -/
theorem setWaypoint_engaged (sound : plan.value.Sound mission.value) {sequencer : Sequencer}
    (active : sequencer.active = true) (current : sequencer.missionRevision = mission.revision)
    {board : Blackboard} (planned : board.plan = plan) (loaded : board.mission = mission)
    {index : UInt16} :
    Engaged plan mission sequencer (sequencer.setWaypoint board index) := by
  subst planned loaded
  have inside : (wrap index board.plan.value.waypointCount).toNat <
      board.plan.value.waypointCount.toNat := by
    rw [toNat_wrap]
    exact Course.within_lt sound.waypointCount_pos _
  obtain ⟨waypoint, action, found, -⟩ := leg?_of_sound sound inside
  have moved := sequencer.setWaypoint_index board index
  refine ⟨active, current, ?_, ?_⟩
  · rw [moved]
    exact inside
  · rw [moved]
    simp only [setWaypoint, publishLeg, active, Blackboard.log, Topic.value_publish, found,
      if_true]
    rfl

end Sequencer

/-- The index to which a tick leads that finds the leg in flight: the error destination
of an aborted leg, and else the lead of the course that the command chooses. -/
def ActiveLeg.destination (leg : ActiveLeg) (count : Nat) (report : FollowerReport)
    (complete : Bool) : Nat :=
  if report.Aborts leg.action leg.index.toNat then leg.action.errorJump.toInt.toNat
  else (leg.action.command.course complete).lead count leg.index.toNat leg.action.jump.toInt

namespace Sequencer

variable {plan : Topic PathPlan} {mission : Topic Mission}

/-- The error destination of a sound plan is a waypoint of it. -/
theorem setWaypoint_errorJump (sequencer : Sequencer) {board : Blackboard} {action : PathAction}
    (named : 0 ≤ action.errorJump.toInt)
    (bounded : action.errorJump.toInt < board.plan.value.waypointCount.toNat) :
    (sequencer.setWaypoint board action.errorJump.toUInt16).activeWaypoint.value.index.toNat =
      action.errorJump.toInt.toNat := by
  rw [setWaypoint_index, toNat_wrap, toNat_toUInt16 named, Course.within, if_neg (by omega)]

/-- The course that is chosen once the end condition is known leaves the sequencer engaged. -/
theorem advance_of_engaged (sound : plan.value.Sound mission.value) {sequencer : Sequencer}
    {board : Blackboard} (engaged : Engaged plan mission sequencer board)
    (planned : board.plan = plan) (loaded : board.mission = mission)
    (action : PathAction) (complete : Bool) :
    let index := board.activeWaypoint.value.index
    let after := match next? index action complete with
      | some next => sequencer.setWaypoint board next
      | none => board
    Engaged plan mission sequencer after ∧
      after.activeWaypoint.value.index.toNat =
        (action.command.course complete).lead plan.value.waypointCount.toNat index.toNat
          action.jump.toInt := by
  intro index
  have small : index.toNat ≤ 64 := Nat.le_of_lt (engaged.index_lt_room sound)
  have lead := toNat_wrap_next? small plan.value.waypointCount action complete
  rw [← lead]
  cases next? index action complete with
  | none => exact ⟨engaged, rfl⟩
  | some next =>
      refine ⟨setWaypoint_engaged sound engaged.active engaged.current planned loaded, ?_⟩
      dsimp only
      rw [setWaypoint_index, planned]
      rfl

/-- A look at the active leg leaves the sequencer engaged. It changes nothing while the
follower reports another target, and else goes on to the destination of the leg. -/
theorem fly_of_engaged (sound : plan.value.Sound mission.value) {sequencer : Sequencer}
    {board : Blackboard} (engaged : Engaged plan mission sequencer board)
    (planned : board.plan = plan) (loaded : board.mission = mission) {leg : ActiveLeg}
    (active : leg.index = board.activeWaypoint.value.index)
    (found : leg? mission.value leg.index = some (leg.waypoint, leg.action))
    (follows : following? mission.value leg.index = some leg.nextWaypoint)
    (bounded : leg.action.errorJump.toInt < plan.value.waypointCount.toNat) (now : Micros) :
    let after := sequencer.fly board mission.value leg.index now
    Engaged plan mission after.1 after.2 ∧
      if board.report.value.sequenceId ≠ board.target.value.sequenceId then
        after = (sequencer, board)
      else
        after.2.activeWaypoint.value.index.toNat =
          leg.destination plan.value.waypointCount.toNat board.report.value
            (leg.complete (snapshot board) sequencer.timer now).1 := by
  rcases leg with ⟨index, waypoint, nextWaypoint, action⟩
  dsimp only at active found follows bounded ⊢
  have small : index.toNat ≤ 64 := active ▸ Nat.le_of_lt (engaged.index_lt_room sound)
  simp only [fly, found, follows, errorJump?_eq small]
  by_cases elsewhere : board.report.value.sequenceId ≠ board.target.value.sequenceId
  · rw [if_pos elsewhere, if_pos elsewhere]
    exact ⟨engaged, rfl⟩
  rw [if_neg elsewhere, if_neg elsewhere]
  by_cases aborts : board.report.value.Aborts action index.toNat
  · simp only [if_pos aborts, ActiveLeg.destination]
    refine ⟨setWaypoint_engaged sound engaged.active engaged.current ?_ ?_, ?_⟩
    · exact planned
    · exact loaded
    · exact setWaypoint_errorJump sequencer aborts.2.1 (planned ▸ bounded)
  · simp only [if_neg aborts, ActiveLeg.destination]
    rcases condition : ActiveLeg.complete ⟨index, waypoint, nextWaypoint, action⟩ (snapshot board)
      sequencer.timer now with ⟨complete, timer⟩
    have timed : Engaged plan mission { sequencer with timer } board :=
      ⟨engaged.active, engaged.current, engaged.inside, engaged.aimed⟩
    have advanced := advance_of_engaged sound timed planned loaded action complete
    dsimp only at advanced ⊢
    rw [← active] at advanced
    cases next : next? index action complete with
    | none =>
        rw [next] at advanced
        exact advanced
    | some destination =>
        rw [next] at advanced
        exact advanced

/-! ## Mission flight -/

/-- The sequencer and the blackboard after some ticks of mission flight. The first tick
finds a new sequencer. Before every further tick, all records may have changed but the
plan and the mission, the active waypoint and the target. -/
inductive Flight (plan : Topic PathPlan) (mission : Topic Mission) :
    Sequencer → Blackboard → Prop where
  | engage {board : Blackboard} (here : InMission plan mission board) (now : Micros) :
      Flight plan mission (({} : Sequencer).tick board now).1
        (({} : Sequencer).tick board now).2
  | fly {sequencer : Sequencer} {board next : Blackboard}
      (flight : Flight plan mission sequencer board) (here : InMission plan mission next)
      (waypoint : next.activeWaypoint = board.activeWaypoint)
      (target : next.target = board.target) (now : Micros) :
      Flight plan mission (sequencer.tick next now).1 (sequencer.tick next now).2

theorem engaged_first_tick (accepted : plan.value.check mission.value = .ok ())
    {board : Blackboard} (here : InMission plan mission board) (now : Micros) :
    Engaged plan mission (({} : Sequencer).tick board now).1
      (({} : Sequencer).tick board now).2 := by
  obtain ⟨sound, -⟩ := (plan.value.check_eq_ok_iff mission.value).mp accepted
  obtain ⟨settings, modeSettings, alarms, journal, ticked⟩ :=
    tick_of_inMission accepted here {} now
  rw [ticked]
  refine setWaypoint_engaged sound rfl ?_ ?_ ?_
  · exact congrArg Topic.revision here.loaded
  · exact here.planned
  · exact here.loaded

theorem followMission_of_current {sequencer : Sequencer} {board : Blackboard}
    (current : board.mission.revision = sequencer.missionRevision) :
    sequencer.followMission board = (sequencer, board) :=
  if_pos current

/-- A tick of an engaged sequencer looks at the active leg, whatever the settings, the
alarms and the journal have become. -/
theorem tick_of_engaged (accepted : plan.value.check mission.value = .ok ())
    {sequencer : Sequencer} {board : Blackboard} (engaged : Engaged plan mission sequencer board)
    (here : InMission plan mission board) (now : Micros) :
    ∃ settings modeSettings alarms journal,
      sequencer.tick board now =
        { sequencer with settings, holdsInvalidPlan := false }.fly
          { board with modeSettings, alarms, journal } mission.value
          board.activeWaypoint.value.index now := by
  obtain ⟨settings, modeSettings, alarms, journal, ticked⟩ :=
    tick_of_inMission accepted here sequencer now
  refine ⟨settings, modeSettings, alarms, journal, ?_⟩
  have current : board.mission.revision = sequencer.missionRevision := by
    rw [here.loaded, engaged.current]
  rw [ticked, if_pos engaged.active, followMission_of_current]
  · rw [here.loaded]
  · exact current

/-- Between two ticks an engaged sequencer stays so, if the active waypoint and the target
stay as they are. -/
theorem Engaged.carry {sequencer : Sequencer} {board next : Blackboard}
    (engaged : Engaged plan mission sequencer board)
    (waypoint : next.activeWaypoint = board.activeWaypoint) (target : next.target = board.target) :
    Engaged plan mission sequencer next := by
  refine ⟨engaged.active, engaged.current, ?_, ?_⟩
  · rw [waypoint]
    exact engaged.inside
  · rw [waypoint, target]
    exact engaged.aimed

/-- **A tick of an engaged sequencer finds the active leg and walks as it says.** -/
theorem Engaged.tick (accepted : plan.value.check mission.value = .ok ())
    {sequencer : Sequencer} {board : Blackboard} (engaged : Engaged plan mission sequencer board)
    (here : InMission plan mission board) (leg : ActiveLeg)
    (active : leg.index = board.activeWaypoint.value.index)
    (found : leg? mission.value leg.index = some (leg.waypoint, leg.action))
    (follows : following? mission.value leg.index = some leg.nextWaypoint) (now : Micros) :
    let after := sequencer.tick board now
    Engaged plan mission after.1 after.2 ∧
      if board.report.value.sequenceId ≠ board.target.value.sequenceId then
        after.2.activeWaypoint = board.activeWaypoint ∧ after.2.target = board.target
      else
        after.2.activeWaypoint.value.index.toNat =
          leg.destination plan.value.waypointCount.toNat board.report.value
            (leg.complete (snapshot board) sequencer.timer now).1 := by
  obtain ⟨sound, -⟩ := (plan.value.check_eq_ok_iff mission.value).mp accepted
  obtain ⟨settings, modeSettings, alarms, journal, ticked⟩ :=
    tick_of_engaged accepted engaged here now
  obtain ⟨waypoint, action, same, bounded⟩ := leg?_of_sound sound (active ▸ engaged.inside)
  rw [found, Option.some_inj, Prod.mk.injEq] at same
  rw [← same.2] at bounded
  have settled : Engaged plan mission { sequencer with settings, holdsInvalidPlan := false }
      { board with modeSettings, alarms, journal } :=
    ⟨engaged.active, engaged.current, engaged.inside, engaged.aimed⟩
  obtain ⟨engages, walks⟩ := fly_of_engaged sound settled here.planned here.loaded active found
    follows bounded now
  rw [ticked, ← active]
  refine ⟨engages, ?_⟩
  split at walks
  next elsewhere =>
    rw [if_pos elsewhere, walks]
    exact ⟨rfl, rfl⟩
  next flown =>
    rw [if_neg flown]
    exact walks

/-- An engaged sequencer has an active leg, all records of which are loaded. -/
theorem Engaged.leg (accepted : plan.value.check mission.value = .ok ())
    {sequencer : Sequencer} {board : Blackboard}
    (engaged : Engaged plan mission sequencer board) :
    ∃ leg : ActiveLeg, leg.index = board.activeWaypoint.value.index ∧
      leg? mission.value leg.index = some (leg.waypoint, leg.action) ∧
      following? mission.value leg.index = some leg.nextWaypoint := by
  obtain ⟨sound, -⟩ := (plan.value.check_eq_ok_iff mission.value).mp accepted
  obtain ⟨waypoint, action, found, -⟩ := leg?_of_sound sound engaged.inside
  obtain ⟨nextWaypoint, follows⟩ :=
    following?_of_sound sound board.activeWaypoint.value.index
  exact ⟨⟨_, waypoint, nextWaypoint, action⟩, rfl, found, follows⟩

theorem Flight.engaged (accepted : plan.value.check mission.value = .ok ())
    {sequencer : Sequencer} {board : Blackboard} (flight : Flight plan mission sequencer board) :
    Engaged plan mission sequencer board := by
  induction flight with
  | engage here now => exact engaged_first_tick accepted here now
  | fly _ here waypoint target now inductionHypothesis =>
      have engaged := inductionHypothesis.carry waypoint target
      obtain ⟨leg, active, found, follows⟩ := engaged.leg accepted
      exact (engaged.tick accepted here leg active found follows now).1

/-- **The walk of a mission flight.** From the tick that engages an accepted plan on, the
active waypoint is declared, the target names it, and the waypoint, its action and the
waypoint after it are loaded. The next tick leaves the active waypoint and the target
alone while the follower reports another target. Else it leads to the destination of
the active leg. -/
theorem Flight.walks (accepted : plan.value.check mission.value = .ok ())
    {sequencer : Sequencer} {board : Blackboard} (flight : Flight plan mission sequencer board) :
    board.activeWaypoint.value.index.toNat < plan.value.waypointCount.toNat ∧
    board.target.value.sequenceId = board.activeWaypoint.value.index.toInt16 ∧
    ∃ leg : ActiveLeg, leg.index = board.activeWaypoint.value.index ∧
      leg? mission.value leg.index = some (leg.waypoint, leg.action) ∧
      following? mission.value leg.index = some leg.nextWaypoint ∧
      ∀ (next : Blackboard) (now : Micros), InMission plan mission next →
        next.activeWaypoint = board.activeWaypoint → next.target = board.target →
        let after := (sequencer.tick next now).2
        if next.report.value.sequenceId ≠ next.target.value.sequenceId then
          after.activeWaypoint = next.activeWaypoint ∧ after.target = next.target
        else
          after.activeWaypoint.value.index.toNat =
            leg.destination plan.value.waypointCount.toNat next.report.value
              (leg.complete (snapshot next) sequencer.timer now).1 := by
  have engaged := Flight.engaged accepted flight
  obtain ⟨leg, active, found, follows⟩ := engaged.leg accepted
  refine ⟨engaged.inside, engaged.aimed, leg, active, found, follows, ?_⟩
  intro next now here waypoint target
  have same : leg.index = next.activeWaypoint.value.index := by rw [active, waypoint]
  exact ((engaged.carry waypoint target).tick accepted here leg same found follows now).2

/-- A mission of two waypoints with one action, which is complete at once. -/
def immediatePair : Mission where
  waypoints := [{}, { north := ⟨0x41200000⟩ }]
  actions := [{ condition := .immediate }]

/-- An armed vehicle is to fly both waypoints, and its follower reports the first one. -/
def fliesPair (board : Blackboard) : Blackboard :=
  { board with
    plan := ⟨{ waypointCount := 2, actionCount := 1, crc := 204 }, 1⟩
    mission := ⟨immediatePair, 1⟩
    status :=
      ⟨{ armed := true, mode := .pathPlanner, chain := ControlHandler.pathPlanner.chain }, 1⟩
    report := ⟨{ sequenceId := 0 }, 1⟩ }

set_option maxRecDepth 10000 in
theorem walk_of_two_waypoints :
    let board := fliesPair {}
    let first := ({} : Sequencer).tick board 0
    let second := first.1.tick (fliesPair first.2) 0
    board.plan.value.check board.mission.value = .ok () ∧
      Flight board.plan board.mission second.1 second.2 ∧
      second.2.activeWaypoint.value.index = 1 ∧ second.2.target.value.sequenceId = 1 := by
  intro board first second
  have accepted : board.plan.value.check board.mission.value = .ok () := rfl
  have selected : ControlHandler.pathPlanner.chain.contains .pathPlanner = true := by decide
  have inMission (before : Blackboard) :
      InMission board.plan board.mission (fliesPair before) := ⟨rfl, rfl, rfl, selected⟩
  have engages : Flight board.plan board.mission first.1 first.2 :=
    Flight.engage (inMission {}) 0
  have flight : Flight board.plan board.mission second.1 second.2 :=
    engages.fly (inMission first.2) rfl rfl 0
  have second_index : second.2.activeWaypoint.value.index = 1 := by decide +kernel
  obtain ⟨-, aimed, -⟩ := flight.walks accepted
  rw [second_index] at aimed
  exact ⟨accepted, flight, second_index, aimed⟩

end Sequencer
end FlightGuidance
