import FlightGuidance.Proofs.Sequencer.ActiveWaypoint

/-!
# Records past the end of the plan

A mission may hold more records than its plan declares. Two missions that hold all declared
records and agree on them (`PathPlan.Agree`) pass or fail the check of the plan alike, and every
lookup of the sequencer gives the same for both, except for one: the waypoint after the last
declared one is looked up in the whole mission, so that it is the first surplus waypoint, and the
first waypoint only if there is no surplus.

Of all end conditions only the direction of the next leg looks at that waypoint. So a tick does
the same for both missions, unless it evaluates that condition on the last declared waypoint, and
the two next waypoints lead to different places (`tick_agrees_iff`).
-/

set_option autoImplicit false

namespace FlightGuidance

/-! ## Missions that agree on a plan -/

/-- Two missions hold every record that a plan declares, and agree on them. -/
structure PathPlan.Agree (plan : PathPlan) (mission other : Mission) : Prop where
  waypoints : other.waypoints.take plan.waypointCount.toNat =
    mission.waypoints.take plan.waypointCount.toNat
  actions : other.actions.take plan.actionCount.toNat =
    mission.actions.take plan.actionCount.toNat
  waypoints_le : plan.waypointCount.toNat ≤ mission.waypoints.length
  other_waypoints_le : plan.waypointCount.toNat ≤ other.waypoints.length
  actions_le : plan.actionCount.toNat ≤ mission.actions.length
  other_actions_le : plan.actionCount.toNat ≤ other.actions.length

namespace PathPlan.Agree

variable {plan : PathPlan} {mission other : Mission} {index : UInt16}

theorem check (agree : plan.Agree mission other) : plan.check other = plan.check mission := by
  have waypoints := agree.waypoints_le
  have otherWaypoints := agree.other_waypoints_le
  have actions := agree.actions_le
  have otherActions := agree.other_actions_le
  rw [← mission.toNat_waypointCount, ← UInt16.le_iff_toNat_le, ← UInt16.not_lt] at waypoints
  rw [← other.toNat_waypointCount, ← UInt16.le_iff_toNat_le, ← UInt16.not_lt] at otherWaypoints
  rw [← mission.toNat_actionCount, ← UInt16.le_iff_toNat_le, ← UInt16.not_lt] at actions
  rw [← other.toNat_actionCount, ← UInt16.le_iff_toNat_le, ← UInt16.not_lt] at otherActions
  simp only [PathPlan.check, waypoints, otherWaypoints, actions, otherActions, if_false,
    Mission.checksum, indexFault?, waypointFault?, actionFault?, agree.waypoints, agree.actions]

theorem waypoint? (agree : plan.Agree mission other)
    (inside : index.toNat < plan.waypointCount.toNat) :
    other.waypoint? index = mission.waypoint? index := by
  unfold Mission.waypoint?
  rw [← List.getElem?_take_of_lt inside, agree.waypoints, List.getElem?_take_of_lt inside]

theorem action? (agree : plan.Agree mission other)
    (inside : index.toNat < plan.actionCount.toNat) :
    other.action? index = mission.action? index := by
  unfold Mission.action?
  rw [← List.getElem?_take_of_lt inside, agree.actions, List.getElem?_take_of_lt inside]

theorem sound (agree : plan.Agree mission other) (sound : plan.Sound mission) :
    plan.Sound other where
  waypointCount_pos := sound.waypointCount_pos
  waypointCount_le := agree.other_waypoints_le
  actionCount_le := agree.other_actions_le
  action_lt := agree.waypoints ▸ sound.action_lt
  jump_lt := agree.actions ▸ sound.jump_lt
  errorJump_lt := agree.actions ▸ sound.errorJump_lt

/-- The leg of a declared waypoint is the same, since its action is declared as well. -/
theorem leg? (agree : plan.Agree mission other) (sound : plan.Sound mission)
    (inside : index.toNat < plan.waypointCount.toNat) :
    Sequencer.leg? other index = Sequencer.leg? mission index := by
  obtain ⟨waypoint, declared, loaded⟩ := sound.waypoint inside
  unfold Sequencer.leg?
  rw [agree.waypoint? inside, loaded]
  dsimp only
  rw [agree.action? (sound.action_lt waypoint declared)]

theorem legTarget (agree : plan.Agree mission other)
    (inside : index.toNat < plan.waypointCount.toNat) (position : Ned) (waypoint : Waypoint)
    (action : PathAction) :
    Sequencer.legTarget other position index waypoint action =
      Sequencer.legTarget mission position index waypoint action := by
  have previous : Sequencer.previous? other index = Sequencer.previous? mission index := by
    unfold Sequencer.previous?
    by_cases first : index = 0
    · rw [if_pos first, if_pos first]
    · have before : (index - 1).toNat < plan.waypointCount.toNat := by
        have positive : index.toNat ≠ 0 := fun zero => first (UInt16.toNat_inj.mp zero)
        have room : 1 ≤ index := UInt16.le_iff_toNat_le.mpr (Nat.pos_of_ne_zero positive)
        rw [UInt16.toNat_sub_of_le _ _ room]
        omega
      rw [if_neg first, if_neg first, agree.waypoint? before]
  unfold Sequencer.legTarget
  rw [previous]

/-- Before the last declared waypoint the waypoint that follows is declared. -/
theorem following? (agree : plan.Agree mission other)
    (inside : index.toNat + 1 < plan.waypointCount.toNat) :
    Sequencer.following? other index = Sequencer.following? mission index := by
  have next {records : Mission} (loaded : plan.waypointCount.toNat ≤ records.waypoints.length) :
      (index.toNat + 1) % max records.waypoints.length 1 = index.toNat + 1 :=
    Nat.mod_eq_of_lt (by omega)
  have word : (UInt16.ofNat (index.toNat + 1)).toNat = index.toNat + 1 :=
    UInt16.toNat_ofNat_of_lt' (Nat.lt_trans inside plan.waypointCount.toNat_lt)
  unfold Sequencer.following?
  rw [next agree.waypoints_le, next agree.other_waypoints_le]
  exact agree.waypoint? (word.symm ▸ inside)

end PathPlan.Agree

/-! ## What does not look at the records -/

namespace Blackboard

/-- The blackboard with the records of another mission under the same revision. -/
def withRecords (board : Blackboard) (other : Mission) : Blackboard :=
  { board with mission := { board.mission with value := other } }

variable (board : Blackboard) (other : Mission)

@[simp] theorem status_withRecords : (board.withRecords other).status = board.status := rfl

@[simp] theorem plan_withRecords : (board.withRecords other).plan = board.plan := rfl

@[simp] theorem mission_value_withRecords : (board.withRecords other).mission.value = other := rfl

@[simp] theorem activeWaypoint_withRecords :
    (board.withRecords other).activeWaypoint = board.activeWaypoint := rfl

theorem setPlanAlarm_withRecords (severity : Severity) :
    (board.withRecords other).setPlanAlarm severity =
      (board.setPlanAlarm severity).withRecords other := by
  unfold setPlanAlarm
  by_cases same : board.alarms.value.pathPlan = severity
  · rw [if_pos same]
    exact if_pos same
  · rw [if_neg same]
    exact if_neg same

theorem setSettingsAlarm_withRecords (severity : Severity) :
    (board.withRecords other).setSettingsAlarm severity =
      (board.setSettingsAlarm severity).withRecords other := by
  unfold setSettingsAlarm
  by_cases same : board.alarms.value.settings = severity
  · rw [if_pos same]
    exact if_pos same
  · rw [if_neg same]
    exact if_neg same

end Blackboard

theorem SettingsUpdate.report_withRecords (update : SettingsUpdate) (component record : String)
    (board : Blackboard) (other : Mission) :
    update.report component record (board.withRecords other) =
      (update.report component record board).withRecords other := by
  cases update with
  | unchanged => rfl
  | accepted => exact (board.log .debug _).setSettingsAlarm_withRecords other .ok
  | rejected cause => exact (board.log .error _).setSettingsAlarm_withRecords other .error

theorem SettingsGuard.checkModes_withRecords (guard : SettingsGuard ModeSettings)
    (component : String) (board : Blackboard) (other : Mission) :
    guard.checkRecord .modes component (board.withRecords other) =
      (guard.checkRecord .modes component board).map id (·.withRecords other) :=
  Prod.ext rfl (SettingsUpdate.report_withRecords _ component SettingsTopic.modes.name
    { board with modeSettings := (guard.check board.modeSettings).2.2 } other)

namespace Sequencer

variable (sequencer : Sequencer) (board : Blackboard) {other : Mission}

theorem standDown_withRecords :
    sequencer.standDown (board.withRecords other) =
      (sequencer.standDown board).map id (·.withRecords other) :=
  Prod.ext rfl (board.setPlanAlarm_withRecords other .ok)

theorem refuse_withRecords (cause : PlanError) :
    sequencer.refuse (board.withRecords other) cause =
      (sequencer.refuse board cause).map id (·.withRecords other) := by
  unfold refuse
  cases sequencer.holdsInvalidPlan with
  | true => exact Prod.ext rfl (board.setPlanAlarm_withRecords other .critical)
  | false =>
      let held := Guidance.hold
        (board.log .error (name ++ ": Path plan rejected: " ++ cause.message))
      exact Prod.ext rfl (held.setPlanAlarm_withRecords other .critical)

/-! ## Legs of declared waypoints -/

section Agree

variable (agree : board.plan.value.Agree board.mission.value other)
  (sound : board.plan.value.Sound board.mission.value)

include agree sound

theorem publishLeg_withRecords
    (inside : board.activeWaypoint.value.index.toNat < board.plan.value.waypointCount.toNat) :
    sequencer.publishLeg (board.withRecords other) =
      (sequencer.publishLeg board).withRecords other := by
  cases active : sequencer.active with
  | false => simp only [publishLeg, active, Bool.false_eq_true, if_false]
  | true =>
      obtain ⟨waypoint, action, found, -⟩ := leg?_of_sound sound inside
      have published := publishLeg_of_loaded sequencer board active found
      rw [← agree.leg? sound inside] at found
      have publishedOther := publishLeg_of_loaded sequencer (board.withRecords other) active found
      rw [published, publishedOther]
      exact congrArg (fun target => (board.publishTarget target).withRecords other)
        (agree.legTarget inside _ waypoint action)

theorem setWaypoint_withRecords (index : UInt16) :
    sequencer.setWaypoint (board.withRecords other) index =
      (sequencer.setWaypoint board index).withRecords other := by
  have inside : (wrap index board.plan.value.waypointCount).toNat <
      board.plan.value.waypointCount.toNat := by
    rw [toNat_wrap]
    exact Course.within_lt sound.waypointCount_pos _
  let activated : Blackboard :=
    { board.log .debug (name ++ ": Active waypoint "
        ++ Nat.repr (wrap index board.plan.value.waypointCount).toNat) with
      activeWaypoint :=
        board.activeWaypoint.publish { index := wrap index board.plan.value.waypointCount } }
  have published : sequencer.publishLeg (activated.withRecords other) =
      (sequencer.publishLeg activated).withRecords other :=
    publishLeg_withRecords sequencer activated agree sound inside
  exact published

theorem engage_withRecords :
    sequencer.engage (board.withRecords other) =
      (sequencer.engage board).map id (·.withRecords other) :=
  let engaged : Sequencer :=
    { sequencer with active := true, missionRevision := board.mission.revision }
  Prod.ext rfl (setWaypoint_withRecords engaged
    (board.log .info (name ++ ": Path plan engaged")) agree sound
    (if engaged.settings.lastValid.modeChangeRestartsPlan then 0
      else board.activeWaypoint.value.index))

theorem followMission_withRecords
    (inside : board.activeWaypoint.value.index.toNat < board.plan.value.waypointCount.toNat) :
    sequencer.followMission (board.withRecords other) =
      (sequencer.followMission board).map id (·.withRecords other) := by
  by_cases current : board.mission.revision = sequencer.missionRevision
  · rw [followMission_of_current current]
    exact followMission_of_current current
  · unfold followMission
    rw [if_neg current]
    exact (if_neg current).trans (Prod.ext rfl (publishLeg_withRecords _ board agree sound inside))

theorem faced_withRecords
    (inside : board.activeWaypoint.value.index.toNat < board.plan.value.waypointCount.toNat) :
    sequencer.faced (board.withRecords other) = sequencer.faced board :=
  congrArg (fun after => after.2.target)
    (followMission_withRecords sequencer board agree sound inside)

end Agree
end Sequencer

/-! ## The waypoint that follows -/

namespace ActiveLeg

/-- The waypoint of the plan that the outcome of the end condition activates. -/
def landing? (leg : ActiveLeg) (count : UInt16) (complete : Bool) : Option UInt16 :=
  (Sequencer.next? leg.index leg.action complete).map (Sequencer.wrap · count)

/-- The timer does not depend on the waypoint that follows, -/
theorem complete_nextWaypoint_timer (leg : ActiveLeg) (nextWaypoint : Waypoint)
    (vehicle : VehicleSnapshot) (timer : LegTimer) (now : Micros) :
    ({ leg with nextWaypoint }.complete vehicle timer now).2 =
      (leg.complete vehicle timer now).2 := by
  unfold complete
  cases leg.action.condition <;> rfl

/-- and only the direction of the next leg looks at that waypoint. -/
theorem complete_nextWaypoint {leg : ActiveLeg}
    (other : leg.action.condition ≠ .pointingTowardsNext) (nextWaypoint : Waypoint)
    (vehicle : VehicleSnapshot) (timer : LegTimer) (now : Micros) :
    { leg with nextWaypoint }.complete vehicle timer now = leg.complete vehicle timer now := by
  unfold complete
  cases condition : leg.action.condition with
  | pointingTowardsNext => exact absurd condition other
  | _ => rfl

theorem complete_of_pointingTowardsNext {leg : ActiveLeg}
    (pointing : leg.action.condition = .pointingTowardsNext) (vehicle : VehicleSnapshot)
    (timer : LegTimer) (now : Micros) :
    leg.complete vehicle timer now = (leg.pointsTowardsNext vehicle, timer) := by
  simp only [complete, pointing]

end ActiveLeg

namespace Sequencer

variable {sequencer : Sequencer} {board : Blackboard} {other : Mission}

/-- Activating a waypoint does the same for both missions, and the index counts as it is wrapped. -/
theorem moveOn_withRecords (agree : board.plan.value.Agree board.mission.value other)
    (sound : board.plan.value.Sound board.mission.value) {index destination : Option UInt16}
    (same : index.map (wrap · board.plan.value.waypointCount) =
      destination.map (wrap · board.plan.value.waypointCount)) :
    sequencer.moveOn (board.withRecords other) index =
      (sequencer.moveOn board destination).withRecords other := by
  cases index with
  | none =>
      cases destination with
      | none => rfl
      | some _ => cases same
  | some first =>
      cases destination with
      | none => cases same
      | some second =>
          have wrapped : wrap first board.plan.value.waypointCount =
            wrap second board.plan.value.waypointCount := Option.some_inj.mp same
          have activated : sequencer.setWaypoint board first =
              sequencer.setWaypoint board second := by
            unfold setWaypoint
            rw [wrapped]
          rw [moveOn, moveOn, setWaypoint_withRecords sequencer board agree sound, activated]

/-- A look at the leg does the same for both missions if the outcomes of the end condition lead to
the same place. -/
theorem fly_withRecords (sequencer : Sequencer) (board : Blackboard)
    (agree : board.plan.value.Agree board.mission.value other)
    (sound : board.plan.value.Sound board.mission.value) {leg : ActiveLeg}
    (inside : leg.index.toNat < board.plan.value.waypointCount.toNat)
    (found : leg? board.mission.value leg.index = some (leg.waypoint, leg.action))
    (follows : following? board.mission.value leg.index = some leg.nextWaypoint)
    {nextWaypoint : Waypoint} (followsOther : following? other leg.index = some nextWaypoint)
    (now : Micros)
    (lands : board.report.value.sequenceId = board.target.value.sequenceId →
      errorJump? leg.index leg.action board.report.value = none →
      leg.landing? board.plan.value.waypointCount
          ({ leg with nextWaypoint }.complete (snapshot board) sequencer.timer now).1 =
        leg.landing? board.plan.value.waypointCount
          (leg.complete (snapshot board) sequencer.timer now).1) :
    sequencer.fly (board.withRecords other) other leg.index now =
      (sequencer.fly board board.mission.value leg.index now).map id (·.withRecords other) := by
  let changed := board.withRecords other
  let otherLeg : ActiveLeg := { leg with nextWaypoint }
  by_cases acknowledged : board.report.value.sequenceId = board.target.value.sequenceId
  · have foundOther : leg? other otherLeg.index = some (otherLeg.waypoint, otherLeg.action) :=
      (agree.leg? sound inside).trans found
    cases jump : errorJump? leg.index leg.action board.report.value with
    | some destination =>
        have aborted := fly_of_aborted sequencer changed foundOther acknowledged jump now
        rw [fly_of_aborted sequencer board found acknowledged jump]
        exact aborted.trans
          (Prod.ext rfl (setWaypoint_withRecords sequencer (board.log .warn _) agree sound _))
    | none =>
        have evaluated := fly_of_evaluated sequencer changed foundOther acknowledged followsOther
          jump now
        have timer : (otherLeg.complete (snapshot board) sequencer.timer now).2 =
            (leg.complete (snapshot board) sequencer.timer now).2 :=
          leg.complete_nextWaypoint_timer nextWaypoint (snapshot board) sequencer.timer now
        rw [fly_of_evaluated sequencer board found acknowledged follows jump]
        refine evaluated.trans (Prod.ext ?_ ?_)
        · exact congrArg (fun timer => { sequencer with timer }) timer
        · exact (congrArg (fun timer => ({ sequencer with timer } : Sequencer).moveOn changed _)
            timer).trans (moveOn_withRecords agree sound (lands acknowledged jump))
  · have elsewhere : changed.report.value.sequenceId ≠ changed.target.value.sequenceId :=
      acknowledged
    rw [fly_of_elsewhere sequencer acknowledged]
    exact fly_of_elsewhere sequencer elsewhere other leg.index now

/-! ## A tick on either mission -/

/-- The tick evaluates the direction of the next leg on the last declared waypoint, and the
waypoints that follow it in the two missions lead to different places. -/
structure Diverges (sequencer : Sequencer) (board : Blackboard) (other : Mission)
    (leg : ActiveLeg) (nextWaypoint : Waypoint) : Prop where
  evaluates : sequencer.Evaluates board leg
  last : leg.index.toNat + 1 = board.plan.value.waypointCount.toNat
  pointing : leg.action.condition = .pointingTowardsNext
  follows : following? other leg.index = some nextWaypoint
  parts : leg.landing? board.plan.value.waypointCount
      ({ leg with nextWaypoint }.pointsTowardsNext (snapshot board)) ≠
    leg.landing? board.plan.value.waypointCount (leg.pointsTowardsNext (snapshot board))

/-- Unless the tick diverges, the end condition leads to the same place in both missions. -/
theorem lands_of_not_diverges (agree : board.plan.value.Agree board.mission.value other)
    {leg : ActiveLeg} (evaluates : sequencer.Evaluates board leg)
    (inside : leg.index.toNat < board.plan.value.waypointCount.toNat) {nextWaypoint : Waypoint}
    (followsOther : following? other leg.index = some nextWaypoint)
    (together : ¬sequencer.Diverges board other leg nextWaypoint) (now : Micros) :
    leg.landing? board.plan.value.waypointCount
        ({ leg with nextWaypoint }.complete (snapshot board) sequencer.timer now).1 =
      leg.landing? board.plan.value.waypointCount
        (leg.complete (snapshot board) sequencer.timer now).1 := by
  by_cases last : leg.index.toNat + 1 = board.plan.value.waypointCount.toNat
  · by_cases pointing : leg.action.condition = .pointingTowardsNext
    · have pointingOther : { leg with nextWaypoint }.action.condition = .pointingTowardsNext :=
        pointing
      rw [ActiveLeg.complete_of_pointingTowardsNext pointing,
        ActiveLeg.complete_of_pointingTowardsNext pointingOther]
      by_cases same : leg.landing? board.plan.value.waypointCount
            ({ leg with nextWaypoint }.pointsTowardsNext (snapshot board)) =
          leg.landing? board.plan.value.waypointCount (leg.pointsTowardsNext (snapshot board))
      · exact same
      · exact absurd ⟨evaluates, last, pointing, followsOther, same⟩ together
    · rw [ActiveLeg.complete_nextWaypoint pointing]
  · obtain ⟨-, -, follows⟩ := activeLeg?_eq_some_iff.mp evaluates.loaded
    have same := agree.following? (show leg.index.toNat + 1 < _ by omega)
    rw [followsOther, follows, Option.some_inj] at same
    rw [same]

/-- An active sequencer follows the mission before it looks at the leg. -/
theorem lookAt_withRecords (sequencer : Sequencer) (board : Blackboard)
    (agree : board.plan.value.Agree board.mission.value other)
    (sound : board.plan.value.Sound board.mission.value)
    (inside : board.activeWaypoint.value.index.toNat < board.plan.value.waypointCount.toNat)
    (index : UInt16) (now : Micros)
    (flown : let looking := { sequencer with missionRevision := board.mission.revision }
      let facing := { board with target := sequencer.faced board }
      looking.fly (facing.withRecords other) other index now =
        (looking.fly facing board.mission.value index now).map id (·.withRecords other)) :
    let followed := sequencer.followMission board
    let followedOther := sequencer.followMission (board.withRecords other)
    followedOther.1.fly followedOther.2 other index now =
      (followed.1.fly followed.2 board.mission.value index now).map id (·.withRecords other) := by
  intro followed followedOther
  have same : followedOther = followed.map id (·.withRecords other) :=
    followMission_withRecords sequencer board agree sound inside
  rw [same, show followed = _ from followMission_eq board]
  exact flown

theorem proceed_withRecords (sequencer : Sequencer) (board : Blackboard)
    (agree : board.plan.value.Agree board.mission.value other)
    (sound : board.plan.value.Sound board.mission.value)
    (inside : board.activeWaypoint.value.index.toNat < board.plan.value.waypointCount.toNat)
    (now : Micros)
    (flown : board.status.value.armed = true → sequencer.active = true → ∀ alarms,
      let looking : Sequencer :=
        { sequencer with holdsInvalidPlan := false, missionRevision := board.mission.revision }
      let facing : Blackboard := { board with alarms, target := sequencer.faced board }
      looking.fly (facing.withRecords other) other board.activeWaypoint.value.index now =
        (looking.fly facing board.mission.value board.activeWaypoint.value.index now).map id
          (·.withRecords other)) :
    sequencer.proceed (board.withRecords other) now =
      (sequencer.proceed board now).map id (·.withRecords other) := by
  let changed := board.withRecords other
  have alarms := board.setPlanAlarm_withRecords other .ok
  obtain ⟨cleared, settled⟩ := board.setPlanAlarm_frame .ok
  cases armed : board.status.value.armed with
  | false =>
      have unarmed : changed.status.value.armed = false := armed
      rw [proceed_of_unarmed _ board armed, proceed_of_unarmed _ changed unarmed, alarms]
      rfl
  | true =>
      have ready : changed.status.value.armed = true := armed
      cases active : sequencer.active with
      | false =>
          rw [proceed_of_inactive _ board armed active, proceed_of_inactive _ changed ready active,
            alarms, settled]
          exact engage_withRecords _ _ agree sound
      | true =>
          let checked : Sequencer := { sequencer with holdsInvalidPlan := false }
          let facing : Blackboard := { board with alarms := cleared }
          have faces : checked.faced facing = sequencer.faced board := faced_congr active board
            sequencer.settings false board.modeSettings cleared board.journal
          rw [proceed_of_active _ board armed active, proceed_of_active _ changed ready active,
            alarms, settled]
          refine lookAt_withRecords checked facing agree sound inside _ now ?_
          rw [faces]
          exact flown armed active cleared

/-- A tick that does not diverge does the same for both missions. -/
theorem tick_withRecords (agree : board.plan.value.Agree board.mission.value other)
    (inside : board.activeWaypoint.value.index.toNat < board.plan.value.waypointCount.toNat)
    (together : ∀ leg nextWaypoint, ¬sequencer.Diverges board other leg nextWaypoint)
    (now : Micros) :
    sequencer.tick (board.withRecords other) now =
      (sequencer.tick board now).map id (·.withRecords other) := by
  obtain ⟨modeSettings, alarms, journal, frame⟩ :=
    sequencer.settings.checkRecord_frame .modes name board
  have checksOther := sequencer.settings.checkModes_withRecords name board other
  rcases checks : sequencer.settings.checkRecord .modes name board with ⟨settings, checked⟩
  rw [checks] at frame checksOther
  dsimp only [SettingsTopic.modes] at frame
  subst frame
  let ready : Sequencer := { sequencer with settings }
  let settled : Blackboard := { board with modeSettings, alarms, journal }
  have same : ready.standDown (settled.withRecords other) =
      (ready.standDown settled).map id (·.withRecords other) := standDown_withRecords ready settled
  simp only [tick, checks, checksOther, Prod.map, id, Blackboard.status_withRecords,
    Blackboard.plan_withRecords, Blackboard.mission_value_withRecords, agree.check]
  cases selected : board.status.value.chain.contains .pathPlanner with
  | false => exact same
  | true =>
      cases verdict : board.plan.value.check board.mission.value with
      | error cause => exact refuse_withRecords ready settled cause
      | ok =>
          have sound := ((board.plan.value.check_eq_ok_iff board.mission.value).mp verdict).1
          refine proceed_withRecords ready settled agree sound inside now ?_
          intro armed engaged cleared looking facing
          have active : sequencer.active = true := engaged
          have flies : Flies board := ⟨armed, selected, verdict⟩
          have faces : ready.faced settled = sequencer.faced board :=
            faced_congr active board settings sequencer.holdsInvalidPlan modeSettings alarms journal
          obtain ⟨waypoint, action, loadedLeg, -⟩ := leg?_of_sound sound inside
          obtain ⟨leg, loaded⟩ := activeLeg?_of_leg? sound loadedLeg
          obtain ⟨here, found, follows⟩ := activeLeg?_eq_some_iff.mp loaded
          have declared : leg.index.toNat < board.plan.value.waypointCount.toNat := here ▸ inside
          obtain ⟨nextWaypoint, followsOther⟩ := following?_of_sound (agree.sound sound) leg.index
          rw [show settled.activeWaypoint.value.index = leg.index from here.symm]
          refine fly_withRecords looking facing agree sound declared found follows followsOther
            now ?_
          intro acknowledged goesOn
          have judges : sequencer.Judges board :=
            ⟨active, flies, by rw [loaded]; rfl, faces ▸ acknowledged⟩
          have evaluates : sequencer.Evaluates board leg := by
            refine ⟨judges, loaded, fun aborts => ?_⟩
            have jumps : errorJump? leg.index leg.action board.report.value = none := goesOn
            rw [errorJump?_eq (index_le_of_loaded loaded), if_pos aborts] at jumps
            cases jumps
          exact lands_of_not_diverges agree evaluates declared followsOther
            (together leg nextWaypoint) now

theorem setWaypoint_activeWaypoint (sequencer : Sequencer) (board : Blackboard) (index : UInt16) :
    (sequencer.setWaypoint board index).activeWaypoint =
      board.activeWaypoint.publish { index := wrap index board.plan.value.waypointCount } := by
  unfold setWaypoint
  obtain ⟨target, published⟩ := sequencer.publishLeg_frame
    { board.log .debug (name ++ ": Active waypoint "
        ++ Nat.repr (wrap index board.plan.value.waypointCount).toNat) with
      activeWaypoint :=
        board.activeWaypoint.publish { index := wrap index board.plan.value.waypointCount } }
  exact congrArg Blackboard.activeWaypoint published

/-- The active waypoint once an evaluation has led somewhere, or nowhere. -/
def activated (board : Blackboard) (landing : Option UInt16) : Topic ActiveWaypoint :=
  landing.elim board.activeWaypoint fun index => board.activeWaypoint.publish { index }

/-- Different places are told apart, since every activation is a new record. -/
theorem activated_injective (board : Blackboard) : Function.Injective (activated board) := by
  intro first second same
  cases first with
  | none =>
      cases second with
      | none => rfl
      | some index => exact absurd same.symm (Topic.publish_ne _ _)
  | some index =>
      cases second with
      | none => exact absurd same (Topic.publish_ne _ _)
      | some other => exact congrArg (fun topic => some topic.value.index) same

/-- An evaluation activates the waypoint to which the outcome leads. -/
theorem Evaluates.activeWaypoint {leg : ActiveLeg} (evaluates : sequencer.Evaluates board leg)
    (now : Micros) :
    (sequencer.tick board now).2.activeWaypoint =
      activated board (leg.landing? board.plan.value.waypointCount
        (leg.complete (snapshot board) sequencer.timer now).1) := by
  obtain ⟨judges, loaded, goesOn⟩ := evaluates
  obtain ⟨settings, timer, modeSettings, alarms, journal, ticked⟩ :=
    tick_of_judges judges loaded now
  rw [ticked, ActiveLeg.onward?, errorJump?_eq (index_le_of_loaded loaded), if_neg goesOn,
    Option.none_or, ActiveLeg.landing?]
  cases next? leg.index leg.action (leg.complete (snapshot board) sequencer.timer now).1 with
  | none => rfl
  | some index => exact setWaypoint_activeWaypoint _ _ index

/-- The tick evaluates the same end condition in both missions. -/
theorem Evaluates.withRecords (agree : board.plan.value.Agree board.mission.value other)
    {leg : ActiveLeg} (evaluates : sequencer.Evaluates board leg)
    (inside : leg.index.toNat < board.plan.value.waypointCount.toNat)
    {nextWaypoint : Waypoint} (followsOther : following? other leg.index = some nextWaypoint) :
    sequencer.Evaluates (board.withRecords other) { leg with nextWaypoint } := by
  obtain ⟨⟨active, flies, -, acknowledged⟩, loaded, goesOn⟩ := evaluates
  obtain ⟨here, found, -⟩ := activeLeg?_eq_some_iff.mp loaded
  have loadedOther : activeLeg? (board.withRecords other) = some { leg with nextWaypoint } :=
    activeLeg?_eq_some_iff.mpr ⟨here, (agree.leg? flies.sound inside).trans found, followsOther⟩
  have fliesOther : Flies (board.withRecords other) :=
    ⟨flies.armed, flies.selected, agree.check.trans flies.accepted⟩
  have faces := faced_withRecords sequencer board agree flies.sound (here ▸ inside)
  exact ⟨⟨active, fliesOther, by rw [loadedOther]; rfl, by rw [faces]; exact acknowledged⟩,
    loadedOther, goesOn⟩

/-- A tick that diverges leaves another active waypoint. -/
theorem Diverges.activeWaypoint_ne (agree : board.plan.value.Agree board.mission.value other)
    {leg : ActiveLeg} {nextWaypoint : Waypoint}
    (diverges : sequencer.Diverges board other leg nextWaypoint) (now : Micros) :
    (sequencer.tick (board.withRecords other) now).2.activeWaypoint ≠
      (sequencer.tick board now).2.activeWaypoint := by
  obtain ⟨evaluates, last, pointing, followsOther, parts⟩ := diverges
  have evaluatesOther := evaluates.withRecords agree (by omega) followsOther
  have pointingOther : { leg with nextWaypoint }.action.condition = .pointingTowardsNext :=
    pointing
  rw [evaluates.activeWaypoint, evaluatesOther.activeWaypoint,
    ActiveLeg.complete_of_pointingTowardsNext pointing,
    ActiveLeg.complete_of_pointingTowardsNext pointingOther]
  exact fun same => parts (activated_injective board same)

/-- **When surplus records matter.** Two missions that agree on the declared records pass or fail
the check alike. A tick leaves the same active waypoint, target and alarms for both of them exactly
if it does not evaluate the direction of the next leg on the last declared waypoint, with waypoints
after it that lead to different places. -/
theorem tick_agrees_iff (agree : board.plan.value.Agree board.mission.value other)
    (inside : board.activeWaypoint.value.index.toNat < board.plan.value.waypointCount.toNat)
    (now : Micros) :
    let after := (sequencer.tick board now).2
    let afterOther := (sequencer.tick (board.withRecords other) now).2
    board.plan.value.check other = board.plan.value.check board.mission.value ∧
      (afterOther.activeWaypoint = after.activeWaypoint ∧ afterOther.target = after.target ∧
          afterOther.alarms = after.alarms ↔
        ∀ leg nextWaypoint, ¬sequencer.Diverges board other leg nextWaypoint) := by
  intro after afterOther
  refine ⟨agree.check, ?_, ?_⟩
  · rintro ⟨same, -⟩ leg nextWaypoint diverges
    exact diverges.activeWaypoint_ne agree now same
  · intro together
    have same : afterOther = after.withRecords other :=
      congrArg Prod.snd (tick_withRecords agree inside together now)
    rw [same]
    exact ⟨rfl, rfl, rfl⟩

/-! ## A surplus waypoint in the north

The vehicle flies to the north, and each waypoint is complete once it points towards the next one
by ten degrees. -/

def northward : Waypoint := { north := ⟨0x41200000⟩ }

def pointingAlone : Mission :=
  { immediateAlone with
    actions := [{ condition := .pointingTowardsNext, conditionParameters := tenParameters }] }

def pointingPair : Mission :=
  { pointingAlone with waypoints := [{}, northward], waypoints_le := by decide }

def pointingTriple : Mission :=
  { pointingAlone with waypoints := [{}, northward, {}], waypoints_le := by decide }

/-- The mission is engaged, and the follower reports the first leg. -/
def northbound (count : UInt16) (crc : UInt8) (mission : Mission) : Sequencer × Blackboard :=
  ({} : Sequencer).reported
    (sentOut { waypointCount := count, actionCount := 1, crc } mission
      { velocity := ⟨⟨1, 0, 0⟩, 1⟩ })

/-- A surplus waypoint does not matter to the first one of two declared waypoints. -/
theorem agrees_on_first_of_two :
    let ready := northbound 2 175 pointingPair
    let after := (ready.1.tick ready.2 0).2
    let afterOther := (ready.1.tick (ready.2.withRecords pointingTriple) 0).2
    ready.1.active = true ∧ ready.2.plan.value.Agree ready.2.mission.value pointingTriple ∧
      afterOther.activeWaypoint = after.activeWaypoint ∧ afterOther.target = after.target ∧
      afterOther.alarms = after.alarms := by
  have engaged : (northbound 2 175 pointingPair).1.active = true ∧
      (northbound 2 175 pointingPair).2.plan.value =
        { waypointCount := 2, actionCount := 1, crc := 175 } ∧
      (northbound 2 175 pointingPair).2.mission.value.waypoints = pointingPair.waypoints ∧
      (northbound 2 175 pointingPair).2.mission.value.actions = pointingPair.actions ∧
      (northbound 2 175 pointingPair).2.activeWaypoint.value.index = 0 := by decide +kernel
  generalize northbound 2 175 pointingPair = flying at engaged ⊢
  intro ready after afterOther
  obtain ⟨active, planned, waypoints, actions, first⟩ := engaged
  have agree : flying.2.plan.value.Agree flying.2.mission.value pointingTriple := by
    constructor <;> simp only [planned, waypoints, actions] <;> decide
  have inside : flying.2.activeWaypoint.value.index.toNat <
      flying.2.plan.value.waypointCount.toNat := by
    rw [first, planned]
    decide
  refine ⟨active, agree, (tick_agrees_iff agree inside 0).2.mpr ?_⟩
  rintro leg nextWaypoint ⟨evaluates, last, -⟩
  obtain ⟨here, -, -⟩ := activeLeg?_eq_some_iff.mp evaluates.loaded
  rw [here, first, planned] at last
  exact absurd last (by decide)

def pointingLeg : ActiveLeg where
  index := 0
  waypoint := {}
  nextWaypoint := {}
  action := pointingAlone.actions[0]

/-- The arc tangents of the directions are not computed here, so that their values are assumed:
no direction at all is zero, and the north is a quarter turn from the east. Then the surplus
waypoint ends the only declared leg, which does not end without it. -/
theorem diverges_of_surplus (nowhere : Float32.atan2 0 0 = 0)
    (course : Float32.atan2 1 0 = Float32.ofBits 0x3fc90fdb)
    (north : Float32.atan2 10 0 = Float32.ofBits 0x3fc90fdb) :
    let ready := northbound 1 67 pointingAlone
    ready.1.Diverges ready.2 pointingPair pointingLeg northward := by
  have engaged : (northbound 1 67 pointingAlone).1.active = true ∧
      (northbound 1 67 pointingAlone).2.status.value.armed = true ∧
      (northbound 1 67 pointingAlone).2.status.value.chain.contains .pathPlanner = true ∧
      ((northbound 1 67 pointingAlone).2.plan.value.check
        (northbound 1 67 pointingAlone).2.mission.value).isOk = true ∧
      (northbound 1 67 pointingAlone).2.plan.value.waypointCount = 1 ∧
      (northbound 1 67 pointingAlone).2.activeWaypoint.value.index = 0 ∧
      (northbound 1 67 pointingAlone).2.velocity.value.north = 1 ∧
      (northbound 1 67 pointingAlone).2.velocity.value.east = 0 ∧
      leg? (northbound 1 67 pointingAlone).2.mission.value 0 =
        some (pointingLeg.waypoint, pointingLeg.action) ∧
      following? (northbound 1 67 pointingAlone).2.mission.value 0 =
        some pointingLeg.nextWaypoint ∧
      (northbound 1 67 pointingAlone).2.report.value.sequenceId =
        ((northbound 1 67 pointingAlone).1.faced
          (northbound 1 67 pointingAlone).2).value.sequenceId ∧
      ¬(northbound 1 67 pointingAlone).2.report.value.Aborts pointingLeg.action 0 := by
    decide +kernel
  generalize northbound 1 67 pointingAlone = flying at engaged ⊢
  obtain ⟨active, armed, selected, valid, count, first, speed, straight, found, follows,
    acknowledged, goesOn⟩ := engaged
  have loaded : activeLeg? flying.2 = some pointingLeg :=
    activeLeg?_eq_some_iff.mpr ⟨first.symm, found, follows⟩
  have still : (pointingLeg.nextWaypoint.position - pointingLeg.waypoint.position).north = 0 ∧
      (pointingLeg.nextWaypoint.position - pointingLeg.waypoint.position).east = 0 ∧
      (northward.position - pointingLeg.waypoint.position).north = 10 ∧
      (northward.position - pointingLeg.waypoint.position).east = 0 := by decide +kernel
  obtain ⟨stillNorth, stillEast, aheadNorth, aheadEast⟩ := still
  have waits : pointingLeg.pointsTowardsNext (snapshot flying.2) = false := by
    simp only [ActiveLeg.pointsTowardsNext, ActiveLeg.pointsTowardsNextBy, Trigonometry.platform,
      snapshot, stillNorth, stillEast, speed, straight,
      nowhere, course]
    decide +kernel
  have ends : { pointingLeg with nextWaypoint := northward }.pointsTowardsNext
      (snapshot flying.2) = true := by
    simp only [ActiveLeg.pointsTowardsNext, ActiveLeg.pointsTowardsNextBy, Trigonometry.platform,
      snapshot, aheadNorth, aheadEast, speed, straight,
      north, course]
    decide +kernel
  have flies : Flies flying.2 := ⟨armed, selected, PathPlan.check_of_isOk valid⟩
  refine ⟨⟨⟨active, flies, by rw [loaded]; rfl, acknowledged⟩, loaded, goesOn⟩,
    by rw [count]; rfl, rfl, by decide +kernel, ?_⟩
  rw [waits, ends, count]
  decide

end Sequencer
end FlightGuidance
