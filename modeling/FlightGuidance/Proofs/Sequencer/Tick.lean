import FlightGuidance.Proofs.Sequencer.Walk

/-!
# What a tick of the sequencer can do

A tick outside of mission flight leaves the active waypoint alone, and so does a tick
of mission flight that does not go on from the active leg. Else it activates a waypoint
of the plan and publishes its leg. `Outcome` says for each of the three what has become
of the active waypoint, the target and the note of the mission, and `tick_outcome` that
there is no other; a proof about runs of the sequencer splits along it.

In mission flight an active sequencer first publishes the leg of a mission that has been
loaded since (`faced`). It then judges the leg if the follower reports the target that it
faces (`Judges`): a judged leg is aborted, or its end condition is evaluated. A leg that is
not judged is left as it is, and so is the timer (`tick_of_not_judges`).
-/

set_option autoImplicit false

namespace FlightGuidance

/-! ## The way on from a leg -/

namespace ActiveLeg

/-- Whether a look at the leg leads away from it: the report aborts it, or the command
of its action goes on. -/
def Departs (leg : ActiveLeg) (report : FollowerReport) (complete : Bool) : Prop :=
  report.Aborts leg.action leg.index.toNat ∨ leg.action.command.course complete ≠ .stay

/-- The index that a look at the leg activates. -/
def onward? (leg : ActiveLeg) (report : FollowerReport) (complete : Bool) : Option UInt16 :=
  (Sequencer.errorJump? leg.index leg.action report).or
    (Sequencer.next? leg.index leg.action complete)

theorem onward?_isSome_iff {leg : ActiveLeg} (small : leg.index.toNat ≤ 64)
    (report : FollowerReport) (complete : Bool) :
    (leg.onward? report complete).isSome = true ↔ leg.Departs report complete := by
  have stays : (Sequencer.next? leg.index leg.action complete).isSome = true ↔
      leg.action.command.course complete ≠ .stay := by
    unfold Sequencer.next? LegCommand.course
    cases leg.action.command <;> cases complete <;> simp
  rw [onward?, Departs, Option.isSome_or, Bool.or_eq_true, stays, Sequencer.errorJump?_eq small]
  by_cases aborts : report.Aborts leg.action leg.index.toNat
  · simp [aborts]
  · simp [aborts]

end ActiveLeg

namespace Sequencer

/-! ## Mission flight -/

/-- The loaded mission is to be flown: the vehicle is armed, the sequencer is engaged in
the control chain, and the plan is accepted. -/
structure Flies (board : Blackboard) : Prop where
  armed : board.status.value.armed = true
  selected : board.status.value.chain.contains .pathPlanner = true
  accepted : board.plan.value.check board.mission.value = .ok ()

theorem Flies.inMission {board : Blackboard} (flies : Flies board) :
    InMission board.plan board.mission board :=
  ⟨rfl, rfl, flies.armed, flies.selected⟩

theorem Flies.sound {board : Blackboard} (flies : Flies board) :
    board.plan.value.Sound board.mission.value :=
  ((board.plan.value.check_eq_ok_iff board.mission.value).mp flies.accepted).1

/-- The leg of the active waypoint, if its records are loaded. -/
def activeLeg? (board : Blackboard) : Option ActiveLeg :=
  let index := board.activeWaypoint.value.index
  (leg? board.mission.value index).bind fun (waypoint, action) =>
    (following? board.mission.value index).map fun nextWaypoint =>
      { index, waypoint, nextWaypoint, action }

theorem activeLeg?_eq_some_iff {board : Blackboard} {leg : ActiveLeg} :
    activeLeg? board = some leg ↔
      leg.index = board.activeWaypoint.value.index ∧
      leg? board.mission.value leg.index = some (leg.waypoint, leg.action) ∧
      following? board.mission.value leg.index = some leg.nextWaypoint := by
  simp only [activeLeg?, Option.bind_eq_some_iff, Option.map_eq_some_iff, Prod.exists]
  constructor
  · rintro ⟨waypoint, action, found, nextWaypoint, follows, rfl⟩
    exact ⟨rfl, found, follows⟩
  · rintro ⟨active, found, follows⟩
    rw [active] at found follows
    refine ⟨leg.waypoint, leg.action, found, leg.nextWaypoint, follows, ?_⟩
    rw [← active]

/-- A loaded leg has a waypoint after it. -/
theorem activeLeg?_of_leg? {board : Blackboard} (sound : board.plan.value.Sound board.mission.value)
    {waypoint : Waypoint} {action : PathAction}
    (found : leg? board.mission.value board.activeWaypoint.value.index = some (waypoint, action)) :
    ∃ leg, activeLeg? board = some leg := by
  obtain ⟨nextWaypoint, follows⟩ := following?_of_sound sound board.activeWaypoint.value.index
  exact ⟨⟨_, waypoint, nextWaypoint, action⟩, activeLeg?_eq_some_iff.mpr ⟨rfl, found, follows⟩⟩

/-- The target of the active leg when a tick looks at it. The leg of a mission that was
loaded since is published first. -/
def faced (sequencer : Sequencer) (board : Blackboard) : Topic Target :=
  (sequencer.followMission board).2.target

/-- An active sequencer judges the leg in mission flight: the leg is loaded, and the
follower reports the target that it faces. -/
structure Judges (sequencer : Sequencer) (board : Blackboard) : Prop where
  active : sequencer.active = true
  flies : Flies board
  loaded : (activeLeg? board).isSome = true
  acknowledged : board.report.value.sequenceId = (sequencer.faced board).value.sequenceId

/-- A tick evaluates the end condition of a leg: the leg is judged, and not aborted. -/
structure Evaluates (sequencer : Sequencer) (board : Blackboard) (leg : ActiveLeg) : Prop where
  judges : sequencer.Judges board
  loaded : activeLeg? board = some leg
  goesOn : ¬board.report.value.Aborts leg.action leg.index.toNat

/-- A tick of mission flight activates a waypoint: it engages the mission, or it judges
a leg that it goes on from. -/
def Moves (sequencer : Sequencer) (board : Blackboard) (now : Micros) : Prop :=
  sequencer.active = false ∨
    ∃ leg, activeLeg? board = some leg ∧ sequencer.Judges board ∧
      leg.Departs board.report.value (leg.complete (snapshot board) sequencer.timer now).1

/-- The active waypoint of a loaded leg is small enough for the sequencer's arithmetic. -/
theorem index_le_of_loaded {board : Blackboard} {leg : ActiveLeg}
    (loaded : activeLeg? board = some leg) : leg.index.toNat ≤ 64 := by
  obtain ⟨-, found, -⟩ := activeLeg?_eq_some_iff.mp loaded
  cases waypoint : board.mission.value.waypoint? leg.index with
  | none => simp [leg?, waypoint] at found
  | some _ =>
      obtain ⟨inside, -⟩ := List.getElem?_eq_some_iff.mp waypoint
      exact Nat.le_of_lt (Nat.lt_of_lt_of_le inside board.mission.value.waypoints_le)

theorem onward?_isSome_iff_of_loaded {board : Blackboard} {leg : ActiveLeg}
    (loaded : activeLeg? board = some leg) (report : FollowerReport) (complete : Bool) :
    (leg.onward? report complete).isSome = true ↔ leg.Departs report complete :=
  ActiveLeg.onward?_isSome_iff (index_le_of_loaded loaded) report complete

/-! ## Activating a waypoint -/

theorem publishLeg_frame (sequencer : Sequencer) (board : Blackboard) :
    ∃ target, sequencer.publishLeg board = { board with target } := by
  unfold publishLeg
  split
  · dsimp only
    split
    · exact ⟨board.target, rfl⟩
    · exact ⟨_, rfl⟩
  · exact ⟨board.target, rfl⟩

/-- An active sequencer publishes the leg of the active waypoint if it is loaded. -/
theorem publishLeg_of_loaded (sequencer : Sequencer) (board : Blackboard)
    (active : sequencer.active = true) {waypoint : Waypoint} {action : PathAction}
    (found : leg? board.mission.value board.activeWaypoint.value.index =
      some (waypoint, action)) :
    sequencer.publishLeg board = board.publishTarget
      (legTarget board.mission.value board.position.value board.activeWaypoint.value.index
        waypoint action) := by
  simp only [publishLeg, active, if_true, found]

/-- With an accepted plan an active sequencer activates a waypoint of it, finds the leg
and publishes it. -/
theorem setWaypoint_of_sound {sequencer : Sequencer} (active : sequencer.active = true)
    {board : Blackboard} (sound : board.plan.value.Sound board.mission.value) (index : UInt16) :
    let activated := wrap index board.plan.value.waypointCount
    ∃ waypoint action journal,
      activated.toNat < board.plan.value.waypointCount.toNat ∧
      leg? board.mission.value activated = some (waypoint, action) ∧
      sequencer.setWaypoint board index = { board with
        journal
        activeWaypoint := board.activeWaypoint.publish { index := activated }
        target := board.target.publish
          (legTarget board.mission.value board.position.value activated waypoint action) } := by
  intro activated
  have inside : activated.toNat < board.plan.value.waypointCount.toNat := by
    rw [toNat_wrap]
    exact Course.within_lt sound.waypointCount_pos _
  obtain ⟨waypoint, action, found, -⟩ := leg?_of_sound sound inside
  exact ⟨waypoint, action, _, inside, found, publishLeg_of_loaded _ _ active found⟩

/-- Activate the waypoint to which a look at the leg leads, if it leads to any. -/
def moveOn (sequencer : Sequencer) (board : Blackboard) : Option UInt16 → Blackboard
  | none => board
  | some index => sequencer.setWaypoint board index

/-! ## A look at the active leg -/

theorem fly_of_unloaded (sequencer : Sequencer) (board : Blackboard) {mission : Mission}
    {index : UInt16} (unloaded : leg? mission index = none) (now : Micros) :
    sequencer.fly board mission index now = (sequencer, board) := by
  simp only [fly, unloaded]

theorem fly_of_elsewhere (sequencer : Sequencer) {board : Blackboard}
    (elsewhere : board.report.value.sequenceId ≠ board.target.value.sequenceId)
    (mission : Mission) (index : UInt16) (now : Micros) :
    sequencer.fly board mission index now = (sequencer, board) := by
  unfold fly
  split
  · rfl
  · exact if_pos elsewhere

section Acknowledged

variable (sequencer : Sequencer) (board : Blackboard) {mission : Mission} {leg : ActiveLeg}
  (found : leg? mission leg.index = some (leg.waypoint, leg.action))
  (acknowledged : board.report.value.sequenceId = board.target.value.sequenceId)

include found acknowledged

theorem fly_of_aborted {destination : UInt16}
    (aborted : errorJump? leg.index leg.action board.report.value = some destination)
    (now : Micros) :
    sequencer.fly board mission leg.index now =
      (sequencer, sequencer.setWaypoint
        (board.log .warn (name ++ ": Path follower failed, jumping to waypoint "
          ++ Nat.repr destination.toNat)) destination) := by
  simp only [fly, found, if_neg (not_not.mpr acknowledged), aborted]

theorem fly_of_evaluated (follows : following? mission leg.index = some leg.nextWaypoint)
    (goesOn : errorJump? leg.index leg.action board.report.value = none) (now : Micros) :
    let outcome := leg.complete (snapshot board) sequencer.timer now
    let after := { sequencer with timer := outcome.2 }
    sequencer.fly board mission leg.index now =
      (after, after.moveOn board (next? leg.index leg.action outcome.1)) := by
  rcases leg with ⟨index, waypoint, nextWaypoint, action⟩
  dsimp only at found follows goesOn ⊢
  simp only [fly, found, follows, if_neg (not_not.mpr acknowledged), goesOn]
  cases next? index action (ActiveLeg.complete ⟨index, waypoint, nextWaypoint, action⟩
    (snapshot board) sequencer.timer now).1 with
  | none => rfl
  | some next => rfl

/-- A look at a leg in flight aborts it or evaluates its end condition. -/
theorem fly_of_acknowledged (follows : following? mission leg.index = some leg.nextWaypoint)
    (now : Micros) :
    ∃ timer journal,
      sequencer.fly board mission leg.index now =
        ({ sequencer with timer },
          { sequencer with timer }.moveOn { board with journal }
            (leg.onward? board.report.value
              (leg.complete (snapshot board) sequencer.timer now).1)) := by
  rw [ActiveLeg.onward?]
  cases jump : errorJump? leg.index leg.action board.report.value with
  | some destination =>
      exact ⟨sequencer.timer, _, fly_of_aborted sequencer board found acknowledged jump now⟩
  | none =>
      rw [Option.none_or]
      exact ⟨_, board.journal, fly_of_evaluated sequencer board found acknowledged follows jump now⟩

end Acknowledged

/-! ## A tick of mission flight -/

theorem followMission_eq {sequencer : Sequencer} (board : Blackboard) :
    sequencer.followMission board =
      ({ sequencer with missionRevision := board.mission.revision },
        { board with target := sequencer.faced board }) := by
  unfold faced followMission
  by_cases current : board.mission.revision = sequencer.missionRevision
  · rw [if_pos current, current]
  · rw [if_neg current]
    obtain ⟨target, published⟩ := publishLeg_frame
      { sequencer with missionRevision := board.mission.revision } board
    dsimp only
    rw [published]

section Faced

variable (sequencer : Sequencer) (board : Blackboard)

theorem faced_of_current (current : board.mission.revision = sequencer.missionRevision) :
    sequencer.faced board = board.target := by
  rw [faced, followMission_of_current current]

theorem faced_of_unloaded
    (unloaded : leg? board.mission.value board.activeWaypoint.value.index = none) :
    sequencer.faced board = board.target := by
  unfold faced followMission
  split
  · rfl
  · simp only [publishLeg, unloaded]
    split <;> rfl

theorem faced_of_reloaded (active : sequencer.active = true)
    (reloaded : board.mission.revision ≠ sequencer.missionRevision) {waypoint : Waypoint}
    {action : PathAction}
    (found : leg? board.mission.value board.activeWaypoint.value.index =
      some (waypoint, action)) :
    sequencer.faced board = board.target.publish
      (legTarget board.mission.value board.position.value board.activeWaypoint.value.index
        waypoint action) := by
  have published := publishLeg_of_loaded
    { sequencer with missionRevision := board.mission.revision } board active found
  unfold faced followMission
  rw [if_neg reloaded]
  exact congrArg Blackboard.target published

/-- Whether or not the leg is published first, another publication makes it a new target. -/
theorem faced_publish_revision_ne (active : sequencer.active = true) :
    (sequencer.faced board).revision + 1 ≠ board.target.revision := by
  by_cases current : board.mission.revision = sequencer.missionRevision
  · rw [faced_of_current sequencer board current]
    simp
  · cases found : leg? board.mission.value board.activeWaypoint.value.index with
    | none =>
        rw [faced_of_unloaded sequencer board found]
        simp
    | some records =>
        rw [faced_of_reloaded sequencer board active current found, Topic.revision_publish,
          UInt64.add_assoc]
        simp

end Faced

/-- The target that an active sequencer faces depends neither on its settings nor on its notes
of the plan. -/
theorem faced_congr {sequencer : Sequencer} (active : sequencer.active = true)
    (board : Blackboard) (settings : SettingsGuard ModeSettings) (holdsInvalidPlan : Bool)
    (modeSettings : Topic ModeSettings) (alarms : Topic Alarms) (journal : Journal) :
    ({ sequencer with settings, holdsInvalidPlan } : Sequencer).faced
      { board with modeSettings, alarms, journal } = sequencer.faced board := by
  by_cases current : board.mission.revision = sequencer.missionRevision
  · exact Eq.trans (faced_of_current _ _ current) (faced_of_current _ _ current).symm
  · cases found : leg? board.mission.value board.activeWaypoint.value.index with
    | none => exact Eq.trans (faced_of_unloaded _ _ found) (faced_of_unloaded _ _ found).symm
    | some records =>
        have reloaded := faced_of_reloaded _ _ active current found
        have settled := faced_of_reloaded
          { sequencer with settings, holdsInvalidPlan }
          { board with modeSettings, alarms, journal } active current found
        exact settled.trans reloaded.symm

/-- An active sequencer looks at the leg, having published that of a mission which was
loaded since. -/
theorem tick_of_active {sequencer : Sequencer} (active : sequencer.active = true)
    {board : Blackboard} (flies : Flies board) (now : Micros) :
    ∃ settings modeSettings alarms journal,
      sequencer.tick board now =
        { sequencer with
          settings, holdsInvalidPlan := false, missionRevision := board.mission.revision }.fly
          { board with modeSettings, alarms, journal, target := sequencer.faced board }
          board.mission.value board.activeWaypoint.value.index now := by
  obtain ⟨settings, modeSettings, alarms, journal, ticked⟩ :=
    tick_of_inMission flies.accepted flies.inMission sequencer now
  refine ⟨settings, modeSettings, alarms, journal, ?_⟩
  rw [ticked, if_pos active, followMission_eq, faced_congr active]

/-- A leg that is not judged is left as it is, and so is the timer. -/
theorem tick_of_not_judges {sequencer : Sequencer} (active : sequencer.active = true)
    {board : Blackboard} (flies : Flies board) (waits : ¬sequencer.Judges board)
    (now : Micros) :
    ∃ settings modeSettings alarms journal,
      sequencer.tick board now =
        ({ sequencer with
            settings, holdsInvalidPlan := false, missionRevision := board.mission.revision },
          { board with modeSettings, alarms, journal, target := sequencer.faced board }) := by
  obtain ⟨settings, modeSettings, alarms, journal, ticked⟩ := tick_of_active active flies now
  refine ⟨settings, modeSettings, alarms, journal, ?_⟩
  rw [ticked]
  cases found : leg? board.mission.value board.activeWaypoint.value.index with
  | none => exact fly_of_unloaded _ _ found now
  | some records =>
      obtain ⟨leg, loaded⟩ := activeLeg?_of_leg? flies.sound found
      refine fly_of_elsewhere _ (fun acknowledged => waits ?_) _ _ now
      exact ⟨active, flies, by rw [loaded]; rfl, acknowledged⟩

/-- A judged leg is aborted, or its end condition is evaluated. -/
theorem tick_of_judges {sequencer : Sequencer} {board : Blackboard}
    (judges : sequencer.Judges board) {leg : ActiveLeg} (loaded : activeLeg? board = some leg)
    (now : Micros) :
    ∃ settings timer modeSettings alarms journal,
      let after : Sequencer := { sequencer with
        settings, timer, holdsInvalidPlan := false, missionRevision := board.mission.revision }
      sequencer.tick board now =
        (after,
          after.moveOn
            { board with modeSettings, alarms, journal, target := sequencer.faced board }
            (leg.onward? board.report.value
              (leg.complete (snapshot board) sequencer.timer now).1)) := by
  obtain ⟨settings, modeSettings, alarms, journal, ticked⟩ :=
    tick_of_active judges.active judges.flies now
  obtain ⟨same, found, follows⟩ := activeLeg?_eq_some_iff.mp loaded
  obtain ⟨timer, journal', flown⟩ := fly_of_acknowledged
    { sequencer with
      settings, holdsInvalidPlan := false, missionRevision := board.mission.revision }
    { board with modeSettings, alarms, journal, target := sequencer.faced board }
    found judges.acknowledged follows now
  refine ⟨settings, timer, modeSettings, alarms, journal', ?_⟩
  rw [ticked, ← same]
  exact flown

/-- A new engagement activates a waypoint. -/
theorem tick_of_inactive {sequencer : Sequencer} (inactive : sequencer.active = false)
    {board : Blackboard} (flies : Flies board) (now : Micros) :
    ∃ index settings modeSettings alarms journal,
      let after : Sequencer := { sequencer with
        active := true, settings, holdsInvalidPlan := false
        missionRevision := board.mission.revision }
      sequencer.tick board now =
        (after, after.setWaypoint { board with modeSettings, alarms, journal } index) := by
  obtain ⟨settings, modeSettings, alarms, journal, ticked⟩ :=
    tick_of_inMission flies.accepted flies.inMission sequencer now
  rw [inactive] at ticked
  exact ⟨_, settings, modeSettings, alarms, _, ticked⟩

/-! ## All outcomes of a tick -/

/-- The outcomes of a tick. -/
inductive Outcome (sequencer : Sequencer) (board : Blackboard) (now : Micros) :
    Sequencer × Blackboard → Prop where
  /-- There is no mission flight. The target may be replaced by a hold of the position, and
  an active sequencer stays so only while the vehicle is not armed. -/
  | grounded {after : Sequencer} {modeSettings : Topic ModeSettings} {alarms : Topic Alarms}
      {journal : Journal} {target : Topic Target} (idle : ¬Flies board)
      (stands : after.active = true → board.status.value.armed = false ∧
        sequencer.active = true ∧ after.missionRevision = sequencer.missionRevision ∧
        target = board.target) :
      Outcome sequencer board now (after, { board with modeSettings, alarms, journal, target })
  /-- The active leg goes on. -/
  | stays {settings : SettingsGuard ModeSettings} {timer : LegTimer}
      {modeSettings : Topic ModeSettings} {alarms : Topic Alarms} {journal : Journal}
      (flies : Flies board) (active : sequencer.active = true)
      (keeps : ¬sequencer.Moves board now) :
      Outcome sequencer board now
        ({ sequencer with
            settings, timer, holdsInvalidPlan := false
            missionRevision := board.mission.revision },
          { board with modeSettings, alarms, journal, target := sequencer.faced board })
  /-- A waypoint of the plan is activated, and its leg published. -/
  | activates {after : Sequencer} {modeSettings : Topic ModeSettings} {alarms : Topic Alarms}
      {journal : Journal} {earlier : Topic Target} {index : UInt16} {waypoint : Waypoint}
      {action : PathAction} (flies : Flies board) (moves : sequencer.Moves board now)
      (active : after.active = true) (noted : after.missionRevision = board.mission.revision)
      (inside : index.toNat < board.plan.value.waypointCount.toNat)
      (found : leg? board.mission.value index = some (waypoint, action))
      (written : earlier.revision + 1 ≠ board.target.revision) :
      Outcome sequencer board now
        (after,
          { board with
            modeSettings, alarms, journal
            activeWaypoint := board.activeWaypoint.publish { index }
            target := earlier.publish
              (legTarget board.mission.value board.position.value index waypoint action) })

theorem standDown_frame (sequencer : Sequencer) (board : Blackboard) :
    ∃ alarms, sequencer.standDown board =
      ({ sequencer with active := false }, { board with alarms }) := by
  obtain ⟨alarms, cleared⟩ := board.setPlanAlarm_frame .ok
  exact ⟨alarms, by rw [standDown, cleared]⟩

theorem refuse_frame (sequencer : Sequencer) (board : Blackboard) (cause : PlanError) :
    ∃ alarms journal target, sequencer.refuse board cause =
      ({ sequencer with active := false, holdsInvalidPlan := true },
        { board with alarms, journal, target }) := by
  unfold refuse
  cases sequencer.holdsInvalidPlan with
  | true =>
      obtain ⟨alarms, raised⟩ := board.setPlanAlarm_frame .critical
      exact ⟨alarms, board.journal, board.target, congrArg _ raised⟩
  | false =>
      let held := Guidance.hold
        (board.log .error (name ++ ": Path plan rejected: " ++ cause.message))
      obtain ⟨alarms, raised⟩ := held.setPlanAlarm_frame .critical
      exact ⟨alarms, held.journal, held.target, congrArg _ raised⟩

section Proceed

variable (sequencer : Sequencer) (board : Blackboard)

theorem proceed_of_unarmed (unarmed : board.status.value.armed = false) (now : Micros) :
    sequencer.proceed board now =
      ({ sequencer with holdsInvalidPlan := false }, board.setPlanAlarm .ok) := by
  obtain ⟨alarms, cleared⟩ := board.setPlanAlarm_frame .ok
  simp only [proceed, cleared, unarmed, Bool.not_false, if_true]

theorem proceed_of_inactive (armed : board.status.value.armed = true)
    (inactive : sequencer.active = false) (now : Micros) :
    sequencer.proceed board now =
      { sequencer with holdsInvalidPlan := false }.engage (board.setPlanAlarm .ok) := by
  obtain ⟨alarms, cleared⟩ := board.setPlanAlarm_frame .ok
  unfold proceed
  rw [cleared]
  dsimp only
  rw [armed, inactive, if_neg (by simp), if_pos (by simp)]

theorem proceed_of_active (armed : board.status.value.armed = true)
    (active : sequencer.active = true) (now : Micros) :
    let followed :=
      { sequencer with holdsInvalidPlan := false }.followMission (board.setPlanAlarm .ok)
    sequencer.proceed board now =
      followed.1.fly followed.2 board.mission.value board.activeWaypoint.value.index now := by
  obtain ⟨alarms, cleared⟩ := board.setPlanAlarm_frame .ok
  unfold proceed
  rw [cleared]
  dsimp only
  rw [armed, if_neg (by simp), if_neg (by simp [active])]

end Proceed

/-- A tick checks the settings before anything else, and reports the outcome. -/
theorem tick_of_reported (sequencer : Sequencer) (board : Blackboard) (now : Micros) :
    ∃ journal,
      let checked := sequencer.settings.check board.modeSettings
      let ready := { sequencer with settings := checked.2.1 }
      let settled := { board with
        journal, modeSettings := checked.2.2, alarms := checked.1.setAlarm board.alarms }
      sequencer.tick board now =
        if board.status.value.chain.contains .pathPlanner = true then
          match board.plan.value.check board.mission.value with
          | .error cause => ready.refuse settled cause
          | .ok () => ready.proceed settled now
        else ready.standDown settled := by
  let checked := sequencer.settings.check board.modeSettings
  obtain ⟨journal, checks⟩ :
      ∃ journal, sequencer.settings.checkRecord .modes name board =
        (checked.2.1, { board with
          journal, modeSettings := checked.2.2, alarms := checked.1.setAlarm board.alarms }) :=
    sequencer.settings.checkRecord_eq .modes name board
  refine ⟨journal, ?_⟩
  simp only [tick, checks]
  cases board.status.value.chain.contains .pathPlanner <;> rfl

theorem tick_of_checked (sequencer : Sequencer) (board : Blackboard) (now : Micros) :
    ∃ settings modeSettings alarms journal,
      let ready := { sequencer with settings }
      let settled := { board with modeSettings, alarms, journal }
      sequencer.tick board now =
        if board.status.value.chain.contains .pathPlanner = true then
          match board.plan.value.check board.mission.value with
          | .error cause => ready.refuse settled cause
          | .ok () => ready.proceed settled now
        else ready.standDown settled := by
  obtain ⟨journal, ticked⟩ := sequencer.tick_of_reported board now
  exact ⟨_, _, _, journal, ticked⟩

theorem tick_of_not_flies (sequencer : Sequencer) {board : Blackboard} (idle : ¬Flies board)
    (now : Micros) : Outcome sequencer board now (sequencer.tick board now) := by
  obtain ⟨settings, modeSettings, alarms, journal, ticked⟩ := sequencer.tick_of_checked board now
  rw [ticked]
  split
  next selected =>
    split
    next cause _ =>
      obtain ⟨raised, journal', target, refuses⟩ := { sequencer with settings }.refuse_frame
        { board with modeSettings, alarms, journal } cause
      rw [refuses]
      exact .grounded idle (fun active => nomatch active)
    next accepted =>
      have unarmed : board.status.value.armed = false :=
        Bool.eq_false_iff.mpr fun armed => idle ⟨armed, selected, accepted⟩
      let ready : Sequencer := { sequencer with settings }
      let settled : Blackboard := { board with modeSettings, alarms, journal }
      obtain ⟨cleared, frame⟩ := settled.setPlanAlarm_frame .ok
      rw [proceed_of_unarmed ready settled unarmed, frame]
      exact .grounded idle fun active => ⟨unarmed, active, rfl, rfl⟩
  next =>
    obtain ⟨cleared, stands⟩ := { sequencer with settings }.standDown_frame
      { board with modeSettings, alarms, journal }
    rw [stands]
    exact .grounded idle (fun active => nomatch active)

/-- Activating a waypoint of an accepted plan is an outcome of a tick. -/
theorem outcome_of_setWaypoint {sequencer : Sequencer} {board : Blackboard} {now : Micros}
    (flies : Flies board) (moves : sequencer.Moves board now) {after : Sequencer}
    (active : after.active = true) (noted : after.missionRevision = board.mission.revision)
    (modeSettings : Topic ModeSettings) (alarms : Topic Alarms) (journal : Journal)
    {earlier : Topic Target} (written : earlier.revision + 1 ≠ board.target.revision)
    (index : UInt16) :
    Outcome sequencer board now
      (after,
        after.setWaypoint { board with modeSettings, alarms, journal, target := earlier }
          index) := by
  obtain ⟨waypoint, action, journal', inside, found, activated⟩ := setWaypoint_of_sound active
    (show PathPlan.Sound ({ board with
      modeSettings, alarms, journal, target := earlier } : Blackboard).plan.value _ from
        flies.sound) index
  rw [activated]
  exact .activates flies moves active noted inside found written

theorem outcome_of_judges {sequencer : Sequencer} {board : Blackboard}
    (judges : sequencer.Judges board) (now : Micros) :
    Outcome sequencer board now (sequencer.tick board now) := by
  obtain ⟨leg, loaded⟩ := Option.isSome_iff_exists.mp judges.loaded
  obtain ⟨settings, timer, modeSettings, alarms, journal, ticked⟩ :=
    tick_of_judges judges loaded now
  rw [ticked]
  have departs := onward?_isSome_iff_of_loaded loaded board.report.value
    (leg.complete (snapshot board) sequencer.timer now).1
  cases onward : leg.onward? board.report.value
    (leg.complete (snapshot board) sequencer.timer now).1 with
  | none =>
      refine .stays judges.flies judges.active ?_
      rintro (inactive | ⟨other, same, -, leaves⟩)
      · rw [judges.active] at inactive
        cases inactive
      · rw [loaded, Option.some_inj] at same
        subst same
        rw [onward] at departs
        exact absurd (departs.mpr leaves) (by simp)
  | some index =>
      rw [onward] at departs
      have moves : sequencer.Moves board now := .inr ⟨leg, loaded, judges, departs.mp rfl⟩
      refine outcome_of_setWaypoint judges.flies moves ?_ ?_ _ _ _ ?_ index
      · exact judges.active
      · rfl
      · exact sequencer.faced_publish_revision_ne board judges.active

/-- **Every tick has one of the outcomes.** -/
theorem tick_outcome (sequencer : Sequencer) (board : Blackboard) (now : Micros) :
    Outcome sequencer board now (sequencer.tick board now) := by
  by_cases flies : Flies board
  · cases active : sequencer.active with
    | false =>
        obtain ⟨index, settings, modeSettings, alarms, journal, ticked⟩ :=
          tick_of_inactive active flies now
        rw [ticked]
        exact outcome_of_setWaypoint flies (.inl active) rfl rfl _ _ _ (by simp) index
    | true =>
        by_cases judges : sequencer.Judges board
        · exact outcome_of_judges judges now
        · obtain ⟨settings, modeSettings, alarms, journal, ticked⟩ :=
            tick_of_not_judges active flies judges now
          rw [ticked]
          refine .stays flies active ?_
          rintro (inactive | ⟨leg, -, judged, -⟩)
          · rw [active] at inactive
            cases inactive
          · exact judges judged
  · exact sequencer.tick_of_not_flies flies now

/-! ## The notes of the sequencer -/

/-- A tick outside of mission flight keeps the timer and the mission that was noted. It notes
whether the plan of a selected mission is invalid. -/
theorem tick_of_grounded (sequencer : Sequencer) {board : Blackboard} (idle : ¬Flies board)
    (now : Micros) :
    ∃ active settings, (sequencer.tick board now).1 = { sequencer with
      active, settings
      holdsInvalidPlan :=
        if board.status.value.chain.contains .pathPlanner then
          !(board.plan.value.check board.mission.value).isOk
        else sequencer.holdsInvalidPlan } := by
  obtain ⟨settings, modeSettings, alarms, journal, ticked⟩ := sequencer.tick_of_checked board now
  let ready : Sequencer := { sequencer with settings }
  let settled : Blackboard := { board with modeSettings, alarms, journal }
  rw [ticked]
  cases selected : board.status.value.chain.contains .pathPlanner with
  | false =>
      obtain ⟨cleared, stands⟩ := ready.standDown_frame settled
      exact ⟨_, _, congrArg Prod.fst stands⟩
  | true =>
      simp only [if_true]
      cases verdict : board.plan.value.check board.mission.value with
      | error cause =>
          obtain ⟨raised, journal', target, refuses⟩ := ready.refuse_frame settled cause
          exact ⟨_, _, congrArg Prod.fst refuses⟩
      | ok =>
          have unarmed : board.status.value.armed = false :=
            Bool.eq_false_iff.mpr fun armed => idle ⟨armed, selected, verdict⟩
          exact ⟨_, _, congrArg Prod.fst (proceed_of_unarmed ready settled unarmed now)⟩

theorem fly_sequencer (sequencer : Sequencer) (board : Blackboard) (mission : Mission)
    (index : UInt16) (now : Micros) :
    ∃ timer, (sequencer.fly board mission index now).1 = { sequencer with timer } := by
  unfold fly
  split
  · exact ⟨sequencer.timer, rfl⟩
  split
  · exact ⟨sequencer.timer, rfl⟩
  split
  · exact ⟨sequencer.timer, rfl⟩
  split
  · exact ⟨sequencer.timer, rfl⟩
  dsimp only
  split
  · exact ⟨_, rfl⟩
  · exact ⟨_, rfl⟩

/-- A tick of mission flight engages the mission, notes it, and finds the plan valid. -/
theorem tick_of_flies (sequencer : Sequencer) {board : Blackboard} (flies : Flies board)
    (now : Micros) :
    ∃ timer settings, (sequencer.tick board now).1 = { sequencer with
      timer, settings, active := true, holdsInvalidPlan := false
      missionRevision := board.mission.revision } := by
  cases active : sequencer.active with
  | false =>
      obtain ⟨index, settings, modeSettings, alarms, journal, ticked⟩ :=
        tick_of_inactive active flies now
      exact ⟨_, _, congrArg Prod.fst ticked⟩
  | true =>
      obtain ⟨settings, modeSettings, alarms, journal, ticked⟩ := tick_of_active active flies now
      obtain ⟨timer, flown⟩ := fly_sequencer
        { sequencer with
          settings, holdsInvalidPlan := false, missionRevision := board.mission.revision }
        { board with modeSettings, alarms, journal, target := sequencer.faced board }
        board.mission.value board.activeWaypoint.value.index now
      refine ⟨timer, settings, ?_⟩
      rw [ticked, flown, active]

/-- In mission flight a tick writes the active waypoint exactly if it moves. -/
theorem tick_moves_iff (sequencer : Sequencer) {board : Blackboard} (flies : Flies board)
    (now : Micros) :
    (sequencer.tick board now).2.activeWaypoint.revision ≠ board.activeWaypoint.revision ↔
      sequencer.Moves board now := by
  have outcome := sequencer.tick_outcome board now
  generalize sequencer.tick board now = after at outcome
  cases outcome with
  | grounded idle => exact absurd flies idle
  | stays _ _ keeps => simp [keeps]
  | activates _ moves => simp [moves]

end Sequencer
end FlightGuidance
