import FlightGuidance.Arbiter
import FlightGuidance.Proofs.Guidance.ModeGuidance
import FlightGuidance.Proofs.Settings.Frame

/-!
# The parts of an arbiter tick

A tick checks the settings and looks at the battery, decides (`decision`), publishes
the decision if it is fresh, and runs the handler. This module takes the tick apart
along these lines (`tick_eq`), so that a proof about it deals with the decision and
with the handler separately.

The handler of a decision is determined by the mode, the assistance and the stage
that are decided along with it (`decide_handler`). A handler moves assisted control to
another stage only where this makes no difference, so that the returned handler goes with
the status that a tick leaves behind (`tick_status_handler`). Which topics a tick writes, and
what becomes of the target under each handler, is said in `tick_steers`.
-/

set_option autoImplicit false

namespace FlightGuidance

/-- The handler that goes with a flight status. Only in an assisted stabilized mode does
it depend on the stage. -/
def FlightStatus.handler (status : FlightStatus) : ControlHandler :=
  match status.mode with
  | .manual => .manual
  | .stabilized1 | .stabilized2 | .stabilized3 | .stabilized4 | .stabilized5 | .stabilized6 =>
    if status.assist = .none ∨ status.stage = .primary then .stabilized else .pathFollower
  | .autoTune => .stabilized
  | .pathPlanner => .pathPlanner
  | .positionHold | .land | .autoTakeoff | .velocityRoam | .courseLock | .positionRoam
  | .homeLeash | .absolutePosition | .returnToBase | .poi | .autoCruise => .pathFollower

theorem FlightStatus.handler_congr {a b : FlightStatus} (mode : a.mode = b.mode)
    (assist : a.assist = b.assist) (stage : a.stage = b.stage) : a.handler = b.handler := by
  simp only [handler, mode, assist, stage]

/-- The handler of a stabilized mode. -/
theorem FlightStatus.handler_of_bank {status : FlightStatus}
    (bank : status.mode.bank?.isSome = true) :
    status.handler =
      if status.assist = .none ∨ status.stage = .primary then .stabilized else .pathFollower := by
  unfold handler
  cases mode : status.mode <;> rw [mode] at bank <;> first | rfl | cases bank

/-- Outside of the stabilized modes the stage has no part in the handler. -/
theorem FlightStatus.handler_of_not_bank {status : FlightStatus}
    (other : status.mode.bank?.isSome = false) (stage : AssistStage) :
    ({ status with stage } : FlightStatus).handler = status.handler := by
  unfold handler
  dsimp only
  cases mode : status.mode <;> rw [mode] at other <;> first | rfl | cases other

/-- Only the path follower moves the stage. -/
theorem FlightStatus.steered_of_handler {status : FlightStatus}
    (other : status.handler ≠ .pathFollower) (fresh released : Bool) :
    status.steered fresh released = status.stage := by
  unfold handler at other
  unfold steered
  cases mode : status.mode <;> rw [mode] at other <;> first | rfl | exact absurd rfl other

namespace Arbiter

/-! ## The decision -/

/-- The first part of a tick: the switch position in force, and the arbiter and the
blackboard that go with it. -/
def prepare (arbiter : Arbiter) (board : Blackboard) (now : Micros) :
    UInt8 × Arbiter × Blackboard :=
  (arbiter.checkSettings board).1.resolvePosition (arbiter.checkSettings board).2 now

/-- What a tick decides on a blackboard. -/
def decision (arbiter : Arbiter) (board : Blackboard) (now : Micros) :
    ControlHandler × FlightStatus × BrakeBand :=
  let (position, ready, quiet) := arbiter.prepare board now
  let (mode, position) :=
    selectMode position ready.lastPosition ready.modeSettings.lastValid quiet.status.value
  decide mode (ready.context quiet position) ready.band

/-- The flight status on which a tick decides. -/
def decided (arbiter : Arbiter) (board : Blackboard) (now : Micros) : FlightStatus :=
  (arbiter.decision board now).2.1

/-- The path follower flies an assisted mode in all stages but the first. -/
theorem next_follows (band : BrakeBand) (assist : Assist) (stage : AssistStage)
    (throttle : ThrottleStage) (command : PilotCommand) (limits : ThrustLimits)
    (neutralOffset : Float32) :
    let decision := (band.next assist stage throttle command limits neutralOffset).1
    decision.follows = true ↔ decision.stage ≠ .primary := by
  unfold BrakeBand.next AssistDecision.pilot
  cases stage <;> split <;> simp

theorem stabilize_handler (mode : FlightMode) (context : Context) (progress : Progress)
    (band : BrakeBand) :
    let decision := stabilize mode context progress band
    decision.1 =
      if decision.2.1.assist = .none ∨ decision.2.1.stage = .primary then .stabilized
      else .pathFollower := by
  unfold stabilize
  dsimp only
  by_cases unassisted :
      Assist.ofMode context.position mode context.modes context.stabilization = .none
  · rw [if_pos unassisted]
    split
    · rw [if_pos (.inl unassisted)]
    · rw [if_pos (.inl unassisted)]
  · rw [if_neg unassisted]
    dsimp only
    have follows (stage : AssistStage) (throttle : ThrottleStage) := next_follows band
      (Assist.ofMode context.position mode context.modes context.stabilization) stage throttle
      context.command context.limits context.neutralOffset
    simp only [unassisted, false_or, follows, ite_not]

/-- **The handler of a decision is the one that goes with the status decided on.** -/
theorem decide_handler (mode : FlightMode) (context : Context) (band : BrakeBand) :
    (decide mode context band).2.1.handler = (decide mode context band).1 := by
  cases mode with
  | stabilized1 | stabilized2 | stabilized3 | stabilized4 | stabilized5 | stabilized6 =>
      exact (stabilize_handler _ context _ band).symm
  | _ => rfl

theorem decide_chain (mode : FlightMode) (context : Context) (band : BrakeBand) :
    (decide mode context band).2.1.chain = (decide mode context band).1.chain :=
  rfl

theorem decide_armed (mode : FlightMode) (context : Context) (band : BrakeBand) :
    (decide mode context band).2.1.armed = context.status.armed :=
  rfl

/-! ## The tick -/

/-- The outcomes of the three checks of a tick, in their order. -/
def updates (arbiter : Arbiter) (board : Blackboard) : List SettingsUpdate :=
  [(arbiter.modeSettings.check board.modeSettings).1,
    (arbiter.stabilizationSettings.check board.stabilizationSettings).1,
    (arbiter.followerSettings.check board.followerSettings).1]

/-- The alarms once the three checks are reported. -/
def checkedAlarms (arbiter : Arbiter) (board : Blackboard) : Topic Alarms :=
  (arbiter.updates board).foldl (fun alarms update => update.setAlarm alarms) board.alarms

/-- The checks touch none of the other alarms. -/
theorem value_checkedAlarms (arbiter : Arbiter) (board : Blackboard) :
    ∃ severity, (arbiter.checkedAlarms board).value =
      { board.alarms.value with settings := severity } :=
  SettingsUpdate.value_foldl_setAlarm (arbiter.updates board) board.alarms

theorem battery_checkedAlarms (arbiter : Arbiter) (board : Blackboard) :
    (arbiter.checkedAlarms board).value.battery = board.alarms.value.battery := by
  obtain ⟨severity, checked⟩ := arbiter.value_checkedAlarms board
  rw [checked]

theorem checkSettings_eq (arbiter : Arbiter) (board : Blackboard) :
    ∃ journal,
      arbiter.checkSettings board =
        ({ arbiter with
            modeSettings := (arbiter.modeSettings.check board.modeSettings).2.1
            stabilizationSettings :=
              (arbiter.stabilizationSettings.check board.stabilizationSettings).2.1
            followerSettings := (arbiter.followerSettings.check board.followerSettings).2.1 },
          { board with
            modeSettings := (arbiter.modeSettings.check board.modeSettings).2.2
            stabilizationSettings :=
              (arbiter.stabilizationSettings.check board.stabilizationSettings).2.2
            followerSettings := (arbiter.followerSettings.check board.followerSettings).2.2
            alarms := arbiter.checkedAlarms board
            journal }) := by
  obtain ⟨journal, modes⟩ := arbiter.modeSettings.checkRecord_eq .modes name board
  unfold checkSettings
  rw [modes]
  dsimp only [SettingsTopic.modes]
  obtain ⟨journal', stabilization⟩ := arbiter.stabilizationSettings.checkRecord_eq
    .stabilization name { board with
      modeSettings := (arbiter.modeSettings.check board.modeSettings).2.2
      alarms := (arbiter.modeSettings.check board.modeSettings).1.setAlarm board.alarms
      journal }
  rw [stabilization]
  dsimp only [SettingsTopic.stabilization]
  obtain ⟨journal'', follower⟩ := arbiter.followerSettings.checkRecord_eq
    .follower name { board with
      modeSettings := (arbiter.modeSettings.check board.modeSettings).2.2
      stabilizationSettings :=
        (arbiter.stabilizationSettings.check board.stabilizationSettings).2.2
      alarms :=
        (arbiter.stabilizationSettings.check board.stabilizationSettings).1.setAlarm
          ((arbiter.modeSettings.check board.modeSettings).1.setAlarm board.alarms)
      journal := journal' }
  rw [follower]
  exact ⟨journal'', rfl⟩

/-- A look at the battery, with the settings that a tick has checked. -/
def look (arbiter : Arbiter) (board : Blackboard) (now : Micros) :
    UInt8 × BatteryFailsafe × List Message :=
  arbiter.failsafe.apply board.command.value.switchPosition board.status.value.armed
    board.alarms.value.battery (arbiter.modeSettings.check board.modeSettings).2.1.lastValid now

theorem prepare_eq (arbiter : Arbiter) (board : Blackboard) (now : Micros) :
    ∃ journal,
      arbiter.prepare board now =
        ((arbiter.look board now).1,
          { arbiter with
            failsafe := (arbiter.look board now).2.1
            modeSettings := (arbiter.modeSettings.check board.modeSettings).2.1
            stabilizationSettings :=
              (arbiter.stabilizationSettings.check board.stabilizationSettings).2.1
            followerSettings := (arbiter.followerSettings.check board.followerSettings).2.1 },
          { board with
            modeSettings := (arbiter.modeSettings.check board.modeSettings).2.2
            stabilizationSettings :=
              (arbiter.stabilizationSettings.check board.stabilizationSettings).2.2
            followerSettings := (arbiter.followerSettings.check board.followerSettings).2.2
            alarms := arbiter.checkedAlarms board
            journal }) := by
  obtain ⟨journal, checked⟩ := arbiter.checkSettings_eq board
  have battery := arbiter.battery_checkedAlarms board
  rw [prepare, checked, resolvePosition]
  dsimp only
  rw [battery]
  exact ⟨_, rfl⟩

theorem prepare_frame (arbiter : Arbiter) (board : Blackboard) (now : Micros) :
    (arbiter.prepare board now).2.1.guidance = arbiter.guidance ∧
      (arbiter.prepare board now).2.1.first = arbiter.first ∧
      ∃ modeSettings stabilizationSettings followerSettings alarms journal,
        (arbiter.prepare board now).2.2 = { board with
          modeSettings, stabilizationSettings, followerSettings, alarms, journal } := by
  obtain ⟨journal, prepared⟩ := arbiter.prepare_eq board now
  rw [prepared]
  exact ⟨rfl, rfl, _, _, _, _, journal, rfl⟩

theorem commit_frame (board : Blackboard) (next : FlightStatus) :
    ∃ journal, commit board next = { board with
      journal,
      status := board.status.modify fun status => { next with armed := status.armed } } := by
  unfold commit
  dsimp only
  split
  · exact ⟨board.journal, rfl⟩
  · exact ⟨_, rfl⟩

variable (arbiter : Arbiter) (board : Blackboard) (now : Micros)

/-- Whether a tick publishes its decision. -/
def changes : Bool := arbiter.first || differs (arbiter.decided board now) board.status.value

/-- The topic of the flight status when a tick runs the handler. -/
def published : Topic FlightStatus :=
  if arbiter.changes board now then
    board.status.modify fun status => { arbiter.decided board now with armed := status.armed }
  else board.status

/-- The flight mode of a tick, and the switch position that counts as selected. -/
def selection : FlightMode × UInt8 :=
  let (position, ready, quiet) := arbiter.prepare board now
  selectMode position ready.lastPosition ready.modeSettings.lastValid quiet.status.value

/-- What the decision of a tick reads besides the mode. -/
def reading : Context :=
  let (_, ready, quiet) := arbiter.prepare board now
  ready.context quiet (arbiter.selection board now).2

theorem decision_eq :
    arbiter.decision board now =
      decide (arbiter.selection board now).1 (arbiter.reading board now) arbiter.band := rfl

theorem selection_eq :
    arbiter.selection board now =
      selectMode (arbiter.prepare board now).1 arbiter.lastPosition
        (arbiter.modeSettings.check board.modeSettings).2.1.lastValid board.status.value := by
  obtain ⟨journal, prepared⟩ := arbiter.prepare_eq board now
  simp only [selection, prepared]

theorem reading_eq :
    arbiter.reading board now =
      { position := (arbiter.selection board now).2
        status := board.status.value
        command := board.command.value
        accessory := board.accessory.value
        modes := (arbiter.modeSettings.check board.modeSettings).2.1.lastValid
        stabilization :=
          (arbiter.stabilizationSettings.check board.stabilizationSettings).2.1.lastValid
        limits :=
          (arbiter.followerSettings.check board.followerSettings).2.1.lastValid.thrustLimits
        neutralOffset := board.selfTuning.value.offset } := by
  obtain ⟨journal, prepared⟩ := arbiter.prepare_eq board now
  simp only [reading, prepared]
  rfl

theorem reading_status : (arbiter.reading board now).status = board.status.value := by
  rw [reading_eq]

/-- A decision on another mode is always published. -/
theorem changes_of_mode (entered : board.status.value.mode ≠ (arbiter.selection board now).1) :
    arbiter.changes board now = true := by
  have mode : (arbiter.decided board now).mode = (arbiter.selection board now).1 := rfl
  simp only [changes, differs, mode, bne_iff_ne.mpr entered.symm, Bool.true_or, Bool.or_true]

/-- The arbiter when it runs the handler. -/
def settled : Arbiter :=
  { (arbiter.prepare board now).2.1 with
    band := (arbiter.decision board now).2.2
    first := arbiter.first && !arbiter.changes board now
    lastPosition :=
      if arbiter.changes board now then (arbiter.selection board now).2
      else arbiter.lastPosition }

/-- A tick decides once the settings and the battery are looked at, and runs the handler on the
published status. -/
theorem tick_run :
    ∃ journal, arbiter.tick board now =
      (⟨(arbiter.decided board now).handler, arbiter.changes board now⟩,
        (arbiter.settled board now).runHandler
          { (arbiter.prepare board now).2.2 with
            journal, status := arbiter.published board now }
          (arbiter.decided board now).handler (arbiter.changes board now) now) := by
  obtain ⟨-, first, _, _, _, _, _, frame⟩ := arbiter.prepare_frame board now
  have lastPosition : (arbiter.prepare board now).2.1.lastPosition = arbiter.lastPosition := rfl
  rcases settings : arbiter.checkSettings board with ⟨checked, found⟩
  rcases prepared : arbiter.prepare board now with ⟨position, ready, quiet⟩
  rw [prepared] at first frame lastPosition
  dsimp only at first frame lastPosition
  have resolved := prepared
  rw [prepare, settings] at resolved
  dsimp only at resolved
  rcases selected : selectMode position ready.lastPosition ready.modeSettings.lastValid
    quiet.status.value with ⟨mode, place⟩
  have selection : arbiter.selection board now = (mode, place) := by
    simp only [selection, prepared, selected]
  have decides : arbiter.decision board now =
      decide mode (ready.context quiet place) ready.band := by
    simp only [decision, prepared, selected]
  have handler : (decide mode (ready.context quiet place) ready.band).1 =
      (arbiter.decided board now).handler := by
    rw [decided, decides, decide_handler]
  have next : (decide mode (ready.context quiet place) ready.band).2.1 =
      arbiter.decided board now := by
    rw [decided, decides]
  have status : quiet.status = board.status := by rw [frame]
  have fresh : (ready.first || differs (arbiter.decided board now) quiet.status.value) =
      arbiter.changes board now := by
    rw [changes, first, status]
  obtain ⟨journal, committed⟩ := commit_frame quiet (arbiter.decided board now)
  refine ⟨if arbiter.changes board now then journal else quiet.journal, ?_⟩
  simp only [tick, settings, resolved, selected, settled, prepared, selection]
  rw [next, fresh, handler, committed, first, lastPosition, decides]
  cases published : arbiter.changes board now with
  | true =>
      simp only [Arbiter.published, published, if_true, status]
  | false =>
      simp only [Arbiter.published, published, Bool.false_eq_true, if_false, ← status]

/-- A tick runs the handler of its decision on the published status. Before that it has
touched no more than the settings, the alarms and the journal. -/
theorem tick_eq :
    ∃ (settled : Arbiter) (modeSettings : Topic ModeSettings)
      (stabilizationSettings : Topic StabilizationSettings)
      (followerSettings : Topic FollowerSettings) (alarms : Topic Alarms) (journal : Journal),
      settled.guidance = arbiter.guidance ∧
      settled.first = (arbiter.first && !arbiter.changes board now) ∧
      arbiter.tick board now =
        (⟨(arbiter.decided board now).handler, arbiter.changes board now⟩,
          settled.runHandler
            { board with
              modeSettings, stabilizationSettings, followerSettings, alarms, journal
              status := arbiter.published board now }
            (arbiter.decided board now).handler (arbiter.changes board now) now) := by
  obtain ⟨guidance, -, modeSettings, stabilizationSettings, followerSettings, alarms, _, frame⟩ :=
    arbiter.prepare_frame board now
  obtain ⟨journal, ticked⟩ := arbiter.tick_run board now
  refine ⟨arbiter.settled board now, modeSettings, stabilizationSettings, followerSettings, alarms,
    journal, guidance, rfl, ?_⟩
  rw [ticked, frame]

/-! ## The published status -/

theorem decided_eq :
    ∃ mode context band, arbiter.decided board now = (decide mode context band).2.1 ∧
      context.status = board.status.value := by
  obtain ⟨-, -, _, _, _, _, _, frame⟩ := arbiter.prepare_frame board now
  exact ⟨_, _, _, rfl, congrArg (fun quiet => quiet.status.value) frame⟩

theorem decided_chain :
    (arbiter.decided board now).chain = (arbiter.decided board now).handler.chain := by
  obtain ⟨mode, context, band, decides, -⟩ := arbiter.decided_eq board now
  rw [decides, decide_chain, decide_handler]

theorem published_of_changes (changed : arbiter.changes board now = true) :
    (arbiter.published board now).value = arbiter.decided board now := by
  obtain ⟨mode, context, band, decides, same⟩ := arbiter.decided_eq board now
  rw [published, if_pos changed, Topic.value_modify, decides, ← same, ← decide_armed]

theorem published_of_not_changes (same : arbiter.changes board now = false) :
    arbiter.published board now = board.status := by
  rw [published, same]
  rfl

/-- The published status has all of the decision that is compared with it, also when the
decision is not published anew. -/
theorem published_not_differs :
    differs (arbiter.decided board now) (arbiter.published board now).value = false := by
  cases changed : arbiter.changes board now with
  | true =>
      rw [arbiter.published_of_changes board now changed]
      simp only [differs, bne_self_eq_false, Bool.or_false]
  | false =>
      rw [arbiter.published_of_not_changes board now changed]
      exact (Bool.or_eq_false_iff.mp changed).2

theorem published_agrees :
    (arbiter.published board now).value.mode = (arbiter.decided board now).mode ∧
      (arbiter.published board now).value.assist = (arbiter.decided board now).assist ∧
      (arbiter.published board now).value.stage = (arbiter.decided board now).stage := by
  have same := arbiter.published_not_differs board now
  simp only [differs, Bool.or_eq_false_iff, bne_eq_false_iff_eq] at same
  obtain ⟨⟨⟨⟨mode, -⟩, assist⟩, stage⟩, -⟩ := same
  exact ⟨mode.symm, assist.symm, stage.symm⟩

theorem published_settings :
    (arbiter.published board now).value.alwaysStabilizeWhenArmed =
        (arbiter.decided board now).alwaysStabilizeWhenArmed ∧
      (arbiter.published board now).value.throttle = (arbiter.decided board now).throttle := by
  have same := arbiter.published_not_differs board now
  simp only [differs, Bool.or_eq_false_iff, bne_eq_false_iff_eq] at same
  obtain ⟨⟨⟨⟨-, always⟩, -⟩, -⟩, throttle⟩ := same
  exact ⟨always.symm, throttle.symm⟩

theorem published_handler :
    (arbiter.published board now).value.handler = (arbiter.decided board now).handler := by
  obtain ⟨mode, assist, stage⟩ := arbiter.published_agrees board now
  exact FlightStatus.handler_congr mode assist stage

/-! ## The handler -/

/-- What a handler does to the target. Only the modes of the path follower replace it. -/
def Hands (handler : ControlHandler) (before after : Topic Target) : Prop :=
  match handler with
  | .manual | .stabilized => after = before
  | .pathFollower => True
  | .pathPlanner => before.Gated after

theorem runHandler_steers (handler : ControlHandler) (fresh : Bool) :
    board.Steers (arbiter.runHandler board handler fresh now).2 ∧
      Hands handler board.target (arbiter.runHandler board handler fresh now).2.target := by
  cases handler with
  | manual | stabilized => exact ⟨.refl board, rfl⟩
  | pathFollower => exact ⟨ModeGuidance.follow_steers _ fresh board now, trivial⟩
  | pathPlanner =>
      obtain ⟨target, journal, advanced, gated⟩ :=
        arbiter.guidance.followMission_frame fresh board
      have handled : (arbiter.runHandler board .pathPlanner fresh now).2 = _ := advanced
      rw [handled]
      exact ⟨.of_target board target journal, gated⟩

/-- The handler of a flight status leaves all of it alone but for the stage. -/
theorem runHandler_status (fresh : Bool) :
    (arbiter.runHandler board board.status.value.handler fresh now).2.status.value =
      { board.status.value with
        stage := board.status.value.steered fresh
          (board.command.value.released board.stabilizationSettings.value.expo) } := by
  cases handler : board.status.value.handler with
  | manual | stabilized =>
      rw [FlightStatus.steered_of_handler (by rw [handler]; decide)]
      rfl
  | pathFollower => exact arbiter.guidance.follow_status fresh board now
  | pathPlanner =>
      obtain ⟨target, journal, advanced, -⟩ := arbiter.guidance.followMission_frame fresh board
      rw [FlightStatus.steered_of_handler (by rw [handler]; decide)]
      exact congrArg (fun after => after.status.value) advanced

theorem tick_handler :
    (arbiter.tick board now).1.handler = (arbiter.decided board now).handler := by
  obtain ⟨_, _, _, _, _, _, -, -, ticked⟩ := arbiter.tick_eq board now
  rw [ticked]

theorem tick_fresh : (arbiter.tick board now).1.fresh = arbiter.changes board now := by
  obtain ⟨_, _, _, _, _, _, -, -, ticked⟩ := arbiter.tick_eq board now
  rw [ticked]

/-- Whether a tick finds the sticks released. -/
def released : Bool :=
  board.command.value.released
    (arbiter.stabilizationSettings.check board.stabilizationSettings).2.2.value.expo

/-- After a tick the flight status is the published one, at the stage to which the handler has
moved it. -/
theorem tick_status :
    (arbiter.tick board now).2.2.status.value =
      { (arbiter.published board now).value with
        stage := (arbiter.published board now).value.steered (arbiter.changes board now)
          (arbiter.released board) } := by
  obtain ⟨_, prepared⟩ := arbiter.prepare_eq board now
  obtain ⟨journal, ticked⟩ := arbiter.tick_run board now
  rw [ticked, ← published_handler, prepared]
  exact runHandler_status _ _ now _

theorem tick_restages :
    ∃ stage, (arbiter.tick board now).2.2.status.value =
      { (arbiter.published board now).value with stage } :=
  ⟨_, arbiter.tick_status board now⟩

/-- **What a tick writes**: the settings that it restores, the alarms, the flight status, the
journal, and the target as its handler does. -/
theorem tick_steers :
    ∃ modeSettings stabilizationSettings followerSettings alarms status journal target,
      (arbiter.tick board now).2.2 = { board with
        modeSettings, stabilizationSettings, followerSettings, alarms, status, journal, target } ∧
      Hands (arbiter.tick board now).1.handler board.target target := by
  obtain ⟨settled, modeSettings, stabilizationSettings, followerSettings, alarms, journal, -, -,
    ticked⟩ := arbiter.tick_eq board now
  rw [ticked]
  obtain ⟨⟨target, status, journal', handled, -⟩, hands⟩ := settled.runHandler_steers
    { board with
      modeSettings, stabilizationSettings, followerSettings, alarms, journal
      status := arbiter.published board now } now
    (arbiter.decided board now).handler (arbiter.changes board now)
  rw [handled] at hands ⊢
  exact ⟨modeSettings, stabilizationSettings, followerSettings, alarms, status, journal', target,
    rfl, hands⟩

theorem runHandler_notes (handler : ControlHandler) (fresh : Bool) :
    ∃ guidance, (arbiter.runHandler board handler fresh now).1 = { arbiter with guidance } := by
  cases handler with
  | manual | stabilized => exact ⟨arbiter.guidance, rfl⟩
  | pathFollower | pathPlanner => exact ⟨_, rfl⟩

/-- **What a tick leaves**: the settings and the battery as it has looked at them, a note of its
decision, and what the handler writes. -/
theorem tick_leaves :
    ∃ guidance journal target status,
      (arbiter.tick board now).2 =
        ({ arbiter with
            first := false
            guidance
            lastPosition :=
              if arbiter.changes board now then (arbiter.selection board now).2
              else arbiter.lastPosition
            failsafe := (arbiter.look board now).2.1
            band := (arbiter.decision board now).2.2
            modeSettings := (arbiter.modeSettings.check board.modeSettings).2.1
            stabilizationSettings :=
              (arbiter.stabilizationSettings.check board.stabilizationSettings).2.1
            followerSettings := (arbiter.followerSettings.check board.followerSettings).2.1 },
          { board with
            modeSettings := (arbiter.modeSettings.check board.modeSettings).2.2
            stabilizationSettings :=
              (arbiter.stabilizationSettings.check board.stabilizationSettings).2.2
            followerSettings := (arbiter.followerSettings.check board.followerSettings).2.2
            alarms := arbiter.checkedAlarms board
            journal, target, status }) := by
  obtain ⟨_, prepared⟩ := arbiter.prepare_eq board now
  obtain ⟨journal, ticked⟩ := arbiter.tick_run board now
  have first : (arbiter.first && !arbiter.changes board now) = false := by
    rw [changes]
    cases arbiter.first <;> rfl
  rw [ticked]
  obtain ⟨guidance, noted⟩ := (arbiter.settled board now).runHandler_notes
    { (arbiter.prepare board now).2.2 with
      journal, status := arbiter.published board now } now
    (arbiter.decided board now).handler (arbiter.changes board now)
  obtain ⟨⟨target, status, journal', steered, -⟩, -⟩ :=
    (arbiter.settled board now).runHandler_steers
      { (arbiter.prepare board now).2.2 with
        journal, status := arbiter.published board now } now
      (arbiter.decided board now).handler (arbiter.changes board now)
  refine ⟨guidance, journal', target, status, Prod.ext ?_ ?_⟩
  · refine noted.trans ?_
    rw [settled, prepared, first]
  · refine steered.trans ?_
    rw [prepared]

theorem tick_first : (arbiter.tick board now).2.1.first = false := by
  obtain ⟨_, _, _, _, leaves⟩ := arbiter.tick_leaves board now
  rw [leaves]

/-- Arming is not the arbiter's to write. -/
theorem tick_armed :
    (arbiter.tick board now).2.2.status.value.armed = board.status.value.armed := by
  obtain ⟨stage, restaged⟩ := arbiter.tick_restages board now
  rw [restaged, published]
  split <;> rfl

/-- A tick leaves the decision in all that is compared with the next one, but for the stage. -/
theorem tick_agrees :
    let after := (arbiter.tick board now).2.2.status.value
    after.mode = (arbiter.decided board now).mode ∧
      after.assist = (arbiter.decided board now).assist ∧
      after.alwaysStabilizeWhenArmed = (arbiter.decided board now).alwaysStabilizeWhenArmed ∧
      after.throttle = (arbiter.decided board now).throttle := by
  obtain ⟨stage, restaged⟩ := arbiter.tick_restages board now
  obtain ⟨mode, assist, -⟩ := arbiter.published_agrees board now
  obtain ⟨always, throttle⟩ := arbiter.published_settings board now
  intro after
  have same : after = _ := restaged
  rw [same]
  exact ⟨mode, assist, always, throttle⟩

/-- In a stabilized mode it is the published one. -/
theorem tick_bank (bank : (arbiter.decided board now).mode.bank?.isSome = true) :
    (arbiter.tick board now).2.2.status.value = (arbiter.published board now).value := by
  rw [← (arbiter.published_agrees board now).1] at bank
  rw [tick_status, FlightStatus.steered_of_bank bank]

/-- **The handler that a tick returns goes with the status that it leaves behind.** -/
theorem tick_status_handler :
    (arbiter.tick board now).2.2.status.value.handler = (arbiter.tick board now).1.handler := by
  rw [tick_handler, ← published_handler]
  cases bank : (arbiter.decided board now).mode.bank?.isSome with
  | true => rw [arbiter.tick_bank board now bank]
  | false =>
      obtain ⟨stage, restaged⟩ := arbiter.tick_restages board now
      rw [← (arbiter.published_agrees board now).1] at bank
      rw [restaged, FlightStatus.handler_of_not_bank bank]

end Arbiter

/-! ## A brake that is broken off

Two ticks of an assisted mode, of which the first brakes since the sticks are released,
and the second finds that the pilot has taken them back. -/

namespace Blackboard

/-- All stabilized modes are assisted. -/
def assisted (board : Blackboard) : Blackboard :=
  { board with stabilizationSettings := ⟨{ assistMap := Vector.replicate 6 .gpsAssist }, 1⟩ }

/-- The pilot moves the switch. -/
def switched (board : Blackboard) (position : UInt8) : Blackboard :=
  { board with
    command := board.command.modify fun command => { command with switchPosition := position } }

/-- The pilot rolls. -/
def rolled (board : Blackboard) : Blackboard :=
  { board with command := ⟨{ roll := 0.5 }, 1⟩ }

/-- The sticks are released again. -/
def released (board : Blackboard) : Blackboard :=
  { board with command := ⟨{}, 2⟩ }

end Blackboard

namespace Arbiter

variable (arbiter : Arbiter) (board : Blackboard)

def brakingTick : Arbitration × Arbiter × Blackboard := arbiter.tick board.assisted 0

def takenTick : Arbitration × Arbiter × Blackboard :=
  (arbiter.brakingTick board).2.1.tick (arbiter.brakingTick board).2.2.rolled 0

end Arbiter
end FlightGuidance
