import FlightGuidance.Proofs.Arbiter.BrakeEntry
import FlightGuidance.Proofs.Arbiter.Settling
import FlightGuidance.Proofs.Settings.Sharing

/-!
# Steady inputs

A tick that publishes its decision starts the handler over. If it did so again and again, the
guidance of a mode would be engaged on every tick and never run. This module follows ticks between
which the inputs of the arbiter stay the same (`SameInputs`), as does the switch position in force
(`Steady`). Everything else on the blackboard may change.

From the third tick on no decision is published any more, and a tick goes on with the guidance of
the engaged mode (`Steady.goes_on`). Two ticks are not enough: when a brake has begun with the
thrust left to the pilot, the second tick may still take it (`fresh_twice`).
-/

set_option autoImplicit false

namespace FlightGuidance

/-! ## Settings that stay in force -/

namespace SettingsGuard

variable {α : Type} [BEq α] [Settings α]

/-- Since the guard has checked a topic, nothing was published but the record that it has taken. -/
def Undisturbed (guard : SettingsGuard α) (topic next : Topic α) : Prop :=
  next = topic ∨ (next.value == guard.lastValid) = true

/-- A record that the guard has taken stays in force. -/
theorem check_again {guard : SettingsGuard α} {topic next : Topic α}
    (undisturbed : (guard.check topic).2.1.Undisturbed (guard.check topic).2.2 next) :
    ((guard.check topic).2.1.check next).2.1.lastValid = (guard.check topic).2.1.lastValid := by
  have noted := guard.check_seen topic
  generalize (guard.check topic).2 = checked at undisturbed noted
  obtain ⟨taken, topic⟩ := checked
  dsimp only at undisturbed noted ⊢
  unfold check
  by_cases seen : taken.seen = some next.revision
  · rw [if_pos seen]
  rw [if_neg seen]
  rcases undisturbed with rfl | known
  · exact absurd noted seen
  · rw [if_pos known]

end SettingsGuard

namespace Arbiter

variable (arbiter : Arbiter) (board : Blackboard) (now : Micros)

/-! ## The next decision -/

/-- All that the arbiter decides by, besides the switch position in force, is still as a tick has
left it. -/
structure SameInputs (arbiter : Arbiter) (board next : Blackboard) : Prop where
  command : next.command.value = board.command.value
  accessory : next.accessory.value = board.accessory.value
  neutralOffset : next.selfTuning.value.offset = board.selfTuning.value.offset
  status : next.status.value = board.status.value
  modeSettings : arbiter.modeSettings.Undisturbed board.modeSettings next.modeSettings
  stabilizationSettings :
    arbiter.stabilizationSettings.Undisturbed board.stabilizationSettings
      next.stabilizationSettings
  followerSettings :
    arbiter.followerSettings.Undisturbed board.followerSettings next.followerSettings

theorem SameInputs.refl : arbiter.SameInputs board board :=
  ⟨rfl, rfl, rfl, rfl, .inl rfl, .inl rfl, .inl rfl⟩

section Next

variable {arbiter board now} {next : Blackboard} {later : Micros}
  (same : (arbiter.tick board now).2.1.SameInputs (arbiter.tick board now).2.2 next)

include same

theorem check_next :
    let after := (arbiter.tick board now).2.1
    (after.modeSettings.check next.modeSettings).2.1.lastValid =
        (arbiter.modeSettings.check board.modeSettings).2.1.lastValid ∧
      (after.stabilizationSettings.check next.stabilizationSettings).2.1.lastValid =
        (arbiter.stabilizationSettings.check board.stabilizationSettings).2.1.lastValid ∧
      (after.followerSettings.check next.followerSettings).2.1.lastValid =
        (arbiter.followerSettings.check board.followerSettings).2.1.lastValid := by
  obtain ⟨_, _, _, _, leaves⟩ := arbiter.tick_leaves board now
  obtain ⟨-, -, -, -, modes, stabilization, follower⟩ := same
  rw [leaves] at modes stabilization follower ⊢
  exact ⟨SettingsGuard.check_again modes, SettingsGuard.check_again stabilization,
    SettingsGuard.check_again follower⟩

theorem follows_next : next.status.value.Follows (arbiter.decided board now) := by
  rw [same.status]
  obtain ⟨mode, assist, always, throttle⟩ := arbiter.tick_agrees board now
  refine ⟨mode, assist, always, throttle, fun bank => ?_⟩
  rw [arbiter.tick_bank board now bank]
  exact (arbiter.published_agrees board now).2.2

variable
  (inForce : ((arbiter.tick board now).2.1.prepare next later).1 = (arbiter.prepare board now).1)

include inForce

theorem selection_next :
    (arbiter.tick board now).2.1.selection next later = arbiter.selection board now := by
  have mode : next.status.value.mode = (arbiter.selection board now).1 := (follows_next same).mode
  have armed : next.status.value.armed = board.status.value.armed :=
    (congrArg FlightStatus.armed same.status).trans (arbiter.tick_armed board now)
  have noted : (arbiter.tick board now).2.1.lastPosition = arbiter.lastPosition ∨
      (arbiter.tick board now).2.1.lastPosition = (arbiter.selection board now).2 := by
    obtain ⟨_, _, _, _, leaves⟩ := arbiter.tick_leaves board now
    rw [leaves]
    dsimp only
    split
    · exact .inr rfl
    · exact .inl rfl
  rw [selection_eq, inForce, (check_next same).1]
  rw [selection_eq] at mode noted ⊢
  exact selectMode_again mode armed noted

theorem reading_next :
    (arbiter.tick board now).2.1.reading next later =
      { arbiter.reading board now with status := next.status.value } := by
  obtain ⟨_, _, _, _, leaves⟩ := arbiter.tick_leaves board now
  obtain ⟨modes, stabilization, follower⟩ := check_next same
  have command : next.command.value = board.command.value := by
    rw [same.command, leaves]
  have accessory : next.accessory.value = board.accessory.value := by
    rw [same.accessory, leaves]
  have neutralOffset : next.selfTuning.value.offset = board.selfTuning.value.offset := by
    rw [same.neutralOffset, leaves]
  rw [reading_eq, reading_eq, selection_next same inForce, modes, stabilization, follower, command,
    accessory, neutralOffset]

/-- The next tick decides as the last one, but on the status and the band that this one has left. -/
theorem decision_next :
    (arbiter.tick board now).2.1.decision next later =
      decide (arbiter.selection board now).1
        { arbiter.reading board now with status := next.status.value }
        (arbiter.decision board now).2.2 := by
  obtain ⟨_, _, _, _, leaves⟩ := arbiter.tick_leaves board now
  rw [decision_eq, selection_next same inForce, reading_next same inForce, leaves]

end Next

end Arbiter

/-! ## Guidance that goes on -/

/-- One more tick of a handler that is engaged: the path follower runs its mode, and in a mission
the gate of a takeoff leg is advanced. Nothing is engaged and no brake is planned. -/
def ModeGuidance.goOn (guidance : ModeGuidance) (handler : ControlHandler) (board : Blackboard)
    (now : Micros) : ModeGuidance × Blackboard :=
  match handler with
  | .manual | .stabilized => (guidance, board)
  | .pathFollower =>
    let status := board.status.value
    ({ guidance with braking := status.stage == .brake } : ModeGuidance).run status.mode
      status.assist board now
  | .pathPlanner =>
    (guidance,
      if board.target.value.mode = .autoTakeoff then Guidance.advanceGate board else board)

/-- A brake of a stabilized mode is planned only if none was noted. -/
theorem ModeGuidance.follow_of_planned {guidance : ModeGuidance} {board : Blackboard}
    (planned : board.status.value.mode.bank?.isSome = true → board.status.value.stage = .brake →
      guidance.braking = true) (now : Micros) :
    guidance.follow false board now = guidance.goOn .pathFollower board now := by
  have kept : guidance.planBrake board.status.value board =
      ({ guidance with braking := board.status.value.stage == .brake }, board) := by
    unfold planBrake
    dsimp only
    rw [if_neg]
    simp only [Bool.and_eq_true, beq_iff_eq]
    rintro ⟨⟨bank, stage⟩, unplanned⟩
    rw [planned bank stage] at unplanned
    cases unplanned
  simp only [follow, kept]
  rfl

namespace Arbiter

variable (arbiter : Arbiter) (board : Blackboard) (now : Micros)

theorem runHandler_goes_on {handler : ControlHandler}
    (planned : handler = .pathFollower → board.status.value.mode.bank?.isSome = true →
      board.status.value.stage = .brake → arbiter.guidance.braking = true) :
    ((arbiter.runHandler board handler false now).1.guidance,
        (arbiter.runHandler board handler false now).2) =
      arbiter.guidance.goOn handler board now := by
  cases handler with
  | manual | stabilized | pathPlanner => rfl
  | pathFollower => exact ModeGuidance.follow_of_planned (planned rfl) now

/-- In the brake stage of a stabilized mode that is assisted, a tick has noted the brake. -/
theorem tick_planned
    (follower : (arbiter.tick board now).2.2.status.value.handler = .pathFollower)
    (bank : (arbiter.tick board now).2.2.status.value.mode.bank?.isSome = true)
    (stage : (arbiter.tick board now).2.2.status.value.stage = .brake) :
    (arbiter.tick board now).2.1.guidance.braking = true := by
  rw [(arbiter.tick_agrees board now).1] at bank
  rw [arbiter.tick_bank board now bank] at stage
  rw [arbiter.tick_status_handler, arbiter.tick_handler] at follower
  obtain ⟨settled, _, _, _, _, _, -, -, ticked⟩ := arbiter.tick_eq board now
  rw [ticked, follower]
  dsimp only
  rw [runHandler_braking]
  exact beq_iff_eq.mpr stage

/-- A tick that does not publish its decision goes on with the handler of the status, once the
settings are checked. -/
theorem tick_goes_on (unchanged : arbiter.changes board now = false)
    (planned : board.status.value.handler = .pathFollower →
      board.status.value.mode.bank?.isSome = true → board.status.value.stage = .brake →
      arbiter.guidance.braking = true) :
    (arbiter.tick board now).1 = ⟨board.status.value.handler, false⟩ ∧
      ∃ alarms journal,
        ((arbiter.tick board now).2.1.guidance, (arbiter.tick board now).2.2) =
          arbiter.guidance.goOn board.status.value.handler
            { board with
              modeSettings := (arbiter.modeSettings.check board.modeSettings).2.2
              stabilizationSettings :=
                (arbiter.stabilizationSettings.check board.stabilizationSettings).2.2
              followerSettings := (arbiter.followerSettings.check board.followerSettings).2.2
              alarms, journal } now := by
  obtain ⟨_, prepared⟩ := arbiter.prepare_eq board now
  obtain ⟨journal, ticked⟩ := arbiter.tick_run board now
  have guidance : (arbiter.settled board now).guidance = arbiter.guidance :=
    (arbiter.prepare_frame board now).1
  have handler := arbiter.published_handler board now
  rw [arbiter.published_of_not_changes board now unchanged] at ticked handler
  rw [ticked, unchanged, ← handler, prepared]
  refine ⟨rfl, arbiter.checkedAlarms board, journal, ?_⟩
  rw [← guidance] at planned ⊢
  exact (arbiter.settled board now).runHandler_goes_on _ now planned

end Arbiter

/-! ## Ticks on steady inputs -/

/-- An arbiter after a number of ticks, and the blackboard that its next tick finds. In all
these ticks one switch position was in force, and between them the inputs stayed the same. The
clock and the rest of the blackboard are free. -/
inductive Steady (position : UInt8) : Nat → Arbiter → Blackboard → Prop where
  | start (arbiter : Arbiter) (board : Blackboard) : Steady position 0 arbiter board
  | tick {count : Nat} {arbiter : Arbiter} {board : Blackboard}
      (run : Steady position count arbiter board) {now : Micros}
      (inForce : (arbiter.prepare board now).1 = position) {next : Blackboard}
      (same : (arbiter.tick board now).2.1.SameInputs (arbiter.tick board now).2.2 next) :
      Steady position (count + 1) (arbiter.tick board now).2.1 next

namespace Steady

variable {position : UInt8} {count : Nat} {arbiter : Arbiter} {board : Blackboard}

/-- After two ticks the decision is that of the status. -/
theorem changes_eq_false (run : Steady position (count + 2) arbiter board) {now : Micros}
    (inForce : (arbiter.prepare board now).1 = position) :
    arbiter.changes board now = false := by
  rcases run with _ | ⟨run, secondInForce, same⟩
  rcases run with _ | @⟨_, first, found, -, began, firstInForce, _, firstSame⟩
  -- All three decisions are that of the first tick, each on the status and the band before it.
  have again := secondInForce.trans firstInForce.symm
  have started := first.decision_eq found began
  have second := Arbiter.decision_next firstSame again
  have third := Arbiter.decision_next same (inForce.trans secondInForce.symm)
  have follows := Arbiter.follows_next firstSame
  have goesOn := Arbiter.follows_next same
  rw [started] at second
  rw [Arbiter.selection_next firstSame again, Arbiter.reading_next firstSame again, second] at third
  rw [Arbiter.decided, started] at follows
  rw [Arbiter.decided, second] at goesOn
  rw [Arbiter.changes, Arbiter.tick_first, Bool.false_or, Arbiter.decided, third]
  have settles := Arbiter.decide_settles follows goesOn
  dsimp only at settles ⊢
  exact settles

/-- A brake that the last tick has left is noted. -/
theorem planned (run : Steady position (count + 1) arbiter board)
    (follower : board.status.value.handler = .pathFollower)
    (bank : board.status.value.mode.bank?.isSome = true)
    (stage : board.status.value.stage = .brake) : arbiter.guidance.braking = true := by
  rcases run with _ | ⟨-, -, same⟩
  rw [same.status] at follower bank stage
  exact Arbiter.tick_planned _ _ _ follower bank stage

/-- **Steady inputs let the guidance run.** From the third tick on, which is the one after two
others, the handler of the flight status is kept and does not start over. The tick goes on with
the guidance of the engaged mode. Otherwise it does no more than check the settings and report. -/
theorem goes_on (run : Steady position count arbiter board) (later : 2 ≤ count) {now : Micros}
    (inForce : (arbiter.prepare board now).1 = position) :
    (arbiter.tick board now).1 = ⟨board.status.value.handler, false⟩ ∧
      ∃ alarms journal,
        ((arbiter.tick board now).2.1.guidance, (arbiter.tick board now).2.2) =
          arbiter.guidance.goOn board.status.value.handler
            { board with
              modeSettings := (arbiter.modeSettings.check board.modeSettings).2.2
              stabilizationSettings :=
                (arbiter.stabilizationSettings.check board.stabilizationSettings).2.2
              followerSettings := (arbiter.followerSettings.check board.followerSettings).2.2
              alarms, journal } now := by
  obtain ⟨count, rfl⟩ := Nat.exists_eq_add_of_le' later
  refine arbiter.tick_goes_on board now (run.changes_eq_false inForce) ?_
  exact fun follower bank stage => run.planned follower bank stage

end Steady

/-! ## A brake on steady inputs

The sticks are released, and the thrust is below that of a vehicle in flight. -/

/-- The arbiter and its blackboard after two ticks of an assisted mode. -/
def Arbiter.twice (arbiter : Arbiter) (board : Blackboard) : Arbitration × Arbiter × Blackboard :=
  (arbiter.brakingTick board).2.1.tick (arbiter.brakingTick board).2.2 20000

theorem steady_twice :
    Steady 0 2 (({} : Arbiter).twice {}).2.1 (({} : Arbiter).twice {}).2.2 := by
  have inForce :
      (({} : Arbiter).prepare ({} : Blackboard).assisted 0).1 = 0 ∧
        ((({} : Arbiter).brakingTick {}).2.1.prepare (({} : Arbiter).brakingTick {}).2.2 20000).1 =
          0 := by
    decide +kernel
  exact ((Steady.start {} _).tick inForce.1 (Arbiter.SameInputs.refl _ _)).tick inForce.2
    (Arbiter.SameInputs.refl _ _)

/-- The second tick starts over as well: the brake has left the thrust to the pilot when it began,
and now takes it. -/
theorem fresh_twice :
    let first := ({} : Arbiter).brakingTick {}
    let second := ({} : Arbiter).twice {}
    first.1 = ⟨.pathFollower, true⟩ ∧ first.2.2.status.value.throttle = .manual ∧
      second.1 = ⟨.pathFollower, true⟩ ∧ second.2.2.status.value.throttle = .auto := by
  decide +kernel

/-- The third tick goes on. -/
theorem goes_on_after_twice :
    let second := ({} : Arbiter).twice {}
    let third := second.2.1.tick second.2.2 40000
    Steady 0 2 second.2.1 second.2.2 ∧ (second.2.1.prepare second.2.2 40000).1 = 0 ∧
      third.1 = ⟨.pathFollower, false⟩ ∧
      ∃ alarms journal,
        (third.2.1.guidance, third.2.2) =
          second.2.1.guidance.goOn .pathFollower
            { second.2.2 with
              modeSettings := (second.2.1.modeSettings.check second.2.2.modeSettings).2.2
              stabilizationSettings :=
                (second.2.1.stabilizationSettings.check second.2.2.stabilizationSettings).2.2
              followerSettings :=
                (second.2.1.followerSettings.check second.2.2.followerSettings).2.2
              alarms, journal } 40000 := by
  intro second
  have steady : Steady 0 2 second.2.1 second.2.2 := steady_twice
  have inForce : (second.2.1.prepare second.2.2 40000).1 = 0 := by decide +kernel
  have handler : second.2.2.status.value.handler = .pathFollower := by decide +kernel
  clear_value second
  have goesOn := Steady.goes_on steady (by decide) inForce
  rw [handler] at goesOn
  exact ⟨steady, inForce, goesOn⟩

end FlightGuidance
