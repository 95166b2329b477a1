import FlightGuidance.Guidance.ModeGuidance

/-!
# What guidance writes

The guidance of a flight mode steers the vehicle: it writes the target, may move assisted
control to another stage, and adds to the journal (`Steers`). It leaves the rest of the flight
status and all other topics alone. In a mission it writes no more than the gate of a takeoff
leg (`followMission_frame`).

Whether it was braking on its last tick is noted by the ticks that the path follower flies,
and forgotten only when a mission is entered (`follow_braking`, `followMission_braking`).

A stabilized mode needs no more than its brake: the guidance of such a mode plans one
on entry of the brake stage and otherwise leaves the target alone (`follow_bank`).

The stage to which a mode moves assisted control is a matter of the flight status and the sticks
alone (`FlightStatus.steered`, `follow_status`).
-/

set_option autoImplicit false

namespace FlightGuidance

/-- The blackboard is the same but for the target, the stage of assisted control and the
journal. -/
def Blackboard.Steers (before after : Blackboard) : Prop :=
  ∃ target status journal, after = { before with target, status, journal } ∧
    ∃ stage, status.value = { before.status.value with stage }

/-- The target is the same but for the gate of a takeoff. -/
def Topic.Gated (before after : Topic Target) : Prop :=
  after = before ∨ before.value.mode = .autoTakeoff ∧
    ∃ gate : Takeoff.Gate, after = before.modify fun target => target.withGate gate

namespace Blackboard.Steers

theorem of_target (board : Blackboard) (target : Topic Target) (journal : Journal) :
    board.Steers { board with target, journal } :=
  ⟨target, board.status, journal, rfl, board.status.value.stage, rfl⟩

theorem refl (board : Blackboard) : board.Steers board := of_target board board.target board.journal

theorem publishTarget (board : Blackboard) (target : Target) :
    board.Steers (board.publishTarget target) :=
  of_target board (board.target.publish target) board.journal

theorem enterStage (board : Blackboard) (stage : AssistStage) :
    board.Steers (board.enterStage stage) :=
  ⟨board.target, _, board.journal, rfl, stage, rfl⟩

theorem trans {before middle after : Blackboard} (first : before.Steers middle)
    (second : middle.Steers after) : before.Steers after := by
  obtain ⟨_, _, _, rfl, _, middleStage⟩ := first
  obtain ⟨target, status, journal, rfl, stage, lastStage⟩ := second
  refine ⟨target, status, journal, rfl, stage, ?_⟩
  rw [lastStage, middleStage]

end Blackboard.Steers

namespace Guidance

/-! ## Single plans -/

theorem brake_steers (board : Blackboard) : board.Steers (brake board) :=
  (Blackboard.Steers.enterStage board .brake).trans (.publishTarget _ _)

theorem brake_status {board : Blackboard} (braking : board.status.value.stage = .brake) :
    (brake board).status.value = board.status.value := by
  show ({ board.status.value with stage := .brake } : FlightStatus) = _
  rw [← braking]

theorem roam_steers (board : Blackboard) : board.Steers (roam board) := by
  unfold roam
  dsimp only
  split
  · split
    · split
      · exact (Blackboard.Steers.publishTarget board _).trans (.enterStage _ _)
      · exact brake_steers board
    · exact .refl board
  · exact (Blackboard.Steers.publishTarget board _).trans (.enterStage _ _)

/-- The gate is all that changes in a takeoff target, and other targets do not change. -/
theorem advanceGate_frame (board : Blackboard) :
    ∃ target journal, advanceGate board = { board with target, journal } ∧
      board.target.Gated target := by
  unfold advanceGate
  dsimp only
  split
  next takeoff =>
    split
    · exact ⟨board.target, board.journal, rfl, .inl rfl⟩
    · exact ⟨_, _, rfl, .inr ⟨takeoff, _, rfl⟩⟩
  · exact ⟨board.target, board.journal, rfl, .inl rfl⟩

theorem advanceGate_steers (board : Blackboard) : board.Steers (advanceGate board) := by
  obtain ⟨target, journal, advanced, -⟩ := advanceGate_frame board
  rw [advanced]
  exact .of_target board target journal

end Guidance

theorem StickFlight.runVario_steers (flight : StickFlight) (frame : VarioFrame)
    (board : Blackboard) : board.Steers (flight.runVario frame board).2 := by
  unfold runVario
  dsimp only
  split
  · exact .publishTarget board _
  · split
    · exact .refl board
    · exact .publishTarget board _

namespace ModeGuidance

/-! ## The modes of the path follower -/

theorem engage_steers (guidance : ModeGuidance) (mode : FlightMode) (assist : Assist)
    (board : Blackboard) : board.Steers (guidance.engage mode assist board).2 := by
  cases mode with
  | positionHold =>
      by_cases full : assist = .full
      · simp only [engage, if_pos full]
        exact Guidance.brake_steers board
      · simp only [engage, if_neg full]
        exact .publishTarget board _
  | stabilized1 | stabilized2 | stabilized3 | stabilized4 | stabilized5 | stabilized6
  | velocityRoam => exact .refl board
  | _ => exact .publishTarget board _

theorem run_steers (guidance : ModeGuidance) (mode : FlightMode) (assist : Assist)
    (board : Blackboard) (now : Micros) :
    board.Steers (guidance.run mode assist board now).2 := by
  cases mode with
  | velocityRoam => exact Guidance.roam_steers board
  | land =>
      by_cases unassisted : assist = .none
      · simp only [run, if_pos unassisted]
        exact .refl board
      · simp only [run, if_neg unassisted]
        exact Guidance.roam_steers board
  | autoTakeoff => exact Guidance.advanceGate_steers board
  | courseLock | positionRoam | homeLeash | absolutePosition =>
      exact StickFlight.runVario_steers _ _ board
  | autoCruise => exact .publishTarget board _
  | _ => exact .refl board

theorem planBrake_steers (guidance : ModeGuidance) (status : FlightStatus)
    (board : Blackboard) : board.Steers (guidance.planBrake status board).2 := by
  unfold planBrake
  dsimp only
  split
  · exact Guidance.brake_steers board
  · exact .refl board

theorem follow_steers (guidance : ModeGuidance) (fresh : Bool) (board : Blackboard)
    (now : Micros) : board.Steers (guidance.follow fresh board now).2 := by
  cases fresh with
  | true =>
      let entered := board.log .debug ("Path follower engaged in " ++ board.status.value.mode.label)
      have logged : board.Steers entered := .of_target board board.target entered.journal
      exact (logged.trans (engage_steers guidance _ _ entered)).trans (planBrake_steers _ _ _)
  | false => exact (planBrake_steers guidance _ board).trans (run_steers _ _ _ _ now)

/-! ## Missions -/

theorem followMission_frame (guidance : ModeGuidance) (fresh : Bool) (board : Blackboard) :
    ∃ target journal, (guidance.followMission fresh board).2 = { board with target, journal } ∧
      board.target.Gated target := by
  -- Whether or not the engagement is reported first, only the gate is looked at.
  have gated (journal : Journal) :
      ∃ target journal',
        (if board.target.value.mode = .autoTakeoff then
            Guidance.advanceGate { board with journal }
          else { board with journal }) = { board with target, journal := journal' } ∧
        board.target.Gated target := by
    split
    · exact Guidance.advanceGate_frame { board with journal }
    · exact ⟨board.target, journal, rfl, .inl rfl⟩
  cases fresh with
  | true => exact gated (board.log .debug "Path planner engaged").journal
  | false => exact gated board.journal

/-! ## The note of a brake -/

theorem run_braking (guidance : ModeGuidance) (mode : FlightMode) (assist : Assist)
    (board : Blackboard) (now : Micros) :
    (guidance.run mode assist board now).1.braking = guidance.braking := by
  cases mode <;> rfl

/-- A tick of the path follower notes whether it began in the brake stage. -/
theorem follow_braking (guidance : ModeGuidance) (fresh : Bool) (board : Blackboard)
    (now : Micros) :
    (guidance.follow fresh board now).1.braking = (board.status.value.stage == .brake) := by
  cases fresh with
  | true => rfl
  | false => exact run_braking _ _ _ _ _

theorem followMission_braking (guidance : ModeGuidance) (fresh : Bool) (board : Blackboard) :
    (guidance.followMission fresh board).1.braking = (!fresh && guidance.braking) := by
  cases fresh <;> rfl

/-! ## Stabilized modes -/

section Bank

variable {mode : FlightMode} (bank : mode.bank?.isSome = true)

include bank

theorem engage_bank (guidance : ModeGuidance) (assist : Assist) (board : Blackboard) :
    guidance.engage mode assist board = (guidance, board) := by
  cases mode <;> first | rfl | cases bank

theorem run_bank (guidance : ModeGuidance) (assist : Assist) (board : Blackboard)
    (now : Micros) : guidance.run mode assist board now = (guidance, board) := by
  cases mode <;> first | rfl | cases bank

end Bank

/-- The guidance of a stabilized mode plans a brake if the stage is to brake and it was
not braking on its last tick. It does nothing else but to report its engagement. -/
theorem follow_bank (guidance : ModeGuidance) (fresh : Bool) (board : Blackboard)
    (bank : board.status.value.mode.bank?.isSome = true) (now : Micros) :
    ∃ journal, (guidance.follow fresh board now).2 =
      if board.status.value.stage = .brake ∧ guidance.braking = false then
        Guidance.brake { board with journal }
      else { board with journal } := by
  have planned (board' : Blackboard) :
      (guidance.planBrake board.status.value board').2 =
        if board.status.value.stage = .brake ∧ guidance.braking = false then
          Guidance.brake board'
        else board' := by
    simp only [planBrake, bank, Bool.true_and, Bool.and_eq_true, beq_iff_eq, Bool.not_eq_true']
  cases fresh with
  | true =>
      let entered := board.log .debug ("Path follower engaged in " ++ board.status.value.mode.label)
      refine ⟨entered.journal, Eq.trans ?_ (planned entered)⟩
      simp only [follow, engage_bank bank]
      rfl
  | false =>
      refine ⟨board.journal, Eq.trans ?_ (planned board)⟩
      simp only [follow, run_bank bank]
      rfl

end ModeGuidance

/-! ## The stage of assisted control -/

/-- Whether the roll and the pitch stick are centered once they are shaped. -/
def PilotCommand.released (command : PilotCommand) (expo : StickExpo) : Bool :=
  Guidance.centered (Stick.expo command.roll (Single.ofInt expo.roll.toInt)) &&
    Guidance.centered (Stick.expo command.pitch (Single.ofInt expo.pitch.toInt))

namespace FlightStatus

/-- The stage after a tick of roaming. -/
def roamed (status : FlightStatus) (released : Bool) : AssistStage :=
  if released then
    if status.stage = .primary then if status.mode = .land then .hold else .brake
    else status.stage
  else .primary

/-- The stage to which the guidance of a mode moves assisted control. Only modes that brake or
roam move it. -/
def steered (status : FlightStatus) (fresh released : Bool) : AssistStage :=
  match status.mode with
  | .positionHold => if fresh ∧ status.assist = .full then .brake else status.stage
  | .velocityRoam => if fresh then status.stage else status.roamed released
  | .land => if fresh ∨ status.assist = .none then status.stage else status.roamed released
  | _ => status.stage

theorem steered_of_bank {status : FlightStatus} (bank : status.mode.bank?.isSome = true)
    (fresh released : Bool) : status.steered fresh released = status.stage := by
  unfold steered
  cases mode : status.mode <;> rw [mode] at bank <;> first | rfl | cases bank

end FlightStatus

theorem Guidance.roam_status (board : Blackboard) :
    (roam board).status.value =
      { board.status.value with
        stage := board.status.value.roamed
          (board.command.value.released board.stabilizationSettings.value.expo) } := by
  unfold roam FlightStatus.roamed PilotCommand.released
  dsimp only
  split
  · split
    · split <;> rfl
    · rfl
  · rfl

theorem StickFlight.runVario_status (flight : StickFlight) (frame : VarioFrame)
    (board : Blackboard) : (flight.runVario frame board).2.status = board.status := by
  unfold runVario
  dsimp only
  split
  · rfl
  · split <;> rfl

namespace ModeGuidance

theorem engage_status (guidance : ModeGuidance) (board : Blackboard) (released : Bool) :
    (guidance.engage board.status.value.mode board.status.value.assist board).2.status.value =
      { board.status.value with stage := board.status.value.steered true released } := by
  unfold FlightStatus.steered
  cases mode : board.status.value.mode with
  | positionHold =>
      dsimp only [engage]
      by_cases full : board.status.value.assist = .full
      · rw [if_pos full, if_pos ⟨rfl, full⟩]
        rfl
      · rw [if_neg full, if_neg fun both => full both.2]
        rfl
  | _ => rfl

theorem run_status (guidance : ModeGuidance) (board : Blackboard) (now : Micros) :
    (guidance.run board.status.value.mode board.status.value.assist board now).2.status.value =
      { board.status.value with
        stage := board.status.value.steered false
          (board.command.value.released board.stabilizationSettings.value.expo) } := by
  unfold FlightStatus.steered
  cases mode : board.status.value.mode with
  | velocityRoam => exact Guidance.roam_status board
  | land =>
      dsimp only [run]
      by_cases unassisted : board.status.value.assist = .none
      · rw [if_pos unassisted, if_pos (.inr unassisted)]
      · rw [if_neg unassisted, if_neg (by simp [unassisted])]
        exact Guidance.roam_status board
  | autoTakeoff =>
      obtain ⟨_, _, advanced, -⟩ := Guidance.advanceGate_frame board
      exact congrArg (fun after => after.status.value) advanced
  | courseLock | positionRoam | homeLeash | absolutePosition =>
      exact congrArg Topic.value (guidance.sticks.runVario_status _ board)
  | _ => rfl

/-- A brake is planned for a mode that is in the brake stage already. -/
theorem planBrake_status (guidance : ModeGuidance) (status : FlightStatus) {board : Blackboard}
    (staged : status.mode.bank?.isSome = true → board.status.value.stage = status.stage) :
    (guidance.planBrake status board).2.status.value = board.status.value := by
  unfold planBrake
  dsimp only
  split
  next entering =>
    simp only [Bool.and_eq_true, beq_iff_eq] at entering
    exact Guidance.brake_status ((staged entering.1.1).trans entering.1.2)
  · rfl

/-- **The stage that a tick of the path follower leaves.** It does not depend on what the guidance
has noted, and the rest of the flight status is left alone. -/
theorem follow_status (guidance : ModeGuidance) (fresh : Bool) (board : Blackboard)
    (now : Micros) :
    (guidance.follow fresh board now).2.status.value =
      { board.status.value with
        stage := board.status.value.steered fresh
          (board.command.value.released board.stabilizationSettings.value.expo) } := by
  cases fresh with
  | true =>
      let entered := board.log .debug ("Path follower engaged in " ++ board.status.value.mode.label)
      have engaged := guidance.engage_status entered
        (board.command.value.released board.stabilizationSettings.value.expo)
      refine (planBrake_status _ board.status.value fun bank => ?_).trans engaged
      have stays := congrArg FlightStatus.stage engaged
      exact stays.trans (FlightStatus.steered_of_bank bank _ _)
  | false =>
      have kept : (guidance.planBrake board.status.value board).2.status.value =
          board.status.value :=
        guidance.planBrake_status board.status.value fun _ => rfl
      obtain ⟨target, status, journal, planned, -⟩ :=
        guidance.planBrake_steers board.status.value board
      have ran := run_status (guidance.planBrake board.status.value board).1
        (guidance.planBrake board.status.value board).2 now
      rw [kept] at ran
      refine ran.trans ?_
      rw [planned]

end ModeGuidance
end FlightGuidance
