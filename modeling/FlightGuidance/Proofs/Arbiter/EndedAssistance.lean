import FlightGuidance.Proofs.Arbiter.Settling

/-!
# Assistance that ends

Assistance of a mode may end while the mode goes on, by a movement of the switch or by new
settings. What it has made of the stages is then of no use, and a decision without assistance is
meant to leave the flight, and the thrust, to the pilot (`FlightStatus.NotBegun`).

This module follows the flight status while only the arbiter writes it (`SoleWriter`). Stabilized
modes start the stages over when their assistance changes, and holding a position never moves them.
Landing and taking off do: their assistance makes the throttle automatic, and nothing takes that
back (`FlightStatus.Remembers`). So a decision without assistance leaves all to the pilot, unless
it is one to land or to take off and the mode has been assisted since it was entered
(`SoleWriter.notBegun_iff`).
-/

set_option autoImplicit false

namespace FlightGuidance

/-- Assistance has not begun: the pilot flies, and has the thrust in hand. -/
def FlightStatus.NotBegun (status : FlightStatus) : Prop :=
  status.stage = .primary ∧ status.throttle = .manual

/-- Whether the mode of a flight status has been assisted since it was entered, by what is known of
the status before. -/
def FlightStatus.assistedSince (status before : FlightStatus) (assisted : Bool) : Bool :=
  status.assist != .none || (assisted && status.mode == before.mode)

/-- The arbiter and the blackboard after any number of ticks, from the start on. In between all
records may change, of the flight status only whether the vehicle is armed. The last index tells
whether the present mode has been assisted since it was entered. -/
inductive SoleWriter : Arbiter → Blackboard → Bool → Prop where
  | start : SoleWriter {} {} false
  | change {arbiter : Arbiter} {board : Blackboard} {assisted : Bool}
      (run : SoleWriter arbiter board assisted) (next : Blackboard) (armed : Bool)
      (status : next.status.value = { board.status.value with armed }) :
      SoleWriter arbiter next assisted
  | tick {arbiter : Arbiter} {board : Blackboard} {assisted : Bool}
      (run : SoleWriter arbiter board assisted) (now : Micros) :
      SoleWriter (arbiter.tick board now).2.1 (arbiter.tick board now).2.2
        ((arbiter.tick board now).2.2.status.value.assistedSince board.status.value assisted)

/-! ## The assistance of single modes -/

namespace Assist

variable (position : UInt8) (settings : ModeSettings) (stabilization : StabilizationSettings)

/-- The pilot keeps the thrust of an assisted hold. -/
theorem ofMode_positionHold :
    ofMode position .positionHold settings stabilization = .none ∨
      ofMode position .positionHold settings stabilization = .primaryThrust := by
  unfold ofMode
  rw [if_neg (by decide)]
  split
  · exact .inl rfl
  · exact .inl rfl
  · exact .inr rfl

/-- Landing and taking off are assisted in full. -/
theorem ofMode_vertical {mode : FlightMode} (vertical : mode = .land ∨ mode = .autoTakeoff)
    (assisted : ofMode position mode settings stabilization ≠ .none) :
    ofMode position mode settings stabilization = .full := by
  unfold ofMode at assisted ⊢
  rcases vertical with rfl | rfl
  all_goals
    rw [if_neg (by decide)] at assisted ⊢
    split
    next found => rw [found] at assisted; exact absurd rfl assisted
    next found => rw [found] at assisted; exact absurd rfl assisted
    · rfl

end Assist

/-! ## What is remembered of assistance -/

/-- Modes whose stages start over when their assistance changes, or which have none. -/
def FlightMode.startsOver : FlightMode → Bool
  | velocityRoam | positionHold | land | autoTakeoff => false
  | _ => true

namespace FlightStatus

/-- What a flight status remembers of assistance. Whether its mode has been assisted since it was
entered matters only to a landing and to a takeoff, which keep the automatic throttle. -/
def Remembers (status : FlightStatus) (assisted : Bool) : Prop :=
  match status.mode with
  | .velocityRoam => status.assist ≠ .none
  | .positionHold => status.assist ≠ .full ∧ status.NotBegun
  | .land | .autoTakeoff =>
    if assisted then status.throttle = .auto else status.assist = .none ∧ status.NotBegun
  | _ => status.assist = .none → status.NotBegun

theorem remembers_of_startsOver {status : FlightStatus}
    (startsOver : status.mode.startsOver = true) (assisted : Bool) :
    status.Remembers assisted ↔ (status.assist = .none → status.NotBegun) := by
  unfold Remembers
  cases mode : status.mode <;> rw [mode] at startsOver <;> first | rfl | cases startsOver

theorem remembers_of_vertical {status : FlightStatus}
    (vertical : status.mode = .land ∨ status.mode = .autoTakeoff) (assisted : Bool) :
    status.Remembers assisted ↔
      if assisted then status.throttle = .auto else status.assist = .none ∧ status.NotBegun := by
  unfold Remembers
  rcases vertical with mode | mode <;> rw [mode]

theorem Remembers.of_agrees {status other : FlightStatus} {assisted : Bool}
    (remembers : status.Remembers assisted) (mode : other.mode = status.mode)
    (assist : other.assist = status.assist) (stage : other.stage = status.stage)
    (throttle : other.throttle = status.throttle) : other.Remembers assisted := by
  unfold Remembers NotBegun at remembers ⊢
  rw [mode, assist, stage, throttle]
  exact remembers

/-- The handlers move the stage only while the mode is assisted. -/
theorem Remembers.steered {status : FlightStatus} {assisted : Bool}
    (remembers : status.Remembers assisted) (fresh released : Bool) :
    ({ status with stage := status.steered fresh released } : FlightStatus).Remembers assisted := by
  unfold Remembers NotBegun at remembers ⊢
  unfold FlightStatus.steered
  dsimp only
  cases mode : status.mode with
  | velocityRoam => rwa [mode] at remembers
  | positionHold =>
      rw [mode] at remembers
      obtain ⟨partly, primary, manual⟩ := remembers
      exact ⟨partly, (if_neg fun both => partly both.2).trans primary, manual⟩
  | land =>
      rw [mode] at remembers
      cases assisted with
      | true => exact remembers
      | false =>
          obtain ⟨unassisted, primary, manual⟩ := remembers
          exact ⟨unassisted, (if_pos (.inr unassisted)).trans primary, manual⟩
  | _ => rwa [mode] at remembers

/-- What the pilot is left with when no assistance is decided on. -/
theorem Remembers.pilot_iff {status : FlightStatus} {assisted : Bool}
    (remembers : status.Remembers assisted) (unassisted : status.assist = .none) :
    status.NotBegun ↔ ¬(assisted = true ∧ (status.mode = .land ∨ status.mode = .autoTakeoff)) := by
  unfold Remembers at remembers
  cases mode : status.mode with
  | velocityRoam =>
      rw [mode] at remembers
      exact absurd unassisted remembers
  | positionHold =>
      rw [mode] at remembers
      simp [remembers.2]
  | land | autoTakeoff =>
      rw [mode] at remembers
      cases assisted with
      | true =>
          have automatic : status.throttle = .auto := remembers
          simp [NotBegun, automatic]
      | false => simp [remembers.2]
  | _ =>
      rw [mode] at remembers
      simp [remembers unassisted]

end FlightStatus

namespace Arbiter

/-! ## Decisions -/

section Decision

variable {context : Context} {assisted : Bool} (remembers : context.status.Remembers assisted)

include remembers

/-- Without assistance the stages begin anew, or are those of a status in which they do. -/
theorem startProgress_of_remembers {mode : FlightMode} (startsOver : mode.startsOver = true)
    (unassisted : (startProgress mode context.status).assist = .none) :
    startProgress mode context.status = .fresh .none := by
  by_cases same : context.status.mode = mode
  · rw [startProgress_of_mode same] at unassisted ⊢
    have ended : context.status.assist = .none := unassisted
    rw [FlightStatus.remembers_of_startsOver (same ▸ startsOver)] at remembers
    obtain ⟨primary, manual⟩ := remembers ended
    rw [ended, primary, manual]
    rfl
  · exact startProgress_of_enters same

theorem stabilize_of_remembers {mode : FlightMode} (startsOver : mode.startsOver = true)
    (band : BrakeBand)
    (unassisted :
      (stabilize mode context (startProgress mode context.status) band).2.1.assist = .none) :
    (stabilize mode context (startProgress mode context.status) band).2.1 = .fresh .none := by
  rw [stabilize_assist] at unassisted
  rw [stabilize_of_unassisted unassisted]
  dsimp only
  split
  next ended =>
    have started : (startProgress mode context.status).assist = .none := by
      unfold startProgress
      split
      · exact ended
      · rfl
    rw [startProgress_of_remembers remembers startsOver started]
    rfl
  · rfl

theorem handle_of_remembers {mode : FlightMode} (startsOver : mode.startsOver = true)
    (band : BrakeBand) (unassisted : (handle mode context band).2.1.assist = .none) :
    (handle mode context band).2.1 = .fresh .none := by
  cases mode with
  | manual | courseLock | positionRoam | homeLeash | absolutePosition | returnToBase | poi
  | autoCruise | pathPlanner => exact startProgress_of_remembers remembers startsOver unassisted
  | stabilized1 | stabilized2 | stabilized3 | stabilized4 | stabilized5 | stabilized6
  | autoTune => exact stabilize_of_remembers remembers startsOver band unassisted
  | velocityRoam | positionHold | land | autoTakeoff => cases startsOver

/-- A position hold finds and leaves all to the pilot. -/
theorem decide_remembers_positionHold (band : BrakeBand) (since : Bool) :
    (decide .positionHold context band).2.1.Remembers since := by
  have pilot : (startProgress .positionHold context.status).stage = .primary ∧
      (startProgress .positionHold context.status).throttle = .manual := by
    by_cases same : context.status.mode = .positionHold
    · unfold FlightStatus.Remembers at remembers
      rw [same] at remembers
      rw [startProgress_of_mode same]
      exact remembers.2
    · rw [startProgress_of_enters same]
      exact ⟨rfl, rfl⟩
  have partly := Assist.ofMode_positionHold context.position context.modes context.stabilization
  refine ⟨?_, pilot.1, ?_⟩
  · show Assist.ofMode context.position .positionHold context.modes context.stabilization ≠ .full
    rcases partly with unassisted | assisted
    · rw [unassisted]
      decide
    · rw [assisted]
      decide
  · show (if Assist.ofMode context.position .positionHold context.modes
            context.stabilization = .none
        then (startProgress .positionHold context.status).throttle
        else (Assist.ofMode context.position .positionHold context.modes
          context.stabilization).throttle) = .manual
    rcases partly with unassisted | assisted
    · rw [if_pos unassisted]
      exact pilot.2
    · rw [assisted]
      rfl

/-- A landing and a takeoff keep the throttle of their assistance. -/
theorem decide_remembers_vertical {mode : FlightMode}
    (vertical : mode = .land ∨ mode = .autoTakeoff) (band : BrakeBand) :
    let next := (decide mode context band).2.1
    next.Remembers (next.assistedSince context.status assisted) := by
  intro next
  have assist : next.assist =
      Assist.ofMode context.position mode context.modes context.stabilization := by
    rcases vertical with rfl | rfl <;> rfl
  have stage : next.stage = (startProgress mode context.status).stage := by
    rcases vertical with rfl | rfl <;> rfl
  have throttle : next.throttle =
      if next.assist = .none then (startProgress mode context.status).throttle
      else next.assist.throttle := by
    rcases vertical with rfl | rfl <;> rfl
  have same : next.mode = mode := rfl
  rw [FlightStatus.remembers_of_vertical (same ▸ vertical)]
  unfold FlightStatus.assistedSince FlightStatus.NotBegun
  by_cases unassisted : next.assist = .none
  · rw [throttle, if_pos unassisted, stage, unassisted, same]
    by_cases stays : context.status.mode = mode
    · rw [FlightStatus.remembers_of_vertical (stays ▸ vertical)] at remembers
      rw [startProgress_of_mode stays, stays]
      cases assisted with
      | true => simpa using remembers
      | false => simpa [FlightStatus.NotBegun] using remembers.2
    · rw [startProgress_of_enters stays]
      simp [Ne.symm stays, Progress.fresh]
  · have full : next.assist = .full := by
      rw [assist] at unassisted ⊢
      exact Assist.ofMode_vertical _ _ _ vertical unassisted
    rw [throttle, full]
    simp [Assist.throttle]

/-- **A decision remembers assistance** as the status does on which it is made. -/
theorem decide_remembers (mode : FlightMode) (band : BrakeBand) :
    let next := (decide mode context band).2.1
    next.Remembers (next.assistedSince context.status assisted) := by
  intro next
  cases startsOver : mode.startsOver with
  | true =>
      refine (FlightStatus.remembers_of_startsOver startsOver _).mpr fun unassisted => ?_
      have begins := handle_of_remembers remembers startsOver band unassisted
      exact ⟨congrArg Progress.stage begins, congrArg Progress.throttle begins⟩
  | false =>
      cases mode with
      | velocityRoam => exact nofun
      | positionHold => exact decide_remembers_positionHold remembers band _
      | land => exact decide_remembers_vertical remembers (.inl rfl) band
      | autoTakeoff => exact decide_remembers_vertical remembers (.inr rfl) band
      | _ => cases startsOver

end Decision

/-! ## Ticks -/

theorem tick_remembers (arbiter : Arbiter) {board : Blackboard} {assisted : Bool}
    (remembers : board.status.value.Remembers assisted) (now : Micros) :
    let after := (arbiter.tick board now).2.2.status.value
    after.Remembers (after.assistedSince board.status.value assisted) := by
  intro after
  obtain ⟨mode, context, band, decides, same⟩ := arbiter.decided_eq board now
  have decided := decide_remembers (same ▸ remembers) mode band
  rw [← decides, same] at decided
  obtain ⟨modeAfter, assistAfter, -, -⟩ := arbiter.tick_agrees board now
  have since : after.assistedSince board.status.value assisted =
      (arbiter.decided board now).assistedSince board.status.value assisted := by
    unfold FlightStatus.assistedSince
    rw [show after.assist = _ from assistAfter, show after.mode = _ from modeAfter]
  obtain ⟨mode, assist, stage⟩ := arbiter.published_agrees board now
  have throttle := (arbiter.published_settings board now).2
  have published := (decided.of_agrees mode assist stage throttle).steered
    (arbiter.changes board now) (arbiter.released board)
  rw [since, show after = _ from arbiter.tick_status board now]
  exact published

end Arbiter

namespace SoleWriter

variable {arbiter : Arbiter} {board : Blackboard} {assisted : Bool}

theorem remembers (run : SoleWriter arbiter board assisted) :
    board.status.value.Remembers assisted := by
  induction run with
  | start => exact fun _ => ⟨rfl, rfl⟩
  | change _ _ armed status inductionHypothesis =>
      rw [status]
      exact inductionHypothesis
  | tick _ now inductionHypothesis => exact Arbiter.tick_remembers _ inductionHypothesis now

/-- **What is left of assistance that has ended.** While only the arbiter writes the flight status,
a tick that decides on no assistance leaves the flight and the thrust to the pilot, unless it goes
on with a landing or a takeoff that has been assisted since it was entered. -/
theorem notBegun_iff (run : SoleWriter arbiter board assisted) (now : Micros)
    (unassisted : (arbiter.tick board now).2.2.status.value.assist = .none) :
    let after := (arbiter.tick board now).2.2.status.value
    after.NotBegun ↔
      ¬(assisted = true ∧ after.mode = board.status.value.mode ∧
        (after.mode = .land ∨ after.mode = .autoTakeoff)) := by
  intro after
  have remembers : after.Remembers (after.assistedSince board.status.value assisted) :=
    arbiter.tick_remembers run.remembers now
  have ended : after.assist = .none := unassisted
  rw [remembers.pilot_iff ended]
  simp only [FlightStatus.assistedSince, ended, bne_self_eq_false, Bool.false_or,
    Bool.and_eq_true, beq_iff_eq, and_assoc]

end SoleWriter

/-! ## Assistance that is withdrawn -/

/-- No mode is assisted any more. -/
def Blackboard.unassisted (board : Blackboard) : Blackboard :=
  { board with stabilizationSettings := ⟨{}, 2⟩ }

/-- The switch has positions to land only. -/
def Blackboard.landing (board : Blackboard) : Blackboard :=
  { board with modeSettings := ⟨{ positions := Vector.replicate 6 .land }, 1⟩ }

/-- A brake whose assistance is withdrawn leaves all to the pilot. -/
theorem notBegun_of_brakingTick :
    let braked := ({} : Arbiter).brakingTick {}
    let after := (braked.2.1.tick braked.2.2.unassisted 0).2.2.status.value
    braked.2.2.status.value.stage = .brake ∧ after.assist = .none ∧ after.NotBegun := by
  intro braked after
  have begun := (SoleWriter.start.change ({} : Blackboard).assisted false rfl).tick 0
  have ended := begun.change braked.2.2.unassisted false (by decide +kernel)
  have unassisted : after.assist = .none := by decide +kernel
  have stabilized : after.mode = .stabilized1 := by decide +kernel
  refine ⟨by decide +kernel, unassisted, (ended.notBegun_iff 0 unassisted).mpr ?_⟩
  rintro ⟨-, -, landing | takeoff⟩
  · exact absurd (stabilized.symm.trans landing) (by decide)
  · exact absurd (stabilized.symm.trans takeoff) (by decide)

/-- The arbiter and its blackboard after two ticks of an assisted landing. -/
def Arbiter.landed (arbiter : Arbiter) (board : Blackboard) : Arbitration × Arbiter × Blackboard :=
  let (_, entered, found) := arbiter.tick board.assisted.landing 0
  entered.tick found 20000

/-- A landing whose assistance is withdrawn keeps the stage and the throttle of it. -/
theorem begun_after_landing :
    let landed := ({} : Arbiter).landed {}
    let after := (landed.2.1.tick landed.2.2.unassisted 40000).2.2.status.value
    SoleWriter landed.2.1 landed.2.2.unassisted true ∧
      after.assist = .none ∧ after.stage = .hold ∧ after.throttle = .auto := by
  intro landed after
  have begun := ((SoleWriter.start.change ({} : Blackboard).assisted.landing false rfl).tick
    0).tick 20000
  have ended := begun.change landed.2.2.unassisted false (by decide +kernel)
  exact ⟨ended, by decide +kernel⟩

end FlightGuidance
