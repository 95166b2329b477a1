import FlightGuidance.Proofs.Arbiter.Settling

/-!
# Switch positions that select nothing

A switch position may have no mode, and a takeoff is refused while the vehicle is armed. The mode
is kept then (`Unusable`). Its assistance is not a part of what is kept: in most modes it is looked
up anew, on every tick, by the switch position and by the settings (`FlightMode.bySwitch`).

What it was looked up by is remembered only in part. The arbiter notes the position of a decision
that it publishes, and `Noted` adds the settings of that tick. A refused takeoff goes back to the
position noted, and finds the assistance as it was if the settings still give the same for it. A
position without a mode has no assistance either, so there it is lost (`Noted.keeps_iff`).
-/

set_option autoImplicit false

namespace FlightGuidance

/-- Modes whose assistance is that of the switch position. -/
def FlightMode.bySwitch : FlightMode → Bool
  | manual | velocityRoam | courseLock | positionRoam | homeLeash | absolutePosition
  | returnToBase | poi | autoCruise | pathPlanner => false
  | _ => true

/-- The settings that decide how the modes are assisted. -/
structure AssistSettings where
  modes : ModeSettings := {}
  stabilization : StabilizationSettings := {}

/-- The assistance of a mode at a switch position. -/
def AssistSettings.assist (settings : AssistSettings) (position : UInt8) (mode : FlightMode) :
    Assist :=
  .ofMode position mode settings.modes settings.stabilization

/-- A position without a mode is without assistance. -/
theorem AssistSettings.assist_of_none {settings : AssistSettings} {position : UInt8}
    (unknown : settings.modes.positions[position.toNat]? = none) (mode : FlightMode) :
    settings.assist position mode = .none := by
  have beyond : settings.stabilization.assistMap[position.toNat]? = none := by
    rw [Vector.getElem?_eq_none_iff] at unknown ⊢
    exact unknown
  unfold assist Assist.ofMode
  rw [beyond]
  split <;> rfl

namespace Arbiter

/-- How a decision assists its mode. -/
theorem decide_assist (mode : FlightMode) (context : Context) (band : BrakeBand) :
    (decide mode context band).2.1.assist =
      if mode.bySwitch then
        AssistSettings.assist ⟨context.modes, context.stabilization⟩ context.position mode
      else if mode = .velocityRoam then .primaryThrust
      else (startProgress mode context.status).assist := by
  cases mode with
  | stabilized1 | stabilized2 | stabilized3 | stabilized4 | stabilized5 | stabilized6 =>
      exact stabilize_assist _ context _ band
  | autoTune => exact stabilize_assist .autoTune context (startProgress _ context.status) band
  | _ => rfl

variable (arbiter : Arbiter) (board : Blackboard) (now : Micros)

/-- The settings for assistance by which a tick decides. -/
def inForce : AssistSettings :=
  ⟨(arbiter.modeSettings.check board.modeSettings).2.1.lastValid,
    (arbiter.stabilizationSettings.check board.stabilizationSettings).2.1.lastValid⟩

/-- The mode of the switch position in force, if it has one. -/
def selected : Option FlightMode :=
  (arbiter.inForce board).modes.positions[(arbiter.prepare board now).1.toNat]?

/-- The switch position in force selects no mode, or a takeoff that is refused. -/
def Unusable : Prop :=
  arbiter.selected board now = none ∨
    arbiter.selected board now = some .autoTakeoff ∧ board.status.value.armed = true ∧
      board.status.value.mode ≠ .autoTakeoff

/-- A takeoff is refused, and with it the switch position. An armed vehicle that is in the mode
already has to do with this as well. -/
def Refuses : Prop :=
  (arbiter.selected board now).getD board.status.value.mode = .autoTakeoff ∧
    board.status.value.armed = true

instance : Decidable (arbiter.Unusable board now) := inferInstanceAs (Decidable (_ ∨ _ ∧ _ ∧ _))
instance : Decidable (arbiter.Refuses board now) := inferInstanceAs (Decidable (_ ∧ _))

theorem decided_assist :
    (arbiter.decided board now).assist =
      if (arbiter.selection board now).1.bySwitch then
        (arbiter.inForce board).assist (arbiter.selection board now).2
          (arbiter.selection board now).1
      else if (arbiter.selection board now).1 = .velocityRoam then .primaryThrust
      else (startProgress (arbiter.selection board now).1 board.status.value).assist := by
  rw [decided, decision_eq, decide_assist, reading_eq]
  rfl

section Unusable

variable {arbiter board now} (unusable : arbiter.Unusable board now)

include unusable

theorem unknown_of_not_refuses (taken : ¬arbiter.Refuses board now) :
    arbiter.selected board now = none := by
  rcases unusable with unknown | ⟨takeoff, armed, -⟩
  · exact unknown
  · refine absurd ⟨?_, armed⟩ taken
    rw [takeoff]
    rfl

/-- The mode is kept. Only a refused takeoff keeps the position as well. -/
theorem selection_of_unusable :
    arbiter.selection board now =
      (board.status.value.mode,
        if arbiter.Refuses board now then arbiter.lastPosition
        else (arbiter.prepare board now).1) := by
  have selects : arbiter.selection board now =
      if arbiter.Refuses board now then (board.status.value.mode, arbiter.lastPosition)
      else ((arbiter.selected board now).getD board.status.value.mode,
        (arbiter.prepare board now).1) := arbiter.selection_eq board now
  rw [selects]
  split
  · rfl
  next taken =>
    rw [unknown_of_not_refuses unusable taken]
    rfl

end Unusable
end Arbiter

/-! ## What is noted of the assistance -/

/-- The assistance of a flight status is that of the position noted, by the settings noted. -/
def FlightStatus.Recalls (status : FlightStatus) (position : UInt8) (settings : AssistSettings) :
    Prop :=
  (status.mode.bySwitch = true → status.assist = settings.assist position status.mode) ∧
    (status.mode = .velocityRoam → status.assist = .primaryThrust)

/-- The arbiter and the blackboard after any number of ticks, from the start on. In between
everything may change but the mode and its assistance. The last index is the settings of the last
tick that has published its decision. -/
inductive Noted : Arbiter → Blackboard → AssistSettings → Prop where
  | start : Noted {} {} {}
  | change {arbiter : Arbiter} {board : Blackboard} {noted : AssistSettings}
      (run : Noted arbiter board noted) (next : Blackboard)
      (mode : next.status.value.mode = board.status.value.mode)
      (assist : next.status.value.assist = board.status.value.assist) :
      Noted arbiter next noted
  | tick {arbiter : Arbiter} {board : Blackboard} {noted : AssistSettings}
      (run : Noted arbiter board noted) (now : Micros) :
      Noted (arbiter.tick board now).2.1 (arbiter.tick board now).2.2
        (if (arbiter.tick board now).1.fresh then arbiter.inForce board else noted)

theorem Arbiter.decided_recalls (arbiter : Arbiter) (board : Blackboard) (now : Micros) :
    (arbiter.decided board now).Recalls (arbiter.selection board now).2
      (arbiter.inForce board) := by
  have assist := arbiter.decided_assist board now
  have mode : (arbiter.decided board now).mode = (arbiter.selection board now).1 := rfl
  unfold FlightStatus.Recalls
  rw [mode, assist]
  refine ⟨fun bySwitch => if_pos bySwitch, fun roam => ?_⟩
  rw [roam]
  rfl

theorem Arbiter.tick_recalls {arbiter : Arbiter} {board : Blackboard} {noted : AssistSettings}
    (recalls : board.status.value.Recalls arbiter.lastPosition noted) (now : Micros) :
    (arbiter.tick board now).2.2.status.value.Recalls (arbiter.tick board now).2.1.lastPosition
      (if (arbiter.tick board now).1.fresh then arbiter.inForce board else noted) := by
  obtain ⟨mode, assist, -⟩ := arbiter.tick_agrees board now
  obtain ⟨_, _, _, _, leaves⟩ := arbiter.tick_leaves board now
  have place : (arbiter.tick board now).2.1.lastPosition =
      if arbiter.changes board now then (arbiter.selection board now).2
      else arbiter.lastPosition := by
    rw [leaves]
  rw [place, arbiter.tick_fresh]
  unfold FlightStatus.Recalls
  cases published : arbiter.changes board now with
  | true =>
      rw [mode, assist]
      exact arbiter.decided_recalls board now
  | false =>
      obtain ⟨stage, restaged⟩ := arbiter.tick_restages board now
      rw [restaged, arbiter.published_of_not_changes board now published]
      exact recalls

namespace Noted

variable {arbiter : Arbiter} {board : Blackboard} {noted : AssistSettings}

theorem recalls (run : Noted arbiter board noted) :
    board.status.value.Recalls arbiter.lastPosition noted := by
  induction run with
  | start => exact ⟨nofun, nofun⟩
  | change _ next mode assist inductionHypothesis =>
      unfold FlightStatus.Recalls
      rw [mode, assist]
      exact inductionHypothesis
  | tick _ now inductionHypothesis => exact Arbiter.tick_recalls inductionHypothesis now

/-- **What a useless switch position keeps.** It keeps the mode. It keeps the assistance of the
modes that have their own. For the others it does so in two cases: a takeoff is refused, and the
settings in force give the position noted the same assistance as the settings noted; or the
position has no mode, and there was no assistance. -/
theorem keeps_iff (run : Noted arbiter board noted) (now : Micros)
    (unusable : arbiter.Unusable board now) :
    let before := board.status.value
    let after := (arbiter.tick board now).2.2.status.value
    after.mode = before.mode ∧
      (after.assist = before.assist ↔
        before.mode.bySwitch = false ∨
          if arbiter.Refuses board now then
            (arbiter.inForce board).assist arbiter.lastPosition before.mode =
              noted.assist arbiter.lastPosition before.mode
          else before.assist = .none) := by
  intro before after
  obtain ⟨recalled, roams⟩ := run.recalls
  obtain ⟨mode, assist, -⟩ := arbiter.tick_agrees board now
  have selects := Arbiter.selection_of_unusable unusable
  have kept : after.mode = before.mode := mode.trans (congrArg Prod.fst selects)
  refine ⟨kept, ?_⟩
  have looked : after.assist = _ := assist.trans (arbiter.decided_assist board now)
  rw [selects] at looked
  cases bySwitch : before.mode.bySwitch with
  | false =>
      have other : ¬board.status.value.mode.bySwitch = true := Bool.eq_false_iff.mp bySwitch
      rw [if_neg other, Arbiter.startProgress_of_mode rfl] at looked
      refine iff_of_true (looked.trans ?_) (.inl rfl)
      by_cases roam : board.status.value.mode = .velocityRoam
      · rw [if_pos roam]
        exact (roams roam).symm
      · rw [if_neg roam]
  | true =>
      rw [if_pos bySwitch] at looked
      simp only [Bool.true_eq_false, false_or]
      split
      next refuses =>
        rw [looked, if_pos refuses, show before.assist = _ from recalled bySwitch]
      next taken =>
        have unknown := Arbiter.unknown_of_not_refuses unusable taken
        rw [looked, if_neg taken, AssistSettings.assist_of_none unknown]
        exact eq_comm

end Noted

/-! ## A refused takeoff and a position out of range -/

/-- An armed vehicle, with a switch position to take off and all positions assisted. -/
def Blackboard.takeoffAtOne (board : Blackboard) : Blackboard :=
  { board.assisted with
    modeSettings := ⟨{ positions := #v[.stabilized1, .autoTakeoff, .stabilized3, .positionHold,
      .returnToBase, .land] }, 1⟩
    status := board.status.modify fun status => { status with armed := true } }

/-- A takeoff that is refused leaves the vehicle with its assistance. -/
theorem keeps_when_takeoff_refused :
    let entered := ({} : Arbiter).tick ({} : Blackboard).takeoffAtOne 0
    let board := entered.2.2.switched 1
    let after := (entered.2.1.tick board 20000).2.2.status.value
    entered.2.1.Unusable board 20000 ∧ board.status.value.assist = .full ∧
      after.mode = .stabilized1 ∧ after.assist = .full := by
  intro entered board after
  have run := ((Noted.start.change ({} : Blackboard).takeoffAtOne rfl rfl).tick 0).change board
    rfl rfl
  have unusable : entered.2.1.Unusable board 20000 := by decide +kernel
  have refuses : entered.2.1.Refuses board 20000 := by decide +kernel
  have before : board.status.value.mode = .stabilized1 ∧ board.status.value.assist = .full := by
    decide +kernel
  obtain ⟨mode, keeps⟩ := run.keeps_iff 20000 unusable
  refine ⟨unusable, before.2, mode.trans before.1, (keeps.mpr (.inr ?_)).trans before.2⟩
  rw [if_pos refuses]
  decide +kernel

/-- A position out of range takes the assistance away, with settings that have not changed. -/
theorem loses_when_out_of_range :
    let entered := ({} : Arbiter).brakingTick {}
    let board := entered.2.2.switched 17
    let after := (entered.2.1.tick board 20000).2.2.status.value
    (∃ noted, Noted entered.2.1 board noted) ∧ entered.2.1.Unusable board 20000 ∧
      board.status.value.assist = .full ∧ after.mode = .stabilized1 ∧ after.assist = .none := by
  intro entered board after
  have run := ((Noted.start.change ({} : Blackboard).assisted rfl rfl).tick 0).change board rfl rfl
  exact ⟨⟨_, run⟩, by decide +kernel⟩

end FlightGuidance
