import FlightGuidance.Proofs.Arbiter.Decision

/-!
# Brakes of the stabilized modes

A stabilized mode with assistance plans a brake when it enters the brake stage. The
guidance tells an entry by a note of whether it was braking on its last tick, but it
only runs in the ticks that the path follower flies. When the pilot breaks a brake off,
the handler of the pilot takes over, and the note stays.

This module follows the note through all ticks (`Ticked.braking`) and says which
entries plan a brake: all but those for which the last flight of the path follower was
in the brake stage (`Ticked.plansBrake_iff`). For such an entry, the target stays what
it was.
-/

set_option autoImplicit false

namespace FlightGuidance

/-- A brake from the present position and velocity has been published. -/
def Blackboard.PlansBrake (before after : Blackboard) : Prop :=
  ∃ target, after.target = before.target.publish target ∧ target.mode = .brake ∧
    target.start = before.position.value ∧
    target.parameters.toList.take 3 =
      [before.velocity.value.north, before.velocity.value.east, before.velocity.value.down]

/-- The stage in which the path follower flew last, after a tick that has decided on a
stage. It is forgotten when a mission is entered. -/
def Arbitration.flown (outcome : Arbitration) (stage : AssistStage)
    (before : Option AssistStage) : Option AssistStage :=
  match outcome.handler with
  | .manual | .stabilized => before
  | .pathFollower => some stage
  | .pathPlanner => if outcome.fresh then none else before

/-- The arbiter after any number of ticks, whatever blackboards they have found. The
last index is the stage in which the path follower flew last. -/
inductive Ticked : Arbiter → Option AssistStage → Prop where
  | start : Ticked {} none
  | tick {arbiter : Arbiter} {flown : Option AssistStage} (run : Ticked arbiter flown)
      (board : Blackboard) (now : Micros) :
      Ticked (arbiter.tick board now).2.1
        ((arbiter.tick board now).1.flown (arbiter.decided board now).stage flown)

namespace Arbiter

/-! ## The note of a brake -/

theorem runHandler_braking (arbiter : Arbiter) (board : Blackboard) (handler : ControlHandler)
    (fresh : Bool) (now : Micros) :
    (arbiter.runHandler board handler fresh now).1.guidance.braking =
      match handler with
      | .manual | .stabilized => arbiter.guidance.braking
      | .pathFollower => board.status.value.stage == .brake
      | .pathPlanner => !fresh && arbiter.guidance.braking := by
  cases handler with
  | manual | stabilized => rfl
  | pathFollower => exact ModeGuidance.follow_braking _ fresh board now
  | pathPlanner => exact ModeGuidance.followMission_braking _ fresh board

/-- The note is whether the path follower flew last in the brake stage. -/
theorem tick_braking {arbiter : Arbiter} {flown : Option AssistStage}
    (noted : arbiter.guidance.braking = (flown == some .brake)) (board : Blackboard)
    (now : Micros) :
    (arbiter.tick board now).2.1.guidance.braking =
      ((arbiter.tick board now).1.flown (arbiter.decided board now).stage flown ==
        some .brake) := by
  obtain ⟨settled, _, _, _, _, _, guidance, -, ticked⟩ := arbiter.tick_eq board now
  obtain ⟨-, -, stage⟩ := arbiter.published_agrees board now
  rw [ticked]
  dsimp only
  rw [runHandler_braking, guidance, noted, stage]
  unfold Arbitration.flown
  cases (arbiter.decided board now).handler with
  | manual | stabilized | pathFollower => rfl
  | pathPlanner => cases arbiter.changes board now <;> rfl

end Arbiter

theorem Ticked.braking {arbiter : Arbiter} {flown : Option AssistStage}
    (run : Ticked arbiter flown) : arbiter.guidance.braking = (flown == some .brake) := by
  induction run with
  | start => rfl
  | tick _ board now inductionHypothesis => exact Arbiter.tick_braking inductionHypothesis board now

namespace Arbiter

/-! ## Entries of the brake stage -/

/-- Without assistance a stabilized mode does not enter another stage than the first. -/
theorem stabilize_unassisted (mode : FlightMode) (context : Context) (progress : Progress)
    (band : BrakeBand)
    (unassisted : (stabilize mode context progress band).2.1.assist = .none) :
    (stabilize mode context progress band).2.1.stage = progress.stage ∨
      (stabilize mode context progress band).2.1.stage = .primary := by
  unfold stabilize at unassisted ⊢
  dsimp only at unassisted ⊢
  split at unassisted
  · rw [if_pos ‹_›]
    split
    · exact .inl rfl
    · exact .inr rfl
  next assisted => exact absurd unassisted assisted

theorem startProgress_stage (mode : FlightMode) (status : FlightStatus) :
    (startProgress mode status).stage = status.stage ∨
      (startProgress mode status).stage = .primary := by
  unfold startProgress
  split
  · exact .inl rfl
  · exact .inr rfl

/-- A stabilized mode that enters the brake stage is assisted. -/
theorem decided_assisted (arbiter : Arbiter) (board : Blackboard) (now : Micros)
    (bank : (arbiter.decided board now).mode.bank?.isSome = true)
    (other : board.status.value.stage ≠ .brake)
    (entered : (arbiter.decided board now).stage = .brake) :
    (arbiter.decided board now).assist ≠ .none := by
  intro unassisted
  obtain ⟨mode, context, band, decides, same⟩ := arbiter.decided_eq board now
  rw [decides] at bank entered unassisted
  rw [← same] at other
  have started := startProgress_stage mode context.status
  have stays (kept : AssistStage.brake = (startProgress mode context.status).stage ∨
      AssistStage.brake = .primary) : False := by
    rcases kept with kept | primary
    · rcases started with started | started
      · exact other (by rw [← started, ← kept])
      · rw [started] at kept
        cases kept
    · cases primary
  cases mode with
  | stabilized1 | stabilized2 | stabilized3 | stabilized4 | stabilized5 | stabilized6 =>
      have kept := stabilize_unassisted _ context _ band unassisted
      exact stays (entered ▸ kept)
  | _ => cases bank

/-- The path follower in the brake stage of a stabilized mode plans a brake if its last
tick was not noted as one, and else leaves the target alone. -/
theorem runHandler_target (arbiter : Arbiter) (board : Blackboard)
    (bank : board.status.value.mode.bank?.isSome = true)
    (stage : board.status.value.stage = .brake) (fresh : Bool) (now : Micros) :
    let after := (arbiter.runHandler board .pathFollower fresh now).2
    if arbiter.guidance.braking = false then board.PlansBrake after
    else after.target = board.target := by
  obtain ⟨journal, followed⟩ := arbiter.guidance.follow_bank fresh board bank now
  intro after
  have handled : after = _ := followed
  rw [handled]
  by_cases braking : arbiter.guidance.braking = false
  · rw [if_pos braking, if_pos ⟨stage, braking⟩]
    exact ⟨_, rfl, rfl, rfl, rfl⟩
  · rw [if_neg braking, if_neg fun entering => braking entering.2]

theorem tick_target (arbiter : Arbiter) (board : Blackboard) (now : Micros)
    (other : board.status.value.stage ≠ .brake)
    (entered : (arbiter.tick board now).2.2.status.value.stage = .brake)
    (bank : (arbiter.tick board now).2.2.status.value.mode.bank?.isSome = true) :
    if arbiter.guidance.braking = false then board.PlansBrake (arbiter.tick board now).2.2
    else (arbiter.tick board now).2.2.target = board.target := by
  obtain ⟨mode, -, stage⟩ := arbiter.published_agrees board now
  -- The mode and the stage that the tick leaves are those that it decides on.
  obtain ⟨_, restaged⟩ := arbiter.tick_restages board now
  rw [restaged] at bank
  rw [arbiter.tick_bank board now (mode ▸ bank)] at entered
  have decidedStage : (arbiter.decided board now).stage = .brake := stage ▸ entered
  have decidedBank : (arbiter.decided board now).mode.bank?.isSome = true := mode ▸ bank
  have assisted := arbiter.decided_assisted board now decidedBank other decidedStage
  have follower : (arbiter.decided board now).handler = .pathFollower := by
    rw [FlightStatus.handler_of_bank decidedBank, if_neg]
    simp [assisted, decidedStage]
  obtain ⟨settled, _, _, _, _, _, guidance, -, ticked⟩ := arbiter.tick_eq board now
  rw [ticked, follower, ← guidance]
  exact settled.runHandler_target _ bank entered (arbiter.changes board now) now

end Arbiter

/-- **The brakes that are planned.** A tick that enters the brake stage of a stabilized mode
plans a brake from the present position and velocity, unless the last flight of the path
follower was in the brake stage as well. Then the target stays as it was. -/
theorem Ticked.plansBrake_iff {arbiter : Arbiter} {flown : Option AssistStage}
    (run : Ticked arbiter flown) (board : Blackboard) (now : Micros)
    (other : board.status.value.stage ≠ .brake)
    (entered : (arbiter.tick board now).2.2.status.value.stage = .brake)
    (bank : (arbiter.tick board now).2.2.status.value.mode.bank?.isSome = true) :
    (board.PlansBrake (arbiter.tick board now).2.2 ↔ flown ≠ some .brake) ∧
      (flown = some .brake → (arbiter.tick board now).2.2.target = board.target) := by
  have target := arbiter.tick_target board now other entered bank
  simp only [run.braking, beq_eq_false_iff_ne] at target
  by_cases last : flown = some .brake
  · rw [if_neg fun differs => differs last] at target
    refine ⟨⟨?_, fun planned => absurd last planned⟩, fun _ => target⟩
    rintro ⟨brake, published, -⟩
    rw [target] at published
    exact absurd published.symm (Topic.publish_ne _ _)
  · rw [if_pos last] at target
    exact ⟨⟨fun _ => last, fun _ => target⟩, fun again => absurd again last⟩

/-- The first tick of an assisted mode plans its brake. -/
theorem plansBrake_of_brakingTick :
    ({} : Blackboard).assisted.PlansBrake (({} : Arbiter).brakingTick {}).2.2 :=
  (Ticked.start.plansBrake_iff ({} : Blackboard).assisted 0 (by decide +kernel)
    (by decide +kernel) (by decide +kernel)).1.mpr (by simp)

/-- The vehicle has moved on, and the pilot has released the sticks again. -/
def Blackboard.moved (board : Blackboard) : Blackboard :=
  { board.released with
    position := ⟨⟨40, 0, -10⟩, 1⟩
    velocity := ⟨⟨5, 0, 0⟩, 1⟩ }

theorem Ticked.of_eq {arbiter : Arbiter} {flown flown' : Option AssistStage}
    (run : Ticked arbiter flown) (same : flown = flown') : Ticked arbiter flown' :=
  same ▸ run

theorem ticked_takenTick : Ticked (({} : Arbiter).takenTick {}).2.1 (some .brake) := by
  have taken := (Ticked.start.tick ({} : Blackboard).assisted 0).tick
    (({} : Arbiter).brakingTick {}).2.2.rolled 0
  exact taken.of_eq (by decide +kernel)

/-- The brake stage is entered again, and the target is still that of the first brake. -/
theorem second_brake_not_planned :
    let taken := ({} : Arbiter).takenTick {}
    let after := (taken.2.1.tick taken.2.2.moved 0).2.2
    Ticked taken.2.1 (some .brake) ∧ taken.2.2.moved.status.value.stage = .primary ∧
      after.status.value.stage = .brake ∧ after.status.value.mode = .stabilized1 ∧
      after.target.revision = (({} : Arbiter).brakingTick {}).2.2.target.revision ∧
      ¬taken.2.2.moved.PlansBrake after := by
  intro taken after
  have planned : taken.2.2.moved.target.revision = 1 := by decide +kernel
  have kept : after.target.revision = 1 := by decide +kernel
  refine ⟨ticked_takenTick, by decide +kernel, by decide +kernel, by decide +kernel,
    by decide +kernel, ?_⟩
  rintro ⟨brake, published, -⟩
  rw [published, Topic.revision_publish, planned] at kept
  exact absurd kept (by decide)

end FlightGuidance
