import FlightGuidance.Proofs.Arbiter.Decision

/-!
# Decisions on the same inputs

A decision reads the flight status that the one before it has left behind, so that a decision
may differ from the one before although nothing else has changed. It does not go on differing:
the stages of a stabilized mode settle within three decisions, since a brake lasts until
somebody else ends it, and all else settles within two (`decide_settles`).

The status that a decision leaves behind is the decision itself, but for the stage of a mode
that the path follower flies by the sticks (`FlightStatus.Follows`). There the next decision
takes the stage as it finds it.
-/

set_option autoImplicit false

namespace FlightGuidance

/-! ## The stages of an assisted mode -/

namespace BrakeBand

theorem holdThrottle_idem (assist : Assist) (throttle : ThrottleStage) (near : Bool) :
    holdThrottle assist (holdThrottle assist throttle near) near =
      holdThrottle assist throttle near := by
  cases assist <;> cases throttle <;> cases near <;> rfl

section Next

variable (band : BrakeBand) (assist : Assist) (throttle : ThrottleStage) {command : PilotCommand}
  (limits : ThrustLimits) (neutralOffset : Float32)

theorem next_of_deflected (deflected : command.hasRollOrPitch = true) (stage : AssistStage) :
    band.next assist stage throttle command limits neutralOffset = (.pilot, band) :=
  if_pos deflected

variable (released : ¬command.hasRollOrPitch = true)

include released

theorem next_of_primary :
    band.next assist .primary throttle command limits neutralOffset =
      (⟨.brake, if command.thrust < limits.min then .manual else assist.throttle, true⟩,
        around command.thrust) :=
  if_neg released

theorem next_of_brake :
    band.next assist .brake throttle command limits neutralOffset =
      (⟨.brake, if assist.throttle == .auto && band.left command.thrust then .manual
        else assist.throttle, true⟩, band) :=
  if_neg released

theorem next_of_hold :
    band.next assist .hold throttle command limits neutralOffset =
      (⟨.hold, holdThrottle assist throttle
        (nearNeutral command.thrust (limits.neutral + neutralOffset)), true⟩, band) :=
  if_neg released

end Next

/-- The third decision on the same sticks is the second one. The first one may differ, since the
brake that it begins looks only later whether the thrust is in the band. -/
theorem next_settles (band : BrakeBand) (assist : Assist) (stage : AssistStage)
    (throttle : ThrottleStage) (command : PilotCommand) (limits : ThrustLimits)
    (neutralOffset : Float32) :
    let step (before : AssistDecision × BrakeBand) :=
      before.2.next assist before.1.stage before.1.throttle command limits neutralOffset
    let first := band.next assist stage throttle command limits neutralOffset
    (step (step first)).1 = (step first).1 := by
  intro step first
  by_cases deflected : command.hasRollOrPitch = true
  · have pilot (before : AssistDecision × BrakeBand) : (step before).1 = .pilot :=
      congrArg Prod.fst (next_of_deflected _ _ _ _ _ deflected _)
    rw [pilot, pilot]
  cases stage with
  | primary =>
      simp only [step, first, next_of_primary band assist throttle limits neutralOffset deflected,
        next_of_brake _ assist _ limits neutralOffset deflected]
  | brake =>
      simp only [step, first, next_of_brake _ assist _ limits neutralOffset deflected]
  | hold =>
      simp only [step, first, next_of_hold _ assist _ limits neutralOffset deflected,
        holdThrottle_idem]

end BrakeBand

/-! ## The mode and the stabilization of an armed vehicle -/

/-- The status goes on with a decision: it is the same in all that the next decision is compared
with, but for the stage of a mode that is not stabilized. -/
structure FlightStatus.Follows (status decided : FlightStatus) : Prop where
  mode : status.mode = decided.mode
  assist : status.assist = decided.assist
  always : status.alwaysStabilizeWhenArmed = decided.alwaysStabilizeWhenArmed
  throttle : status.throttle = decided.throttle
  stage : decided.mode.bank?.isSome = true → status.stage = decided.stage

namespace Arbiter

/-- The same switch position selects the same mode again, also if it has kept the mode. -/
theorem selectMode_again {position lastPosition : UInt8} {settings : ModeSettings}
    {status next : FlightStatus} {place : UInt8}
    (mode : next.mode = (selectMode position lastPosition settings status).1)
    (armed : next.armed = status.armed)
    (noted : place = lastPosition ∨
      place = (selectMode position lastPosition settings status).2) :
    selectMode position place settings next =
      selectMode position lastPosition settings status := by
  unfold selectMode at mode noted ⊢
  dsimp only at mode noted ⊢
  rw [armed]
  generalize settings.positions[position.toNat]? = found at mode noted ⊢
  cases found with
  | none =>
      simp only [Option.getD_none] at mode noted ⊢
      have same : next.mode = status.mode := by
        rw [mode]
        split <;> rfl
      rw [same]
      split
      next kept =>
        rw [if_pos kept, or_self] at noted
        rw [noted]
      · rfl
  | some selected =>
      simp only [Option.getD_some] at mode noted ⊢
      split
      next kept =>
        rw [if_pos kept] at mode noted
        rw [or_self] at noted
        rw [mode, noted]
      · rfl

theorem alwaysStabilize_again {context : Context} {status : FlightStatus}
    (always : status.alwaysStabilizeWhenArmed = alwaysStabilize context) :
    alwaysStabilize { context with status } = alwaysStabilize context := by
  unfold alwaysStabilize at always ⊢
  dsimp only at always ⊢
  split
  · rfl
  next value found =>
    rw [found] at always
    dsimp only at always
    split
    · rfl
    split
    · rfl
    next low high =>
      rw [if_neg low, if_neg high] at always
      exact always

/-! ## The handler and its assistance -/

theorem startProgress_of_mode {mode : FlightMode} {status : FlightStatus}
    (same : status.mode = mode) :
    startProgress mode status = ⟨status.assist, status.stage, status.throttle⟩ :=
  if_pos same.symm

theorem startProgress_of_enters {mode : FlightMode} {status : FlightStatus}
    (entered : status.mode ≠ mode) : startProgress mode status = .fresh .none :=
  if_neg entered.symm

section Stabilize

variable {mode : FlightMode} {context : Context} {progress : Progress} {band : BrakeBand}

theorem stabilize_assist (mode : FlightMode) (context : Context) (progress : Progress)
    (band : BrakeBand) :
    (stabilize mode context progress band).2.1.assist =
      Assist.ofMode context.position mode context.modes context.stabilization := by
  unfold stabilize
  dsimp only
  split
  · split <;> rfl
  · rfl

/-- Without assistance the stages are kept, unless the assistance has just ended. -/
theorem stabilize_of_unassisted
    (unassisted :
      Assist.ofMode context.position mode context.modes context.stabilization = .none) :
    stabilize mode context progress band =
      (.stabilized,
        if context.status.assist = .none then { progress with assist := .none } else .fresh .none,
        band) := by
  unfold stabilize
  dsimp only
  rw [if_pos unassisted, unassisted]
  simp only [eq_comm]

/-- The stages of an assisted mode go on from where they are, or start over. -/
theorem stabilize_of_assisted
    (assisted : Assist.ofMode context.position mode context.modes context.stabilization ≠ .none) :
    let assist := Assist.ofMode context.position mode context.modes context.stabilization
    let start := if assist = context.status.assist then progress else .fresh assist
    let decision := band.next assist start.stage start.throttle context.command context.limits
      context.neutralOffset
    (stabilize mode context progress band).2 =
      (⟨assist, decision.1.stage, decision.1.throttle⟩, decision.2) := by
  intro assist start decision
  have started : (if assist = context.status.assist then { progress with assist }
      else .fresh assist : Progress) = { start with assist } := by
    show _ = { (if assist = context.status.assist then progress else .fresh assist) with assist }
    split <;> rfl
  unfold stabilize
  dsimp only
  rw [if_neg assisted, started]

/-- A decision without assistance is the same again. -/
theorem stabilize_again_of_unassisted {status : FlightStatus} (same : status.mode = mode)
    (unassisted : Assist.ofMode context.position mode context.modes context.stabilization = .none)
    (ended : status.assist = .none) (next : BrakeBand) :
    let again := stabilize mode { context with status } (startProgress mode status) next
    again.2.1.assist = status.assist ∧ again.2.1.stage = status.stage ∧
      again.2.1.throttle = status.throttle := by
  intro again
  have kept : again = _ := stabilize_of_unassisted unassisted
  rw [kept, if_pos ended, startProgress_of_mode same, ended]
  exact ⟨rfl, rfl, rfl⟩

end Stabilize

/-- Outside of the stabilized modes the next decision is the same at once. -/
theorem decide_again_of_not_bank {mode : FlightMode} (other : mode.bank?.isSome = false)
    {context : Context} {band : BrakeBand} {status : FlightStatus}
    (follows : status.Follows (decide mode context band).2.1) (next : BrakeBand) :
    let again := (decide mode { context with status } next).2.1
    again.assist = status.assist ∧ again.stage = status.stage ∧
      again.throttle = status.throttle := by
  have started := startProgress_of_mode follows.mode
  have assist := congrArg Progress.assist started
  have stage := congrArg Progress.stage started
  have throttle := congrArg Progress.throttle started
  cases mode with
  | stabilized1 | stabilized2 | stabilized3 | stabilized4 | stabilized5 | stabilized6 => cases other
  | manual | courseLock | positionRoam | homeLeash | absolutePosition | returnToBase | poi
  | autoCruise | pathPlanner => exact ⟨assist, stage, throttle⟩
  | velocityRoam => exact ⟨follows.assist.symm, stage, follows.throttle.symm⟩
  | positionHold | land | autoTakeoff =>
      refine ⟨follows.assist.symm, stage, ?_⟩
      show (if _ = Assist.none then _ else _) = status.throttle
      split
      · exact throttle
      next assisted => exact (follows.throttle.trans (if_neg assisted)).symm
  | autoTune =>
      have unassisted : Assist.ofMode context.position .autoTune context.modes
        context.stabilization = .none := if_pos rfl
      have ended : status.assist = .none :=
        follows.assist.trans ((stabilize_assist _ context _ band).trans unassisted)
      exact stabilize_again_of_unassisted follows.mode unassisted ended next

section Bank

variable {mode : FlightMode} (bank : mode.bank?.isSome = true) {context : Context}
  (assisted : Assist.ofMode context.position mode context.modes context.stabilization ≠ .none)

include bank

theorem handle_of_bank (context : Context) (band : BrakeBand) :
    handle mode context band =
      stabilize mode context (startProgress mode context.status) band := by
  cases mode <;> first | rfl | cases bank

theorem decide_assist_of_bank (context : Context) (band : BrakeBand) :
    (decide mode context band).2.1.assist =
      Assist.ofMode context.position mode context.modes context.stabilization :=
  (congrArg (fun handled => handled.2.1.assist) (handle_of_bank bank context band)).trans
    (stabilize_assist _ _ _ _)

include assisted

/-- A decision of an assisted mode is that of the sticks, at some stages. -/
theorem decide_of_assisted (band : BrakeBand) :
    ∃ stage throttle,
      let assist := Assist.ofMode context.position mode context.modes context.stabilization
      let decision := band.next assist stage throttle context.command context.limits
        context.neutralOffset
      (decide mode context band).2.1.stage = decision.1.stage ∧
        (decide mode context band).2.1.throttle = decision.1.throttle ∧
        (decide mode context band).2.2 = decision.2 := by
  have handled : (handle mode context band).2 = _ :=
    (congrArg Prod.snd (handle_of_bank bank context band)).trans (stabilize_of_assisted assisted)
  exact ⟨_, _, congrArg (fun progress => progress.1.stage) handled,
    congrArg (fun progress => progress.1.throttle) handled, congrArg Prod.snd handled⟩

/-- If the assistance has not changed, it goes on from the stages that the status has. -/
theorem decide_again_of_assisted {status : FlightStatus} (same : status.mode = mode)
    (assist : status.assist =
      Assist.ofMode context.position mode context.modes context.stabilization)
    {before : AssistDecision × BrakeBand} (stage : status.stage = before.1.stage)
    (throttle : status.throttle = before.1.throttle) {band : BrakeBand}
    (noted : band = before.2) :
    let decision := before.2.next
      (Assist.ofMode context.position mode context.modes context.stabilization) before.1.stage
      before.1.throttle context.command context.limits context.neutralOffset
    let again := decide mode { context with status } band
    again.2.1.stage = decision.1.stage ∧ again.2.1.throttle = decision.1.throttle ∧
      again.2.2 = decision.2 := by
  subst noted
  have handled : (handle mode { context with status } before.2).2 = _ :=
    (congrArg Prod.snd (handle_of_bank bank { context with status } before.2)).trans
      (stabilize_of_assisted assisted)
  rw [if_pos assist.symm, startProgress_of_mode same, stage, throttle] at handled
  exact ⟨congrArg (fun progress => progress.1.stage) handled,
    congrArg (fun progress => progress.1.throttle) handled, congrArg Prod.snd handled⟩

end Bank

/-- The third decision takes the assistance and the stages as it finds them. -/
theorem decide_keeps {mode : FlightMode} {context : Context} {band : BrakeBand}
    {first second : FlightStatus} (follows : first.Follows (decide mode context band).2.1)
    (again : second.Follows
      (decide mode { context with status := first } (decide mode context band).2.2).2.1) :
    let middle := decide mode { context with status := first } (decide mode context band).2.2
    let last := (decide mode { context with status := second } middle.2.2).2.1
    last.assist = second.assist ∧ last.stage = second.stage ∧ last.throttle = second.throttle := by
  intro middle last
  cases bank : mode.bank?.isSome with
  | false => exact decide_again_of_not_bank bank again middle.2.2
  | true =>
      have firstMode : first.mode = mode := follows.mode
      have secondMode : second.mode = mode := again.mode
      have firstAssist := follows.assist.trans (decide_assist_of_bank bank context band)
      have secondAssist := again.assist.trans (decide_assist_of_bank bank _ _)
      by_cases unassisted :
          Assist.ofMode context.position mode context.modes context.stabilization = .none
      · have handled : handle mode { context with status := second } middle.2.2 = _ :=
          handle_of_bank bank _ _
        show (handle mode { context with status := second } middle.2.2).2.1.assist = _ ∧
          (handle mode { context with status := second } middle.2.2).2.1.stage = _ ∧
          (handle mode { context with status := second } middle.2.2).2.1.throttle = _
        rw [handled]
        exact stabilize_again_of_unassisted secondMode unassisted
          (secondAssist.trans unassisted) middle.2.2
      · obtain ⟨stage, throttle, staged, throttled, banded⟩ :=
          decide_of_assisted bank unassisted band
        have firstStage := (follows.stage bank).trans staged
        have firstThrottle := follows.throttle.trans throttled
        obtain ⟨restaged, rethrottled, rebanded⟩ := decide_again_of_assisted bank unassisted
          firstMode firstAssist firstStage firstThrottle banded
        have secondStage := (again.stage bank).trans restaged
        have secondThrottle := again.throttle.trans rethrottled
        obtain ⟨lastStage, lastThrottle, -⟩ := decide_again_of_assisted bank unassisted
          secondMode secondAssist secondStage secondThrottle rebanded
        have settles := band.next_settles
          (Assist.ofMode context.position mode context.modes context.stabilization) stage throttle
          context.command context.limits context.neutralOffset
        refine ⟨(decide_assist_of_bank bank _ _).trans secondAssist.symm, ?_, ?_⟩
        · exact lastStage.trans
            ((congrArg AssistDecision.stage settles).trans secondStage.symm)
        · exact lastThrottle.trans
            ((congrArg AssistDecision.throttle settles).trans secondThrottle.symm)

/-- **Decisions on the same inputs settle.** The third one is no other than the status that the
second one has left behind. -/
theorem decide_settles {mode : FlightMode} {context : Context} {band : BrakeBand}
    {first second : FlightStatus} (follows : first.Follows (decide mode context band).2.1)
    (again : second.Follows
      (decide mode { context with status := first } (decide mode context band).2.2).2.1) :
    let middle := decide mode { context with status := first } (decide mode context band).2.2
    differs (decide mode { context with status := second } middle.2.2).2.1 second = false := by
  intro middle
  obtain ⟨assist, stage, throttle⟩ := decide_keeps follows again
  have always : alwaysStabilize { context with status := second } =
      second.alwaysStabilizeWhenArmed :=
    (alwaysStabilize_again again.always).trans again.always.symm
  simp only [differs, Bool.or_eq_false_iff, bne_eq_false_iff_eq]
  exact ⟨⟨⟨⟨again.mode.symm, always⟩, assist⟩, stage⟩, throttle⟩

end Arbiter
end FlightGuidance
