import FlightGuidance.Proofs.Arbiter.Settling

/-!
# Changes of the mode

A mode leaves its assistance and its stages behind in the flight status, and the arbiter and the
guidance have notes of their own of its last brake. None of this is meant to have a part in the
mode that comes next. This module compares two flights which differ in no more than that
(`SameButProgress`).

A tick that changes the mode decides the same in both flights (`SameButProgress.forgets`), and so
does every later one (`Alongside.agrees`). The band of thrust may stay different meanwhile. It is
noted anew when a brake begins, and has no part in the stages before (`BrakeBand.next_congr`).

The targets are another matter. The guidance plans no brake of a stabilized mode while it has one
noted, so what it publishes may differ. No decision looks at the target.
-/

set_option autoImplicit false

namespace FlightGuidance

/-- The band of the last brake has a part in the stages only while the vehicle brakes. -/
theorem BrakeBand.next_congr {band other : BrakeBand} {stage : AssistStage}
    (noted : stage = .brake → other = band) (assist : Assist) (throttle : ThrottleStage)
    (command : PilotCommand) (limits : ThrustLimits) (neutralOffset : Float32) :
    let first := band.next assist stage throttle command limits neutralOffset
    let second := other.next assist stage throttle command limits neutralOffset
    second.1 = first.1 ∧ (first.1.stage = .brake → second.2 = first.2) := by
  by_cases deflected : command.hasRollOrPitch = true
  · rw [next_of_deflected band _ _ _ _ deflected, next_of_deflected other _ _ _ _ deflected]
    exact ⟨rfl, nofun⟩
  cases stage with
  | primary =>
      rw [next_of_primary band _ _ _ _ deflected, next_of_primary other _ _ _ _ deflected]
      exact ⟨rfl, fun _ => rfl⟩
  | brake =>
      rw [noted rfl]
      exact ⟨rfl, fun _ => rfl⟩
  | hold =>
      rw [next_of_hold band _ _ _ _ deflected, next_of_hold other _ _ _ _ deflected]
      exact ⟨rfl, nofun⟩

namespace Arbiter

/-! ## Decisions with another band -/

theorem stabilize_congr (mode : FlightMode) (context : Context) {progress : Progress}
    {band other : BrakeBand} (noted : progress.stage = .brake → other = band) :
    let first := stabilize mode context progress band
    let second := stabilize mode context progress other
    second.1 = first.1 ∧ second.2.1 = first.2.1 ∧
      (first.2.1.stage = .brake → second.2.2 = first.2.2) := by
  intro first second
  by_cases unassisted :
      Assist.ofMode context.position mode context.modes context.stabilization = .none
  · have kept (band : BrakeBand) : stabilize mode context progress band = _ :=
      stabilize_of_unassisted unassisted
    simp only [first, second, kept, true_and]
    split
    · exact noted
    · exact nofun
  · unfold first second stabilize
    dsimp only
    rw [if_neg unassisted, if_neg unassisted]
    have started : (if Assist.ofMode context.position mode context.modes context.stabilization =
          context.status.assist
        then { progress with
          assist := Assist.ofMode context.position mode context.modes context.stabilization }
        else .fresh (Assist.ofMode context.position mode context.modes
          context.stabilization) : Progress).stage = .brake → other = band := by
      split
      · exact noted
      · exact nofun
    obtain ⟨decision, banded⟩ := BrakeBand.next_congr started
      (Assist.ofMode context.position mode context.modes context.stabilization) _
      context.command context.limits context.neutralOffset
    rw [decision]
    exact ⟨rfl, rfl, banded⟩

/-- A decision looks at the band only if it goes on with the brake of a stabilized mode. -/
theorem decide_congr {mode : FlightMode} {context : Context} {band other : BrakeBand}
    (noted : mode.bank?.isSome = true → context.status.mode = mode →
      context.status.stage = .brake → other = band) :
    let first := decide mode context band
    let second := decide mode context other
    second.2.1 = first.2.1 ∧
      (mode.bank?.isSome = true → first.2.1.stage = .brake → second.2.2 = first.2.2) := by
  cases bank : mode.bank?.isSome with
  | true =>
      have started : (startProgress mode context.status).stage = .brake → other = band := by
        unfold startProgress
        split
        next same => exact noted bank same.symm
        · exact nofun
      obtain ⟨handler, progress, banded⟩ := stabilize_congr mode context started
      unfold decide
      rw [handle_of_bank bank context band, handle_of_bank bank context other]
      dsimp only
      rw [handler, progress]
      exact ⟨rfl, fun _ => banded⟩
  | false =>
      refine ⟨?_, nofun⟩
      cases mode with
      | autoTune =>
          have kept (band : BrakeBand) : handle .autoTune context band = _ :=
            stabilize_of_unassisted (if_pos rfl)
          simp only [decide, kept]
      | stabilized1 | stabilized2 | stabilized3 | stabilized4 | stabilized5 | stabilized6 =>
          cases bank
      | _ => rfl

/-! ## Decisions on another mode -/

/-- Stages that have not begun do not go on with the assistance of the status. -/
theorem stabilize_fresh (mode : FlightMode) (context : Context) (band : BrakeBand)
    (status : FlightStatus) :
    stabilize mode { context with status } (.fresh .none) band =
      stabilize mode context (.fresh .none) band := by
  have begins (assist : Assist) (status : FlightStatus) :
      (if assist = status.assist then { Progress.fresh .none with assist } else .fresh assist) =
        Progress.fresh assist :=
    ite_self _
  unfold stabilize
  dsimp only
  rw [begins, begins]

/-- **A decision on another mode** takes nothing but the arming and the stabilization of an armed
vehicle from the status. -/
theorem decide_of_enters {mode : FlightMode} {context : Context} {status : FlightStatus}
    (entered : context.status.mode ≠ mode) (same : status.mode = context.status.mode)
    (armed : status.armed = context.status.armed)
    (always : status.alwaysStabilizeWhenArmed = context.status.alwaysStabilizeWhenArmed)
    (band : BrakeBand) :
    decide mode { context with status } band = decide mode context band := by
  have begins := startProgress_of_enters entered
  have again := startProgress_of_enters (same ▸ entered)
  have handled : handle mode { context with status } band = handle mode context band := by
    unfold handle
    dsimp only
    rw [begins, again]
    cases mode with
    | stabilized1 | stabilized2 | stabilized3 | stabilized4 | stabilized5 | stabilized6
    | autoTune => exact stabilize_fresh _ context band status
    | _ => rfl
  have stabilized : alwaysStabilize { context with status } = alwaysStabilize context := by
    unfold alwaysStabilize
    dsimp only
    rw [always]
  unfold decide
  dsimp only
  rw [handled, stabilized, armed]

end Arbiter

/-! ## Two flights -/

/-- Another flight is the same, but for the progress of assistance in the flight status, the band
of the last brake, and what the guidance notes and publishes. -/
inductive SameButProgress (arbiter : Arbiter) (board : Blackboard) :
    Arbiter → Blackboard → Prop where
  | other (band : BrakeBand) (guidance : ModeGuidance) (chain : ControlChain) (assist : Assist)
      (stage : AssistStage) (throttle : ThrottleStage) (revision : UInt64) (target : Topic Target)
      (journal : Journal) :
      SameButProgress arbiter board { arbiter with band, guidance }
        { board with
          status := ⟨{ board.status.value with chain, assist, stage, throttle }, revision⟩
          target, journal }

/-- Another flight has the same flight status as well, and the same band as long as a stabilized
mode brakes. -/
inductive DecidesAlike (arbiter : Arbiter) (board : Blackboard) : Arbiter → Blackboard → Prop where
  | other (band : BrakeBand) (guidance : ModeGuidance) (revision : UInt64)
      (target : Topic Target) (journal : Journal)
      (noted : board.status.value.mode.bank?.isSome = true →
        board.status.value.stage = .brake → band = arbiter.band) :
      DecidesAlike arbiter board { arbiter with band, guidance }
        { board with status := ⟨board.status.value, revision⟩, target, journal }

/-- A tick of the other flight decides the same, and it notes the same band for the brake of a
stabilized mode. -/
structure Concurs (arbiter : Arbiter) (board : Blackboard) (other : Arbiter) (next : Blackboard)
    (now : Micros) : Prop where
  decided : other.decided next now = arbiter.decided board now
  noted : (arbiter.decided board now).mode.bank?.isSome = true →
    (arbiter.decided board now).stage = .brake →
    (other.decision next now).2.2 = (arbiter.decision board now).2.2

section Flights

variable {arbiter other : Arbiter} {board next : Blackboard}

/-- If the band is all that differs in the decision, it may differ unless a brake goes on. -/
theorem Concurs.of_decision {now : Micros}
    (again : other.decision next now =
      Arbiter.decide (arbiter.selection board now).1 (arbiter.reading board now) other.band)
    (noted : (arbiter.selection board now).1.bank?.isSome = true →
      board.status.value.mode = (arbiter.selection board now).1 →
      board.status.value.stage = .brake → other.band = arbiter.band) :
    Concurs arbiter board other next now := by
  rw [← arbiter.reading_status board now] at noted
  obtain ⟨decided, banded⟩ := Arbiter.decide_congr noted
  rw [← again] at decided banded
  exact ⟨decided, banded⟩

theorem DecidesAlike.sameButProgress (alike : DecidesAlike arbiter board other next) :
    SameButProgress arbiter board other next := by
  obtain ⟨band, guidance, revision, target, journal, -⟩ := alike
  exact .other band guidance board.status.value.chain board.status.value.assist
    board.status.value.stage board.status.value.throttle revision target journal

theorem DecidesAlike.status_eq (alike : DecidesAlike arbiter board other next) :
    next.status.value = board.status.value := by
  obtain ⟨_, _, _, _, _, -⟩ := alike
  rfl

namespace SameButProgress

variable (same : SameButProgress arbiter board other next) (now : Micros)

include same

theorem position_eq : (other.prepare next now).1 = (arbiter.prepare board now).1 := by
  obtain ⟨_, _, _, _, _, _, _, _, _⟩ := same
  obtain ⟨_, first⟩ := arbiter.prepare_eq board now
  obtain ⟨_, second⟩ := Arbiter.prepare_eq _ _ now
  rw [first, second]
  rfl

theorem selection_eq : other.selection next now = arbiter.selection board now := by
  rw [Arbiter.selection_eq, Arbiter.selection_eq, same.position_eq now]
  obtain ⟨_, _, _, _, _, _, _, _, _⟩ := same
  rfl

theorem reading_eq :
    other.reading next now =
      { arbiter.reading board now with status := next.status.value } := by
  rw [Arbiter.reading_eq, Arbiter.reading_eq, same.selection_eq now]
  obtain ⟨_, _, _, _, _, _, _, _, _⟩ := same
  rfl

theorem released_eq : other.released next = arbiter.released board := by
  obtain ⟨_, _, _, _, _, _, _, _, _⟩ := same
  rfl

/-- Once the decisions of a tick are the same, both flights decide alike from there on. -/
theorem tick_of_concurs (concurs : Concurs arbiter board other next now)
    (changes : other.changes next now = arbiter.changes board now)
    (kept : arbiter.changes board now = false → next.status.value = board.status.value) :
    (other.tick next now).1 = (arbiter.tick board now).1 ∧
      DecidesAlike (arbiter.tick board now).2.1 (arbiter.tick board now).2.2
        (other.tick next now).2.1 (other.tick next now).2.2 := by
  obtain ⟨decided, noted⟩ := concurs
  have outcome : (other.tick next now).1 = (arbiter.tick board now).1 := by
    obtain ⟨_, first⟩ := arbiter.tick_run board now
    obtain ⟨_, second⟩ := other.tick_run next now
    rw [first, second, decided, changes]
  have published : (other.published next now).value = (arbiter.published board now).value := by
    cases changed : arbiter.changes board now with
    | true =>
        rw [arbiter.published_of_changes board now changed,
          other.published_of_changes next now (changes.trans changed), decided]
    | false =>
        rw [arbiter.published_of_not_changes board now changed,
          other.published_of_not_changes next now (changes.trans changed), kept changed]
  have status : (other.tick next now).2.2.status.value =
      (arbiter.tick board now).2.2.status.value := by
    rw [other.tick_status next now, arbiter.tick_status board now, published, changes,
      same.released_eq]
  have banded : (arbiter.tick board now).2.2.status.value.mode.bank?.isSome = true →
      (arbiter.tick board now).2.2.status.value.stage = .brake →
      (other.decision next now).2.2 = (arbiter.tick board now).2.1.band := by
    intro bank stage
    rw [(arbiter.tick_agrees board now).1] at bank
    rw [arbiter.tick_bank board now bank, (arbiter.published_agrees board now).2.2] at stage
    obtain ⟨_, _, _, _, leaves⟩ := arbiter.tick_leaves board now
    rw [leaves]
    exact noted bank stage
  refine ⟨outcome, ?_⟩
  have selection := same.selection_eq now
  obtain ⟨_, _, _, _, first⟩ := arbiter.tick_leaves board now
  obtain ⟨guidance, journal, target, ⟨_, revision⟩, second⟩ := other.tick_leaves next now
  rw [second] at status ⊢
  dsimp only at status ⊢
  rw [status, selection, changes]
  have alike := DecidesAlike.other (other.decision next now).2.2 guidance revision target journal
    banded
  rw [first] at alike ⊢
  obtain ⟨_, _, _, _, _, _, _, _, _⟩ := same
  exact alike

/-- **A change of the mode forgets the progress of assistance.** In both flights the tick returns
the same and starts the handler over, it leaves the same flight status, and from there on they
decide alike. -/
theorem forgets
    (entered : (arbiter.tick board now).2.2.status.value.mode ≠ board.status.value.mode) :
    (arbiter.tick board now).1.fresh = true ∧
      (other.tick next now).1 = (arbiter.tick board now).1 ∧
      (other.tick next now).2.2.status.value = (arbiter.tick board now).2.2.status.value ∧
      DecidesAlike (arbiter.tick board now).2.1 (arbiter.tick board now).2.2
        (other.tick next now).2.1 (other.tick next now).2.2 := by
  have mode : board.status.value.mode ≠ (arbiter.selection board now).1 := by
    rw [(arbiter.tick_agrees board now).1] at entered
    exact entered.symm
  have again : other.decision next now =
      Arbiter.decide (arbiter.selection board now).1 (arbiter.reading board now) other.band := by
    rw [Arbiter.decision_eq, same.selection_eq, same.reading_eq]
    have status := arbiter.reading_status board now
    refine Arbiter.decide_of_enters (status ▸ mode) ?_ ?_ ?_ other.band
    all_goals
      rw [status]
      obtain ⟨_, _, _, _, _, _, _, _, _⟩ := same
      rfl
  have changes : arbiter.changes board now = true := arbiter.changes_of_mode board now mode
  have changes' : other.changes next now = true := by
    refine other.changes_of_mode next now ?_
    rw [same.selection_eq]
    obtain ⟨_, _, _, _, _, _, _, _, _⟩ := same
    exact mode
  have concurs : Concurs arbiter board other next now :=
    .of_decision again fun _ stays => absurd stays mode
  obtain ⟨outcome, alike⟩ := same.tick_of_concurs now concurs (changes'.trans changes.symm)
    fun kept => Bool.noConfusion (changes.symm.trans kept)
  exact ⟨(arbiter.tick_fresh board now).trans changes, outcome, alike.status_eq, alike⟩

end SameButProgress

namespace DecidesAlike

/-- **Flights that decide alike** go on to do so. -/
theorem tick (alike : DecidesAlike arbiter board other next) (now : Micros) :
    (other.tick next now).1 = (arbiter.tick board now).1 ∧
      DecidesAlike (arbiter.tick board now).2.1 (arbiter.tick board now).2.2
        (other.tick next now).2.1 (other.tick next now).2.2 := by
  have same := alike.sameButProgress
  have kept := alike.status_eq
  have again : other.decision next now =
      Arbiter.decide (arbiter.selection board now).1 (arbiter.reading board now) other.band := by
    rw [Arbiter.decision_eq, same.selection_eq, same.reading_eq, kept,
      ← arbiter.reading_status board now]
  have concurs : Concurs arbiter board other next now := by
    refine .of_decision again fun bank stays => ?_
    obtain ⟨_, _, _, _, _, noted⟩ := alike
    exact noted (stays ▸ bank)
  have first : other.first = arbiter.first := by
    obtain ⟨_, _, _, _, _, -⟩ := alike
    rfl
  have changes : other.changes next now = arbiter.changes board now := by
    rw [Arbiter.changes, Arbiter.changes, first, kept, concurs.decided]
  exact same.tick_of_concurs now concurs changes fun _ => kept

/-- What is published in both flights alike leaves them alike, as long as it moves no mode into
the brake stage. -/
theorem change (alike : DecidesAlike arbiter board other next) {later : Blackboard}
    (mode : later.status.value.mode = board.status.value.mode)
    (stage : later.status.value.stage = .brake → board.status.value.stage = .brake)
    (revision : UInt64) (target : Topic Target) (journal : Journal) :
    DecidesAlike arbiter later other
      { later with status := ⟨later.status.value, revision⟩, target, journal } := by
  obtain ⟨band, guidance, _, _, _, noted⟩ := alike
  exact .other band guidance revision target journal fun bank braking =>
    noted (mode ▸ bank) (stage braking)

end DecidesAlike
end Flights

/-! ## Flights side by side -/

/-- Two flights from a change of the mode on. They tick at the same times, and in between the same
is published in both, but for the target, which may differ. The mode and the entry of the brake
stage are left to the ticks. -/
inductive Alongside : Arbiter → Blackboard → Arbiter → Blackboard → Prop where
  | enter {arbiter other : Arbiter} {board next : Blackboard}
      (same : SameButProgress arbiter board other next) (now : Micros)
      (entered : (arbiter.tick board now).2.2.status.value.mode ≠ board.status.value.mode) :
      Alongside (arbiter.tick board now).2.1 (arbiter.tick board now).2.2
        (other.tick next now).2.1 (other.tick next now).2.2
  | change {arbiter other : Arbiter} {board next : Blackboard}
      (run : Alongside arbiter board other next) (later : Blackboard)
      (mode : later.status.value.mode = board.status.value.mode)
      (stage : later.status.value.stage = .brake → board.status.value.stage = .brake)
      (revision : UInt64) (target : Topic Target) (journal : Journal) :
      Alongside arbiter later other
        { later with status := ⟨later.status.value, revision⟩, target, journal }
  | tick {arbiter other : Arbiter} {board next : Blackboard}
      (run : Alongside arbiter board other next) (now : Micros) :
      Alongside (arbiter.tick board now).2.1 (arbiter.tick board now).2.2
        (other.tick next now).2.1 (other.tick next now).2.2

namespace Alongside

variable {arbiter other : Arbiter} {board next : Blackboard}

theorem alike (run : Alongside arbiter board other next) :
    DecidesAlike arbiter board other next := by
  induction run with
  | enter same now entered => exact (same.forgets now entered).2.2.2
  | change _ later mode stage revision target journal inductionHypothesis =>
      exact inductionHypothesis.change mode stage revision target journal
  | tick _ now inductionHypothesis => exact (inductionHypothesis.tick now).2

/-- **The flights stay the same**: in their flight status, and in what every tick returns. -/
theorem agrees (run : Alongside arbiter board other next) :
    next.status.value = board.status.value ∧
      ∀ now, (other.tick next now).1 = (arbiter.tick board now).1 :=
  ⟨run.alike.status_eq, fun now => (run.alike.tick now).1⟩

end Alongside

/-! ## A brake that is left for another mode -/

/-- The progress of a brake is cleared, as if there had been none. -/
def Blackboard.cleared (board : Blackboard) : Blackboard :=
  { board with
    status := ⟨{ board.status.value with
      chain := .none, assist := .none, stage := .primary, throttle := .manual }, 0⟩ }

/-- An assisted mode that follows on a brake begins as it does without one. -/
theorem forgets_brake :
    let braked := ({} : Arbiter).brakingTick {}
    let board := braked.2.2.switched 1
    let other : Arbiter := { braked.2.1 with band := {}, guidance := {} }
    let first := braked.2.1.tick board 20000
    let second := other.tick board.cleared 20000
    board.status.value.stage = .brake ∧ first.2.2.status.value.mode = .stabilized2 ∧
      first.1.fresh = true ∧ second.1 = first.1 ∧
      second.2.2.status.value = first.2.2.status.value := by
  intro braked board other first second
  have same : SameButProgress braked.2.1 board other board.cleared :=
    .other {} {} .none .none .primary .manual 0 board.target board.journal
  have mode : first.2.2.status.value.mode = .stabilized2 := by decide +kernel
  have before : board.status.value.mode = .stabilized1 := by decide +kernel
  obtain ⟨fresh, outcome, status, -⟩ := same.forgets 20000 (by rw [mode, before]; decide)
  exact ⟨by decide +kernel, mode, fresh, outcome, status⟩

end FlightGuidance
