import FlightGuidance.Proofs.Arbiter.Decision

/-!
# The control chain and the handler

The flight status carries the engaged loops along with the mode and the stage from
which they follow. The arbiter writes them only when one of the others changes, while
the follower moves assisted control to the hold stage on its own when a brake is
complete. This module follows ticks and completed brakes in any order.

The loops are those of the handler after every tick, but for one order of events
(`Interleaved.chain_iff`): if the pilot has taken the sticks back when the brake is
reported complete, the stage is held over from a brake that nobody flies any more.
A tick that finds the sticks released again takes this stage for its own decision,
and publishes nothing although its handler is another one.
-/

set_option autoImplicit false

namespace FlightGuidance

/-- The pilot flies an assisted stabilized mode. -/
def FlightStatus.PilotFlies (status : FlightStatus) : Prop :=
  status.mode.bank?.isSome = true ∧ status.assist ≠ .none ∧ status.stage = .primary

instance (status : FlightStatus) : Decidable status.PilotFlies :=
  inferInstanceAs (Decidable (_ ∧ _ ∧ _))

/-- The arbiter and the blackboard after ticks and completed brakes in any order, from
the start on. In between all records may change, of the flight status only whether the
vehicle is armed. The last index tells whether a brake was completed while the pilot
was flying and no decision has been published since. -/
inductive Interleaved : Arbiter → Blackboard → Bool → Prop where
  | start : Interleaved {} {} false
  | change {arbiter : Arbiter} {board : Blackboard} {late : Bool}
      (run : Interleaved arbiter board late) (next : Blackboard) (armed : Bool)
      (status : next.status.value = { board.status.value with armed }) :
      Interleaved arbiter next late
  | tick {arbiter : Arbiter} {board : Blackboard} {late : Bool}
      (run : Interleaved arbiter board late) (now : Micros) :
      Interleaved (arbiter.tick board now).2.1 (arbiter.tick board now).2.2
        (late && !(arbiter.tick board now).1.fresh)
  | complete {arbiter : Arbiter} {board : Blackboard} {late : Bool}
      (run : Interleaved arbiter board late) (braking : board.target.value.mode = .brake) :
      Interleaved arbiter (Guidance.completeBrake board)
        (late || decide board.status.value.PilotFlies)

namespace FlightStatus

/-- An assisted stabilized mode that holds on the loops of the pilot. -/
structure LeftBehind (status : FlightStatus) : Prop where
  bank : status.mode.bank?.isSome = true
  assisted : status.assist ≠ .none
  holding : status.stage = .hold
  stale : status.chain = ControlHandler.stabilized.chain

/-- The loops of a flight status: those of its handler, or those of the pilot while the
mode is left behind. -/
def Engages (status : FlightStatus) : Bool → Prop
  | false => status.chain = status.handler.chain
  | true => status.LeftBehind

theorem LeftBehind.handler {status : FlightStatus} (left : status.LeftBehind) :
    status.handler = .pathFollower := by
  rw [handler_of_bank left.bank, if_neg]
  rintro (unassisted | primary)
  · exact left.assisted unassisted
  · rw [left.holding] at primary
    cases primary

/-- The hold stage has the same handler as the present one, unless the pilot flies. -/
theorem handler_hold {status : FlightStatus} (flown : ¬status.PilotFlies) :
    ({ status with stage := .hold } : FlightStatus).handler = status.handler := by
  cases bank : status.mode.bank?.isSome with
  | false => exact handler_of_not_bank bank .hold
  | true =>
      have held : ({ status with stage := .hold } : FlightStatus).mode.bank?.isSome = true := bank
      rw [handler_of_bank held, handler_of_bank bank]
      by_cases unassisted : status.assist = .none
      · rw [if_pos (.inl unassisted), if_pos (.inl unassisted)]
      · have stage : status.stage ≠ .primary := fun primary => flown ⟨bank, unassisted, primary⟩
        rw [if_neg (by simp [unassisted]), if_neg (by simp [unassisted, stage])]

/-- A completed brake leaves a mode behind if the pilot was flying. -/
theorem Engages.complete {status : FlightStatus} {late : Bool} (engages : status.Engages late) :
    ({ status with stage := .hold } : FlightStatus).Engages
      (late || decide status.PilotFlies) := by
  cases late with
  | true => exact ⟨engages.bank, engages.assisted, rfl, engages.stale⟩
  | false =>
      by_cases flies : status.PilotFlies
      · obtain ⟨bank, assisted, primary⟩ := flies
        have stabilized : status.handler = .stabilized := by
          rw [handler_of_bank bank, if_pos (.inr primary)]
        have chain : status.chain = status.handler.chain := engages
        rw [stabilized] at chain
        rw [Bool.false_or, decide_eq_true ⟨bank, assisted, primary⟩]
        exact ⟨bank, assisted, rfl, chain⟩
      · have chain : status.chain = status.handler.chain := engages
        rw [Bool.false_or, decide_eq_false flies]
        exact chain.trans (congrArg ControlHandler.chain (handler_hold flies).symm)

theorem Engages.arm {status : FlightStatus} {late : Bool} (engages : status.Engages late)
    (armed : Bool) : ({ status with armed } : FlightStatus).Engages late := by
  cases late with
  | true => exact ⟨engages.bank, engages.assisted, engages.holding, engages.stale⟩
  | false => exact engages

end FlightStatus

namespace Arbiter

variable (arbiter : Arbiter) (board : Blackboard) (now : Micros)

theorem tick_chain :
    (arbiter.tick board now).2.2.status.value.chain =
      (arbiter.published board now).value.chain := by
  obtain ⟨stage, restaged⟩ := arbiter.tick_restages board now
  rw [restaged]

/-- A tick that publishes its decision engages the loops of its handler. -/
theorem tick_chain_of_fresh (fresh : (arbiter.tick board now).1.fresh = true) :
    (arbiter.tick board now).2.2.status.value.chain =
      (arbiter.tick board now).1.handler.chain := by
  rw [tick_fresh] at fresh
  rw [tick_chain, published_of_changes arbiter board now fresh, decided_chain, tick_handler]

/-- A tick that does not keeps the engaged loops, and its handler is that of the status it
has found. -/
theorem tick_of_not_fresh (stale : (arbiter.tick board now).1.fresh = false) :
    (arbiter.tick board now).2.2.status.value.chain = board.status.value.chain ∧
      (arbiter.tick board now).1.handler = board.status.value.handler := by
  rw [tick_fresh] at stale
  have kept := published_of_not_changes arbiter board now stale
  rw [tick_chain, tick_handler, ← published_handler, kept]
  exact ⟨rfl, rfl⟩

/-- **After a tick the engaged loops are those of the handler, unless the tick has found
a mode left behind and published nothing.** -/
theorem tick_chain_iff {late : Bool} (engages : board.status.value.Engages late) :
    (arbiter.tick board now).2.2.status.value.chain = (arbiter.tick board now).1.handler.chain ↔
      ¬(late = true ∧ (arbiter.tick board now).1.fresh = false) := by
  cases fresh : (arbiter.tick board now).1.fresh with
  | true => simp [arbiter.tick_chain_of_fresh board now fresh]
  | false =>
      obtain ⟨chain, handler⟩ := arbiter.tick_of_not_fresh board now fresh
      rw [chain, handler]
      cases late with
      | false =>
          have prompt : board.status.value.chain = board.status.value.handler.chain := engages
          simp [prompt]
      | true =>
          rw [engages.handler, engages.stale]
          decide

/-- A tick on a mode left behind keeps it so until a decision is published. -/
theorem tick_engages {late : Bool} (engages : board.status.value.Engages late) :
    (arbiter.tick board now).2.2.status.value.Engages
      (late && !(arbiter.tick board now).1.fresh) := by
  have handler := arbiter.tick_status_handler board now
  cases fresh : (arbiter.tick board now).1.fresh with
  | true =>
      rw [Bool.not_true, Bool.and_false]
      show _ = _
      rw [handler, tick_chain_of_fresh arbiter board now fresh]
  | false =>
      obtain ⟨chain, same⟩ := arbiter.tick_of_not_fresh board now fresh
      rw [Bool.not_false, Bool.and_true]
      cases late with
      | false =>
          show _ = _
          rw [handler, chain, same]
          exact engages
      | true =>
          rw [tick_fresh] at fresh
          have kept := published_of_not_changes arbiter board now fresh
          have mode := (arbiter.published_agrees board now).1
          rw [kept] at mode
          rw [arbiter.tick_bank board now (mode ▸ engages.bank), kept]
          exact engages

end Arbiter

theorem Interleaved.engages {arbiter : Arbiter} {board : Blackboard} {late : Bool}
    (run : Interleaved arbiter board late) : board.status.value.Engages late := by
  induction run with
  | start => exact rfl
  | change _ _ armed status inductionHypothesis =>
      rw [status]
      exact inductionHypothesis.arm armed
  | tick _ now inductionHypothesis => exact Arbiter.tick_engages _ _ now inductionHypothesis
  | complete _ _ inductionHypothesis => exact inductionHypothesis.complete

/-- **The engaged loops after a tick.** However ticks and completed brakes follow one
another, the handler that a tick returns goes with the published mode and stages, and the
published loops are those of this handler unless the tick publishes nothing after a
brake was completed while the pilot was flying. -/
theorem Interleaved.chain_iff {arbiter : Arbiter} {board : Blackboard} {late : Bool}
    (run : Interleaved arbiter board late) (now : Micros) :
    let (outcome, _, after) := arbiter.tick board now
    after.status.value.handler = outcome.handler ∧
      (after.status.value.chain = outcome.handler.chain ↔
        ¬(late = true ∧ outcome.fresh = false)) :=
  ⟨arbiter.tick_status_handler board now, arbiter.tick_chain_iff board now run.engages⟩

/-! ## A brake that is completed late -/

theorem interleaved_brakingTick :
    Interleaved (({} : Arbiter).brakingTick {}).2.1 (({} : Arbiter).brakingTick {}).2.2.rolled
      false := by
  have braking := (Interleaved.start.change ({} : Blackboard).assisted false rfl).tick 0
  exact braking.change (({} : Arbiter).brakingTick {}).2.2.rolled false (by decide +kernel)

theorem chain_of_takenTick :
    (({} : Arbiter).takenTick {}).2.2.status.value.chain =
      (({} : Arbiter).takenTick {}).1.handler.chain :=
  (Interleaved.chain_iff interleaved_brakingTick 0).2.mpr (by simp)

/-- The blackboard once the follower has completed the brake and the pilot has released
the sticks. -/
def Arbiter.lateBoard (arbiter : Arbiter) (board : Blackboard) : Blackboard :=
  (Guidance.completeBrake (arbiter.takenTick board).2.2).released

theorem Interleaved.of_eq {arbiter : Arbiter} {board : Blackboard} {late late' : Bool}
    (run : Interleaved arbiter board late) (same : late = late') :
    Interleaved arbiter board late' :=
  same ▸ run

theorem interleaved_lateBoard :
    Interleaved (({} : Arbiter).takenTick {}).2.1 (({} : Arbiter).lateBoard {}) true := by
  have late := ((interleaved_brakingTick.tick 0).complete (by decide +kernel)).change
    (({} : Arbiter).lateBoard {}) false (by decide +kernel)
  exact late.of_eq (by decide +kernel)

/-- The path follower flies a mode of which only the stabilization is engaged. -/
theorem chain_out_of_step :
    let arbiter := (({} : Arbiter).takenTick {}).2.1
    let board := ({} : Arbiter).lateBoard {}
    Interleaved arbiter board true ∧
      (arbiter.tick board 0).1.handler = .pathFollower ∧
      (arbiter.tick board 0).2.2.status.value.chain = .stabilization ∧
      ControlChain.stabilization ≠ ControlHandler.pathFollower.chain :=
  ⟨interleaved_lateBoard, by decide +kernel, by decide +kernel, by decide +kernel⟩

end FlightGuidance
