import FlightGuidance.Proofs.Arbiter.ControlChain
import FlightGuidance.Proofs.Guidance.TakeoffGate

/-!
# Takeoffs that start over

In the takeoff mode the path follower advances the gate of the takeoff target on every tick,
but a tick that publishes a decision engages the mode again, and so puts the target behind a
closed gate. This module follows a stretch of ticks in the takeoff mode, between which all
records may change but the target, and of the flight status only whether the vehicle is armed
(`Held`).

While the mode lasts, a decision is published exactly if the stabilization of the armed vehicle
or the assistance has changed (`tick_changes_iff`): the stages do not move, and the throttle
stage follows the assistance. So a takeoff that has started goes on for the whole stretch exactly
if neither changes, and starts over with the tick on which one does (`Held.goes_on_iff`).
-/

set_option autoImplicit false

namespace FlightGuidance

/-- An assisted takeoff has the throttle stage of its assistance. -/
def FlightStatus.Settled (status : FlightStatus) : Prop :=
  status.assist ≠ .none → status.throttle = status.assist.throttle

theorem ModeGuidance.follow_takeoff (guidance : ModeGuidance) (fresh : Bool) (board : Blackboard)
    (mode : board.status.value.mode = .autoTakeoff) (now : Micros) :
    (guidance.follow fresh board now).2.target =
      (if fresh then Guidance.takeoff board else Guidance.advanceGate board).target := by
  have unplanned (board' : Blackboard) :
      (guidance.planBrake board.status.value board').2 = board' := by
    simp [planBrake, mode, FlightMode.bank?]
  cases fresh with
  | true =>
      simp only [follow, mode, engage, if_true, unplanned]
      rfl
  | false =>
      simp only [follow, mode, run, Bool.false_eq_true, if_false, unplanned]

namespace Arbiter

variable (arbiter : Arbiter) (board : Blackboard) (now : Micros)

/-! ## Decisions in the takeoff mode -/

/-- What a takeoff decides: the stage of the start, and the throttle stage of the assistance if
there is any. -/
theorem decided_takeoff (mode : (arbiter.decided board now).mode = .autoTakeoff) :
    (arbiter.decided board now).Settled ∧
      (board.status.value.mode = .autoTakeoff →
        (arbiter.decided board now).stage = board.status.value.stage ∧
        ((arbiter.decided board now).assist = .none →
          (arbiter.decided board now).throttle = board.status.value.throttle)) := by
  obtain ⟨mode', context, band, decides, same⟩ := arbiter.decided_eq board now
  rw [decides] at mode ⊢
  have takeoff : mode' = .autoTakeoff := mode
  subst takeoff
  refine ⟨fun assisted => if_neg assisted, fun before => ?_⟩
  rw [← same] at before ⊢
  have started : startProgress .autoTakeoff context.status =
      ⟨context.status.assist, context.status.stage, context.status.throttle⟩ :=
    if_pos before.symm
  refine ⟨congrArg Progress.stage started, fun unassisted => ?_⟩
  exact (if_pos unassisted).trans (congrArg Progress.throttle started)

/-- **In the takeoff mode a tick publishes its decision exactly if the stabilization of the armed
vehicle or the assistance has changed.** -/
theorem tick_changes_iff (ticked : arbiter.first = false) (settled : board.status.value.Settled)
    (before : board.status.value.mode = .autoTakeoff)
    (after : (arbiter.tick board now).2.2.status.value.mode = .autoTakeoff) :
    arbiter.changes board now = true ↔
      (arbiter.tick board now).2.2.status.value.alwaysStabilizeWhenArmed ≠
          board.status.value.alwaysStabilizeWhenArmed ∨
        (arbiter.tick board now).2.2.status.value.assist ≠ board.status.value.assist := by
  obtain ⟨mode, assist, always, -⟩ := arbiter.tick_agrees board now
  rw [assist, always]
  have takeoff : (arbiter.decided board now).mode = .autoTakeoff := mode ▸ after
  obtain ⟨next, kept⟩ := arbiter.decided_takeoff board now takeoff
  obtain ⟨stage, unassisted⟩ := kept before
  -- The throttle stage cannot change alone.
  have throttle (same : (arbiter.decided board now).assist = board.status.value.assist) :
      (arbiter.decided board now).throttle = board.status.value.throttle := by
    by_cases none : (arbiter.decided board now).assist = .none
    · exact unassisted none
    · rw [next none, settled (same ▸ none), same]
  simp only [changes, ticked, differs, takeoff, before, stage, Bool.false_or, bne_self_eq_false,
    Bool.or_false, Bool.or_eq_true, bne_iff_ne, or_assoc]
  constructor
  · rintro (differs | differs | differs)
    · exact .inl differs
    · exact .inr differs
    · exact .inr fun same => differs (throttle same)
  · rintro (differs | differs)
    · exact .inl differs
    · exact .inr (.inl differs)

/-! ## The target in the takeoff mode -/

/-- A tick that publishes its decision closes the gate, and another one leaves an open gate
open. -/
theorem tick_takeoff (mode : (arbiter.decided board now).mode = .autoTakeoff) :
    if arbiter.changes board now then
      Guidance.Carries (arbiter.tick board now).2.2 .waitForArmed
    else
      Guidance.Carries board .initiate →
        Guidance.Carries (arbiter.tick board now).2.2 .initiate := by
  obtain ⟨settled, modeSettings, stabilizationSettings, followerSettings, alarms, journal, -, -,
    ticked⟩ := arbiter.tick_eq board now
  have handler : (arbiter.decided board now).handler = .pathFollower := by
    rw [FlightStatus.handler, mode]
  have takeoff : (arbiter.published board now).value.mode = .autoTakeoff :=
    (arbiter.published_agrees board now).1.trans mode
  rw [ticked, handler]
  let found : Blackboard := { board with
    modeSettings, stabilizationSettings, followerSettings, alarms, journal
    status := arbiter.published board now }
  have followed := settled.guidance.follow_takeoff (arbiter.changes board now) found takeoff now
  cases fresh : arbiter.changes board now with
  | true =>
      rw [fresh, if_pos rfl] at followed
      exact (Guidance.takeoff_carries _).of_target followed
  | false =>
      rw [fresh, if_neg (by decide)] at followed
      intro carries
      have opened : Guidance.Carries found .initiate := carries.of_target rfl
      exact opened.advance.of_target followed

end Arbiter

/-! ## Stretches in the takeoff mode -/

/-- What a tick in the takeoff mode has found and left behind. -/
structure TakeoffTick where
  before : FlightStatus
  after : FlightStatus
  gate : Option Takeoff.Gate

/-- The tick has decided on another stabilization of the armed vehicle, or on another
assistance. -/
def TakeoffTick.Redecides (tick : TakeoffTick) : Prop :=
  tick.after.alwaysStabilizeWhenArmed ≠ tick.before.alwaysStabilizeWhenArmed ∨
    tick.after.assist ≠ tick.before.assist

instance (tick : TakeoffTick) : Decidable tick.Redecides := inferInstanceAs (Decidable (_ ∨ _))

namespace Arbiter

/-- A tick in the takeoff mode. -/
def takeoffTick (arbiter : Arbiter) (board : Blackboard) (now : Micros) : TakeoffTick :=
  let after := (arbiter.tick board now).2.2
  ⟨board.status.value, after.status.value, after.target.value.gate?⟩

/-- **What a tick in the takeoff mode does to the gate.** -/
theorem takeoffTick_gate (arbiter : Arbiter) (board : Blackboard) (now : Micros)
    (ticked : arbiter.first = false) (settled : board.status.value.Settled)
    (before : board.status.value.mode = .autoTakeoff)
    (after : (arbiter.tick board now).2.2.status.value.mode = .autoTakeoff) :
    ((arbiter.takeoffTick board now).Redecides →
        (arbiter.takeoffTick board now).gate = some .waitForArmed) ∧
      (¬(arbiter.takeoffTick board now).Redecides → Guidance.Carries board .initiate →
        Guidance.Carries (arbiter.tick board now).2.2 .initiate) := by
  have changes : arbiter.changes board now = true ↔ (arbiter.takeoffTick board now).Redecides :=
    arbiter.tick_changes_iff board now ticked settled before after
  have takeoff := arbiter.tick_takeoff board now ((arbiter.tick_agrees board now).1 ▸ after)
  constructor
  · intro redecides
    rw [if_pos (changes.mpr redecides)] at takeoff
    exact takeoff.gate
  · intro same
    rw [if_neg fun changed => same (changes.mp changed)] at takeoff
    exact takeoff

end Arbiter

/-- The arbiter and the blackboard after a stretch of ticks that all leave the takeoff mode in
force. In between all records may change but the target, of the flight status only whether the
vehicle is armed. -/
inductive Held (arbiter : Arbiter) (board : Blackboard) :
    Arbiter → Blackboard → List TakeoffTick → Prop where
  | start : Held arbiter board arbiter board []
  | change {arbiter' : Arbiter} {board' : Blackboard} {ticks : List TakeoffTick}
      (run : Held arbiter board arbiter' board' ticks) (next : Blackboard) (armed : Bool)
      (status : next.status.value = { board'.status.value with armed })
      (target : next.target = board'.target) : Held arbiter board arbiter' next ticks
  | tick {arbiter' : Arbiter} {board' : Blackboard} {ticks : List TakeoffTick}
      (run : Held arbiter board arbiter' board' ticks) (now : Micros)
      (held : (arbiter'.tick board' now).2.2.status.value.mode = .autoTakeoff) :
      Held arbiter board (arbiter'.tick board' now).2.1 (arbiter'.tick board' now).2.2
        (ticks ++ [arbiter'.takeoffTick board' now])

/-- The takeoff mode is decided on by a tick, which settles its throttle stage. -/
theorem Interleaved.settled {arbiter : Arbiter} {board : Blackboard} {late : Bool}
    (run : Interleaved arbiter board late) (mode : board.status.value.mode = .autoTakeoff) :
    arbiter.first = false ∧ board.status.value.Settled := by
  induction run with
  | start => cases mode
  | change _ next armed status inductionHypothesis =>
      rw [status] at mode ⊢
      exact inductionHypothesis mode
  | @tick arbiter board late _ now inductionHypothesis =>
      refine ⟨arbiter.tick_first board now, ?_⟩
      obtain ⟨same, assist, -, throttle⟩ := arbiter.tick_agrees board now
      have settled := (arbiter.decided_takeoff board now (same ▸ mode)).1
      unfold FlightStatus.Settled
      rw [assist, throttle]
      exact settled
  | complete _ _ inductionHypothesis => exact inductionHypothesis mode

namespace Held

section Reachable

variable {arbiter : Arbiter} {board : Blackboard} {late : Bool}
  (reachable : Interleaved arbiter board late) (mode : board.status.value.mode = .autoTakeoff)
  {arbiter' : Arbiter} {board' : Blackboard} {ticks : List TakeoffTick}

include reachable mode

/-- A stretch in the takeoff mode leads to a state that can be reached. -/
theorem interleaved (run : Held arbiter board arbiter' board' ticks) :
    (∃ late', Interleaved arbiter' board' late') ∧ board'.status.value.mode = .autoTakeoff := by
  induction run with
  | start => exact ⟨⟨late, reachable⟩, mode⟩
  | change _ next armed status _ inductionHypothesis =>
      obtain ⟨⟨late', reached⟩, held⟩ := inductionHypothesis
      refine ⟨⟨late', reached.change next armed status⟩, ?_⟩
      rw [status]
      exact held
  | tick _ now held inductionHypothesis =>
      obtain ⟨⟨late', reached⟩, -⟩ := inductionHypothesis
      exact ⟨⟨_, reached.tick now⟩, held⟩

/-- A tick that decides anew closes the gate, and without such a tick it stays open. -/
theorem gates (carries : Guidance.Carries board .initiate)
    (run : Held arbiter board arbiter' board' ticks) :
    (∀ tick ∈ ticks, tick.Redecides → tick.gate = some .waitForArmed) ∧
      ((∀ tick ∈ ticks, ¬tick.Redecides) →
        (∀ tick ∈ ticks, tick.gate = some .initiate) ∧ Guidance.Carries board' .initiate) := by
  induction run with
  | start =>
      exact ⟨fun _ none => (nomatch none), fun _ => ⟨fun _ none => (nomatch none), carries⟩⟩
  | change _ next armed _ target inductionHypothesis =>
      obtain ⟨closed, opened⟩ := inductionHypothesis
      exact ⟨closed, fun same => ⟨(opened same).1, (opened same).2.of_target target⟩⟩
  | @tick arbiter' board' ticks run now held inductionHypothesis =>
      obtain ⟨⟨late', reached⟩, before⟩ := interleaved reachable mode run
      obtain ⟨first, settled⟩ := reached.settled before
      obtain ⟨closes, keeps⟩ := arbiter'.takeoffTick_gate board' now first settled before held
      obtain ⟨closed, opened⟩ := inductionHypothesis
      simp only [List.forall_mem_append, List.forall_mem_singleton]
      refine ⟨⟨closed, closes⟩, fun ⟨same, kept⟩ => ?_⟩
      have carried := keeps kept (opened same).2
      exact ⟨⟨(opened same).1, carried.gate⟩, carried⟩

end Reachable

/-- **How long a takeoff goes on.** In a stretch of ticks in the takeoff mode that begins behind
an open gate, the gate stays open on all ticks exactly if none of them decides on another
stabilization of the armed vehicle or on another assistance. A tick that does starts the takeoff
over, and waits for the vehicle to be armed. -/
theorem goes_on_iff {arbiter : Arbiter} {board : Blackboard} {late : Bool}
    (reachable : Interleaved arbiter board late) (mode : board.status.value.mode = .autoTakeoff)
    (carries : Guidance.Carries board .initiate) {arbiter' : Arbiter} {board' : Blackboard}
    {ticks : List TakeoffTick} (run : Held arbiter board arbiter' board' ticks) :
    ((∀ tick ∈ ticks, tick.gate = some .initiate) ↔ ∀ tick ∈ ticks, ¬tick.Redecides) ∧
      ∀ tick ∈ ticks, tick.Redecides → tick.gate = some .waitForArmed := by
  obtain ⟨closed, opened⟩ := gates reachable mode carries run
  refine ⟨⟨fun initiated tick member redecides => ?_, fun same => (opened same).1⟩, closed⟩
  have gate := (initiated tick member).symm.trans (closed tick member redecides)
  cases gate

end Held

/-! ## A switch in flight -/

namespace Blackboard

/-- All positions of the switch select a takeoff, and the first accessory channel switches the
stabilization of the armed vehicle. -/
def takesOff (board : Blackboard) : Blackboard :=
  { board with
    modeSettings :=
      ⟨{ positions := Vector.replicate 6 .autoTakeoff, alwaysStabilizeChannel := some 0 }, 1⟩ }

/-- The accessory channels are deflected. -/
def deflected (board : Blackboard) : Blackboard :=
  { board with accessory := ⟨{ channels := Vector.replicate 4 1 }, 1⟩ }

end Blackboard

namespace Arbiter

variable (arbiter : Arbiter) (board : Blackboard)

/-- The takeoff mode is entered. -/
def enteredTakeoff : Arbitration × Arbiter × Blackboard := arbiter.tick board.takesOff 0

/-- The vehicle is armed and the throttle raised. -/
def raisedThrottle : Arbitration × Arbiter × Blackboard :=
  (arbiter.enteredTakeoff board).2.1.tick
    (Guidance.shows (arbiter.enteredTakeoff board).2.2 true 0.5) 0

/-- The gate is open. -/
def openedGate : Arbitration × Arbiter × Blackboard :=
  (arbiter.raisedThrottle board).2.1.tick (arbiter.raisedThrottle board).2.2 0

end Arbiter

namespace Held

open Arbiter

theorem interleaved_openedGate :
    Interleaved (openedGate {} {}).2.1 (openedGate {} {}).2.2 false := by
  have entered := (Interleaved.start.change ({} : Blackboard).takesOff false rfl).tick 0
  have raised :=
    (entered.change (Guidance.shows (enteredTakeoff {} {}).2.2 true 0.5) true rfl).tick 0
  have opened := raised.tick 0
  exact opened.of_eq (by decide +kernel)

theorem openedGate_mode : (openedGate {} {}).2.2.status.value.mode = .autoTakeoff := by
  decide +kernel

theorem openedGate_carries : Guidance.Carries (openedGate {} {}).2.2 .initiate :=
  ⟨by decide +kernel, by decide +kernel⟩

/-- The takeoff goes on although the vehicle is disarmed. -/
theorem goes_on_disarmed :
    let arbiter := (openedGate {} {}).2.1
    let board := Guidance.shows (openedGate {} {}).2.2 false (-1)
    (arbiter.takeoffTick board 0).gate = some .initiate := by
  intro arbiter board
  have run : Held arbiter (openedGate {} {}).2.2 arbiter board [] :=
    Held.start.change board false rfl rfl
  have ticked := run.tick 0 (by decide +kernel)
  have same := (goes_on_iff interleaved_openedGate openedGate_mode openedGate_carries ticked).1.mpr
    (List.forall_mem_singleton.mpr (by decide +kernel))
  exact same _ (List.mem_singleton.mpr rfl)

/-- An accessory channel is switched after the takeoff has begun, and the takeoff waits again for
a vehicle that is armed already. -/
theorem restarted_by_switch :
    let arbiter := (openedGate {} {}).2.1
    let board := (openedGate {} {}).2.2
    let after := arbiter.tick board.deflected 0
    Interleaved arbiter board false ∧ Guidance.Carries board .initiate ∧
      Held arbiter board after.2.1 after.2.2 [arbiter.takeoffTick board.deflected 0] ∧
      board.deflected.status.value.mode = .autoTakeoff ∧
      board.deflected.status.value.armed = true ∧
      after.2.2.target.value.gate? = some .waitForArmed := by
  have run : Held (openedGate {} {}).2.1 (openedGate {} {}).2.2 _ _ _ :=
    Held.start.change (openedGate {} {}).2.2.deflected true (by decide +kernel) rfl
  exact ⟨interleaved_openedGate, openedGate_carries, run.tick 0 (by decide +kernel),
    by decide +kernel, by decide +kernel, by decide +kernel⟩

end Held
end FlightGuidance
