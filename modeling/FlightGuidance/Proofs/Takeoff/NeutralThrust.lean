import FlightGuidance.Proofs.Takeoff.ControllerOperation

/-!
# The neutral thrust of a takeoff

A run of the takeoff controller, with the neutral thrust that its settings were last given
(`Tuned`). The velocity loop keeps that value, and is in operation as the controller is
(`Centered`).

The settings program the velocity loop around the value that it keeps, before they replace the
value, and only a loop that is in operation is then moved to the new one. So a controller that is
not active is left around the neutral thrust of the settings before, and starts a takeoff there
(`Tuned.bias_iff`).
-/

set_option autoImplicit false

namespace FlightGuidance
namespace Takeoff
namespace Controller

/-- The neutral thrust of the settings, with the learned offset. -/
def wanted (board : Blackboard) : Float32 :=
  board.followerSettings.value.thrustLimits.neutral + board.selfTuning.value.offset

/-- Whether an operation programs the velocity loop. -/
def Operation.programs (controller : Controller) : Operation → Bool
  | applySettings => true
  | activate => !controller.active
  | deactivate | update => false

/-- The controllers that are reached by their operations, each on any blackboard, with the neutral
thrust for which they were last programmed. -/
inductive Tuned : Controller → Float32 → Prop where
  | start : Tuned {} 0.5
  | perform {controller : Controller} {last : Float32} (run : Tuned controller last)
      (operation : Operation) (board : Blackboard) :
      Tuned (operation.perform controller board).1
        (if operation.programs controller then wanted board else last)

/-- The velocity loop keeps the neutral thrust, and is in operation as the controller is. -/
structure Centered (controller : Controller) (last : Float32) : Prop where
  neutral : controller.altitude.neutral = last
  active : controller.altitude.active = controller.active

variable {controller : Controller} {last : Float32}

/-- The settings move a velocity loop in operation to the new neutral thrust, and leave another one
around the value that it keeps. -/
theorem applySettings_bias (controller : Controller) (board : Blackboard) :
    (controller.applySettings board).altitude.pid.bias =
      if controller.altitude.active then wanted board else controller.altitude.neutral := by
  by_cases active : controller.altitude.active = true
  · rw [if_pos active]
    exact congrArg Pid.bias (if_pos active)
  · rw [if_neg active]
    exact congrArg Pid.bias (if_neg active)

/-- An activation gives the settings to the controller, and sets the velocity loop in operation. -/
theorem activate_altitude (inactive : controller.active = false) (board : Blackboard) :
    ∃ thrust, (controller.activate board).1.altitude =
      (controller.applySettings board).altitude.activate thrust ∧
        (controller.activate board).1.active = true := by
  refine ⟨(Sequence.activate board).2.demand.value.thrust, ?_⟩
  unfold activate
  rw [inactive]
  exact ⟨rfl, rfl⟩

theorem activate_of_active (active : controller.active = true) (board : Blackboard) :
    (controller.activate board).1 = controller := by
  unfold activate
  rw [if_pos active]

theorem deactivate_altitude (active : controller.active = true) (board : Blackboard) :
    (controller.deactivate board).1.altitude = controller.altitude.deactivate ∧
      (controller.deactivate board).1.active = false := by
  unfold deactivate
  rw [if_pos active]
  exact ⟨rfl, rfl⟩

theorem deactivate_of_inactive (inactive : controller.active = false) (board : Blackboard) :
    (controller.deactivate board).1 = controller := by
  unfold deactivate
  rw [inactive]
  rfl

/-- Every operation keeps the velocity loop in agreement with the settings that it was given. -/
theorem Centered.perform (centered : controller.Centered last) (operation : Operation)
    (board : Blackboard) :
    (operation.perform controller board).1.Centered
      (if operation.programs controller then wanted board else last) := by
  cases operation with
  | applySettings => exact ⟨rfl, centered.active⟩
  | activate =>
      cases active : controller.active with
      | true =>
          show (controller.activate board).1.Centered (if !controller.active then _ else _)
          rw [activate_of_active active, active]
          exact centered
      | false =>
          obtain ⟨thrust, engaged, running⟩ := activate_altitude active board
          show (controller.activate board).1.Centered (if !controller.active then _ else _)
          rw [active]
          refine ⟨?_, ?_⟩
          · rw [engaged]
            rfl
          · rw [engaged, running]
            rfl
  | deactivate =>
      cases active : controller.active with
      | true =>
          obtain ⟨stopped, left⟩ := deactivate_altitude active board
          refine ⟨?_, ?_⟩
          · show (controller.deactivate board).1.altitude.neutral = last
            rw [stopped]
            exact centered.neutral
          · show (controller.deactivate board).1.altitude.active = _
            rw [stopped]
            exact left.symm
      | false =>
          show (controller.deactivate board).1.Centered last
          rw [deactivate_of_inactive active]
          exact centered
  | update =>
      obtain ⟨active, same, neutral⟩ := controller.update_keeps board
      exact ⟨neutral.trans centered.neutral, same.trans (centered.active.trans active.symm)⟩

theorem Tuned.centered (run : Tuned controller last) : controller.Centered last := by
  induction run with
  | start => exact ⟨rfl, rfl⟩
  | perform _ operation board inductionHypothesis =>
      exact inductionHypothesis.perform operation board

/-- **The velocity loop is around the neutral thrust of the settings exactly if the controller is
active or was programmed for the same value before.** Otherwise it is around the value before, and
so it is when the controller is then activated. -/
theorem Tuned.bias_iff (run : Tuned controller last) (board : Blackboard) :
    ((controller.applySettings board).altitude.pid.bias = wanted board ↔
        controller.active = true ∨ last = wanted board) ∧
      (controller.active = false →
        (controller.applySettings board).altitude.pid.bias = last ∧
          (controller.activate board).1.altitude.pid.bias = last) := by
  have centered := run.centered
  have bias := controller.applySettings_bias board
  rw [centered.active, centered.neutral] at bias
  refine ⟨?_, fun inactive => ?_⟩
  · rw [bias]
    cases controller.active with
    | true => exact iff_of_true rfl (.inl rfl)
    | false => exact ⟨.inr, fun given => given.resolve_left nofun⟩
  · rw [inactive] at bias
    obtain ⟨thrust, engaged, -⟩ := activate_altitude inactive board
    refine ⟨bias, ?_⟩
    rw [engaged]
    exact bias

/-- A vehicle that hovers with little thrust. -/
def hoversLight (board : Blackboard) : Blackboard :=
  { board with followerSettings := ⟨{ thrustLimits := { neutral := 0.25 } }, 1⟩ }

theorem bias_of_second_settings :
    ((({} : Controller).applySettings (hoversLight {})).applySettings
      (hoversLight {})).altitude.pid.bias = wanted (hoversLight {}) := by
  have programmed : Tuned (({} : Controller).applySettings (hoversLight {}))
      (wanted (hoversLight {})) := Tuned.start.perform .applySettings (hoversLight {})
  exact (programmed.bias_iff (hoversLight {})).1.mpr (.inr rfl)

/-- The first settings of a new controller are given in vain, also when it is activated. -/
theorem bias_of_first_settings :
    Tuned {} 0.5 ∧ wanted (hoversLight {}) = 0.25 ∧
      (({} : Controller).applySettings (hoversLight {})).altitude.pid.bias = 0.5 ∧
      (({} : Controller).activate (hoversLight {})).1.altitude.pid.bias = 0.5 :=
  ⟨.start, by decide +kernel, by decide +kernel, by decide +kernel⟩

end Controller
end Takeoff
end FlightGuidance
