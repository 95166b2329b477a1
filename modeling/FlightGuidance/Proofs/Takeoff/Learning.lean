import FlightGuidance.Proofs.Takeoff.ControllerOperation

/-!
# What a takeoff learns

A run of the takeoff controller, with the number of times that the learned record was written since
the controller was last engaged (`Learned`). Only ticks write it, and a tick writes it when the
call of the estimator completes the estimate (`Stepped.learned`). The hold is begun once in a
takeoff, and only then is the estimate restarted. So the record is written once if a hold has been
begun and its estimate is complete, and not at all otherwise (`Learned.writes_le`).
-/

set_option autoImplicit false

namespace FlightGuidance
namespace Takeoff
namespace Controller

/-- The writes of the learned record in an operation. -/
def Operation.writes (controller : Controller) (board : Blackboard) (operation : Operation) : ℕ :=
  ((operation.perform controller board).2.selfTuning.revision - board.selfTuning.revision).toNat

/-- The controllers that are reached by their operations, each on any blackboard, with the writes
of the learned record since the controller was last engaged. -/
inductive Learned : Controller → ℕ → Prop where
  | start : Learned {} 0
  | perform {controller : Controller} {writes : ℕ} (run : Learned controller writes)
      (operation : Operation) (board : Blackboard) :
      Learned (operation.perform controller board).1
        ((if operation.engages controller then 0 else writes) +
          operation.writes controller board)

/-- The writes that a controller has made: one if the estimate of its hold is complete. -/
def taught (controller : Controller) : ℕ :=
  if controller.holding && controller.altitude.estimate.complete then 1 else 0

variable {controller : Controller}

/-- **A tick writes what it learns.** -/
theorem Stepped.learned {tuning tuning' : Topic SelfTuning} {after : Controller}
    (stepped : Stepped controller tuning after tuning') :
    after.taught = controller.taught + (tuning'.revision - tuning.revision).toNat := by
  cases stepped with
  | climbs =>
      rw [UInt64.sub_self]
      rfl
  | holds sequence targetDown down velocity =>
      have before : controller.taught =
          if (controller.asked targetDown down).estimate.complete then 1 else 0 := by
        unfold taught asked
        cases controller.holding <;> rfl
      show (if (controller.asked targetDown down).advanceEstimate.2.estimate.complete then 1
        else 0) = _
      rcases (controller.asked targetDown down).advanceEstimate_complete with
        ⟨nothing, same⟩ | ⟨correction, returned, pending, complete⟩
      · rw [before, nothing, same, UInt64.sub_self]
        rfl
      · rw [before, returned, pending, complete]
        dsimp only
        rw [Topic.revision_modify, UInt64.add_comm, UInt64.add_sub_cancel]
        rfl

/-- Every operation but an engagement adds its writes to what the controller has made. -/
theorem taught_perform (controller : Controller) (operation : Operation) (board : Blackboard) :
    (operation.perform controller board).1.taught =
      (if operation.engages controller then 0 else controller.taught) +
        operation.writes controller board := by
  cases operation with
  | update => exact (controller.update_stepped board).learned
  | applySettings =>
      have silent : Operation.applySettings.writes controller board = 0 :=
        (Framed.refl board).writes_eq
      rw [silent]
      rfl
  | deactivate =>
      have silent : Operation.deactivate.writes controller board = 0 :=
        (controller.deactivate_frame board).writes_eq
      rw [silent]
      show (controller.deactivate board).1.taught = controller.taught
      unfold deactivate
      split <;> rfl
  | activate =>
      have silent : Operation.activate.writes controller board = 0 :=
        (controller.activate_frame board).writes_eq
      rw [silent]
      show (controller.activate board).1.taught = (if !controller.active then 0 else _) + 0
      unfold activate
      cases controller.active <;> rfl

theorem Learned.taught {writes : ℕ} (run : Learned controller writes) :
    writes = controller.taught := by
  induction run with
  | start => rfl
  | perform _ operation board inductionHypothesis => rw [taught_perform, inductionHypothesis]

/-- **Between two engagements the learned record is written at most once**, and it has been written
exactly if a hold has been begun and its estimate is complete. -/
theorem Learned.writes_le {writes : ℕ} (run : Learned controller writes) :
    writes ≤ 1 ∧
      (writes = 1 ↔
        controller.holding = true ∧ controller.altitude.estimate.complete = true) := by
  rw [run.taught]
  unfold Controller.taught
  cases controller.holding <;> cases controller.altitude.estimate.complete <;> decide

/-- The controller after some ticks on one blackboard. -/
def hovered (controller : Controller) (board : Blackboard) (ticks : ℕ) : Controller :=
  ticks.repeat (fun controller => (controller.update board).1) controller

theorem learned_hovered {writes : ℕ} (run : Learned controller writes) (board : Blackboard)
    (ticks : ℕ) : ∃ writes, Learned (controller.hovered board ticks) writes := by
  induction ticks with
  | zero => exact ⟨writes, run⟩
  | succ ticks inductionHypothesis =>
      obtain ⟨_, before⟩ := inductionHypothesis
      exact ⟨_, before.perform .update board⟩

/-- A vehicle that flies when it is engaged holds at once, and has learned after six seconds. -/
theorem learned_once :
    Learned ((({} : Controller).activate (flying {})).1.hovered (flying {}) 120) 1 := by
  have engaged : Learned (({} : Controller).activate (flying {})).1 _ :=
    Learned.start.perform .activate (flying {})
  obtain ⟨writes, run⟩ := learned_hovered engaged (flying {}) 120
  have complete : ((({} : Controller).activate (flying {})).1.hovered (flying {}) 120).holding =
      true ∧ ((({} : Controller).activate (flying {})).1.hovered (flying {})
        120).altitude.estimate.complete = true := by
    decide +kernel
  have once : writes = 1 := (Learned.writes_le run).2.mpr complete
  rw [once] at run
  exact run

end Controller
end Takeoff
end FlightGuidance
