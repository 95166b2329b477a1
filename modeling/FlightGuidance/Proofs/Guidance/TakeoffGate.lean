import FlightGuidance.Guidance.Fixed
import FlightGuidance.Takeoff.Controller
import Mathlib.Data.List.TakeWhile

/-!
# The gate of a takeoff

A takeoff target is published behind a closed gate, and the gate is advanced by looks at the
pilot: at whether the vehicle is armed, and at the throttle. This module follows a takeoff
target through any number of looks, between which everything but the target may change
(`Looked`).

The gate is a function of the looks (`gateAfter`): it waits for the first look that finds the
vehicle armed, and then for the first later one that finds the throttle raised. So that look
opens it, whether or not the vehicle is armed then (`Looked.opens_iff`): a vehicle that is
disarmed before the throttle is raised starts its takeoff all the same (`opens_disarmed`).
-/

set_option autoImplicit false

namespace FlightGuidance
namespace Guidance

/-- What a look at the pilot finds. -/
structure Look where
  armed : Bool
  throttle : Float32

namespace Look

/-- The look at what a blackboard shows. -/
def of (board : Blackboard) : Look := ⟨board.status.value.armed, board.command.value.throttle⟩

/-- The throttle is above the one that starts a takeoff. -/
def Raised (look : Look) : Prop := takeoffThrottle < look.throttle

instance (look : Look) : Decidable look.Raised := inferInstanceAs (Decidable (_ < _))

end Look

/-- The gate of a takeoff target after a series of looks. -/
def gateAfter (looks : List Look) : Takeoff.Gate :=
  match looks.dropWhile fun look => !look.armed with
  | [] => .waitForArmed
  | _ :: later => if ∃ look ∈ later, look.Raised then .initiate else .waitForMidThrottle

/-! ## Series of looks -/

theorem gateAfter_of_unarmed {looks : List Look} (unarmed : ∀ look ∈ looks, look.armed = false) :
    gateAfter looks = .waitForArmed := by
  have none : looks.dropWhile (fun look => !look.armed) = [] := by
    rw [List.dropWhile_eq_nil_iff]
    intro look member
    rw [unarmed look member]
    rfl
  simp only [gateAfter, none]

/-- The first look at an armed vehicle begins the wait for the throttle. -/
theorem gateAfter_of_armed {earlier later : List Look} {arming : Look}
    (unarmed : ∀ look ∈ earlier, look.armed = false) (armed : arming.armed = true) :
    gateAfter (earlier ++ arming :: later) =
      if ∃ look ∈ later, look.Raised then .initiate else .waitForMidThrottle := by
  have dropped : (earlier ++ arming :: later).dropWhile (fun look => !look.armed) =
      arming :: later := by
    rw [List.dropWhile_append_of_pos, List.dropWhile_cons_of_neg]
    · rw [armed]
      decide
    · intro look member
      rw [unarmed look member]
      rfl
  simp only [gateAfter, dropped]

/-- A series of looks either never finds the vehicle armed, or has a first look that does. -/
theorem unarmed_or_armed (looks : List Look) :
    (∀ look ∈ looks, look.armed = false) ∨ ∃ earlier arming later,
      looks = earlier ++ arming :: later ∧ (∀ look ∈ earlier, look.armed = false) ∧
        arming.armed = true := by
  induction looks with
  | nil => exact .inl fun _ none => nomatch none
  | cons look looks inductionHypothesis =>
      cases armed : look.armed with
      | true => exact .inr ⟨[], look, looks, rfl, fun _ none => (nomatch none), armed⟩
      | false =>
          rcases inductionHypothesis with unarmed | ⟨earlier, arming, later, rfl, unarmed, found⟩
          · exact .inl (List.forall_mem_cons.mpr ⟨armed, unarmed⟩)
          · exact .inr ⟨look :: earlier, arming, later, rfl,
              List.forall_mem_cons.mpr ⟨armed, unarmed⟩, found⟩

/-- **One more look advances the gate.** -/
theorem gateAfter_append (looks : List Look) (look : Look) :
    gateAfter (looks ++ [look]) = nextGate look.armed look.throttle (gateAfter looks) := by
  rcases unarmed_or_armed looks with unarmed | ⟨earlier, arming, later, rfl, unarmed, armed⟩
  · rw [gateAfter_of_unarmed unarmed]
    cases found : look.armed with
    | true =>
        rw [gateAfter_of_armed unarmed found]
        rfl
    | false =>
        rw [gateAfter_of_unarmed]
        · rfl
        · rw [List.forall_mem_append]
          exact ⟨unarmed, List.forall_mem_singleton.mpr found⟩
  · rw [List.append_assoc, List.cons_append, gateAfter_of_armed unarmed armed,
      gateAfter_of_armed unarmed armed]
    by_cases opened : ∃ look ∈ later, look.Raised
    · obtain ⟨first, member, raised⟩ := opened
      rw [if_pos ⟨first, List.mem_append_left _ member, raised⟩, if_pos ⟨first, member, raised⟩]
      rfl
    · rw [if_neg opened]
      have last : (∃ first ∈ later ++ [look], first.Raised) ↔ look.Raised := by
        constructor
        · rintro ⟨first, member, raised⟩
          rcases List.mem_append.mp member with before | now
          · exact absurd ⟨first, before, raised⟩ opened
          · exact List.mem_singleton.mp now ▸ raised
        · exact fun raised => ⟨look, List.mem_append_right _ (List.mem_singleton.mpr rfl), raised⟩
      exact if_congr last rfl rfl

/-! ## Targets behind a gate -/

/-- A takeoff target carries a gate. -/
structure Carries (board : Blackboard) (gate : Takeoff.Gate) : Prop where
  mode : board.target.value.mode = .autoTakeoff
  gate : board.target.value.gate? = some gate

theorem Carries.of_target {board after : Blackboard} {gate : Takeoff.Gate}
    (carries : Carries board gate) (same : after.target = board.target) : Carries after gate :=
  ⟨same ▸ carries.mode, same ▸ carries.gate⟩

theorem takeoff_carries (board : Blackboard) : Carries (takeoff board) .waitForArmed :=
  ⟨rfl, Target.gate?_withGate _ _⟩

/-- **A look at the pilot advances the gate that a takeoff target carries.** -/
theorem Carries.advance {board : Blackboard} {gate : Takeoff.Gate} (carries : Carries board gate) :
    Carries (advanceGate board)
      (nextGate board.status.value.armed board.command.value.throttle gate) := by
  unfold advanceGate
  dsimp only
  rw [if_pos carries.mode, carries.gate, Option.getD_some]
  split
  next kept => exact ⟨carries.mode, carries.gate.trans (congrArg some kept.symm)⟩
  next => exact ⟨carries.mode, Target.gate?_withGate _ _⟩

/-- A blackboard with a takeoff target after a series of looks, between which everything but
the target may change. -/
inductive Looked : Blackboard → List Look → Prop where
  | engage (board : Blackboard) : Looked (takeoff board) []
  | change {board : Blackboard} {looks : List Look} (run : Looked board looks)
      (next : Blackboard) (kept : next.target = board.target) : Looked next looks
  | look {board : Blackboard} {looks : List Look} (run : Looked board looks) :
      Looked (advanceGate board) (looks ++ [.of board])

theorem Looked.carries {board : Blackboard} {looks : List Look} (run : Looked board looks) :
    Carries board (gateAfter looks) := by
  induction run with
  | engage board => exact takeoff_carries board
  | change _ next kept inductionHypothesis => exact inductionHypothesis.of_target kept
  | look _ inductionHypothesis =>
      rw [gateAfter_append]
      exact inductionHypothesis.advance

/-- The gate of the target moves to where the takeoff starts. -/
def Opens (before after : Blackboard) : Prop :=
  before.target.value.gate? ≠ some .initiate ∧ after.target.value.gate? = some .initiate

theorem Looked.opens_eq {board : Blackboard} {looks : List Look} (run : Looked board looks) :
    Opens board (advanceGate board) ↔
      gateAfter looks ≠ .initiate ∧ gateAfter (looks ++ [.of board]) = .initiate := by
  unfold Opens
  rw [run.carries.gate, run.look.carries.gate, ne_eq, Option.some_inj, Option.some_inj]

/-- The gate opens at the first look that finds the throttle raised after the first one that has
found the vehicle armed. -/
theorem gateAfter_opens_iff (looks : List Look) (look : Look) :
    gateAfter looks ≠ .initiate ∧ gateAfter (looks ++ [look]) = .initiate ↔
      look.Raised ∧ ∃ earlier arming later, looks = earlier ++ arming :: later ∧
        (∀ look ∈ earlier, look.armed = false) ∧ arming.armed = true ∧
        ∀ look ∈ later, ¬look.Raised := by
  rw [gateAfter_append]
  constructor
  · rintro ⟨closed, opened⟩
    rcases unarmed_or_armed looks with unarmed | ⟨earlier, arming, later, rfl, unarmed, armed⟩
    · rw [gateAfter_of_unarmed unarmed] at opened
      cases found : look.armed <;> rw [found] at opened <;> cases opened
    · rw [gateAfter_of_armed unarmed armed] at closed opened
      by_cases early : ∃ look ∈ later, look.Raised
      · exact absurd (if_pos early) closed
      · rw [if_neg early] at opened
        have raised : look.Raised := by
          by_contra low
          have closed : nextGate look.armed look.throttle .waitForMidThrottle =
              .waitForMidThrottle := if_neg low
          rw [closed] at opened
          cases opened
        exact ⟨raised, earlier, arming, later, rfl, unarmed, armed,
          fun first member up => early ⟨first, member, up⟩⟩
  · rintro ⟨raised, earlier, arming, later, rfl, unarmed, armed, low⟩
    rw [gateAfter_of_armed unarmed armed, if_neg fun ⟨first, member, up⟩ => low first member up]
    exact ⟨nofun, if_pos raised⟩

/-- **When a takeoff starts.** The gate of a takeoff target is the one of the looks that were
taken at the pilot. A look opens it exactly if it finds the throttle raised for the first time
since a look has found the vehicle armed. Whether the vehicle is still armed plays no part. -/
theorem Looked.opens_iff {board : Blackboard} {looks : List Look} (run : Looked board looks) :
    Carries board (gateAfter looks) ∧
      (Opens board (advanceGate board) ↔
        (Look.of board).Raised ∧ ∃ earlier arming later, looks = earlier ++ arming :: later ∧
          (∀ look ∈ earlier, look.armed = false) ∧ arming.armed = true ∧
          ∀ look ∈ later, ¬look.Raised) :=
  ⟨run.carries, run.opens_eq.trans (gateAfter_opens_iff looks (.of board))⟩

/-! ## A vehicle that is disarmed again -/

/-- What the pilot does in front of the gate. -/
def shows (board : Blackboard) (armed : Bool) (throttle : Float32) : Blackboard :=
  { board with
    status := board.status.modify fun status => { status with armed }
    command := board.command.modify fun command => { command with throttle } }

/-- A takeoff target that has been looked at once, when the vehicle was armed. -/
def armedOnce (board : Blackboard) : Blackboard :=
  advanceGate (shows (takeoff board) true (-1))

theorem looked_armedOnce (board : Blackboard) (armed : Bool) (throttle : Float32) :
    Looked (shows (armedOnce board) armed throttle) [⟨true, -1⟩] :=
  (((Looked.engage board).change (shows (takeoff board) true (-1)) rfl).look).change _ rfl

/-- The vehicle is armed and the throttle raised. -/
theorem opens_armed :
    let board := shows (armedOnce {}) true 0.5
    Opens board (advanceGate board) :=
  (looked_armedOnce {} true 0.5).opens_iff.2.mpr
    ⟨by decide +kernel, [], ⟨true, -1⟩, [], rfl, nofun, rfl, nofun⟩

/-- The vehicle has been disarmed before the throttle is raised, and its takeoff starts. -/
theorem opens_disarmed :
    let board := shows (armedOnce {}) false 0.5
    Looked board [⟨true, -1⟩] ∧ board.status.value.armed = false ∧
      Opens board (advanceGate board) ∧
      (Takeoff.Controller.followGate {} (advanceGate board)).1.state = .slowStart := by
  refine ⟨looked_armedOnce {} false 0.5, rfl, ⟨?_, ?_⟩, ?_⟩ <;> decide +kernel

end Guidance
end FlightGuidance
