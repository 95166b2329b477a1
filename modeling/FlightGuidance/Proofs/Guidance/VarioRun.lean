import FlightGuidance.Guidance.StickFlight

/-!
# The held point of a vario mode

Where a released vehicle stays is kept in two places in turn. While the sticks are deflected the
flight carries the held point and the target lies ahead of it; once they are released the target
ends at the held point, and the flight looks at its own copy no more. This module follows both over
all ticks of a vario mode (`VarioRun`), with any sticks, positions, frames and settings on the way,
as long as nothing else writes the target.

Each tick starts a movement, goes on with it, ends it or rests, and which one it is follows from the
sticks of the tick and of the one before (`VarioRun.hovering_eq`). Handing the point over loses
nothing, so it moves only where the vehicle has made progress, and a short tap on the sticks leaves
the target where it was (`VarioRun.keepsPoint`).
-/

set_option autoImplicit false

namespace FlightGuidance
namespace StickFlight

/-! ## One tick -/

/-- What one tick of a vario mode meets. Of these records the target does not count, since it is the
one that the previous tick has left. -/
structure VarioInput where
  frame : VarioFrame
  board : Blackboard

/-- A flight and the target that it alone writes. -/
structure Flown where
  flight : StickFlight
  target : Topic Target

/-- A vario mode that has just been engaged. -/
def engaged (flight : StickFlight) (board : Blackboard) : Flown :=
  ⟨(flight.engageVario board).1, (flight.engageVario board).2.target⟩

namespace Flown

variable (flown : Flown) (input : VarioInput)

def board : Blackboard := { input.board with target := flown.target }

def tick : Flown :=
  ⟨(flown.flight.runVario input.frame (flown.board input)).1,
    (flown.flight.runVario input.frame (flown.board input)).2.target⟩

/-- The filters of the sticks after a tick. -/
def filters : StickFilters :=
  flown.flight.filters.update input.board.modeSettings.value.varioSmoothing
    input.board.command.value

/-- The filtered sticks and the thrust of a tick, as far as they are beyond the deadband. -/
def sticks : Bool × Stick.Deflection :=
  Stick.Deflection.normalize
    ⟨(flown.filters input).roll.output, (flown.filters input).pitch.output,
      (flown.filters input).yaw.output, input.board.command.value.thrust⟩

/-- Whether a filtered stick or the thrust is outside the deadband. -/
def deflects : Bool := (flown.sticks input).1

/-- The direction in which the sticks of a tick push the held point. -/
def direction : Ned :=
  let flight := { flown.flight with filters := flown.filters input }
  let sticks := (flown.sticks input).2
  (flight.push { sticks with pitch := -sticks.pitch } input.frame (flown.board input)).1

/-- How far the vehicle is ahead of the held point in that direction. -/
def progress : Float32 :=
  (input.board.position.value - flown.flight.heldPoint).dot (flown.direction input)

variable {flown input}

theorem tick_start (hovering : flown.flight.hovering = true)
    (deflected : flown.deflects input = true) :
    (flown.tick input).flight.hovering = false ∧
      (flown.tick input).flight.heldPoint = flown.target.value.stop := by
  unfold deflects sticks filters at deflected
  unfold tick runVario
  dsimp only [board]
  rw [if_pos deflected, hovering]
  exact ⟨rfl, rfl⟩

theorem tick_push (hovering : flown.flight.hovering = false)
    (deflected : flown.deflects input = true) :
    (flown.tick input).flight.hovering = false ∧
      (flown.tick input).flight.heldPoint =
        advance flown.flight.heldPoint input.board.position.value (flown.direction input) := by
  unfold deflects sticks filters at deflected
  unfold tick runVario
  dsimp only [board]
  rw [if_pos deflected, hovering]
  exact ⟨rfl, rfl⟩

theorem tick_release (hovering : flown.flight.hovering = false)
    (released : flown.deflects input = false) :
    (flown.tick input).flight.hovering = true ∧
      (flown.tick input).flight.heldPoint = flown.flight.heldPoint ∧
      (flown.tick input).target = flown.target.publish
        (flown.target.value.holdingAt flown.flight.heldPoint
          input.board.modeSettings.value.holdOffset.horizontal) := by
  have resting := ne_true_of_eq_false released
  unfold deflects sticks filters at resting
  unfold tick runVario
  dsimp only [board]
  rw [if_neg resting, hovering]
  exact ⟨rfl, rfl, rfl⟩

theorem tick_rest (hovering : flown.flight.hovering = true)
    (released : flown.deflects input = false) :
    (flown.tick input).flight.hovering = true ∧
      (flown.tick input).flight.heldPoint = flown.flight.heldPoint ∧
      (flown.tick input).target = flown.target := by
  have resting := ne_true_of_eq_false released
  unfold deflects sticks filters at resting
  unfold tick runVario
  dsimp only [board]
  rw [if_neg resting, if_pos hovering]
  exact ⟨hovering, rfl, rfl⟩

/-- The held point moves with the vehicle or stays. -/
theorem advance_of_not_progress (stalled : ¬0 < flown.progress input) :
    advance flown.flight.heldPoint input.board.position.value (flown.direction input) =
      flown.flight.heldPoint :=
  if_neg stalled

/-! ## Many ticks -/

/-- Ticks one after the other. -/
def run (flown : Flown) (inputs : List VarioInput) : Flown := inputs.foldl tick flown

/-- What holds at every one of these ticks. -/
def Throughout (holds : Flown → VarioInput → Prop) : Flown → List VarioInput → Prop
  | _, [] => True
  | flown, input :: inputs => holds flown input ∧ Throughout holds (flown.tick input) inputs

/-- The sticks are deflected, but the vehicle has not got ahead of the held point. -/
def Stalls (flown : Flown) (input : VarioInput) : Prop :=
  flown.deflects input = true ∧ ¬0 < flown.progress input

/-- The sticks are released. -/
def Rests (flown : Flown) (input : VarioInput) : Prop := flown.deflects input = false

/-- **Without progress the held point stays.** -/
theorem run_stalled {inputs : List VarioInput} {flown : Flown}
    (hovering : flown.flight.hovering = false) (stalled : flown.Throughout Stalls inputs) :
    (flown.run inputs).flight.hovering = false ∧
      (flown.run inputs).flight.heldPoint = flown.flight.heldPoint := by
  induction inputs generalizing flown with
  | nil => exact ⟨hovering, rfl⟩
  | cons input inputs inductionHypothesis =>
      obtain ⟨⟨deflected, behind⟩, later⟩ := stalled
      obtain ⟨moving, pushed⟩ := tick_push hovering deflected
      obtain ⟨still, kept⟩ := inductionHypothesis moving later
      exact ⟨still, kept.trans (pushed.trans (advance_of_not_progress behind))⟩

/-- Nothing is published while the sticks rest. -/
theorem run_resting {inputs : List VarioInput} {flown : Flown}
    (hovering : flown.flight.hovering = true) (resting : flown.Throughout Rests inputs) :
    (flown.run inputs).flight.heldPoint = flown.flight.heldPoint ∧
      (flown.run inputs).target = flown.target := by
  induction inputs generalizing flown with
  | nil => exact ⟨rfl, rfl⟩
  | cons input inputs inductionHypothesis =>
      obtain ⟨released, later⟩ := resting
      obtain ⟨still, point, target⟩ := tick_rest hovering released
      obtain ⟨point', target'⟩ := inductionHypothesis still later
      exact ⟨point'.trans point, target'.trans target⟩

end Flown

/-- The ticks of a vario mode since it was engaged. The last index tells whether the last tick was
one of a movement. -/
inductive VarioRun (flight : StickFlight) (board : Blackboard) : Flown → Bool → Prop where
  | engaged : VarioRun flight board (engaged flight board) false
  | tick {flown : Flown} {moving : Bool} (run : VarioRun flight board flown moving)
      (input : VarioInput) : VarioRun flight board (flown.tick input) (flown.deflects input)

namespace VarioRun

variable {flight : StickFlight} {board : Blackboard} {flown : Flown} {moving : Bool}

theorem hovering_eq (run : VarioRun flight board flown moving) :
    flown.flight.hovering = !moving := by
  induction run with
  | engaged => rfl
  | @tick flown moving run input inductionHypothesis =>
      cases deflected : flown.deflects input with
      | true =>
          cases moving with
          | true => exact (Flown.tick_push inductionHypothesis deflected).1
          | false => exact (Flown.tick_start inductionHypothesis deflected).1
      | false =>
          cases moving with
          | true => exact (Flown.tick_release inductionHypothesis deflected).1
          | false => exact (Flown.tick_rest inductionHypothesis deflected).1

end VarioRun

/-- How the held point passes between a flight and its target in the ticks that follow, if the last
tick was one of a movement or not. -/
structure KeepsPoint (flown : Flown) (moving : Bool) : Prop where
  /-- A movement starts where the target ends. -/
  starts : ∀ input, moving = false → flown.deflects input = true →
    (flown.tick input).flight.heldPoint = flown.target.value.stop
  /-- A movement that goes on moves the point only along its direction, by the progress made. -/
  progresses : ∀ input, moving = true →
    (flown.tick input).flight.heldPoint ≠ flown.flight.heldPoint →
      flown.deflects input = true ∧ 0 < flown.progress input
  /-- A movement ends with one target, which ends at the held point. -/
  ends : ∀ input, moving = true → flown.deflects input = false →
    (flown.tick input).target = flown.target.publish
        (flown.target.value.holdingAt flown.flight.heldPoint
          input.board.modeSettings.value.holdOffset.horizontal) ∧
      (flown.tick input).target.value.stop = flown.flight.heldPoint
  /-- Nothing is published between two movements. -/
  rests : ∀ inputs, moving = false → flown.Throughout Flown.Rests inputs →
    (flown.run inputs).flight.heldPoint = flown.flight.heldPoint ∧
      (flown.run inputs).target = flown.target
  /-- A movement without progress leaves the end of the target where it was. -/
  returns : ∀ first stalled release, moving = false → flown.deflects first = true →
    (flown.tick first).Throughout Flown.Stalls stalled →
    ((flown.tick first).run stalled).deflects release = false →
      (((flown.tick first).run stalled).tick release).target.value.stop = flown.target.value.stop

/-- **A vario mode keeps the held point at all times.** -/
theorem VarioRun.keepsPoint {flight : StickFlight} {board : Blackboard} {flown : Flown}
    {moving : Bool} (run : VarioRun flight board flown moving) : KeepsPoint flown moving := by
  have hovering := run.hovering_eq
  refine ⟨fun input resting deflected => ?_, fun input movement changed => ?_,
    fun input movement released => ?_, fun inputs resting released => ?_,
    fun first stalled release resting deflected behind released => ?_⟩
  · subst resting
    exact (Flown.tick_start hovering deflected).2
  · subst movement
    cases deflected : flown.deflects input with
    | true =>
        by_cases ahead : 0 < flown.progress input
        · exact ⟨rfl, ahead⟩
        · exact absurd ((Flown.tick_push hovering deflected).2.trans
            (Flown.advance_of_not_progress ahead)) changed
    | false => exact absurd (Flown.tick_release hovering deflected).2.1 changed
  · subst movement
    have published := (Flown.tick_release hovering released).2.2
    exact ⟨published, congrArg (fun target => target.value.stop) published⟩
  · subst resting
    exact Flown.run_resting hovering released
  · subst resting
    obtain ⟨moves, taken⟩ := Flown.tick_start hovering deflected
    obtain ⟨goesOn, kept⟩ := Flown.run_stalled moves behind
    have published := (Flown.tick_release goesOn released).2.2
    calc
      _ = ((flown.tick first).run stalled).flight.heldPoint :=
        congrArg (fun target => target.value.stop) published
      _ = (flown.tick first).flight.heldPoint := kept
      _ = flown.target.value.stop := taken

/-- A tap on the pitch stick while the wind drives the vehicle south. -/
theorem keepsPoint_tap :
    let start := engaged {} {}
    let settings : Topic ModeSettings := ⟨{ varioSmoothing := 0 }, 1⟩
    let pushed : VarioInput :=
      ⟨.northEast,
        { position := ⟨⟨-1, 0, 0⟩, 1⟩
          command := ⟨{ pitch := -1, thrust := 0.5 }, 1⟩
          modeSettings := settings }⟩
    let released : VarioInput :=
      ⟨.northEast, { command := ⟨{ thrust := 0.5 }, 2⟩, modeSettings := settings }⟩
    VarioRun {} {} start false ∧ start.deflects pushed = true ∧
      (start.tick pushed).Throughout Flown.Stalls [pushed] ∧
      ((start.tick pushed).run [pushed]).deflects released = false ∧
      (((start.tick pushed).run [pushed]).tick released).target.value.stop =
        start.target.value.stop := by
  intro start settings pushed released
  have first : start.deflects pushed = true := by decide +kernel
  have behind : (start.tick pushed).Throughout Flown.Stalls [pushed] :=
    ⟨⟨by decide +kernel, by decide +kernel⟩, trivial⟩
  have last : ((start.tick pushed).run [pushed]).deflects released = false := by decide +kernel
  exact ⟨.engaged, first, behind, last,
    (VarioRun.keepsPoint .engaged).returns pushed [pushed] released rfl first behind last⟩

end StickFlight
end FlightGuidance
