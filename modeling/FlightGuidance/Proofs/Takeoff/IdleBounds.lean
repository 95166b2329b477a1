import FlightGuidance.Proofs.Single.Sign
import FlightGuidance.Proofs.Takeoff.Operation

/-!
# The thrust bounds of an idle sequence

A sequence that is sent back to rest keeps the thrust bounds of the state that it leaves, only
without a constraint. So its bounds tell how far the takeoff has come since the sequence was
started over (`Ascent`): they are zero on the ground, both positive once it has begun to spool up,
from the least thrust of the climb up once it climbs, and from minus one tenth up once the thrust
has been lowered (`Reached.idle_bounds`). Only starting over clears them.

That a ramp of spooling up stays positive rests on the sums of positive singles, which do not
vanish.
-/

set_option autoImplicit false

namespace FlightGuidance
namespace Takeoff

/-- How far a takeoff has come since the sequence was started over. -/
inductive Ascent where
  | grounded
  | spooling
  /-- Climbing, from a least thrust on. -/
  | climbing (least : Float32)
  | lowered

namespace Ascent

/-- Climb from a least thrust on, unless climbing already. -/
def climb : Ascent → Float32 → Ascent
  | climbing least, _ => climbing least
  | _, least => climbing least

/-- How far the takeoff has come once it is in a state. States of rest and the free climb do not
take it further. -/
def next (ascent : Ascent) (least : Float32) : State → Ascent
  | .slowStart => spooling
  | .thrustUp => ascent.climb least
  | .thrustDown | .thrustOff | .disarmed => lowered
  | .inactive | .checkState | .takeoff | .hold => ascent

/-- The thrust bounds that a takeoff leaves behind. -/
def Leaves : Ascent → Float32 → Float32 → Prop
  | grounded, low, high => low = 0 ∧ high = 0
  | spooling, low, high => 0 < low ∧ 0 < high
  | climbing least, low, _ => low = least
  | lowered, low, _ => low = -0.1

theorem next_next (ascent : Ascent) (least least' : Float32) (state : State) :
    (ascent.next least state).next least' state = ascent.next least state := by
  cases state <;> first | rfl | skip
  cases ascent <;> rfl

end Ascent

/-- How far the takeoff has come after an operation. -/
def Operation.ascent (operation : Operation) (before : Ascent) (after : Sequence)
    (board : Blackboard) : Ascent :=
  match operation with
  | .activate | .deactivate => .grounded
  | .setGate _ | .update => before.next board.followerSettings.value.thrustLimits.min after.state
  | .assessAltitude _ => before

namespace Sequence

/-- The bounds of a sequence are the ones that its takeoff has left behind. -/
structure Marked (ascent : Ascent) (sequence : Sequence) : Prop where
  bounds : ascent.Leaves sequence.thrustMin sequence.thrustMax
  settled : ∀ least, ascent.next least sequence.state = ascent
  ramp : sequence.state = .slowStart → 0 ≤ sequence.rampStep ∧ 0 < sequence.rampTarget
  free : sequence.state = .inactive → sequence.constrainsThrust = false

variable {ascent : Ascent} {sequence : Sequence}

theorem Marked.recount (marked : sequence.Marked ascent) (ticks timeout : UInt32) (low : Bool)
    (status : Status) :
    ({ sequence with ticks, timeout, low, status } : Sequence).Marked ascent :=
  ⟨marked.bounds, marked.settled, marked.ramp, marked.free⟩

theorem Marked.of_eq {ascent' : Ascent} (marked : sequence.Marked ascent)
    (same : ascent = ascent') : sequence.Marked ascent' :=
  same ▸ marked

theorem Marked.spooling (marked : sequence.Marked ascent) (state : sequence.state = .slowStart) :
    ascent = .spooling := by
  have settled := marked.settled 0
  rw [state] at settled
  exact settled.symm

theorem Marked.climbing (marked : sequence.Marked ascent) (state : sequence.state = .thrustUp) :
    ∃ least, ascent = .climbing least := by
  have settled := marked.settled 0
  rw [state] at settled
  cases ascent with
  | climbing least => exact ⟨least, rfl⟩
  | grounded | spooling | lowered => cases settled

theorem Marked.thrustBounds_of_inactive (marked : sequence.Marked ascent)
    (idle : sequence.state = .inactive) :
    sequence.thrustBounds = (sequence.thrustMin, sequence.thrustMax) := by
  unfold thrustBounds
  rw [marked.free idle]
  rfl

/-! ## Entering a state -/

theorem spoolThrust_pos : 0 < spoolThrust := by decide +kernel

/-- The ramp of spooling up rises to a positive thrust. -/
theorem prepareSlowStart_ramp (sequence : Sequence) (inputs : Inputs) :
    0 ≤ (sequence.prepareSlowStart inputs).rampStep ∧
      0 < (sequence.prepareSlowStart inputs).rampTarget := by
  have thrust : spoolThrust.toModel.unpack = .finite .positive 13421773 (-28) (by decide) := rfl
  have ticks : slowStartTicks.toFloat32.toModel.unpack =
      .finite .positive 10485760 (-18) (by decide) := rfl
  have higher : spoolThrust ≤ Single.max inputs.limits.min spoolThrust := Single.le_max rfl
  exact ⟨Single.div_nonneg ticks (Single.sub_nonneg thrust higher),
    Single.lt_of_lt_of_le spoolThrust_pos higher⟩

/-- A prepared state has its bounds marked. The ones of spooling up do not depend on those
before. -/
theorem prepare_marked (ascent : Ascent) (sequence : Sequence) (inputs : Inputs)
    (board : Blackboard) {next : State} (entered : sequence.state = next)
    (bounds : next ≠ .slowStart → ascent.Leaves sequence.thrustMin sequence.thrustMax)
    (rising : next = .thrustUp → ascent = .spooling) :
    (sequence.prepare inputs board next).1.Marked (ascent.next inputs.limits.min next) := by
  rcases sequence with ⟨state, _, _, _, _, _, _, _, _, _, _, _, _, _, _, _⟩
  dsimp only at entered bounds ⊢
  subst entered
  have settled (least : Float32) :
      (ascent.next inputs.limits.min state).next least state =
        ascent.next inputs.limits.min state :=
    ascent.next_next _ _ _
  cases state with
  | slowStart =>
      exact ⟨⟨spoolThrust_pos, spoolThrust_pos⟩, settled, fun _ => prepareSlowStart_ramp _ inputs,
        nofun⟩
  | thrustUp =>
      obtain rfl := rising rfl
      exact ⟨rfl, settled, nofun, nofun⟩
  | inactive => exact ⟨bounds nofun, settled, nofun, fun _ => rfl⟩
  | checkState | takeoff | hold => exact ⟨bounds nofun, settled, nofun, nofun⟩
  | thrustDown | thrustOff | disarmed => exact ⟨rfl, settled, nofun, nofun⟩

/-- A change of state takes the takeoff further. -/
theorem moveTo_marked (ascent : Ascent) (sequence : Sequence) (board : Blackboard) {next : State}
    (differs : sequence.state ≠ next)
    (bounds : next ≠ .slowStart → ascent.Leaves sequence.thrustMin sequence.thrustMax)
    (rising : next = .thrustUp → ascent = .spooling) (reason : ExitReason) :
    (sequence.moveTo board next reason).1.Marked
      (ascent.next board.followerSettings.value.thrustLimits.min next) := by
  obtain ⟨low, status, journal, status', takeoffStatus, changed⟩ :=
    sequence.moveTo_eq board differs reason
  rw [changed]
  have prepared := prepare_marked ascent
    { sequence with state := next, low, status, ticks := 0, timeout := 0 } (Inputs.read board)
    { board with journal } rfl bounds rising
  exact prepared.recount _ _ _ status'

/-! ## Operations -/

theorem Marked.moveTo (marked : sequence.Marked ascent) (board : Blackboard) {next : State}
    (rising : next = .thrustUp → ascent = .spooling) (reason : ExitReason) :
    (sequence.moveTo board next reason).1.Marked
      (ascent.next board.followerSettings.value.thrustLimits.min next) := by
  by_cases same : sequence.state = next
  · rw [moveTo_of_eq same, ← same, marked.settled]
    exact marked.recount _ _ _ _
  · exact moveTo_marked ascent sequence board same (fun _ => marked.bounds) rising reason

/-- Coming to rest and holding do not take the takeoff further. -/
theorem Marked.rest (marked : sequence.Marked ascent) (board : Blackboard) {next : State}
    (rest : next = .inactive ∨ next = .hold) (reason : ExitReason) :
    (sequence.moveTo board next reason).1.Marked ascent := by
  have rising : next = .thrustUp → ascent = .spooling := by
    rintro rfl
    rcases rest with rest | rest <;> cases rest
  have moved := marked.moveTo board rising reason
  rcases rest with rfl | rfl <;> exact moved

/-- The check leads to a hold that keeps the bounds, or to spooling up. -/
theorem passCheck_marked (sequence : Sequence) (inputs : Inputs) (board : Blackboard)
    (checking : sequence.state = .checkState)
    (bounds : ascent.Leaves sequence.thrustMin sequence.thrustMax) (least : Float32) :
    (sequence.passCheck inputs board).1.Marked
      (ascent.next least (sequence.passCheck inputs board).1.state) := by
  have other : sequence.state ≠ .hold := by simp [checking]
  let grounded : Sequence :=
    { sequence with constrainsThrust := false, thrustMin := -0.1, thrustMax := 0 }
  have other' : grounded.state ≠ .slowStart := by simp [grounded, checking]
  unfold passCheck
  split
  · rw [moveTo_state]
    exact moveTo_marked ascent sequence board other (fun _ => bounds) nofun .none
  · rw [moveTo_state]
    exact moveTo_marked ascent grounded board other' (fun another => absurd rfl another) nofun
      .timeout

/-- A gate leads to rest, to a hold or through the check. -/
theorem Marked.setGate (marked : sequence.Marked ascent) (board : Blackboard) (gate : Gate)
    (least : Float32) :
    (sequence.setGate board gate).1.Marked
      (ascent.next least (sequence.setGate board gate).1.state) := by
  let gated : Sequence := { sequence with status := { sequence.status with gate } }
  have kept : gated.Marked ascent := marked.recount _ _ _ _
  unfold Sequence.setGate setState
  cases gate with
  | waitForArmed | waitForMidThrottle | requireUnarmedFirst =>
      exact (kept.rest board (.inl rfl) .none).of_eq
        (congrArg (ascent.next least) (gated.moveTo_state board .inactive .none)).symm
  | positionHold | abort =>
      exact (kept.rest board (.inr rfl) .none).of_eq
        (congrArg (ascent.next least) (gated.moveTo_state board .hold .none)).symm
  | initiate =>
      show (gated.change passCheck board .checkState .none).1.Marked
        (ascent.next least (gated.change passCheck board .checkState .none).1.state)
      by_cases same : gated.state = .checkState
      · have noted : gated.change passCheck board .checkState .none =
            (gated.noteExit .none, board) := if_pos same
        have state : (gated.noteExit .none).state = .checkState := same
        rw [noted, state]
        exact kept.recount _ _ _ _
      · obtain ⟨low, status, journal, status', takeoffStatus, changed⟩ :=
          change_eq passCheck gated board same .none
        rw [changed]
        have passed := passCheck_marked
          { gated with state := .checkState, low, status, ticks := 0, timeout := 0 }
          (Inputs.read board) { board with journal } rfl kept.bounds least
        exact passed.recount _ _ _ status'

/-- The bounds rise along their ramp while a takeoff spools up or climbs. -/
theorem Marked.ramped (marked : sequence.Marked ascent) : sequence.ramped.Marked ascent := by
  unfold Sequence.ramped
  split
  next state =>
    obtain rfl := marked.spooling state
    obtain ⟨step, target⟩ := marked.ramp state
    obtain ⟨low, high⟩ := marked.bounds
    refine ⟨⟨?_, ?_⟩, marked.settled, marked.ramp, marked.free⟩
    · exact Single.lt_min (Single.add_pos low step) target
    · exact Single.lt_min (Single.add_pos high step) target
  next state =>
    obtain ⟨least, rfl⟩ := marked.climbing state
    exact ⟨marked.bounds, marked.settled, marked.ramp, marked.free⟩
  next => exact ⟨marked.bounds, marked.settled, marked.ramp, marked.free⟩
  next => exact marked

/-- A tick takes the takeoff further with the state to which it leads. -/
theorem Marked.ran (marked : sequence.Marked ascent) {board : Blackboard}
    {after : Sequence × Blackboard} (ran : Ran sequence board after) :
    after.1.Marked
      (ascent.next board.followerSettings.value.thrustLimits.min after.1.state) := by
  cases ran with
  | stays alarms =>
      show sequence.ramped.Marked (ascent.next _ sequence.ramped.state)
      rw [ramped_state, marked.settled]
      exact marked.ramped
  | @leaves next leads reason exitReasons =>
      have rising (climbs : next = .thrustUp) : ascent = .spooling := by
        subst climbs
        generalize state : sequence.state = before at leads
        cases leads
        exact marked.spooling state
      have moved := marked.ramped.moveTo board rising reason
      have state := sequence.ramped.moveTo_state board next reason
      exact (moved.recount _ _ _ _).of_eq (congrArg (ascent.next _) state.symm)

theorem Marked.update (marked : sequence.Marked ascent) (board : Blackboard) :
    (sequence.update board).1.Marked
      (ascent.next board.followerSettings.value.thrustLimits.min
        (sequence.update board).1.state) := by
  obtain ⟨ran, low, runs, updated⟩ := sequence.update_ran board
  rw [updated]
  have counted : ({ sequence with ticks := sequence.ticks + 1 } : Sequence).Marked ascent :=
    marked.recount _ _ _ _
  exact (counted.ran runs).recount _ _ _ _

theorem marked_start : ({} : Sequence).Marked .grounded :=
  ⟨⟨rfl, rfl⟩, fun _ => rfl, nofun, fun _ => rfl⟩

/-- A sequence that is started over is on the ground, or holds without thrust bounds. -/
theorem activate_marked (board : Blackboard) : (Sequence.activate board).1.Marked .grounded := by
  let fresh : Sequence :=
    { low := true, zeroesHorizontal := true, takeoffLocation := board.takeoffLocation.value }
  have marked : fresh.Marked .grounded := ⟨⟨rfl, rfl⟩, fun _ => rfl, nofun, fun _ => rfl⟩
  have assessed : (fresh.assessAltitude board.position.value.down).Marked .grounded :=
    marked.recount _ _ _ _
  unfold Sequence.activate
  dsimp only
  split
  · exact assessed.rest board (.inr rfl) .none
  · exact assessed.rest board (.inl rfl) .none

theorem deactivate_marked (board : Blackboard) : (Sequence.deactivate board).1.Marked .grounded :=
  marked_start.rest board (.inl rfl) .none

/-! ## Runs -/

/-- The sequences that are reached by operations, each on any blackboard, with how far their
takeoff has come. -/
inductive Reached : Sequence → Ascent → Prop where
  | start : Reached {} .grounded
  | perform {sequence : Sequence} {ascent : Ascent} (run : Reached sequence ascent)
      (operation : Operation) (board : Blackboard) :
      Reached (operation.perform sequence board).1
        (operation.ascent ascent (operation.perform sequence board).1 board)

theorem Reached.marked (run : Reached sequence ascent) : sequence.Marked ascent := by
  induction run with
  | start => exact marked_start
  | perform _ operation board inductionHypothesis =>
      cases operation with
      | activate => exact activate_marked board
      | deactivate => exact deactivate_marked board
      | setGate gate => exact inductionHypothesis.setGate board gate _
      | update => exact inductionHypothesis.update board
      | assessAltitude => exact inductionHypothesis.recount _ _ _ _

/-- **The bounds of an idle sequence.** A sequence that has come to rest keeps the thrust bounds
of the takeoff that it has left. They are zero if it has not begun to spool up since it was
started over, and only then, unless it climbed with a least thrust of zero. -/
theorem Reached.idle_bounds (run : Reached sequence ascent) (idle : sequence.state = .inactive) :
    ascent.Leaves sequence.thrustBounds.1 sequence.thrustBounds.2 ∧
      (ascent ≠ .climbing 0 → (sequence.thrustBounds = (0, 0) ↔ ascent = .grounded)) := by
  have marked := run.marked
  have left := marked.bounds
  rw [marked.thrustBounds_of_inactive idle]
  refine ⟨left, fun climbed => ⟨fun zero => ?_, fun grounded => ?_⟩⟩
  · obtain ⟨low, high⟩ := Prod.mk.inj zero
    rw [low, high] at left
    cases ascent with
    | grounded => rfl
    | spooling => exact absurd left.1 (by decide +kernel)
    | climbing least =>
        have least : 0 = least := left
        exact absurd (congrArg Ascent.climbing least.symm) climbed
    | lowered =>
        have negative : (0 : Float32) = -0.1 := left
        exact absurd negative (by decide +kernel)
  · subst grounded
    obtain ⟨low, high⟩ := left
    rw [low, high]

theorem reached_prepared (board : Blackboard) : Reached (prepared board).1 .grounded :=
  Reached.start.perform .activate board

/-- A sequence that waits for its gate on the ground has no thrust. -/
theorem idle_bounds_of_activate : (prepared {}).1.thrustBounds = (0, 0) :=
  (((reached_prepared {}).idle_bounds (by decide +kernel)).2 nofun).mpr rfl

/-- A takeoff that has begun to spool up is sent back to wait for the vehicle to be armed, and
keeps a thrust. -/
theorem thrust_of_sent_back :
    let spooled := initiated {}
    let idle := ((Operation.setGate .waitForArmed).perform spooled.1 spooled.2).1
    Reached idle .spooling ∧ spooled.1.state = .slowStart ∧ idle.state = .inactive ∧
      idle.thrustBounds ≠ (0, 0) ∧ 0 < idle.thrustBounds.1 ∧ 0 < idle.thrustBounds.2 := by
  intro spooled idle
  have spooling : Reached spooled.1 .spooling :=
    (reached_prepared {}).perform (.setGate .initiate) (prepared {}).2
  exact ⟨spooling.perform (.setGate .waitForArmed) spooled.2, by decide +kernel,
    by decide +kernel, by decide +kernel, by decide +kernel, by decide +kernel⟩

end Sequence
end Takeoff
end FlightGuidance
