import FlightGuidance.Proofs.Takeoff.Operation

/-!
# The time that a takeoff takes

Three states of the sequence time out after a number of ticks (`State.span`): spooling up, raising
the thrust and lowering it. The count starts with the state (`moveTo_timed`), and the tick after the
last one of the span leaves it, whatever the blackboard holds (`Timed.update_due`). Before that a
state of the climb goes on (`Timed.update_early`), and a state that lowers the thrust goes on or
ends it (`Timed.update_lowering`). The count is a word and wraps around, but not within a span
(`Timed.timedOut`).

So a takeoff that has begun to spool up climbs after 41 ticks and flies freely after 21 more, and
one that lowers its thrust has none after at most 101. What a gate leaves behind is known without a
run (`setGate_state`), and the check is never a state at which the sequence rests
(`Operation.perform_resting`).
-/

set_option autoImplicit false

namespace FlightGuidance
namespace Takeoff

/-- The ticks after which a state times out, and zero for a state that does not. -/
def State.span : State → ℕ
  | .slowStart => slowStartTicks.toNat
  | .thrustUp => thrustUpTicks.toNat
  | .thrustDown => thrustDownTicks.toNat
  | _ => 0

theorem State.span_le (state : State) : state.span ≤ thrustDownTicks.toNat := by
  cases state <;> decide

/-- The state that follows when a state times out. -/
def State.expiry : State → State
  | .slowStart => .thrustUp
  | .thrustUp => .takeoff
  | .thrustDown => .thrustOff
  | state => state

theorem State.leads_expiry {state : State} (spans : 0 < state.span) :
    state.Leads state.expiry := by
  cases state with
  | slowStart => exact .spooled
  | thrustUp => exact .raised
  | thrustDown => exact .lowered
  | inactive | checkState | takeoff | hold | thrustOff | disarmed => cases spans

/-- The states that a tick does not leave. -/
def State.lasts : State → Bool
  | .inactive | .hold | .disarmed => true
  | _ => false

theorem State.Leads.lasts_eq_false {state next : State} (leads : state.Leads next) :
    state.lasts = false := by
  cases leads <;> rfl

theorem State.Leads.resting {state next : State} (leads : state.Leads next) :
    next ≠ .checkState := by
  cases leads <;> nofun

/-- The state in which a gate leaves the sequence, by whether the vehicle flies. -/
def Gate.landing (flying : Bool) : Gate → State
  | .waitForArmed | .waitForMidThrottle | .requireUnarmedFirst => .inactive
  | .initiate => if flying then .hold else .slowStart
  | .positionHold | .abort => .hold

theorem Gate.landing_ne_checkState (flying : Bool) (gate : Gate) :
    gate.landing flying ≠ .checkState := by
  cases gate <;> cases flying <;> nofun

theorem Gate.landing_ne_thrustDown (flying : Bool) (gate : Gate) :
    gate.landing flying ≠ .thrustDown := by
  cases gate <;> cases flying <;> nofun

/-- A gate leads to a state that lasts, or begins to spool up. -/
theorem Gate.landing_cases (flying : Bool) (gate : Gate) :
    (gate = .initiate ∧ gate.landing flying = .slowStart) ∨
      (gate.landing flying).lasts = true := by
  cases gate <;> cases flying <;> simp [landing, State.lasts]

namespace Sequence

/-- The sequence has spent some ticks in a state, and times out with the span of that state. -/
structure Timed (state : State) (ticks : ℕ) (sequence : Sequence) : Prop where
  present : sequence.state = state
  spent : sequence.ticks = UInt32.ofNat ticks
  limit : sequence.timeout.toNat = state.span

variable {sequence : Sequence} {state next : State} {ticks : ℕ}

theorem Timed.relabel (timed : sequence.Timed state ticks) (low : Bool) (status : Status) :
    ({ sequence with low, status } : Sequence).Timed state ticks :=
  ⟨timed.present, timed.spent, timed.limit⟩

/-- Ramps have no part in the count. -/
theorem Timed.along (timed : sequence.Timed state ticks) :
    sequence.ramped.Timed state ticks := by
  obtain ⟨present, spent, limit⟩ := timed
  unfold ramped
  split <;> exact ⟨present, spent, limit⟩

theorem Timed.counted (timed : sequence.Timed state ticks) :
    ({ sequence with ticks := sequence.ticks + 1 } : Sequence).Timed state (ticks + 1) :=
  ⟨timed.present, by rw [UInt32.ofNat_add, ← timed.spent]; rfl, timed.limit⟩

/-! ## Entering a state -/

/-- A state that is entered has its count started. -/
theorem moveTo_timed (differs : sequence.state ≠ next) (board : Blackboard) (reason : ExitReason) :
    (sequence.moveTo board next reason).1.Timed next 0 := by
  obtain ⟨low, status, journal, status', takeoffStatus, changed⟩ :=
    sequence.moveTo_eq board differs reason
  rw [changed]
  cases next <;> exact ⟨rfl, rfl, rfl⟩

theorem passCheck_timed (checking : sequence.state = .checkState) (inputs : Inputs)
    (board : Blackboard) :
    (sequence.passCheck inputs board).1.Timed (Gate.initiate.landing inputs.flying) 0 := by
  let grounded : Sequence :=
    { sequence with constrainsThrust := false, thrustMin := -0.1, thrustMax := 0 }
  have leaves : grounded.state ≠ .slowStart := checking ▸ nofun
  show (if inputs.flying then sequence.moveTo board .hold .none
      else grounded.moveTo board .slowStart .timeout).1.Timed
    (if inputs.flying then .hold else .slowStart) 0
  split
  · exact moveTo_timed (checking ▸ nofun) board .none
  · exact moveTo_timed leaves board .timeout

/-- An initiation passes through the check. -/
theorem setGate_initiate_eq (resting : sequence.state ≠ .checkState) (board : Blackboard) :
    ∃ low status journal status',
      let checking : Sequence :=
        { sequence with state := .checkState, low, status, ticks := 0, timeout := 0 }
      (sequence.setGate board .initiate).1 =
        { (checking.passCheck (Inputs.read board) { board with journal }).1 with
          status := status' } := by
  obtain ⟨low, status, journal, status', takeoffStatus, changed⟩ :=
    change_eq passCheck { sequence with status := { sequence.status with gate := .initiate } }
      board resting .none
  exact ⟨low, status, journal, status', congrArg Prod.fst changed⟩

theorem setGate_initiate_timed (resting : sequence.state ≠ .checkState) (board : Blackboard) :
    (sequence.setGate board .initiate).1.Timed
      (Gate.initiate.landing (Inputs.read board).flying) 0 := by
  obtain ⟨low, status, journal, status', passed⟩ := setGate_initiate_eq resting board
  rw [passed]
  exact (passCheck_timed rfl _ _).relabel _ status'

/-- **Where a gate leads.** -/
theorem setGate_state (resting : sequence.state ≠ .checkState) (board : Blackboard) (gate : Gate) :
    (sequence.setGate board gate).1.state = gate.landing (Inputs.read board).flying := by
  cases gate with
  | initiate => exact (setGate_initiate_timed resting board).present
  | _ => exact moveTo_state _ _ _ _

theorem activate_state (board : Blackboard) :
    (Sequence.activate board).1.state =
      if (Inputs.read board).flying then .hold else .inactive := by
  unfold Sequence.activate setState
  dsimp only
  split <;> exact moveTo_state _ _ _ _

/-! ## Ticks -/

/-- A tick runs the state with its count advanced, and notes whether the vehicle is low. -/
theorem update_eq (sequence : Sequence) (board : Blackboard) :
    ∃ low, (sequence.update board).1 =
      { (({ sequence with ticks := sequence.ticks + 1 } : Sequence).runState
          (0 < sequence.timeout && sequence.timeout < sequence.ticks + 1)
          (Inputs.read board) board).1 with low } := by
  unfold update
  dsimp only
  split
  · exact ⟨_, rfl⟩
  · exact ⟨_, rfl⟩

/-- A state with a span is left when it times out. -/
theorem runState_of_timedOut (spans : 0 < sequence.state.span) (inputs : Inputs)
    (board : Blackboard) :
    (sequence.runState true inputs board).1.state = sequence.state.expiry := by
  unfold runState
  cases state : sequence.state with
  | slowStart | thrustUp | thrustDown => exact moveTo_state _ _ _ _
  | inactive | checkState | takeoff | hold | thrustOff | disarmed =>
      rw [state] at spans
      cases spans

/-- A state of the climb goes on as long as it does not time out. -/
theorem runState_of_ramps (ramps : sequence.state.ramps = true) (inputs : Inputs)
    (board : Blackboard) : sequence.runState false inputs board = (sequence.ramped, board) := by
  cases state : sequence.state with
  | slowStart | thrustUp =>
      simp only [runState, runSlowStart, runThrustUp, expire, ramped, state, Bool.false_eq_true,
        if_false]
  | inactive | checkState | takeoff | hold | thrustDown | thrustOff | disarmed =>
      rw [state] at ramps
      cases ramps

/-- A tick stays in its state, or leads to another one. -/
theorem update_leads (sequence : Sequence) (board : Blackboard) :
    (sequence.update board).1.state = sequence.state ∨
      sequence.state.Leads (sequence.update board).1.state := by
  obtain ⟨ran, low, runs, updated⟩ := update_ran sequence board
  rw [updated]
  cases runs with
  | stays => exact .inl (ramped_state _)
  | @leaves next leads => exact .inr ((moveTo_state _ _ next _).symm ▸ leads)

/-- A tick that leaves its state starts the count over. -/
theorem update_timed {board : Blackboard}
    (left : (sequence.update board).1.state ≠ sequence.state) :
    (sequence.update board).1.Timed (sequence.update board).1.state 0 := by
  obtain ⟨ran, low, runs, updated⟩ := update_ran sequence board
  rw [updated] at left ⊢
  cases runs with
  | stays => exact absurd (ramped_state _) left
  | @leaves next leads reason exitReasons =>
      let counted : Sequence := { sequence with ticks := sequence.ticks + 1 }
      have differs : counted.ramped.state ≠ next := counted.ramped_state ▸ leads.ne
      have moved := moveTo_timed differs board reason
      exact moved.present.symm ▸ moved.relabel _ _

/-- A tick that stays in its state counts. -/
theorem Timed.update_counts (timed : sequence.Timed state ticks) {board : Blackboard}
    (stays : (sequence.update board).1.state = state) :
    (sequence.update board).1.Timed state (ticks + 1) := by
  obtain ⟨ran, low, runs, updated⟩ := update_ran sequence board
  rw [updated] at stays ⊢
  cases runs with
  | stays => exact timed.counted.along.relabel low _
  | @leaves next leads =>
      have same : next = state := (moveTo_state _ _ next _).symm.trans stays
      exact absurd (timed.present.trans same.symm) leads.ne

/-- Whether the count has run out at a tick within the span of a state. -/
theorem Timed.timedOut (timed : sequence.Timed state ticks) (spans : 0 < state.span)
    (within : ticks ≤ state.span) :
    (0 < sequence.timeout && sequence.timeout < sequence.ticks + 1) =
      decide (state.span ≤ ticks) := by
  have limited : 0 < sequence.timeout := UInt32.lt_iff_toNat_lt.mpr (timed.limit ▸ spans)
  have few : ticks + 1 < UInt32.size :=
    Nat.lt_of_le_of_lt (Nat.succ_le_succ (within.trans state.span_le)) (by decide)
  have counted : sequence.ticks + 1 = UInt32.ofNat (ticks + 1) := timed.counted.spent
  have ended : sequence.timeout < sequence.ticks + 1 ↔ state.span ≤ ticks := by
    rw [UInt32.lt_iff_toNat_lt, counted, UInt32.toNat_ofNat_of_lt' few, timed.limit]
    exact Nat.lt_succ_iff
  rw [decide_eq_true limited, Bool.true_and]
  exact decide_eq_decide.mpr ended

/-- **The tick after the span of a state leaves it.** -/
theorem Timed.update_due (timed : sequence.Timed state ticks) (spans : 0 < state.span)
    (due : ticks = state.span) (board : Blackboard) :
    (sequence.update board).1.Timed state.expiry 0 := by
  let counted : Sequence := { sequence with ticks := sequence.ticks + 1 }
  have present : counted.state = state := timed.present
  have expires : (sequence.update board).1.state = state.expiry := by
    have ran : (counted.runState true (Inputs.read board) board).1.state = counted.state.expiry :=
      runState_of_timedOut (present ▸ spans) _ _
    obtain ⟨low, updated⟩ := update_eq sequence board
    rw [updated, timed.timedOut spans due.le, decide_eq_true due.ge]
    exact present ▸ ran
  have left : (sequence.update board).1.state ≠ sequence.state := by
    rw [expires, timed.present]
    exact (State.leads_expiry spans).ne.symm
  exact expires ▸ update_timed left

/-- Before the end of its span a state of the climb takes its bounds along their ramps. -/
theorem Timed.update_ramped (timed : sequence.Timed state ticks) (ramps : state.ramps = true)
    (early : ticks < state.span) (board : Blackboard) :
    ∃ low, (sequence.update board).1 =
      { sequence.ramped with ticks := sequence.ticks + 1, low } := by
  obtain ⟨low, updated⟩ := update_eq sequence board
  let counted : Sequence := { sequence with ticks := sequence.ticks + 1 }
  have climbs : counted.state.ramps = true := timed.present ▸ ramps
  have counts : counted.ramped = { sequence.ramped with ticks := sequence.ticks + 1 } := by
    unfold ramped
    cases sequence.state <;> rfl
  refine ⟨low, ?_⟩
  rw [updated, timed.timedOut (Nat.zero_lt_of_lt early) early.le,
    decide_eq_false (Nat.not_le_of_lt early), runState_of_ramps climbs, counts]

/-- **Before the end of its span a state of the climb goes on.** -/
theorem Timed.update_early (timed : sequence.Timed state ticks) (ramps : state.ramps = true)
    (early : ticks < state.span) (board : Blackboard) :
    (sequence.update board).1.Timed state (ticks + 1) := by
  obtain ⟨low, updated⟩ := timed.update_ramped ramps early board
  exact timed.update_counts (updated ▸ timed.along.present)

/-- A tick that lowers the thrust ends this or counts. -/
theorem Timed.update_lowering (timed : sequence.Timed .thrustDown ticks) (board : Blackboard) :
    (sequence.update board).1.state = .thrustOff ∨
      (sequence.update board).1.Timed .thrustDown (ticks + 1) := by
  obtain stays | leads := sequence.update_leads board
  · exact .inr (timed.update_counts (stays.trans timed.present))
  · rw [timed.present] at leads
    generalize (sequence.update board).1.state = next at leads ⊢
    cases leads
    exact .inl rfl

/-- The thrust that has been lowered is cut at the next tick. -/
theorem update_thrustOff (ended : sequence.state = .thrustOff) (board : Blackboard) :
    (sequence.update board).1.state = .disarmed := by
  obtain ⟨low, updated⟩ := update_eq sequence board
  rw [updated]
  simp only [runState, ended]
  exact moveTo_state _ _ _ _

/-- A state that lasts is not left by a tick. -/
theorem update_of_lasts (lasts : sequence.state.lasts = true) (board : Blackboard) :
    (sequence.update board).1.state = sequence.state := by
  obtain stays | leads := sequence.update_leads board
  · exact stays
  · exact absurd (lasts.symm.trans leads.lasts_eq_false) nofun

/-! ## Runs of ticks -/

/-- The sequence after some ticks, each on a blackboard of its own. -/
def after (sequence : Sequence) (boards : ℕ → Blackboard) : ℕ → Sequence
  | 0 => sequence
  | ticks + 1 => ((sequence.after boards ticks).update (boards ticks)).1

variable {boards : ℕ → Blackboard} {start : ℕ}

/-- A state of the climb that begins goes on for its span. -/
theorem Timed.after_early (begun : (sequence.after boards start).Timed state 0)
    (ramps : state.ramps = true) :
    ∀ ticks ≤ state.span, (sequence.after boards (start + ticks)).Timed state ticks
  | 0, _ => begun
  | ticks + 1, early => (begun.after_early ramps ticks (by omega)).update_early ramps early _

theorem Timed.after_spooling (begun : sequence.Timed .slowStart 0) (boards : ℕ → Blackboard)
    (tick : ℕ) (early : tick ≤ 40) : (sequence.after boards tick).Timed .slowStart tick := by
  have spooling : (sequence.after boards 0).Timed .slowStart 0 := begun
  simpa only [Nat.zero_add] using spooling.after_early rfl tick early

theorem Timed.after_spool (begun : sequence.Timed .slowStart 0) (boards : ℕ → Blackboard) :
    (sequence.after boards 41).Timed .thrustUp 0 :=
  (begun.after_spooling boards 40 le_rfl).update_due (by decide) rfl _

theorem Timed.after_climbing (begun : sequence.Timed .slowStart 0) (boards : ℕ → Blackboard)
    {tick : ℕ} (begins : 41 ≤ tick) (ends : tick ≤ 61) :
    (sequence.after boards tick).Timed .thrustUp (tick - 41) := by
  obtain ⟨ticks, rfl⟩ := Nat.exists_eq_add_of_le begins
  have short : ticks ≤ 20 := by omega
  rw [Nat.add_sub_cancel_left]
  exact (begun.after_spool boards).after_early rfl ticks short

theorem Timed.after_climb (begun : sequence.Timed .slowStart 0) (boards : ℕ → Blackboard) :
    (sequence.after boards 62).Timed .takeoff 0 :=
  (begun.after_climbing boards (show 41 ≤ 61 by decide) le_rfl).update_due (by decide) rfl _

/-- A thrust that goes down ends at the latest one tick after the span. -/
theorem Timed.after_lowering {remaining : ℕ}
    (timed : (sequence.after boards start).Timed .thrustDown ticks)
    (remains : ticks + remaining = thrustDownTicks.toNat) :
    ∃ ended, start < ended ∧ ended ≤ start + remaining + 1 ∧
      (∀ tick, start ≤ tick → tick < ended → (sequence.after boards tick).state = .thrustDown) ∧
      (sequence.after boards ended).state = .thrustOff := by
  have alone (start : ℕ) (present : (sequence.after boards start).state = .thrustDown) (tick : ℕ)
      (begun : start ≤ tick) (before : tick < start + 1) :
      (sequence.after boards tick).state = .thrustDown := by
    obtain rfl : tick = start := by omega
    exact present
  induction remaining generalizing start ticks with
  | zero =>
      have off := timed.update_due (by decide) remains (boards start)
      exact ⟨start + 1, by omega, by omega, alone start timed.present, off.present⟩
  | succ remaining ih =>
      obtain off | lowers := timed.update_lowering (boards start)
      · exact ⟨start + 1, by omega, by omega, alone start timed.present, off⟩
      obtain ⟨ended, later, inTime, lowered, off⟩ :=
        @ih (ticks + 1) (start + 1) lowers (show ticks + 1 + remaining = _ by omega)
      refine ⟨ended, by omega, by omega, fun tick begun before => ?_, off⟩
      obtain rfl | after := begun.eq_or_lt
      · exact timed.present
      · exact lowered tick after before

/-- A state that lasts goes on for ever. -/
theorem after_of_lasts (lasts : sequence.state.lasts = true) (boards : ℕ → Blackboard) :
    ∀ ticks, (sequence.after boards ticks).state = sequence.state
  | 0 => rfl
  | ticks + 1 => by
      have goes := after_of_lasts lasts boards ticks
      have lasts : (sequence.after boards ticks).state.lasts = true := goes ▸ lasts
      exact (update_of_lasts lasts (boards ticks)).trans goes

end Sequence

/-! ## Operations -/

namespace Operation

variable {sequence : Sequence}

/-- **An operation does not rest at the check.** -/
theorem perform_resting (resting : sequence.state ≠ .checkState) (operation : Operation)
    (board : Blackboard) : (operation.perform sequence board).1.state ≠ .checkState := by
  cases operation with
  | activate =>
      unfold perform
      rw [Sequence.activate_state]
      split <;> nofun
  | deactivate => nofun
  | setGate gate =>
      unfold perform
      rw [Sequence.setGate_state resting]
      exact Gate.landing_ne_checkState _ gate
  | update =>
      obtain stays | leads := sequence.update_leads board
      · exact stays.symm ▸ resting
      · exact leads.resting
  | assessAltitude => exact resting

/-- An operation that begins to lower the thrust starts the count over. -/
theorem perform_lowering (resting : sequence.state ≠ .checkState) (operation : Operation)
    (board : Blackboard) (before : sequence.state ≠ .thrustDown)
    (lowers : (operation.perform sequence board).1.state = .thrustDown) :
    (operation.perform sequence board).1.Timed .thrustDown 0 := by
  cases operation with
  | activate =>
      have landed := (Sequence.activate_state board).symm.trans lowers
      split at landed <;> cases landed
  | deactivate => cases lowers
  | setGate gate =>
      have landed := (Sequence.setGate_state resting board gate).symm.trans lowers
      exact absurd landed (Gate.landing_ne_thrustDown _ gate)
  | update =>
      have left : (sequence.update board).1.state ≠ sequence.state :=
        fun same => before (same.symm.trans lowers)
      exact lowers ▸ Sequence.update_timed left
  | assessAltitude => exact absurd lowers before

end Operation

/-- A sequence after a series of operations, each on any blackboard. -/
inductive Operated : Sequence → Prop where
  | start : Operated {}
  | perform {sequence : Sequence} (run : Operated sequence) (operation : Operation)
      (board : Blackboard) : Operated (operation.perform sequence board).1

namespace Operated

variable {sequence : Sequence}

theorem resting (run : Operated sequence) : sequence.state ≠ .checkState := by
  induction run with
  | start => nofun
  | perform _ operation board inductionHypothesis =>
      exact operation.perform_resting inductionHypothesis board

theorem after (run : Operated sequence) (boards : ℕ → Blackboard) :
    ∀ ticks, Operated (sequence.after boards ticks)
  | 0 => run
  | ticks + 1 => (run.after boards ticks).perform .update (boards ticks)

/-- **The time that a takeoff takes**, whatever the blackboard holds at each tick. A takeoff that
begins to spool up does so for 40 ticks, raises its thrust for 21, and then flies. A thrust that
begins to go down is off after 101 ticks or fewer, and one tick later the vehicle is disarmed. A
state that lasts is never left, and no operation rests at the check. -/
theorem keeps_time (run : Operated sequence) :
    (∀ (board : Blackboard) (boards : ℕ → Blackboard),
      let begun := (sequence.setGate board .initiate).1
      begun.state = .slowStart →
        (∀ tick ≤ 40, (begun.after boards tick).state = .slowStart) ∧
        (∀ tick, 41 ≤ tick → tick ≤ 61 → (begun.after boards tick).state = .thrustUp) ∧
        (begun.after boards 62).state = .takeoff) ∧
    (∀ (operation : Operation) (board : Blackboard) (boards : ℕ → Blackboard),
      let begun := (operation.perform sequence board).1
      sequence.state ≠ .thrustDown → begun.state = .thrustDown →
        ∃ ended, 0 < ended ∧ ended ≤ 101 ∧
          (∀ tick < ended, (begun.after boards tick).state = .thrustDown) ∧
          (begun.after boards ended).state = .thrustOff ∧
          (begun.after boards (ended + 1)).state = .disarmed) ∧
    (∀ (boards : ℕ → Blackboard) (ticks : ℕ),
      sequence.state = .inactive ∨ sequence.state = .hold ∨ sequence.state = .disarmed →
        (sequence.after boards ticks).state = sequence.state) ∧
    ∀ (operation : Operation) (board : Blackboard),
      (operation.perform sequence board).1.state ≠ .checkState := by
  refine ⟨?climb, ?descent, ?rest, fun operation => operation.perform_resting run.resting⟩
  case climb =>
    intro board boards begun spools
    have landed := Sequence.setGate_initiate_timed run.resting board
    have spooling : begun.Timed .slowStart 0 := landed.present.symm.trans spools ▸ landed
    exact ⟨fun tick early => (spooling.after_spooling boards tick early).present,
      fun tick begins ends => (spooling.after_climbing boards begins ends).present,
      (spooling.after_climb boards).present⟩
  case descent =>
    intro operation board boards begun before lowers
    have lowering : (begun.after boards 0).Timed .thrustDown 0 :=
      operation.perform_lowering run.resting board before lowers
    obtain ⟨ended, later, inTime, lowered, off⟩ := lowering.after_lowering (Nat.zero_add 100)
    exact ⟨ended, later, inTime, fun tick => lowered tick (Nat.zero_le tick), off,
      Sequence.update_thrustOff off _⟩
  case rest =>
    intro boards ticks lasts
    refine Sequence.after_of_lasts ?_ boards ticks
    rcases lasts with state | state | state <;> rw [state] <;> rfl

/-- A takeoff that is initiated on the ground flies after 62 ticks, and one that then drifts by
four meters is disarmed after 102 more at the latest. -/
theorem flown_takeoff :
    let begun := (initiated {}).1
    let drifted := (Operation.update.perform (begun.after (fun _ => {}) 62)
      { position := { value := { north := 4, east := 0, down := 0 } } }).1
    (begun.after (fun _ => {}) 62).state = .takeoff ∧ drifted.state = .thrustDown ∧
      ∃ ended ≤ 101, (drifted.after (fun _ => {}) (ended + 1)).state = .disarmed := by
  intro begun drifted
  have prepared : Operated (prepared {}).1 := .perform .start .activate {}
  have run : Operated begun := prepared.perform (.setGate .initiate) (Takeoff.prepared {}).2
  have flies :=
    (prepared.keeps_time.1 (Takeoff.prepared {}).2 (fun _ => {}) (by decide +kernel)).2.2
  have lowers : drifted.state = .thrustDown := by decide +kernel
  obtain ⟨ended, -, inTime, -, -, disarmed⟩ := (run.after (fun _ => {}) 62).keeps_time.2.1 .update _
    (fun _ => {}) (flies ▸ nofun) lowers
  exact ⟨flies, lowers, ended, inTime, disarmed⟩

end Operated
end Takeoff
end FlightGuidance
