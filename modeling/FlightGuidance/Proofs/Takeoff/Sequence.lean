import FlightGuidance.Proofs.Single.Order
import FlightGuidance.Takeoff.Sequence

/-!
# The thrust bounds of the takeoff sequence

What the states of the sequence promise about its thrust bounds (`Shaped`): the ceiling
is always a number, the states of the climb use it as their upper bound, and the states
that end the thrust bound it by minus one. While the thrust is lowered, the upper bound
starts from the demanded thrust, which need not be a number.

The invariant also carries whether a hold has been entered since the sequence was
started over, since the sequence notes a hold and never forgets it. All changes of state
keep the invariant (`moveTo_shaped`), and from this so do the operations.
-/

set_option autoImplicit false

namespace FlightGuidance

/-- The thrust limits are numbers, and the least thrust is at most the greatest one. -/
structure ThrustLimits.Ordered (limits : ThrustLimits) : Prop where
  min_number : limits.min.isNaN = false
  neutral_number : limits.neutral.isNaN = false
  max_number : limits.max.isNaN = false
  min_le_max : limits.min ≤ limits.max

namespace Takeoff

namespace State

/-- The states that raise a bound toward the end of their ramp. -/
def ramps : State → Bool
  | slowStart | thrustUp => true
  | _ => false

/-- The states that bound the thrust by the ceiling. -/
def climbs : State → Bool
  | inactive | slowStart | thrustUp | takeoff => true
  | _ => false

/-- The states without thrust. -/
def cuts : State → Bool
  | thrustOff | disarmed => true
  | _ => false

theorem cuts_of_ramps {state : State} (ramps : state.ramps = true) : state.cuts = false := by
  cases state <;> first | rfl | cases ramps

theorem climbs_of_ramps {state : State} (ramps : state.ramps = true) : state.climbs = true := by
  cases state <;> first | rfl | cases ramps

end State

namespace Sequence

/-- What is known of the thrust bounds in the states of a sequence, and whether a hold
has been entered. -/
structure Shaped (held : Bool) (sequence : Sequence) : Prop where
  ceiling : sequence.thrustMax.isNaN = false
  ramp : sequence.state.ramps = true → sequence.rampTarget.isNaN = false
  free : sequence.state.climbs = true → sequence.constrainsThrust = false
  cut : sequence.state.cuts = true →
    sequence.constrainsThrust = true ∧ sequence.thrustLimit = -1 ∧ sequence.thrustMin = -0.1
  resting : sequence.state ≠ .checkState
  holds : sequence.holdsAltitude = held
  holding : sequence.state = .hold → held = true

variable {held : Bool} {sequence : Sequence}

/-- Telemetry and counts have no part in the invariant. -/
theorem Shaped.recount (shaped : sequence.Shaped held) (ticks timeout : UInt32) (low : Bool)
    (status : Status) : ({ sequence with ticks, timeout, low, status } : Sequence).Shaped held :=
  ⟨shaped.ceiling, shaped.ramp, shaped.free, shaped.cut, shaped.resting, shaped.holds,
    shaped.holding⟩

/-! ## Entering a state -/

theorem isNaN_climbTarget {limit : Float32} (number : limit.isNaN = false) :
    (climbShare * limit).isNaN = false := by
  have share : climbShare.toModel.unpack = .finite .positive 13421773 (-24) (by decide) := rfl
  exact Single.isNaN_mul share number

/-- A prepared state has its bounds in shape. The climb must not begin constrained. -/
theorem prepare_shaped (sequence : Sequence) (inputs : Inputs) (board : Blackboard) {next : State}
    (entered : sequence.state = next) (resting : next ≠ .checkState)
    (ceiling : sequence.thrustMax.isNaN = false)
    (free : next = .slowStart ∨ next = .thrustUp ∨ next = .takeoff →
      sequence.constrainsThrust = false)
    (ordered : inputs.limits.Ordered) :
    (sequence.prepare inputs board next).1.Shaped
      (sequence.holdsAltitude || next == .hold) := by
  rcases sequence with ⟨state, _, _, _, _, _, _, _, _, _, _, holds, _, _, _, _⟩
  dsimp only at entered free ceiling ⊢
  subst entered
  cases state with
  | checkState => exact absurd rfl resting
  | inactive => exact ⟨ceiling, nofun, fun _ => rfl, nofun, nofun, (Bool.or_false _).symm, nofun⟩
  | slowStart =>
      have spool : spoolThrust.isNaN = false := rfl
      exact ⟨spool, fun _ => Single.isNaN_max spool, fun _ => free (.inl rfl), nofun, nofun,
        (Bool.or_false _).symm, nofun⟩
  | thrustUp =>
      exact ⟨ceiling, fun _ => isNaN_climbTarget ordered.max_number,
        fun _ => free (.inr (.inl rfl)), nofun, nofun, (Bool.or_false _).symm, nofun⟩
  | takeoff =>
      exact ⟨ceiling, nofun, fun _ => free (.inr (.inr rfl)), nofun, nofun,
        (Bool.or_false _).symm, nofun⟩
  | hold =>
      exact ⟨ceiling, nofun, nofun, nofun, nofun, (Bool.or_true _).symm, fun _ => Bool.or_true _⟩
  | thrustDown =>
      exact ⟨ordered.neutral_number, nofun, nofun, nofun, nofun, (Bool.or_false _).symm, nofun⟩
  | thrustOff | disarmed =>
      exact ⟨Single.isNaN_zero, nofun, nofun, fun _ => ⟨rfl, rfl, rfl⟩, nofun,
        (Bool.or_false _).symm, nofun⟩

/-- A change to another state prepares it, and else touches the telemetry and the counts.
It reads the blackboard, and adds to the journal, the telemetry and the alarms. -/
theorem change_eq (enter : Sequence → Inputs → Blackboard → Sequence × Blackboard)
    (sequence : Sequence) (board : Blackboard) {next : State} (differs : sequence.state ≠ next)
    (reason : ExitReason) :
    ∃ low status journal,
      let entered := enter
        { sequence with state := next, low, status, ticks := 0, timeout := 0 }
        (Inputs.read board) { board with journal }
      ∃ status' takeoffStatus,
        sequence.change enter board next reason =
          ({ entered.1 with status := status' }, { entered.2 with takeoffStatus }) := by
  unfold change
  dsimp only
  rw [if_neg differs]
  by_cases inactive : next = .inactive
  · rw [if_pos inactive]
    exact ⟨_, _, _, _, _, rfl⟩
  · rw [if_neg inactive]
    exact ⟨_, _, _, _, _, rfl⟩

/-- A change to a state of rest prepares it. -/
theorem moveTo_eq (sequence : Sequence) (board : Blackboard) {next : State}
    (differs : sequence.state ≠ next) (reason : ExitReason) :
    ∃ low status journal,
      let entered :=
        ({ sequence with state := next, low, status, ticks := 0, timeout := 0 } : Sequence).prepare
          (Inputs.read board) { board with journal } next
      ∃ status' takeoffStatus,
        sequence.moveTo board next reason =
          ({ entered.1 with status := status' }, { entered.2 with takeoffStatus }) :=
  change_eq (fun entered inputs board => entered.prepare inputs board next) sequence board differs
    reason

/-- **A change of state keeps the bounds in shape.** -/
theorem moveTo_shaped {board : Blackboard} {next : State} (differs : sequence.state ≠ next)
    (resting : next ≠ .checkState) (ceiling : sequence.thrustMax.isNaN = false)
    (free : next = .slowStart ∨ next = .thrustUp ∨ next = .takeoff →
      sequence.constrainsThrust = false)
    (ordered : board.followerSettings.value.thrustLimits.Ordered) (reason : ExitReason) :
    (sequence.moveTo board next reason).1.Shaped (sequence.holdsAltitude || next == .hold) := by
  obtain ⟨low, status, journal, status', takeoffStatus, changed⟩ :=
    sequence.moveTo_eq board differs reason
  rw [changed]
  have prepared := prepare_shaped
    { sequence with state := next, low, status, ticks := 0, timeout := 0 } (Inputs.read board)
    { board with journal } rfl resting ceiling free ordered
  exact prepared.recount _ _ _ status'

theorem raiseAlarm_frame (inputs : Inputs) (board : Blackboard) :
    ∃ alarms, raiseAlarm inputs board = { board with alarms } := by
  unfold raiseAlarm
  split
  · exact ⟨board.alarms, rfl⟩
  · exact ⟨_, rfl⟩

theorem prepare_frame (sequence : Sequence) (inputs : Inputs) (board : Blackboard)
    (next : State) :
    ∃ alarms, (sequence.prepare inputs board next).2 = { board with alarms } := by
  cases next with
  | disarmed => exact raiseAlarm_frame inputs board
  | _ => exact ⟨board.alarms, rfl⟩

/-- A change of state adds to the journal, and publishes telemetry and alarms. -/
theorem moveTo_frame (sequence : Sequence) (board : Blackboard) (next : State)
    (reason : ExitReason) :
    ∃ alarms takeoffStatus journal,
      (sequence.moveTo board next reason).2 = { board with alarms, takeoffStatus, journal } := by
  by_cases same : sequence.state = next
  · refine ⟨board.alarms, board.takeoffStatus, board.journal, ?_⟩
    unfold moveTo change
    rw [if_pos same]
  · obtain ⟨low, status, journal, status', takeoffStatus, changed⟩ :=
      sequence.moveTo_eq board same reason
    rw [changed]
    obtain ⟨alarms, prepared⟩ := prepare_frame
      { sequence with state := next, low, status, ticks := 0, timeout := 0 }
      (Inputs.read board) { board with journal } next
    refine ⟨alarms, takeoffStatus, journal, ?_⟩
    dsimp only
    rw [prepared]

theorem moveTo_state (sequence : Sequence) (board : Blackboard) (next : State)
    (reason : ExitReason) : (sequence.moveTo board next reason).1.state = next := by
  by_cases same : sequence.state = next
  · unfold moveTo change
    rw [if_pos same]
    exact same
  · obtain ⟨low, status, journal, status', takeoffStatus, changed⟩ :=
      sequence.moveTo_eq board same reason
    rw [changed]
    cases next <;> rfl

/-! ## Operations -/

/-- The sequence and the blackboard after an operation: the bounds are in shape, a hold
counts as entered if one was or is now, and the settings and the demand are as before. -/
structure Carried (held : Bool) (board : Blackboard) (outcome : Sequence × Blackboard) :
    Prop where
  shaped : outcome.1.Shaped (held || outcome.1.state == .hold)
  frame : ∃ alarms takeoffStatus journal,
    outcome.2 = { board with alarms, takeoffStatus, journal }

/-- A sequence that holds has entered a hold. -/
theorem Shaped.carried (shaped : sequence.Shaped held) (board : Blackboard) :
    Carried held board (sequence, board) := by
  refine ⟨?_, board.alarms, board.takeoffStatus, board.journal, rfl⟩
  by_cases holding : sequence.state = .hold
  · rw [shaped.holding holding, Bool.true_or]
    exact shaped.holding holding ▸ shaped
  · rw [beq_false_of_ne holding, Bool.or_false]
    exact shaped

/-- Telemetry and counts have no part in the invariant, and neither has the journal. -/
theorem Carried.publish {board : Blackboard} {journal : Journal}
    {outcome : Sequence × Blackboard} (carried : Carried held { board with journal } outcome)
    (status : Status) (takeoffStatus : Topic Status) :
    Carried held board ({ outcome.1 with status }, { outcome.2 with takeoffStatus }) := by
  obtain ⟨alarms, _, journal, frame⟩ := carried.frame
  refine ⟨carried.shaped.recount _ _ _ _, alarms, takeoffStatus, journal, ?_⟩
  rw [frame]

theorem Carried.ordered {board : Blackboard} {outcome : Sequence × Blackboard}
    (carried : Carried held board outcome)
    (ordered : board.followerSettings.value.thrustLimits.Ordered) :
    outcome.2.followerSettings.value.thrustLimits.Ordered := by
  obtain ⟨_, _, _, frame⟩ := carried.frame
  rw [frame]
  exact ordered

/-- Two operations in turn, the second of which does not leave a hold. -/
theorem Carried.andThen {board : Blackboard} {outcome next : Sequence × Blackboard}
    (first : Carried held board outcome)
    (second : Carried (held || outcome.1.state == .hold) outcome.2 next)
    (stays : outcome.1.state = .hold → next.1.state = .hold) : Carried held board next := by
  obtain ⟨_, _, _, frame⟩ := first.frame
  obtain ⟨alarms, takeoffStatus, journal, frame'⟩ := second.frame
  refine ⟨?_, alarms, takeoffStatus, journal, by rw [frame', frame]⟩
  have shaped := second.shaped
  rw [Bool.or_assoc] at shaped
  by_cases holding : outcome.1.state = .hold
  · rw [holding, stays holding] at shaped
    rw [stays holding]
    exact shaped
  · rw [beq_false_of_ne holding, Bool.false_or] at shaped
    exact shaped

theorem moveTo_carried (sequence : Sequence) (board : Blackboard) {next : State}
    (differs : sequence.state ≠ next) (resting : next ≠ .checkState)
    (ceiling : sequence.thrustMax.isNaN = false)
    (free : next = .slowStart ∨ next = .thrustUp ∨ next = .takeoff →
      sequence.constrainsThrust = false)
    (ordered : board.followerSettings.value.thrustLimits.Ordered) (reason : ExitReason) :
    Carried sequence.holdsAltitude board (sequence.moveTo board next reason) := by
  refine ⟨?_, sequence.moveTo_frame board next reason⟩
  rw [moveTo_state]
  exact moveTo_shaped differs resting ceiling free ordered reason

theorem Shaped.moveTo (shaped : sequence.Shaped held) {board : Blackboard} {next : State}
    (resting : next ≠ .checkState)
    (free : next = .slowStart ∨ next = .thrustUp ∨ next = .takeoff →
      sequence.constrainsThrust = false)
    (ordered : board.followerSettings.value.thrustLimits.Ordered) (reason : ExitReason) :
    Carried held board (sequence.moveTo board next reason) := by
  by_cases same : sequence.state = next
  · unfold Sequence.moveTo change
    rw [if_pos same]
    exact Shaped.carried (shaped.recount _ _ _ _) board
  · rw [← shaped.holds]
    exact moveTo_carried sequence board same resting shaped.ceiling free ordered reason

/-- The check leads to a hold, or to spooling up without a constraint. -/
theorem passCheck_carried (sequence : Sequence) (inputs : Inputs) (board : Blackboard)
    (checking : sequence.state = .checkState) (ceiling : sequence.thrustMax.isNaN = false)
    (ordered : board.followerSettings.value.thrustLimits.Ordered) :
    Carried sequence.holdsAltitude board (sequence.passCheck inputs board) := by
  unfold passCheck
  split
  · exact moveTo_carried sequence board (by simp [checking]) (by simp) ceiling (by simp) ordered
      .none
  · let grounded : Sequence :=
      { sequence with constrainsThrust := false, thrustMin := -0.1, thrustMax := 0 }
    have differs : grounded.state ≠ .slowStart := by simp [grounded, checking]
    exact moveTo_carried grounded board differs (by simp) Single.isNaN_zero (fun _ => rfl) ordered
      .timeout

/-- A change of state from outside leads to rest, to a hold or through the check. -/
theorem setState_carried (shaped : sequence.Shaped held) {board : Blackboard} {next : State}
    (requested : next = .inactive ∨ next = .checkState ∨ next = .hold)
    (ordered : board.followerSettings.value.thrustLimits.Ordered) (reason : ExitReason) :
    Carried held board (sequence.setState board next reason) := by
  unfold setState
  by_cases check : next = .checkState
  · rw [if_pos check]
    subst check
    obtain ⟨low, status, journal, status', takeoffStatus, changed⟩ :=
      change_eq passCheck sequence board shaped.resting reason
    have carried := passCheck_carried
      { sequence with state := .checkState, low, status, ticks := 0, timeout := 0 }
      (Inputs.read board) { board with journal } rfl shaped.ceiling ordered
    rw [changed, ← shaped.holds]
    exact carried.publish status' takeoffStatus
  · rw [if_neg check]
    refine shaped.moveTo check ?_ ordered reason
    rintro climbing
    rcases requested with rfl | rfl | rfl <;> simp at climbing check

theorem setGate_carried (shaped : sequence.Shaped held) {board : Blackboard}
    (ordered : board.followerSettings.value.thrustLimits.Ordered) (gate : Gate) :
    Carried held board (sequence.setGate board gate) := by
  unfold setGate
  refine setState_carried (shaped.recount _ _ _ _) ?_ ordered .none
  cases gate <;> simp [gateState]

/-! ## Ticks -/

theorem isNaN_ramp (number : sequence.rampTarget.isNaN = false) (bound : Float32) :
    (sequence.ramp bound).isNaN = false :=
  Single.isNaN_min number

/-- A state that is left when it times out keeps the bounds in shape, as a change of state does. -/
theorem Shaped.expire (shaped : sequence.Shaped held) {board : Blackboard} {next : State}
    (resting : next ≠ .checkState)
    (free : next = .slowStart ∨ next = .thrustUp ∨ next = .takeoff →
      sequence.constrainsThrust = false)
    (ordered : board.followerSettings.value.thrustLimits.Ordered) (timedOut : Bool) :
    Carried held board (sequence.expire timedOut board next) := by
  unfold Sequence.expire
  split
  · exact shaped.moveTo resting free ordered .timeout
  · exact shaped.carried board

/-- The bounds stay in shape along a ramp, whatever the lower one. -/
theorem Shaped.ramped (shaped : sequence.Shaped held) (ramps : sequence.state.ramps = true)
    (thrustMin : Float32) :
    ({ sequence with thrustMin, thrustMax := sequence.ramp sequence.thrustMax } :
      Sequence).Shaped held := by
  have number := shaped.ramp ramps
  refine ⟨isNaN_ramp number _, shaped.ramp, shaped.free, ?_, shaped.resting, shaped.holds,
    shaped.holding⟩
  intro cuts
  exact absurd ((State.cuts_of_ramps ramps).symm.trans cuts) (by decide)

/-- A tick of a state with a ramp keeps the bounds in shape, whether or not it leads on. -/
theorem Shaped.ramp_expire (shaped : sequence.Shaped held) (ramps : sequence.state.ramps = true)
    (thrustMin : Float32) {board : Blackboard} {next : State} (resting : next ≠ .checkState)
    (ordered : board.followerSettings.value.thrustLimits.Ordered) (timedOut : Bool) :
    Carried held board
      (({ sequence with thrustMin, thrustMax := sequence.ramp sequence.thrustMax } :
        Sequence).expire timedOut board next) := by
  have free := shaped.free (State.climbs_of_ramps ramps)
  exact (shaped.ramped ramps thrustMin).expire resting (fun _ => free) ordered timedOut

theorem runTakeoff_carried (shaped : sequence.Shaped held) {board : Blackboard}
    (ordered : board.followerSettings.value.thrustLimits.Ordered) (inputs : Inputs) :
    Carried held board (sequence.runTakeoff inputs board) := by
  unfold runTakeoff
  split
  · exact shaped.moveTo (by simp) (by simp) ordered .zeroThrust
  · split
    · exact shaped.moveTo (by simp) (by simp) ordered .positionError
    · split
      · exact shaped.moveTo (by simp) (by simp) ordered .arrivedAtAltitude
      · exact shaped.carried board

theorem runThrustDown_carried (shaped : sequence.Shaped held) {board : Blackboard}
    (lowering : sequence.state = .thrustDown)
    (ordered : board.followerSettings.value.thrustLimits.Ordered) (timedOut : Bool)
    (inputs : Inputs) : Carried held board (sequence.runThrustDown timedOut inputs board) := by
  let lowered : Sequence :=
    { sequence with thrustLimit := sequence.thrustLimit - sequence.rampStep }
  have kept : lowered.Shaped held :=
    ⟨shaped.ceiling, shaped.ramp, shaped.free, by simp [lowered, lowering, State.cuts],
      shaped.resting, shaped.holds, shaped.holding⟩
  -- The thrust may end for its own sake, and then the state may have timed out as well.
  let ended : Sequence × Blackboard :=
    if inputs.thrust < 0 || lowered.thrustLimit < 0 then
      lowered.moveTo board .thrustOff .zeroThrust
    else (lowered, board)
  have first : Carried held board ended ∧ ended.1.state ≠ .hold := by
    by_cases ending : (inputs.thrust < 0 || lowered.thrustLimit < 0) = true
    · simp only [ended, if_pos ending]
      refine ⟨kept.moveTo (by simp) (by simp) ordered .zeroThrust, ?_⟩
      rw [moveTo_state]
      nofun
    · simp only [ended, if_neg ending]
      refine ⟨kept.carried board, ?_⟩
      simp [lowered, lowering]
  obtain ⟨carried, other⟩ := first
  have rests : State.thrustOff ≠ .checkState := nofun
  exact carried.andThen
    (carried.shaped.expire rests (by simp) (carried.ordered ordered) timedOut)
    fun holding => absurd holding other

theorem runState_carried (shaped : sequence.Shaped held) {board : Blackboard}
    (ordered : board.followerSettings.value.thrustLimits.Ordered) (timedOut : Bool)
    (inputs : Inputs) : Carried held board (sequence.runState timedOut inputs board) := by
  unfold runState
  split
  next => exact shaped.carried board
  next => exact shaped.carried board
  next => exact shaped.carried board
  next spooling => exact shaped.ramp_expire (by rw [spooling]; rfl) _ (by simp) ordered timedOut
  next climbing => exact shaped.ramp_expire (by rw [climbing]; rfl) _ (by simp) ordered timedOut
  next => exact runTakeoff_carried shaped ordered inputs
  next lowering => exact runThrustDown_carried shaped lowering ordered timedOut inputs
  next => exact shaped.moveTo (by simp) (by simp) ordered .none
  next =>
    obtain ⟨alarms, frame⟩ := raiseAlarm_frame inputs board
    exact ⟨(shaped.carried board).shaped, alarms, board.takeoffStatus, board.journal, frame⟩

/-- **A tick keeps the bounds in shape.** -/
theorem update_carried (shaped : sequence.Shaped held) {board : Blackboard}
    (ordered : board.followerSettings.value.thrustLimits.Ordered) :
    Carried held board (sequence.update board) := by
  let counted : Sequence := { sequence with ticks := sequence.ticks + 1 }
  have kept : counted.Shaped held := shaped.recount _ _ _ _
  have ran := runState_carried kept ordered
    (0 < counted.timeout && counted.timeout < counted.ticks) (Inputs.read board)
  refine ⟨?_, ran.frame⟩
  unfold update
  dsimp only
  split
  · exact ran.shaped
  · exact ran.shaped.recount _ _ _ _

/-- A tick does not leave a hold. -/
theorem update_hold (board : Blackboard) (holding : sequence.state = .hold) :
    (sequence.update board).1.state = .hold := by
  simp [update, runState, holding, assessAltitude]

/-- An activation starts over, and enters a hold at once if the vehicle flies. -/
theorem activate_carried (board : Blackboard)
    (ordered : board.followerSettings.value.thrustLimits.Ordered) :
    Carried false board (Sequence.activate board) := by
  let fresh : Sequence :=
    { low := true, zeroesHorizontal := true, takeoffLocation := board.takeoffLocation.value }
  have shaped : fresh.Shaped false :=
    ⟨Single.isNaN_zero, nofun, fun _ => rfl, nofun, nofun, rfl, nofun⟩
  unfold Sequence.activate
  refine setState_carried (shaped.recount _ _ _ _) ?_ ordered .none
  split
  · exact .inr (.inr rfl)
  · exact .inl rfl

theorem deactivate_shaped (board : Blackboard) : (Sequence.deactivate board).1.Shaped false :=
  ⟨Single.isNaN_zero, nofun, fun _ => rfl, nofun, nofun, rfl, nofun⟩

end Sequence
end Takeoff
end FlightGuidance
