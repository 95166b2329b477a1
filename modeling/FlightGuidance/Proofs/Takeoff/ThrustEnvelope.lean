import FlightGuidance.Proofs.Takeoff.Sequence
import FlightGuidance.Takeoff.Controller

/-!
# The thrust of a takeoff

The thrust that the takeoff controller publishes is the demand of the velocity loop kept
within two bounds. These are the bounds of the sequence until a hold has been entered,
and the programmed thrust limits from then on (`update_thrust`). The sequence does not
forget a hold before it is started over, also when a gate leads it back out of the hold.

Hence the envelope of the sequence is respected, in all states but the hold, until a
hold is entered (`Reached.envelope`), and a vehicle that has left a hold flies at least the
least programmed thrust in every state, also in those without thrust. An upper bound that
is not a number cannot be respected either. It only occurs while the thrust is lowered.
-/

set_option autoImplicit false

namespace FlightGuidance

namespace AltitudeController

/-! ## The velocity loop -/

theorem command_thrust (controller : AltitudeController) (bounds : Option VerticalBounds) :
    ∃ demand, (controller.command bounds).thrust =
      Single.min (Single.max demand (controller.thrustBounds bounds).1)
        (controller.thrustBounds bounds).2 :=
  ⟨_, rfl⟩

/-- The programmed thrust limits are the same. -/
structure SameLimits (before after : AltitudeController) : Prop where
  min : after.minThrust = before.minThrust
  max : after.maxThrust = before.maxThrust

theorem advanceEstimate_limits (controller : AltitudeController) :
    controller.SameLimits controller.advanceEstimate.2 := by
  unfold advanceEstimate
  split
  · exact ⟨rfl, rfl⟩
  · split
    · exact ⟨rfl, rfl⟩
    · dsimp only
      split <;> exact ⟨rfl, rfl⟩

theorem controlPosition_limits (controller : AltitudeController) (setpoint position : Float32) :
    controller.SameLimits (controller.controlPosition setpoint position).2 := by
  let placed : AltitudeController :=
    { controller with positionSetpoint := setpoint, position }
  have same := (placed.requestVelocity
    (placed.positionGain * (setpoint - position))).advanceEstimate_limits
  exact ⟨same.min, same.max⟩

end AltitudeController

namespace Takeoff

theorem Sequence.constrain_thrust (sequence : Sequence) (demand : Demand) :
    (sequence.constrain demand).thrust = demand.thrust := by
  unfold constrain
  split <;> rfl

namespace Controller

/-! ## One tick -/

/-- The bounds within which the thrust of a controller was published last. -/
def thrustBounds (controller : Controller) : Float32 × Float32 :=
  if controller.sequence.holdsAltitude then
    (controller.altitude.minThrust, controller.altitude.maxThrust)
  else controller.sequence.thrustBounds

theorem steer_limits (controller : Controller) (board : Blackboard) (targetDown : Float32) :
    controller.altitude.SameLimits (controller.steer board targetDown).1.altitude := by
  unfold steer
  split
  · dsimp only [hold]
    split
    · exact AltitudeController.controlPosition_limits _ _ _
    · have same := ((controller.altitude.beginHold board.position.value.down).controlPosition_limits
        targetDown board.position.value.down)
      exact ⟨same.min, same.max⟩
  · exact ⟨rfl, rfl⟩

theorem steer_sequence (controller : Controller) (board : Blackboard) (targetDown : Float32) :
    (controller.steer board targetDown).1.sequence = controller.sequence := by
  unfold steer
  split <;> rfl

theorem steer_bounds (controller : Controller) (board : Blackboard) (targetDown : Float32) :
    (controller.steer board targetDown).1.altitude.thrustBounds
        (controller.steer board targetDown).2.1 = controller.thrustBounds := by
  have limits := controller.steer_limits board targetDown
  unfold thrustBounds
  split
  next holds =>
    have free : (controller.steer board targetDown).2.1 = none := by
      unfold steer
      rw [if_pos holds]
    rw [free, ← limits.min, ← limits.max]
    rfl
  next climbs =>
    have bounded : (controller.steer board targetDown).2.1 =
        some controller.sequence.verticalBounds := by
      unfold steer
      rw [if_neg climbs]
    rw [bounded]
    rfl

/-- The sequence and the blackboard after the first part of a tick. -/
def ranSequence (controller : Controller) (board : Blackboard) : Sequence × Blackboard :=
  (followGate controller.sequence board).1.update (followGate controller.sequence board).2

/-- The controller that steers in a tick, with what it asks for. -/
def steered (controller : Controller) (board : Blackboard) :
    Controller × Option VerticalBounds × Blackboard :=
  { controller with sequence := (controller.ranSequence board).1 }.steer
    (controller.ranSequence board).2 board.target.value.stop.down

/-- A tick runs the velocity loop of the steered controller, and publishes its thrust. -/
theorem update_eq (controller : Controller) (board : Blackboard) :
    ∃ velocity,
      let altitude := ((controller.steered board).1.altitude.measureVelocity velocity
        (controller.steered board).2.1).command (controller.steered board).2.1
      (controller.update board).1 = { (controller.steered board).1 with altitude } ∧
        (controller.update board).2.demand.value.thrust = altitude.thrust := by
  refine ⟨(controller.steered board).2.2.velocity.value.down, rfl, ?_⟩
  let board' := (controller.steered board).2.2
  let altitude := ((controller.steered board).1.altitude.measureVelocity board'.velocity.value.down
    (controller.steered board).2.1).command (controller.steered board).2.1
  let demand := (controller.ranSequence board).1.constrain
    { board'.demand.value with thrust := altitude.thrust }
  have published : (controller.update board).2.demand = board'.demand.publish demand := by
    show (if (controller.ranSequence board).1.state = State.disarmed then
      { board' with
        demand := board'.demand.publish demand
        report := board'.report.modify fun report => { report with progress := 1 } }
      else { board' with demand := board'.demand.publish demand } : Blackboard).demand = _
    split <;> rfl
  rw [published]
  exact Sequence.constrain_thrust _ _

theorem update_sequence (controller : Controller) (board : Blackboard) :
    (controller.update board).1.sequence = (controller.ranSequence board).1 := by
  obtain ⟨velocity, updated, -⟩ := controller.update_eq board
  rw [updated]
  exact steer_sequence _ _ _

theorem update_limits (controller : Controller) (board : Blackboard) :
    controller.altitude.SameLimits (controller.update board).1.altitude := by
  obtain ⟨velocity, updated, -⟩ := controller.update_eq board
  have same := steer_limits { controller with sequence := (controller.ranSequence board).1 }
    (controller.ranSequence board).2 board.target.value.stop.down
  rw [updated]
  exact ⟨same.min, same.max⟩

/-- **The published thrust is a demand kept within the bounds of the controller.** -/
theorem update_thrust (controller : Controller) (board : Blackboard) :
    let after := controller.update board
    ∃ demand, after.2.demand.value.thrust =
      Single.min (Single.max demand after.1.thrustBounds.1) after.1.thrustBounds.2 := by
  have limits := controller.update_limits board
  have sequence := controller.update_sequence board
  obtain ⟨velocity, -, thrust⟩ := controller.update_eq board
  obtain ⟨demand, commanded⟩ := ((controller.steered board).1.altitude.measureVelocity velocity
    (controller.steered board).2.1).command_thrust (controller.steered board).2.1
  have bounds := steer_bounds { controller with sequence := (controller.ranSequence board).1 }
    (controller.ranSequence board).2 board.target.value.stop.down
  have same : (controller.update board).1.thrustBounds =
      ({ controller with sequence := (controller.ranSequence board).1 } :
        Controller).thrustBounds := by
    unfold thrustBounds
    rw [sequence, limits.min, limits.max]
  refine ⟨demand, ?_⟩
  rw [thrust, commanded, same, ← bounds]
  rfl

/-! ## A run -/

/-- The controllers that are reached by its operations, each on any blackboard with thrust
limits in order. The last index tells whether a hold has been entered since the sequence
was started over. -/
inductive Reached : Controller → Bool → Prop where
  | start : Reached {} false
  | activate {controller : Controller} {held : Bool} (run : Reached controller held)
      (board : Blackboard) (ordered : board.followerSettings.value.thrustLimits.Ordered) :
      Reached (controller.activate board).1
        (if controller.active then held
          else (controller.activate board).1.sequence.state == .hold)
  | deactivate {controller : Controller} {held : Bool} (run : Reached controller held)
      (board : Blackboard) :
      Reached (controller.deactivate board).1 (if controller.active then false else held)
  | applySettings {controller : Controller} {held : Bool} (run : Reached controller held)
      (board : Blackboard) (ordered : board.followerSettings.value.thrustLimits.Ordered) :
      Reached (controller.applySettings board) held
  | update {controller : Controller} {held : Bool} (run : Reached controller held)
      (board : Blackboard) (ordered : board.followerSettings.value.thrustLimits.Ordered) :
      Reached (controller.update board).1
        (held || (controller.update board).1.sequence.state == .hold)

/-- What holds of a reached controller. -/
structure Sound (controller : Controller) (held : Bool) : Prop where
  shaped : controller.sequence.Shaped held
  limits : controller.altitude.minThrust ≤ controller.altitude.maxThrust

theorem followGate_carried {sequence : Sequence} {held : Bool} (shaped : sequence.Shaped held)
    {board : Blackboard} (ordered : board.followerSettings.value.thrustLimits.Ordered) :
    Sequence.Carried held board (followGate sequence board) := by
  unfold followGate
  split
  · split
    · exact shaped.carried board
    · exact Sequence.setGate_carried shaped ordered _
  · exact shaped.carried board

theorem ranSequence_carried {controller : Controller} {held : Bool}
    (shaped : controller.sequence.Shaped held) {board : Blackboard}
    (ordered : board.followerSettings.value.thrustLimits.Ordered) :
    Sequence.Carried held board (controller.ranSequence board) := by
  have followed := followGate_carried shaped ordered
  exact followed.andThen (Sequence.update_carried followed.shaped (followed.ordered ordered))
    (Sequence.update_hold _)

theorem Sound.update {controller : Controller} {held : Bool} (sound : controller.Sound held)
    {board : Blackboard} (ordered : board.followerSettings.value.thrustLimits.Ordered) :
    (controller.update board).1.Sound
      (held || (controller.update board).1.sequence.state == .hold) := by
  have limits := controller.update_limits board
  refine ⟨?_, ?_⟩
  · rw [update_sequence]
    exact (ranSequence_carried sound.shaped ordered).shaped
  · rw [limits.min, limits.max]
    exact sound.limits

theorem Sound.activate {controller : Controller} {held : Bool} (sound : controller.Sound held)
    {board : Blackboard} (ordered : board.followerSettings.value.thrustLimits.Ordered) :
    (controller.activate board).1.Sound
      (if controller.active then held
        else (controller.activate board).1.sequence.state == .hold) := by
  unfold Controller.activate
  by_cases active : controller.active = true
  · rw [if_pos active, if_pos active]
    exact sound
  · rw [if_neg active, if_neg active]
    exact ⟨(Sequence.activate_carried board ordered).shaped, ordered.min_le_max⟩

theorem Sound.deactivate {controller : Controller} {held : Bool} (sound : controller.Sound held)
    (board : Blackboard) :
    (controller.deactivate board).1.Sound (if controller.active then false else held) := by
  unfold Controller.deactivate
  by_cases active : controller.active = true
  · rw [if_pos active, if_pos active]
    exact ⟨Sequence.deactivate_shaped board, sound.limits⟩
  · rw [if_neg active, if_neg active]
    exact sound

theorem Reached.sound {controller : Controller} {held : Bool} (run : Reached controller held) :
    controller.Sound held := by
  induction run with
  | start =>
      exact ⟨⟨Single.isNaN_zero, nofun, fun _ => rfl, nofun, nofun, rfl, nofun⟩, by decide +kernel⟩
  | activate _ board ordered inductionHypothesis => exact inductionHypothesis.activate ordered
  | deactivate _ board inductionHypothesis => exact inductionHypothesis.deactivate board
  | applySettings _ board ordered inductionHypothesis =>
      exact ⟨inductionHypothesis.shaped, ordered.min_le_max⟩
  | update _ board ordered inductionHypothesis => exact inductionHypothesis.update ordered

/-! ## The envelope -/

end Controller

/-- A thrust keeps to the bounds of a sequence: to the upper one, and to the lower one if
the bounds are in order. -/
structure Sequence.Admits (sequence : Sequence) (thrust : Float32) : Prop where
  le_high : thrust ≤ sequence.thrustBounds.2
  low_le : sequence.thrustBounds.1 ≤ sequence.thrustBounds.2 → sequence.thrustBounds.1 ≤ thrust

/-- A demand that is kept within the bounds is admitted if the upper one is a number. -/
theorem Sequence.admits_iff (sequence : Sequence) (demand : Float32) :
    sequence.Admits
        (Single.min (Single.max demand sequence.thrustBounds.1) sequence.thrustBounds.2) ↔
      sequence.thrustBounds.2.isNaN = false := by
  refine ⟨fun admitted => (Single.le_iff.mp admitted.le_high).2.1, fun number => ⟨?_, ?_⟩⟩
  · exact Single.min_le_iff.mpr number
  · exact fun order => Single.le_min (Single.le_max (Single.le_iff.mp order).1) order

/-- The thrust is lowered when the upper bound is not a number. -/
theorem Sequence.Shaped.thrustDown_of_isNaN {sequence : Sequence} {held : Bool}
    (shaped : sequence.Shaped held) (other : sequence.state ≠ .hold)
    (nan : sequence.thrustBounds.2.isNaN = true) : sequence.state = .thrustDown := by
  have climbing : sequence.state.climbs = false := by
    refine Bool.eq_false_of_not_eq_true fun climbs => ?_
    have high : sequence.thrustBounds.2 = sequence.thrustMax := by
      unfold thrustBounds
      rw [shaped.free climbs]
      rfl
    rw [high, shaped.ceiling] at nan
    cases nan
  have cutting : sequence.state.cuts = false := by
    refine Bool.eq_false_of_not_eq_true fun cuts => ?_
    obtain ⟨constrained, limit, -⟩ := shaped.cut cuts
    have high : sequence.thrustBounds.2 = -1 := by
      unfold thrustBounds
      rw [constrained, limit]
      rfl
    rw [high] at nan
    exact absurd nan (by decide +kernel)
  have resting := shaped.resting
  cases state : sequence.state with
  | thrustDown => rfl
  | hold => exact absurd state other
  | checkState => exact absurd state resting
  | inactive | slowStart | thrustUp | takeoff => rw [state] at climbing; cases climbing
  | thrustOff | disarmed => rw [state] at cutting; cases cutting

/-- Whatever the demand, nothing is left of it in a state without thrust. -/
theorem Sequence.Shaped.thrust_of_cuts {sequence : Sequence} {held : Bool}
    (shaped : sequence.Shaped held) (cuts : sequence.state.cuts = true) (demand : Float32) :
    Single.min (Single.max demand sequence.thrustBounds.1) sequence.thrustBounds.2 = -1 := by
  obtain ⟨constrained, limit, floor⟩ := shaped.cut cuts
  have bounds : sequence.thrustBounds = (-0.1, -1) := by
    unfold thrustBounds
    rw [constrained, limit, floor]
    rfl
  have crossed : (-1 : Float32) < -0.1 := by decide +kernel
  rw [bounds]
  exact Single.min_of_lt
    (Single.lt_of_lt_of_le crossed (Single.le_max (Single.lt_iff.mp crossed).2.1))

namespace Controller

theorem Sound.thrustBounds_of_not_held {controller : Controller}
    (sound : controller.Sound false) :
    controller.thrustBounds = controller.sequence.thrustBounds := by
  unfold thrustBounds
  rw [sound.shaped.holds]
  rfl

theorem Sound.thrustBounds_of_held {controller : Controller} (sound : controller.Sound true) :
    controller.thrustBounds = (controller.altitude.minThrust, controller.altitude.maxThrust) := by
  unfold thrustBounds
  rw [sound.shaped.holds]
  rfl

/-- A demand that is kept within the programmed limits is between them. -/
theorem Sound.thrust_within {controller : Controller} {held : Bool}
    (sound : controller.Sound held) (demand : Float32) :
    let limited := Single.min (Single.max demand controller.altitude.minThrust)
      controller.altitude.maxThrust
    controller.altitude.minThrust ≤ limited ∧ limited ≤ controller.altitude.maxThrust := by
  obtain ⟨first, second, -⟩ := Single.le_iff.mp sound.limits
  constructor
  · exact Single.le_min (Single.le_max first) sound.limits
  · exact Single.min_le_iff.mpr second

/-- **The envelope of a takeoff.** As long as no hold has been entered, the published thrust
keeps to the bounds of the sequence exactly if the upper one is a number, which it is
except perhaps while the thrust is lowered, and it is minus one in the states without
thrust. After a hold, the published thrust keeps to the programmed limits in every state,
and so neither to bounds below them nor to minus one. -/
theorem Reached.envelope {controller : Controller} {held : Bool} (run : Reached controller held)
    (board : Blackboard) (ordered : board.followerSettings.value.thrustLimits.Ordered)
    (other : (controller.update board).1.sequence.state ≠ .hold) :
    let after := (controller.update board).1
    let thrust := (controller.update board).2.demand.value.thrust
    (held = false →
      (after.sequence.Admits thrust ↔ after.sequence.thrustBounds.2.isNaN = false) ∧
      (after.sequence.thrustBounds.2.isNaN = true → after.sequence.state = .thrustDown) ∧
      (after.sequence.state = .thrustOff ∨ after.sequence.state = .disarmed → thrust = -1)) ∧
    (held = true →
      after.altitude.minThrust ≤ thrust ∧ thrust ≤ after.altitude.maxThrust ∧
      (after.sequence.thrustBounds.2 < after.altitude.minThrust →
        ¬after.sequence.Admits thrust) ∧
      (-1 < after.altitude.minThrust → thrust ≠ -1)) := by
  intro after thrust
  have sound : after.Sound (held || after.sequence.state == .hold) := run.sound.update ordered
  rw [beq_false_of_ne other, Bool.or_false] at sound
  obtain ⟨demand, published⟩ := controller.update_thrust board
  have bounded : thrust = Single.min (Single.max demand after.thrustBounds.1)
    after.thrustBounds.2 := published
  constructor
  · rintro rfl
    rw [sound.thrustBounds_of_not_held] at bounded
    rw [bounded]
    refine ⟨after.sequence.admits_iff demand, sound.shaped.thrustDown_of_isNaN other, ?_⟩
    intro ended
    refine sound.shaped.thrust_of_cuts ?_ demand
    rcases ended with off | off <;> rw [off] <;> rfl
  · rintro rfl
    rw [sound.thrustBounds_of_held] at bounded
    obtain ⟨atLeast, atMost⟩ := sound.thrust_within demand
    rw [← bounded] at atLeast atMost
    refine ⟨atLeast, atMost, ?_, ?_⟩
    · intro below admitted
      exact Single.not_le_of_lt (Single.lt_of_lt_of_le below atLeast) admitted.le_high
    · intro above cut
      rw [cut] at atLeast
      exact Single.not_le_of_lt above atLeast

/-- The default limits are in order. -/
theorem ordered_default : ({} : ThrustLimits).Ordered :=
  ⟨by decide +kernel, by decide +kernel, by decide +kernel, by decide +kernel⟩

/-- A vehicle that flies already. -/
def flying (board : Blackboard) : Blackboard :=
  { board with demand := ⟨{ thrust := 0.5 }, 1⟩ }

/-- A takeoff target with a gate. -/
def gated (gate : Gate) (board : Blackboard) : Blackboard :=
  { board with target := ⟨({ mode := .autoTakeoff } : Target).withGate gate, 1⟩ }

/-- A takeoff that is activated and then told a gate. -/
def begun (gate : Gate) (controller : Controller) (board : Blackboard) :
    Controller × Blackboard :=
  let (controller, board) := controller.activate board
  controller.update (gated gate board)

/-- A takeoff that is initiated, and so spools up on the ground. -/
def spoolingUp (controller : Controller) (board : Blackboard) : Controller × Blackboard :=
  begun .initiate controller board

/-- A takeoff that is activated in flight, and whose gate then leads out of the hold. -/
def leftHold (controller : Controller) (board : Blackboard) : Controller × Blackboard :=
  begun .waitForMidThrottle controller (flying board)

theorem Reached.of_eq {controller : Controller} {held held' : Bool}
    (run : Reached controller held) (same : held = held') : Reached controller held' :=
  same ▸ run

theorem reached_begun (gate : Gate) {board : Blackboard}
    (ordered : board.followerSettings.value.thrustLimits.Ordered) :
    Reached (begun gate {} board).1
      ((({} : Controller).activate board).1.sequence.state == .hold ||
        (begun gate {} board).1.sequence.state == .hold) :=
  (Reached.start.activate board ordered).update (gated gate (({} : Controller).activate board).2)
    ((Sequence.activate_carried board ordered).ordered ordered)

theorem reached_spoolingUp : Reached (spoolingUp {} {}).1 false :=
  (reached_begun .initiate ordered_default).of_eq (by decide +kernel)

theorem reached_leftHold : Reached (leftHold {} {}).1 true :=
  (reached_begun .waitForMidThrottle ordered_default).of_eq (by decide +kernel)

/-- A takeoff that spools up has a thrust, which its bounds admit. One that has left a hold has a
thrust between its programmed limits also at the next tick, and the bounds of the idle sequence do
not admit it. -/
theorem envelope_of_takeoffs :
    let spooled := (spoolingUp {} {}).1.update (spoolingUp {} {}).2
    let waiting := (leftHold {} {}).1.update (leftHold {} {}).2
    (Reached (spoolingUp {} {}).1 false ∧ spooled.1.sequence.state = .slowStart ∧
        0 < spooled.2.demand.value.thrust ∧
        spooled.1.sequence.Admits spooled.2.demand.value.thrust) ∧
      Reached (leftHold {} {}).1 true ∧ waiting.1.sequence.state = .inactive ∧
        waiting.1.altitude.minThrust ≤ waiting.2.demand.value.thrust ∧
        ¬waiting.1.sequence.Admits waiting.2.demand.value.thrust := by
  intro spooled waiting
  have climbs : spooled.1.sequence.state = .slowStart ∧ 0 < spooled.2.demand.value.thrust ∧
      spooled.1.sequence.thrustBounds.2.isNaN = false := by
    decide +kernel
  have waits : waiting.1.sequence.state = .inactive ∧
      waiting.1.sequence.thrustBounds.2 < waiting.1.altitude.minThrust := by
    decide +kernel
  have ordered : (spoolingUp {} {}).2.followerSettings.value.thrustLimits.Ordered := ordered_default
  have ordered' : (leftHold {} {}).2.followerSettings.value.thrustLimits.Ordered := ordered_default
  have within := (reached_spoolingUp.envelope _ ordered
    fun holds => absurd (climbs.1.symm.trans holds) nofun).1 rfl
  have beyond := (reached_leftHold.envelope _ ordered'
    fun holds => absurd (waits.1.symm.trans holds) nofun).2 rfl
  exact ⟨⟨reached_spoolingUp, climbs.1, climbs.2.1, within.1.mpr climbs.2.2⟩, reached_leftHold,
    waits.1, beyond.1, beyond.2.2.1 waits.2⟩

/-- The sequence waits for its gate with no thrust, and the vehicle flies on. -/
theorem thrust_after_hold :
    Reached (leftHold {} {}).1 true ∧ (leftHold {} {}).1.sequence.state = .inactive ∧
      (leftHold {} {}).1.sequence.thrustBounds = (0, 0) ∧
      0 < (leftHold {} {}).2.demand.value.thrust ∧
      ¬(leftHold {} {}).1.sequence.Admits (leftHold {} {}).2.demand.value.thrust := by
  have bounds : (leftHold {} {}).1.sequence.thrustBounds = (0, 0) := by decide +kernel
  have flies : 0 < (leftHold {} {}).2.demand.value.thrust := by decide +kernel
  refine ⟨reached_leftHold, by decide +kernel, bounds, flies, fun admitted => ?_⟩
  have grounded := admitted.le_high
  rw [bounds] at grounded
  exact Single.not_le_of_lt flies grounded

end Controller
end Takeoff
end FlightGuidance
