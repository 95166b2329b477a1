import FlightGuidance.Altitude.Hover
import FlightGuidance.Arbiter.BatteryFailsafe
import FlightGuidance.Guidance.StickFlight
import FlightGuidance.Telemetry.Form

/-!
# The forms of the records

Every enumeration and every record of the blackboard under the names that it has at the
boundary. Vectors are lists of their components, the engaged control loops are the
number of their bits, and a mission shows only how many records it holds.
-/

set_option autoImplicit false

namespace FlightGuidance
namespace Telemetry

open Form

/-! ## Enumerations -/

instance : Form FlightMode :=
  labels FlightMode.label
    [.manual, .stabilized1, .stabilized2, .stabilized3, .stabilized4, .stabilized5, .stabilized6,
      .autoTune, .positionHold, .land, .autoTakeoff, .velocityRoam, .courseLock, .positionRoam,
      .homeLeash, .absolutePosition, .returnToBase, .poi, .autoCruise, .pathPlanner]

instance : Form PathMode :=
  names
    [(.flyEndpoint, "FlyEndpoint"), (.flyVector, "FlyVector"),
      (.flyCircleRight, "FlyCircleRight"), (.flyCircleLeft, "FlyCircleLeft"),
      (.gotoEndpoint, "GotoEndpoint"), (.followVector, "FollowVector"),
      (.circleRight, "CircleRight"), (.circleLeft, "CircleLeft"),
      (.fixedAttitude, "FixedAttitude"), (.setAccessory, "SetAccessory"),
      (.disarmAlarm, "DisarmAlarm"), (.land, "Land"), (.brake, "Brake"), (.velocity, "Velocity"),
      (.autoTakeoff, "AutoTakeoff")]

instance : Form EndCondition :=
  names
    [(.none, "None"), (.timeOut, "TimeOut"), (.distanceToTarget, "DistanceToTarget"),
      (.legRemaining, "LegRemaining"), (.belowError, "BelowError"),
      (.aboveAltitude, "AboveAltitude"), (.aboveSpeed, "AboveSpeed"),
      (.pointingTowardsNext, "PointingTowardsNext"), (.script, "PythonScript"),
      (.immediate, "Immediate")]

instance : Form LegCommand :=
  names
    [(.onConditionNext, "OnConditionNextWaypoint"),
      (.onNotConditionNext, "OnNotConditionNextWaypoint"),
      (.onConditionJump, "OnConditionJumpWaypoint"),
      (.onNotConditionJump, "OnNotConditionJumpWaypoint"),
      (.ifConditionJumpElseNext, "IfConditionJumpWaypointElseNextWaypoint")]

instance : Form Severity :=
  names
    [(.uninitialised, "Uninitialised"), (.ok, "Ok"), (.warning, "Warning"),
      (.critical, "Critical"), (.error, "Error")]

instance : Form ThrustMode :=
  names
    [(.manual, "Manual"), (.cruiseControl, "CruiseControl"), (.altitudeHold, "AltitudeHold"),
      (.altitudeVario, "AltitudeVario")]

instance : Form AssistMap := names [(.none, "None"), (.gpsAssist, "GpsAssist")]

instance : Form Assist :=
  names [(.none, "None"), (.primaryThrust, "GpsAssistPrimaryThrust"), (.full, "GpsAssist")]

instance : Form AssistStage := names [(.primary, "Primary"), (.brake, "Brake"), (.hold, "Hold")]

instance : Form ThrottleStage :=
  names [(.manual, "Manual"), (.auto, "Auto"), (.autoOverride, "AutoOverride")]

instance : Form AfterReturn := names [(.hold, "Hold"), (.land, "Land")]

instance : Form LandOption := names [(.none, "None"), (.horizontalHold, "HorizontalPositionHold")]

instance : Form FollowerState :=
  names
    [(.inProgress, "InProgress"), (.completed, "Completed"), (.warning, "Warning"),
      (.critical, "Critical")]

instance : Form Takeoff.State :=
  labels Takeoff.State.label
    [.inactive, .checkState, .slowStart, .thrustUp, .takeoff, .hold, .thrustDown, .thrustOff,
      .disarmed]

instance : Form Takeoff.Gate :=
  labels Takeoff.Gate.label
    [.waitForArmed, .waitForMidThrottle, .requireUnarmedFirst, .initiate, .positionHold, .abort]

instance : Form Takeoff.ExitReason :=
  names
    [(.none, "None"), (.timeout, "Timeout"), (.zeroThrust, "ZeroThrust"),
      (.positionError, "PositionError"), (.arrivedAtAltitude, "ArrivedAtAlt")]

instance : Form Takeoff.AltitudeBand := names [(.low, "Low"), (.high, "High")]

instance : Form ControlHandler :=
  names
    [(.manual, "Manual"), (.stabilized, "Stabilized"), (.pathFollower, "PathFollower"),
      (.pathPlanner, "PathPlanner")]

instance : Form FailsafeLevel := labels FailsafeLevel.label [.none, .warning, .critical]

instance : Form EncodingError :=
  names
    [(.bufferFull, "BufferFull"), (.unknownLength, "UnknownLength"), (.unsupported, "Serialize")]

instance : Form WireFault :=
  names
    [(.excluded, "WontImplement"), (.missing, "NotYetImplemented"),
      (.bufferFull, "SerializeBufferFull"), (.unknownLength, "SerializeSeqLengthUnknown"),
      (.unexpectedEnd, "DeserializeUnexpectedEnd"), (.badNumber, "DeserializeBadVarint"),
      (.badFlag, "DeserializeBadBool"), (.badCharacter, "DeserializeBadChar"),
      (.badText, "DeserializeBadUtf8"), (.badOption, "DeserializeBadOption"),
      (.badVariant, "DeserializeBadEnum"), (.badEncoding, "DeserializeBadEncoding"),
      (.badChecksum, "DeserializeBadCrc"), (.writingRefused, "SerdeSerCustom"),
      (.readingRefused, "SerdeDeCustom"), (.textLost, "CollectStrError")]

instance : Form VarioFrame :=
  names
    [(.course, "Course"), (.firstPerson, "FirstPerson"), (.lineOfSight, "LineOfSight"),
      (.northEast, "NorthEast")]

/-! ## The vehicle and its pilot -/

instance : Form Ned :=
  ofTriple (·.north) (·.east) (·.down) fun north east down => ⟨north, east, down⟩

instance : Form Attitude :=
  ofParts
    [field "roll" (·.roll) ({ · with roll := · }),
      field "pitch" (·.pitch) ({ · with pitch := · }),
      field "yaw" (·.yaw) ({ · with yaw := · })]

instance : Form Airspeed := ofParts [field "calibrated" (·.calibrated) fun _ speed => ⟨speed⟩]

instance : Form TakeoffLocation :=
  ofParts
    [field "position" (·.position) ({ · with position := · }),
      field "valid" (·.valid) ({ · with valid := · })]

instance : Form PilotCommand :=
  ofParts
    [field "roll" (·.roll) ({ · with roll := · }),
      field "pitch" (·.pitch) ({ · with pitch := · }),
      field "yaw" (·.yaw) ({ · with yaw := · }),
      field "thrust" (·.thrust) ({ · with thrust := · }),
      field "throttle" (·.throttle) ({ · with throttle := · }),
      field "flight_mode_switch_position" (·.switchPosition) ({ · with switchPosition := · })]

instance : Form Accessory where
  write accessory := Form.write accessory.channels
  patch accessory value := (Form.patch accessory.channels value).map Accessory.mk

instance : Form Demand :=
  ofParts
    [field "roll" (·.roll) ({ · with roll := · }),
      field "pitch" (·.pitch) ({ · with pitch := · }),
      field "yaw" (·.yaw) ({ · with yaw := · }),
      field "thrust" (·.thrust) ({ · with thrust := · })]

/-! ## Flight status and targets -/

instance : Form ControlChain where
  write chain := Form.write chain.bits
  patch chain value := (Form.patch chain.bits value).map ControlChain.mk

instance : Form FlightStatus :=
  ofParts
    [field "armed" (·.armed) ({ · with armed := · }),
      field "flight_mode" (·.mode) ({ · with mode := · }),
      field "control_chain" (·.chain) ({ · with chain := · }),
      field "always_stabilize_when_armed" (·.alwaysStabilizeWhenArmed)
        ({ · with alwaysStabilizeWhenArmed := · }),
      field "flight_mode_assist" (·.assist) ({ · with assist := · }),
      field "assisted_control_state" (·.stage) ({ · with stage := · }),
      field "assisted_throttle_state" (·.throttle) ({ · with throttle := · })]

instance : Form Target :=
  ofParts
    [field "start" (·.start) ({ · with start := · }),
      field "end" (·.stop) ({ · with stop := · }),
      field "starting_velocity" (·.startingVelocity) ({ · with startingVelocity := · }),
      field "ending_velocity" (·.endingVelocity) ({ · with endingVelocity := · }),
      field "mode" (·.mode) ({ · with mode := · }),
      field "mode_parameters" (·.parameters) ({ · with parameters := · }),
      field "sequence_id" (·.sequenceId) ({ · with sequenceId := · })]

instance : Form FollowerReport :=
  ofParts
    [field "fractional_progress" (·.progress) ({ · with progress := · }),
      field "error" (·.error) ({ · with error := · }),
      field "sequence_id" (·.sequenceId) ({ · with sequenceId := · }),
      field "status" (·.state) ({ · with state := · })]

/-! ## Missions -/

instance : Form StoredSingle :=
  atom (fun single => .ofSingle single.value) fun value => value.asWord.map StoredSingle.mk

instance : Form (StoredSingle × StoredSingle × StoredSingle) :=
  ofTriple (·.1) (·.2.1) (·.2.2) fun north east down => (north, east, down)

instance : Form Waypoint :=
  ofParts
    [field "position" (fun waypoint => (waypoint.north, waypoint.east, waypoint.down))
        fun waypoint (north, east, down) => { waypoint with north, east, down },
      field "velocity" (·.velocity) ({ · with velocity := · }),
      field "action" (·.action) ({ · with action := · })]

instance : Form PathAction :=
  ofParts
    [field "mode" (·.mode) ({ · with mode := · }),
      field "mode_parameters" (·.modeParameters) ({ · with modeParameters := · }),
      field "end_condition" (·.condition) ({ · with condition := · }),
      field "condition_parameters" (·.conditionParameters) ({ · with conditionParameters := · }),
      field "command" (·.command) ({ · with command := · }),
      field "jump_destination" (·.jump) ({ · with jump := · }),
      field "error_destination" (·.errorJump) ({ · with errorJump := · })]

/-- Decode the records of a mission: a list takes the place of all of them, and parts
by index patch those that are there. -/
def patchRecords {α : Type} [Form α] (start : α) (room : Nat) (records : List α) :
    Value → Received (List α)
  | .list items =>
    if room < items.length then .error .full else items.mapM (Form.patch start)
  | .parts entries =>
    entries.foldlM
      (fun records (name, item) => do
        let index ← index name
        let record ← Received.ofOption records[index]?
        pure (records.set index (← Form.patch record item)))
      records
  | _ => .error .malformed

/-- The mission of two lists, if there is room for it. -/
def makeMission (waypoints : List Waypoint) (actions : List PathAction) : Received Mission :=
  match Mission.ofLists? waypoints actions with
  | some mission => .ok mission
  | none => .error .full

instance : Form Mission where
  write mission :=
    .parts
      [("actions", .ofNat mission.actions.length),
        ("waypoints", .ofNat mission.waypoints.length)]
  patch mission value := do
    (← value.asParts).foldlM
      (fun mission (name, item) => do
        if name == "waypoints" then
          makeMission (← patchRecords {} 64 mission.waypoints item) mission.actions
        else if name == "actions" then
          makeMission mission.waypoints (← patchRecords {} 32 mission.actions item)
        else .error .malformed)
      mission

instance : Form PathPlan :=
  ofParts
    [field "waypoint_count" (·.waypointCount) ({ · with waypointCount := · }),
      field "action_count" (·.actionCount) ({ · with actionCount := · }),
      field "crc" (·.crc) ({ · with crc := · })]

instance : Form ActiveWaypoint := ofParts [field "index" (·.index) fun _ index => ⟨index⟩]

/-! ## Status -/

instance : Form Alarms :=
  ofParts
    [field "battery" (·.battery) ({ · with battery := · }),
      field "guidance" (·.guidance) ({ · with guidance := · }),
      field "path_plan" (·.pathPlan) ({ · with pathPlan := · }),
      field "settings" (·.settings) ({ · with settings := · })]

instance : Form Takeoff.Status :=
  ofParts
    [field "state" (·.state) ({ · with state := · }),
      field "altitude_at_state" (·.entryAltitudes) ({ · with entryAltitudes := · }),
      field "exit_reason" (·.exitReasons) ({ · with exitReasons := · }),
      field "altitude_state" (·.altitude) ({ · with altitude := · }),
      field "control_state" (·.gate) ({ · with gate := · })]

instance : Form SelfTuning :=
  ofParts
    [field "neutral_thrust_offset" (·.offset) ({ · with offset := · }),
      field "neutral_thrust_correction" (·.correction) ({ · with correction := · }),
      field "neutral_thrust_accumulator" (·.accumulator) ({ · with accumulator := · }),
      field "neutral_thrust_range" (·.range) ({ · with range := · })]

instance : Form HoverEstimate :=
  ofParts
    [field "start_sampling" (·.sampling) ({ · with sampling := · }),
      field "count" (·.count) ({ · with count := · }),
      field "sum" (·.sum) ({ · with sum := · }),
      field "min" (·.min) ({ · with min := · }),
      field "max" (·.max) ({ · with max := · }),
      field "average" (·.average) ({ · with average := · }),
      field "correction" (·.correction) ({ · with correction := · }),
      field "have_correction" (·.complete) ({ · with complete := · })]

/-! ## Settings -/

instance : Form FailsafePositions :=
  ofParts
    [field "warning" (·.warning) ({ · with warning := · }),
      field "critical" (·.critical) ({ · with critical := · })]

instance : Form HoldOffset :=
  ofParts
    [field "horizontal" (·.horizontal) ({ · with horizontal := · }),
      field "vertical" (·.vertical) ({ · with vertical := · })]

instance : Form ModeSettings :=
  ofParts
    [field "flight_mode_position" (·.positions) ({ · with positions := · }),
      field "stabilization_thrust" (·.bankThrust) ({ · with bankThrust := · }),
      field "always_stabilize_when_armed_switch" (·.alwaysStabilizeChannel)
        ({ · with alwaysStabilizeChannel := · }),
      field "always_stabilize_when_armed_throttle_threshold" (·.alwaysStabilizeThrottle)
        ({ · with alwaysStabilizeThrottle := · }),
      field "battery_failsafe_debounce_ms" (·.failsafeDebounce)
        ({ · with failsafeDebounce := · }),
      field "battery_failsafe_switch_positions" (·.failsafePositions)
        ({ · with failsafePositions := · }),
      field "position_hold_offset" (·.holdOffset) ({ · with holdOffset := · }),
      field "vario_control_lowpass_alpha" (·.varioSmoothing) ({ · with varioSmoothing := · }),
      field "return_to_base_altitude_offset" (·.returnAltitudeOffset)
        ({ · with returnAltitudeOffset := · }),
      field "return_to_base_velocity" (·.returnVelocity) ({ · with returnVelocity := · }),
      field "return_to_base_next_command" (·.afterReturn) ({ · with afterReturn := · }),
      field "auto_takeoff_height" (·.takeoffHeight) ({ · with takeoffHeight := · }),
      field "landing_velocity" (·.landingVelocity) ({ · with landingVelocity := · }),
      field "flight_mode_change_restarts_path_plan" (·.modeChangeRestartsPlan)
        ({ · with modeChangeRestartsPlan := · })]

instance : Form ThrustLimits :=
  ofParts
    [field "min" (·.min) ({ · with min := · }),
      field "neutral" (·.neutral) ({ · with neutral := · }),
      field "max" (·.max) ({ · with max := · })]

instance : Form VelocityGains :=
  ofParts
    [field "kp" (·.proportional) ({ · with proportional := · }),
      field "ki" (·.integral) ({ · with integral := · }),
      field "kd" (·.derivative) ({ · with derivative := · }),
      field "beta" (·.setpointWeight) ({ · with setpointWeight := · })]

instance : Form FollowerSettings :=
  ofParts
    [field "thrust_limits" (·.thrustLimits) ({ · with thrustLimits := · }),
      field "horizontal_vel_max" (·.horizontalVelocityMax)
        ({ · with horizontalVelocityMax := · }),
      field "vertical_vel_max" (·.verticalVelocityMax) ({ · with verticalVelocityMax := · }),
      field "brake_rate" (·.brakeRate) ({ · with brakeRate := · }),
      field "vertical_pos_p" (·.verticalPositionGain) ({ · with verticalPositionGain := · }),
      field "vertical_vel_pid" (·.verticalVelocityGains)
        ({ · with verticalVelocityGains := · }),
      field "takeoff_velocity" (·.takeoffVelocity) ({ · with takeoffVelocity := · })]

instance : Form StickExpo :=
  ofParts
    [field "roll" (·.roll) ({ · with roll := · }),
      field "pitch" (·.pitch) ({ · with pitch := · }),
      field "yaw" (·.yaw) ({ · with yaw := · })]

instance : Form StabilizationSettings :=
  ofParts
    [field "flight_mode_assist_map" (·.assistMap) ({ · with assistMap := · }),
      field "stick_expo" (·.expo) ({ · with expo := · })]

end Telemetry
end FlightGuidance
