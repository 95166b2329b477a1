import FlightGuidance.Degrees
import FlightGuidance.Filter.StepTime
import FlightGuidance.Guidance.Fixed
import FlightGuidance.Stick

/-!
# Flying with the sticks

Two kinds of flight modes update their target on every tick. In the vario modes
the sticks push a held point through space: the target lies ahead of it in the
commanded direction, the point follows the vehicle along that direction only, and
once the sticks are released the vehicle holds the point it had reached. In a
cruise the vehicle flies ahead on a heading that the yaw stick turns.

Both work from the point that is held, which one state carries for both.
-/

set_option autoImplicit false

namespace FlightGuidance

/-- The axes in which a vario mode reads the sticks. -/
inductive VarioFrame where
  /-- The heading at which the mode was engaged. -/
  | course
  /-- The heading of the vehicle. -/
  | firstPerson
  /-- The line of sight from the takeoff location. -/
  | lineOfSight
  /-- North and east. -/
  | northEast
  deriving DecidableEq, Repr

/-- The frame of a vario mode. -/
def VarioFrame.ofMode? : FlightMode → Option VarioFrame
  | .courseLock => some course
  | .positionRoam => some firstPerson
  | .homeLeash => some lineOfSight
  | .absolutePosition => some northEast
  | _ => none

/-- The filters of the three sticks. -/
structure StickFilters where
  roll : Lowpass := .ofSmoothing 0
  pitch : Lowpass := .ofSmoothing 0
  yaw : Lowpass := .ofSmoothing 0

namespace StickFilters

/-- All filters at rest. -/
def reset (filters : StickFilters) : StickFilters :=
  ⟨filters.roll.reset 0, filters.pitch.reset 0, filters.yaw.reset 0⟩

/-- Filter the sticks of a command. -/
def update (filters : StickFilters) (smoothing : Float32) (command : PilotCommand) :
    StickFilters :=
  { roll := (filters.roll.withSmoothing smoothing).update command.roll
    pitch := (filters.pitch.withSmoothing smoothing).update command.pitch
    yaw := (filters.yaw.withSmoothing smoothing).update command.yaw }

end StickFilters

/-- What is carried from tick to tick while the sticks fly the vehicle. -/
structure StickFlight where
  /-- Whether the sticks of a vario mode are released. -/
  hovering : Bool := true
  heldPoint : Ned := {}
  filters : StickFilters := {}
  /-- The heading at which the mode was engaged, in degrees. -/
  course : Float32 := 0
  /-- The averaged time between the ticks of a cruise. -/
  cruiseTime : StepTime := .new 0.02 ⟨1e-6, 1, by decide +kernel⟩ 0.01

namespace StickFlight

/-! ## Vario modes -/

/-- Engage a vario mode at the present position. -/
def engageVario (flight : StickFlight) (board : Blackboard) : StickFlight × Blackboard :=
  ({ flight with
      hovering := true
      filters := flight.filters.reset
      course := board.attitude.value.yaw },
    Guidance.hold board)

/-- The heading of a frame, in degrees. -/
def heading (flight : StickFlight) (frame : VarioFrame) (board : Blackboard) : Float32 :=
  match frame with
  | .course => flight.course
  | .firstPerson => board.attitude.value.yaw
  | .lineOfSight =>
    let position := board.position.value
    let takeoff := board.takeoffLocation.value.position
    Single.toDegrees
      (Float32.atan2 (position.east - takeoff.east) (position.north - takeoff.north))
  | .northEast => 0

/-- The direction in which the sticks push the held point, and the distance at
which the target lies ahead of it. Vertical travel is less sensitive than
horizontal travel. -/
def push (flight : StickFlight) (sticks : Stick.Deflection) (frame : VarioFrame)
    (board : Blackboard) : Ned × Float32 :=
  let offset := board.modeSettings.value.holdOffset
  let climb := sticks.thrust * offset.vertical / offset.horizontal
  let deflection :=
    (sticks.roll * sticks.roll + sticks.pitch * sticks.pitch + climb * climb).sqrt
  let length := if deflection ≤ 1e-9 then 1 else deflection
  let north := sticks.pitch / length
  let east := sticks.roll / length
  let up := climb / length
  let angle := flight.heading frame board
  let sine := Degrees.sine angle
  let cosine := Degrees.cosine angle
  (⟨north * cosine - east * sine, north * sine + east * cosine, -up⟩,
    length * offset.horizontal)

/-- The held point moved along a direction to where the vehicle is. It does not
move back. -/
def advance (point position direction : Ned) : Ned :=
  let progress := (position - point).dot direction
  if 0 < progress then point + direction.scale progress else point

/-- One tick of a vario mode. -/
def runVario (flight : StickFlight) (frame : VarioFrame) (board : Blackboard) :
    StickFlight × Blackboard :=
  let target := board.target.value
  let settings := board.modeSettings.value
  let offset := settings.holdOffset.horizontal
  let command := board.command.value
  let filters := flight.filters.update settings.varioSmoothing command
  let flight := { flight with filters }
  let (moving, sticks) :=
    Stick.Deflection.normalize
      ⟨filters.roll.output, filters.pitch.output, filters.yaw.output, command.thrust⟩
  if moving then
    let (direction, length) :=
      flight.push { sticks with pitch := -sticks.pitch } frame board
    let heldPoint :=
      if flight.hovering then target.stop
      else advance flight.heldPoint board.position.value direction
    ({ flight with hovering := false, heldPoint },
      board.publishTarget (target.holdingAt (heldPoint + direction.scale length) offset))
  else if flight.hovering then (flight, board)
  else
    ({ flight with hovering := true },
      board.publishTarget (target.holdingAt flight.heldPoint offset))

/-! ## Roaming -/

/-- Engage roaming, which publishes nothing before its first tick. -/
def engageRoam (flight : StickFlight) (board : Blackboard) : StickFlight :=
  { flight with filters := flight.filters.reset, course := board.attitude.value.yaw }

/-! ## Cruise -/

/-- The turn rate of a full yaw stick, in degrees per second. -/
def turnRate : Float32 := 10

/-- Engage a cruise in the direction of the nose. -/
def engageCruise (flight : StickFlight) (board : Blackboard) : StickFlight × Blackboard :=
  let position := board.position.value
  let yaw := board.attitude.value.yaw
  let ahead : Ned :=
    ⟨position.north + Degrees.cosine yaw, position.east + Degrees.sine yaw, position.down⟩
  ({ flight with heldPoint := position, cruiseTime := flight.cruiseTime.reset },
    board.publishTarget
      (({ mode := .gotoEndpoint } : Target).holdingAt ahead
        board.modeSettings.value.holdOffset.horizontal))

/-- The unit vector of a way, and the way itself if it is too short for one. -/
def direction (way : Ned) : Ned :=
  let length := way.norm
  way.divide (if length < 1e-9 then 1 else length)

/-- One tick of a cruise: the yaw stick turns the heading, the pitch stick climbs
and the thrust scales the speed. -/
def runCruiseBy (trigonometry : Trigonometry) (flight : StickFlight) (board : Blackboard)
    (now : Micros) : StickFlight × Blackboard :=
  let target := board.target.value
  let offset := board.modeSettings.value.holdOffset
  let command := board.command.value
  let sticks :=
    (Stick.Deflection.normalize ⟨command.roll, command.pitch, command.yaw, 0.5⟩).2
  let speed := Single.clamp command.thrust 1e-6 1
  let heading := direction (target.stop - flight.heldPoint)
  let heldPoint := advance flight.heldPoint board.position.value heading
  let cruiseTime := flight.cruiseTime.call now
  let step := cruiseTime.average.output
  let angle :=
    Single.toRadians
      (Single.toDegrees (trigonometry.arcTangent heading.east heading.north) +
        turnRate * sticks.yaw * step)
  let travel : Ned :=
    ⟨trigonometry.cosine angle * offset.horizontal * speed,
      trigonometry.sine angle * offset.horizontal * speed,
      -sticks.pitch * offset.vertical * speed⟩
  ({ flight with heldPoint, cruiseTime },
    board.publishTarget (target.holdingAt (heldPoint + travel) offset.horizontal))

def runCruise (flight : StickFlight) (board : Blackboard) (now : Micros) :
    StickFlight × Blackboard :=
  flight.runCruiseBy .platform board now

end StickFlight
end FlightGuidance
