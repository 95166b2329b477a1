import FlightGuidance.Journal
import FlightGuidance.Mission
import FlightGuidance.Settings
import FlightGuidance.Status
import FlightGuidance.Target
import FlightGuidance.Topic
import FlightGuidance.Vehicle

/-!
# The blackboard

The components of the guidance do not call one another. They read and write the
topics of one blackboard, whole records at a time. There are no transactions
across topics. The blackboard also carries the journal, to which every
component adds what it reports in words.
-/

set_option autoImplicit false

namespace FlightGuidance

structure Blackboard where
  /-- The estimated position. -/
  position : Topic Ned := ⟨{}, 0⟩
  /-- The estimated velocity. -/
  velocity : Topic Ned := ⟨{}, 0⟩
  attitude : Topic Attitude := ⟨{}, 0⟩
  airspeed : Topic Airspeed := ⟨{}, 0⟩
  takeoffLocation : Topic TakeoffLocation := ⟨{}, 0⟩
  /-- The pilot's input. -/
  command : Topic PilotCommand := ⟨{}, 0⟩
  accessory : Topic Accessory := ⟨{}, 0⟩
  /-- The decision of the arbiter. -/
  status : Topic FlightStatus := ⟨{}, 0⟩
  /-- What the path follower flies. -/
  target : Topic Target := ⟨{}, 0⟩
  /-- How far the path follower has come. -/
  report : Topic FollowerReport := ⟨{}, 0⟩
  /-- The input of the stabilization loops. -/
  demand : Topic Demand := ⟨{}, 0⟩
  mission : Topic Mission := ⟨.empty, 0⟩
  plan : Topic PathPlan := ⟨{}, 0⟩
  activeWaypoint : Topic ActiveWaypoint := ⟨{}, 0⟩
  alarms : Topic Alarms := ⟨{}, 0⟩
  takeoffStatus : Topic Takeoff.Status := ⟨{}, 0⟩
  selfTuning : Topic SelfTuning := ⟨{}, 0⟩
  modeSettings : Topic ModeSettings := ⟨{}, 0⟩
  followerSettings : Topic FollowerSettings := ⟨{}, 0⟩
  stabilizationSettings : Topic StabilizationSettings := ⟨{}, 0⟩
  journal : Journal := #[]

namespace Blackboard

/-- Add a message to the journal. -/
def log (board : Blackboard) (level : Level) (text : String) : Blackboard :=
  { board with journal := board.journal.push ⟨level, text⟩ }

def publishTarget (board : Blackboard) (target : Target) : Blackboard :=
  { board with target := board.target.publish target }

def modifyStatus (board : Blackboard) (change : FlightStatus → FlightStatus) : Blackboard :=
  { board with status := board.status.modify change }

/-- Move assisted control to a stage. -/
def enterStage (board : Blackboard) (stage : AssistStage) : Blackboard :=
  board.modifyStatus fun status => { status with stage }

def modifyAlarms (board : Blackboard) (change : Alarms → Alarms) : Blackboard :=
  { board with alarms := board.alarms.modify change }

/-- Give the plan alarm a severity, and write only if it differs. -/
def setPlanAlarm (board : Blackboard) (severity : Severity) : Blackboard :=
  if board.alarms.value.pathPlan = severity then board
  else board.modifyAlarms fun alarms => { alarms with pathPlan := severity }

/-- Give the settings alarm a severity, and write only if it differs. -/
def setSettingsAlarm (board : Blackboard) (severity : Severity) : Blackboard :=
  if board.alarms.value.settings = severity then board
  else board.modifyAlarms fun alarms => { alarms with settings := severity }

end Blackboard
end FlightGuidance
