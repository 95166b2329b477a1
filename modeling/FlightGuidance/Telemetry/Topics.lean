import FlightGuidance.Blackboard
import FlightGuidance.Telemetry.Records

/-!
# The topics by name

Every topic of the blackboard under the name that it has at the boundary, from where its
record and its revision are read, and a record is patched or sent.
-/

set_option autoImplicit false

namespace FlightGuidance
namespace Telemetry

structure NamedTopic where
  name : String
  revision : Blackboard → UInt64
  write : Blackboard → Value
  /-- Patch the record. -/
  modify : Blackboard → Value → Received Blackboard
  /-- Publish the default record, patched. -/
  send : Blackboard → Value → Received Blackboard

/-- The topic that two functions read and replace. -/
def NamedTopic.of {α : Type} [Form α] (name : String) (start : α) (get : Blackboard → Topic α)
    (set : Blackboard → Topic α → Blackboard) : NamedTopic where
  name
  revision board := (get board).revision
  write board := Form.write (get board).value
  modify board value := do
    let record ← Form.patch (get board).value value
    pure (set board ((get board).modify fun _ => record))
  send board value := do
    pure (set board ((get board).publish (← Form.patch start value)))

def topics : List NamedTopic :=
  [.of "position" {} (·.position) ({ · with position := · }),
    .of "velocity" {} (·.velocity) ({ · with velocity := · }),
    .of "attitude" {} (·.attitude) ({ · with attitude := · }),
    .of "airspeed" {} (·.airspeed) ({ · with airspeed := · }),
    .of "takeoff_location" {} (·.takeoffLocation) ({ · with takeoffLocation := · }),
    .of "manual_control" {} (·.command) ({ · with command := · }),
    .of "accessory" {} (·.accessory) ({ · with accessory := · }),
    .of "flight_status" {} (·.status) ({ · with status := · }),
    .of "guidance_target" {} (·.target) ({ · with target := · }),
    .of "path_status" {} (·.report) ({ · with report := · }),
    .of "stabilization_desired" {} (·.demand) ({ · with demand := · }),
    .of "mission" .empty (·.mission) ({ · with mission := · }),
    .of "path_plan" {} (·.plan) ({ · with plan := · }),
    .of "waypoint_active" {} (·.activeWaypoint) ({ · with activeWaypoint := · }),
    .of "alarms" {} (·.alarms) ({ · with alarms := · }),
    .of "autotakeoff_status" {} (·.takeoffStatus) ({ · with takeoffStatus := · }),
    .of "self_tuning" {} (·.selfTuning) ({ · with selfTuning := · }),
    .of "flight_mode_settings" {} (·.modeSettings) ({ · with modeSettings := · }),
    .of "path_follower_settings" {} (·.followerSettings) ({ · with followerSettings := · }),
    .of "stabilization_settings" {} (·.stabilizationSettings)
      ({ · with stabilizationSettings := · })]

/-- The topic of a name. -/
def topic (name : String) : Received NamedTopic :=
  Received.ofOption (topics.find? fun topic => topic.name == name)

/-- The topics that were written between two states of the blackboard. -/
def written (before after : Blackboard) : List NamedTopic :=
  topics.filter fun topic => topic.revision after != topic.revision before

end Telemetry
end FlightGuidance
