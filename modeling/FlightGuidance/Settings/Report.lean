import FlightGuidance.Blackboard
import FlightGuidance.Settings.Guard

/-!
# Reporting settings updates

Every accepted or rejected settings record is reported in words on behalf of the
component that checked it, and decides the settings alarm.
-/

set_option autoImplicit false

namespace FlightGuidance

/-- Report an update of the settings `record` that `component` has checked. -/
def SettingsUpdate.report (update : SettingsUpdate) (component record : String)
    (board : Blackboard) : Blackboard :=
  let logged :=
    match update with
    | .unchanged => board
    | .accepted =>
      board.log .debug (component ++ ": Accepted " ++ record ++ " settings")
    | .rejected cause =>
      board.log .error (component ++ ": Rejected " ++ record ++ " settings: "
        ++ (GuidanceError.settings cause).message)
  match update.alarm? with
  | none => logged
  | some severity => logged.setSettingsAlarm severity

/-- One of the settings records of the blackboard. -/
structure SettingsTopic (α : Type) where
  /-- What the record is called in words. -/
  name : String
  read : Blackboard → Topic α
  write : Blackboard → Topic α → Blackboard
  /-- A write has no part in the alarms, which a check reports to. -/
  alarms_write : ∀ board topic, (write board topic).alarms = board.alarms

namespace SettingsTopic

def modes : SettingsTopic ModeSettings where
  name := "flight mode"
  read board := board.modeSettings
  write board modeSettings := { board with modeSettings }
  alarms_write _ _ := rfl

def stabilization : SettingsTopic StabilizationSettings where
  name := "stabilization"
  read board := board.stabilizationSettings
  write board stabilizationSettings := { board with stabilizationSettings }
  alarms_write _ _ := rfl

def follower : SettingsTopic FollowerSettings where
  name := "path follower"
  read board := board.followerSettings
  write board followerSettings := { board with followerSettings }
  alarms_write _ _ := rfl

end SettingsTopic

/-- Check a settings record on behalf of a component, and report the outcome. -/
def SettingsGuard.checkRecord {α : Type} [BEq α] [Settings α] (guard : SettingsGuard α)
    (record : SettingsTopic α) (component : String) (board : Blackboard) :
    SettingsGuard α × Blackboard :=
  let (update, guard, topic) := guard.check (record.read board)
  (guard, update.report component record.name (record.write board topic))

end FlightGuidance
