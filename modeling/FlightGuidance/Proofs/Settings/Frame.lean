import FlightGuidance.Settings.Report

/-!
# What a settings check leaves alone

A component that checks its settings may put a record back into its topic, raise
or clear the settings alarm, and report in words. The rest of the blackboard is
as it was. Each lemma gives the blackboard after a check as the one before it
with new contents for these few parts, so that a proof about a tick can go on
with every other topic in place. What the update makes of the alarms is said
exactly (`SettingsUpdate.setAlarm`), and the words are left open.
-/

set_option autoImplicit false

namespace FlightGuidance

namespace Blackboard

/-- The plan alarm gets the severity, and the other alarms stay as they are. -/
theorem setPlanAlarm_eq (board : Blackboard) (severity : Severity) :
    ∃ alarms, board.setPlanAlarm severity = { board with alarms } ∧
      alarms.value = { board.alarms.value with pathPlan := severity } := by
  unfold setPlanAlarm
  split
  next same => exact ⟨board.alarms, rfl, same ▸ rfl⟩
  next => exact ⟨_, rfl, rfl⟩

theorem setPlanAlarm_frame (board : Blackboard) (severity : Severity) :
    ∃ alarms, board.setPlanAlarm severity = { board with alarms } := by
  obtain ⟨alarms, frame, -⟩ := board.setPlanAlarm_eq severity
  exact ⟨alarms, frame⟩

end Blackboard

namespace SettingsUpdate

/-- The alarms once an update is reported. -/
def setAlarm (update : SettingsUpdate) (alarms : Topic Alarms) : Topic Alarms :=
  match update.alarm? with
  | none => alarms
  | some severity =>
    if alarms.value.settings = severity then alarms
    else alarms.modify fun alarms => { alarms with settings := severity }

/-- The other alarms stay as they are. -/
theorem value_setAlarm (update : SettingsUpdate) (alarms : Topic Alarms) :
    ∃ severity, (update.setAlarm alarms).value = { alarms.value with settings := severity } := by
  unfold setAlarm
  split
  · exact ⟨alarms.value.settings, rfl⟩
  · split
    · exact ⟨alarms.value.settings, rfl⟩
    · exact ⟨_, rfl⟩

theorem value_foldl_setAlarm (updates : List SettingsUpdate) (alarms : Topic Alarms) :
    ∃ severity, (updates.foldl (fun alarms update => update.setAlarm alarms) alarms).value =
      { alarms.value with settings := severity } := by
  induction updates generalizing alarms with
  | nil => exact ⟨alarms.value.settings, rfl⟩
  | cons update updates inductionHypothesis =>
      obtain ⟨_, set⟩ := update.value_setAlarm alarms
      obtain ⟨severity, rest⟩ := inductionHypothesis (update.setAlarm alarms)
      refine ⟨severity, ?_⟩
      rw [List.foldl_cons, rest, set]

theorem report_eq (update : SettingsUpdate) (component record : String) (board : Blackboard) :
    ∃ journal, update.report component record board =
      { board with alarms := update.setAlarm board.alarms, journal } := by
  have set (logged : Blackboard) (severity : Severity) :
      logged.setSettingsAlarm severity = { logged with
        alarms :=
          if logged.alarms.value.settings = severity then logged.alarms
          else logged.alarms.modify fun alarms => { alarms with settings := severity } } := by
    unfold Blackboard.setSettingsAlarm
    split <;> rfl
  cases update with
  | unchanged => exact ⟨board.journal, rfl⟩
  | accepted => exact ⟨_, set (board.log _ _) .ok⟩
  | rejected cause => exact ⟨_, set (board.log _ _) .error⟩

end SettingsUpdate

namespace SettingsGuard

variable {α : Type} [BEq α] [Settings α]

/-- What the check of a record leaves behind. -/
theorem checkRecord_eq (guard : SettingsGuard α) (record : SettingsTopic α) (component : String)
    (board : Blackboard) :
    ∃ journal,
      guard.checkRecord record component board =
        ((guard.check (record.read board)).2.1,
          { record.write board (guard.check (record.read board)).2.2 with
            alarms := (guard.check (record.read board)).1.setAlarm board.alarms
            journal }) := by
  obtain ⟨journal, same⟩ := (guard.check (record.read board)).1.report_eq component record.name
    (record.write board (guard.check (record.read board)).2.2)
  rw [record.alarms_write] at same
  exact ⟨journal, Prod.ext rfl same⟩

theorem checkRecord_frame (guard : SettingsGuard α) (record : SettingsTopic α)
    (component : String) (board : Blackboard) :
    ∃ topic alarms journal,
      (guard.checkRecord record component board).2 =
        { record.write board topic with alarms, journal } := by
  obtain ⟨journal, same⟩ := guard.checkRecord_eq record component board
  exact ⟨_, _, journal, congrArg Prod.snd same⟩

end SettingsGuard
end FlightGuidance
