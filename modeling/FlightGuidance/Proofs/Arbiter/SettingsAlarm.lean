import FlightGuidance.Proofs.Arbiter.Decision
import FlightGuidance.Proofs.Settings.Sharing
import Mathlib.Data.List.Induction

/-!
# The settings alarm of a tick

A tick checks three settings records, one after the other, and all three are reported in one
alarm. A rejection raises it and an accepted record clears it, so that the last check which is
not idle decides (`SettingsUpdate.settings_foldl`).

The alarm thus tells of a rejection only if no later check of the same tick accepts a record
(`Arbiter.settingsAlarm_iff`). Otherwise it is cleared although a record was refused. The refused
record has been replaced by then, so that the next ticks leave the alarm as it is
(`Arbiter.tick_alarms_again`).
-/

set_option autoImplicit false

namespace FlightGuidance

namespace SettingsUpdate

/-- Some update of a series is a rejection, and none after it is an acceptance. -/
def RejectionStands (updates : List SettingsUpdate) : Prop :=
  ∃ earlier rejection later, updates = earlier ++ rejection :: later ∧
    rejection.isRejection = true ∧ accepted ∉ later

/-- The last update of a series either is the rejection or does not matter. -/
theorem rejectionStands_concat (updates : List SettingsUpdate) (last : SettingsUpdate) :
    RejectionStands (updates ++ [last]) ↔
      last.isRejection = true ∨ last ≠ accepted ∧ RejectionStands updates := by
  constructor
  · rintro ⟨earlier, rejection, later, split, rejects, kept⟩
    rcases later.eq_nil_or_concat with rfl | ⟨later, final, rfl⟩
    · obtain ⟨-, same⟩ := List.append_inj' split rfl
      rw [List.singleton_inj] at same
      exact .inl (same ▸ rejects)
    · rw [List.concat_eq_append, ← List.cons_append, ← List.append_assoc] at split
      obtain ⟨before, same⟩ := List.append_inj' split rfl
      rw [List.singleton_inj] at same
      rw [List.concat_eq_append, List.mem_append, List.mem_singleton, not_or, ← same] at kept
      exact .inr ⟨Ne.symm kept.2, earlier, rejection, later, before, rejects, kept.1⟩
  · rintro (rejects | ⟨other, earlier, rejection, later, rfl, rejects, kept⟩)
    · exact ⟨updates, last, [], rfl, rejects, List.not_mem_nil⟩
    · refine ⟨earlier, rejection, later ++ [last], ?_, rejects, ?_⟩
      · rw [List.append_assoc, List.cons_append]
      · rw [List.mem_append, List.mem_singleton, not_or]
        exact ⟨kept, Ne.symm other⟩

theorem settings_setAlarm (update : SettingsUpdate) (alarms : Topic Alarms) :
    (update.setAlarm alarms).value.settings = update.alarm?.getD alarms.value.settings := by
  unfold setAlarm
  cases update.alarm? with
  | none => rfl
  | some severity =>
      dsimp only
      split
      next same => exact same
      · rfl

/-- **The alarm after a series of reports** is that of the last one which decides it. -/
theorem settings_foldl (updates : List SettingsUpdate) (alarms : Topic Alarms) :
    (updates.foldl (fun alarms update => update.setAlarm alarms) alarms).value.settings =
      (updates.filterMap alarm?).getLast?.getD alarms.value.settings := by
  induction updates using List.reverseRecOn with
  | nil => rfl
  | append_singleton updates last inductionHypothesis =>
      rw [List.foldl_append, List.foldl_cons, List.foldl_nil, settings_setAlarm,
        inductionHypothesis, List.filterMap_append]
      cases decided : last.alarm? with
      | none => simp [decided]
      | some severity => simp [decided]

theorem getLast?_alarm_iff (updates : List SettingsUpdate) :
    (updates.filterMap alarm?).getLast? = some .error ↔ RejectionStands updates := by
  induction updates using List.reverseRecOn with
  | nil => simp [RejectionStands]
  | append_singleton updates last inductionHypothesis =>
      rw [rejectionStands_concat, ← inductionHypothesis, List.filterMap_append]
      cases last <;> simp [alarm?, isRejection]

/-- Once a check has rejected its record, the alarm is raised or cleared. -/
theorem getLast?_alarm_of_rejection {updates : List SettingsUpdate}
    (rejects : ∃ update ∈ updates, update.isRejection = true) :
    ∃ severity, (updates.filterMap alarm?).getLast? = some severity ∧
      (severity = .error ∨ severity = .ok) := by
  obtain ⟨update, member, rejects⟩ := rejects
  have raised : update.alarm? = some .error := by
    cases update <;> first | rfl | cases rejects
  have decided : Severity.error ∈ updates.filterMap alarm? :=
    List.mem_filterMap.mpr ⟨update, member, raised⟩
  obtain ⟨severity, last⟩ := Option.isSome_iff_exists.mp
    (List.getLast?_isSome.mpr (List.ne_nil_of_mem decided))
  obtain ⟨other, -, alarm⟩ := List.mem_filterMap.mp (List.mem_of_getLast? last)
  refine ⟨severity, last, ?_⟩
  cases other with
  | unchanged => cases alarm
  | accepted => exact .inr (Option.some.inj alarm).symm
  | rejected cause => exact .inl (Option.some.inj alarm).symm

end SettingsUpdate

namespace Arbiter

theorem tick_alarms (arbiter : Arbiter) (board : Blackboard) (now : Micros) :
    (arbiter.tick board now).2.2.alarms = arbiter.checkedAlarms board := by
  obtain ⟨_, _, _, _, leaves⟩ := arbiter.tick_leaves board now
  rw [leaves]

/-- The settings that a tick leaves are not news to the next one, and it leaves the alarms as they
are, also if the tick has restored a record. -/
theorem tick_alarms_again (arbiter : Arbiter) (board : Blackboard) (now : Micros)
    {next : Blackboard}
    (modes : next.modeSettings = (arbiter.tick board now).2.2.modeSettings)
    (stabilization :
      next.stabilizationSettings = (arbiter.tick board now).2.2.stabilizationSettings)
    (follower : next.followerSettings = (arbiter.tick board now).2.2.followerSettings)
    (later : Micros) :
    ((arbiter.tick board now).2.1.tick next later).2.2.alarms = next.alarms := by
  rw [tick_alarms, checkedAlarms, updates, modes, stabilization, follower]
  obtain ⟨_, _, _, _, leaves⟩ := arbiter.tick_leaves board now
  rw [leaves]
  dsimp only
  rw [SettingsGuard.check_twice, SettingsGuard.check_twice, SettingsGuard.check_twice]
  rfl

/-- **The settings alarm after a tick that rejects a record.** It is raised if no check after the
last rejection has accepted a record, and otherwise it is cleared. -/
theorem settingsAlarm_iff {arbiter : Arbiter} {board : Blackboard}
    (rejects : ∃ update ∈ arbiter.updates board, update.isRejection = true) (now : Micros) :
    let alarm := (arbiter.tick board now).2.2.alarms.value.settings
    (alarm = .error ↔ SettingsUpdate.RejectionStands (arbiter.updates board)) ∧
      (alarm = .ok ↔ ¬SettingsUpdate.RejectionStands (arbiter.updates board)) := by
  intro alarm
  obtain ⟨severity, last, either⟩ := SettingsUpdate.getLast?_alarm_of_rejection rejects
  have reported : alarm = severity := by
    show (arbiter.tick board now).2.2.alarms.value.settings = severity
    rw [tick_alarms, checkedAlarms, SettingsUpdate.settings_foldl, last, Option.getD_some]
  rw [reported, ← SettingsUpdate.getLast?_alarm_iff, last, Option.some_inj]
  refine ⟨Iff.rfl, ?_⟩
  rcases either with rfl | rfl <;> simp

end Arbiter

/-! ## Two records published at once -/

namespace Blackboard

/-- The expo of the roll stick is out of range. -/
def steepExpo (board : Blackboard) : Blackboard :=
  { board with stabilizationSettings := ⟨{ expo := ⟨101, 0, 0⟩ }, 1⟩ }

/-- The settings of the flight modes have no horizontal offset, and those of the stabilized modes
are sound and new. -/
def flatOffset (board : Blackboard) : Blackboard :=
  { board.assisted with
    modeSettings := board.modeSettings.modify fun settings =>
      { settings with holdOffset := ⟨0, 4⟩ } }

end Blackboard

theorem settingsAlarm_of_steepExpo :
    let board := ({} : Blackboard).steepExpo
    (∃ update ∈ ({} : Arbiter).updates board, update.isRejection = true) ∧
      (({} : Arbiter).tick board 0).2.2.alarms.value.settings = .error := by
  intro board
  have updates : ({} : Arbiter).updates board =
      [.unchanged, .rejected .stickExpo, .unchanged] := by
    decide +kernel
  have rejects : ∃ update ∈ ({} : Arbiter).updates board, update.isRejection = true := by
    rw [updates]
    decide
  have stands : SettingsUpdate.RejectionStands (({} : Arbiter).updates board) :=
    ⟨[.unchanged], .rejected .stickExpo, [.unchanged], updates, rfl, by decide⟩
  exact ⟨rejects, (Arbiter.settingsAlarm_iff rejects 0).1.mpr stands⟩

/-- The settings of the flight modes are refused, and the alarm is cleared. -/
theorem settingsAlarm_cleared :
    let board := ({} : Blackboard).flatOffset
    ({} : Arbiter).updates board = [.rejected .holdOffset, .accepted, .unchanged] ∧
      (({} : Arbiter).tick board 0).2.2.alarms.value.settings = .ok := by
  decide +kernel

end FlightGuidance
