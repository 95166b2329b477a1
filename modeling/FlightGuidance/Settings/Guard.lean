import FlightGuidance.Settings
import FlightGuidance.Topic

/-!
# Guards on settings

A guard stands between a settings topic and a component that uses it. A record
that is published is checked once. If it passes, the guard keeps it; if it does
not, the guard puts the last record that passed back into the topic, so that
every reader goes on with consistent settings. Several guards may share a topic:
the record that one of them restores is not an update for the others.
-/

set_option autoImplicit false

namespace FlightGuidance

/-- The outcome of a check for changed settings. -/
inductive SettingsUpdate where
  /-- Nothing was published, or the last valid record was published again. -/
  | unchanged
  | accepted
  /-- The record was refused and the last valid one restored. -/
  | rejected (cause : SettingsError)
  deriving DecidableEq, Repr

/-- The settings alarm after an update, if the update decides it. -/
def SettingsUpdate.alarm? : SettingsUpdate → Option Severity
  | unchanged => none
  | accepted => some .ok
  | rejected _ => some .error

structure SettingsGuard (α : Type) where
  /-- The last record that passed its check. -/
  lastValid : α
  /-- The revision of the topic that was checked last. -/
  seen : Option UInt64 := none

namespace SettingsGuard

variable {α : Type} [BEq α] [Settings α]

/-- Check the record of a topic if it was published since the last check. -/
def check (guard : SettingsGuard α) (topic : Topic α) :
    SettingsUpdate × SettingsGuard α × Topic α :=
  if guard.seen = some topic.revision then (.unchanged, guard, topic)
  else if topic.value == guard.lastValid then
    (.unchanged, { guard with seen := some topic.revision }, topic)
  else
    match Settings.check topic.value with
    | .ok () => (.accepted, ⟨topic.value, some topic.revision⟩, topic)
    | .error cause =>
      let restored := topic.publish guard.lastValid
      (.rejected cause, { guard with seen := some restored.revision }, restored)

end SettingsGuard
end FlightGuidance
