import FlightGuidance.Clock
import FlightGuidance.Journal
import FlightGuidance.Settings

/-!
# The battery failsafe

A low battery moves the flight mode switch to a configured position. An alarm
must last for a while before it counts, the committed level never falls while the
vehicle is armed, and the pilot overrides the failsafe by moving the switch.
-/

set_option autoImplicit false

namespace FlightGuidance

inductive FailsafeLevel where
  | none
  | warning
  | critical
  deriving DecidableEq, Repr

namespace FailsafeLevel

/-- The level for which a battery alarm asks. -/
def ofAlarm : Severity → FailsafeLevel
  | .warning => warning
  | .critical => critical
  | .uninitialised | .ok | .error => none

/-- The order of the levels. -/
def rank : FailsafeLevel → Nat
  | none => 0
  | warning => 1
  | critical => 2

theorem rank_injective {first second : FailsafeLevel}
    (same : first.rank = second.rank) : first = second := by
  cases first <;> cases second <;> first | rfl | cases same

/-- The name of a level in messages. -/
def label : FailsafeLevel → String
  | none => "None"
  | warning => "Warning"
  | critical => "Critical"

/-- The switch position of a level. A critical battery also moves to the position
of a warning if it has none of its own. -/
def position? (positions : FailsafePositions) : FailsafeLevel → Option UInt8
  | critical => positions.critical.or positions.warning
  | warning => positions.warning
  | none => Option.none

end FailsafeLevel

structure BatteryFailsafe where
  /-- The committed level. -/
  level : FailsafeLevel := .none
  /-- Whether the pilot has overridden the committed level. -/
  overridden : Bool := false
  /-- The pilot's switch position when the level was committed. -/
  switchPosition : UInt8 := 0
  /-- When the alarm last agreed with the committed level. -/
  changedAt : Micros := 0

namespace BatteryFailsafe

/-- The state after one look at the battery of an armed vehicle, and the message
of a newly committed level. -/
def commit (failsafe : BatteryFailsafe) (position : UInt8) (level : FailsafeLevel)
    (debounce now : Micros) : BatteryFailsafe × Option Message :=
  if level = failsafe.level then ({ failsafe with changedAt := now }, none)
  else if Micros.since now failsafe.changedAt < debounce || level.rank < failsafe.level.rank then
    (failsafe, none)
  else
    ({ failsafe with level, switchPosition := position, overridden := false },
      some ⟨.warn, "Battery failsafe " ++ failsafe.level.label ++ " -> " ++ level.label⟩)

/-- The position in force for the position that the pilot selects, once the level
is committed, and the message of an override. -/
def resolve (failsafe : BatteryFailsafe) (position : UInt8) (positions : FailsafePositions)
    (now : Micros) : UInt8 × BatteryFailsafe × Option Message :=
  if failsafe.level = .none || failsafe.overridden then (position, failsafe, none)
  else if position ≠ failsafe.switchPosition then
    (position, { failsafe with overridden := true, changedAt := now },
      some ⟨.info, "Battery failsafe overridden by the pilot"⟩)
  else ((failsafe.level.position? positions).getD position, failsafe, none)

/-- One tick: the switch position in force, the state after it, and the messages. -/
def apply (failsafe : BatteryFailsafe) (position : UInt8) (armed : Bool) (battery : Severity)
    (settings : ModeSettings) (now : Micros) : UInt8 × BatteryFailsafe × List Message :=
  if armed then
    let (committed, commitMessage) :=
      failsafe.commit position (.ofAlarm battery) (.ofMillis settings.failsafeDebounce) now
    let (position, resolved, overrideMessage) :=
      committed.resolve position settings.failsafePositions now
    (position, resolved, commitMessage.toList ++ overrideMessage.toList)
  else
    (position,
      { level := .none, overridden := false, switchPosition := position, changedAt := now }, [])

end BatteryFailsafe
end FlightGuidance
