import FlightGuidance.Single

/-!
# Time

Times and durations are counts of microseconds in an unsigned word. The clock
may be read out of order, so the time since a later moment is zero.
-/

set_option autoImplicit false

namespace FlightGuidance

/-- A moment since the start of the clock, or a duration, in microseconds. -/
abbrev Micros := UInt64

namespace Micros

/-- The time from `start` to `now`, and zero if `start` is the later one. -/
def since (now start : Micros) : Micros := if start ≤ now then now - start else 0

/-- The time since a later moment is shorter. -/
theorem since_antitone (now : Micros) {earlier later : Micros} (ordered : earlier ≤ later) :
    since now later ≤ since now earlier := by
  unfold since
  by_cases past : later ≤ now
  · have before : earlier ≤ now := UInt64.le_trans ordered past
    rw [if_pos past, if_pos before, UInt64.le_iff_toNat_le, UInt64.toNat_sub_of_le _ _ past,
      UInt64.toNat_sub_of_le _ _ before]
    exact Nat.sub_le_sub_left (UInt64.le_iff_toNat_le.mp ordered) _
  · rw [if_neg past, UInt64.le_iff_toNat_le]
    exact Nat.zero_le _

/-- A number of milliseconds. -/
def ofMillis (millis : UInt32) : Micros := millis.toUInt64 * 1000

/-- A number of seconds, truncated to whole microseconds. Negative numbers and
what is not a number are no time at all, and what does not fit is the longest
duration. -/
def ofSeconds (seconds : Float32) : Micros :=
  (Single.max seconds 0 * 1e6).toUInt64

/-- The duration in seconds, by a product with the single nearest to a
millionth. -/
def toSeconds (duration : Micros) : Float32 := UInt64.toFloat32 duration * 1e-6

end Micros
end FlightGuidance
