import FlightGuidance.Proofs.Single.Order
import FlightGuidance.Settings

/-!
# Settings that agree

Settings are compared as their numbers are. A record with an entry that is not a number differs
from itself, and two equal records may tell the two zeros apart, so two records agree if they are
one and the same or equal (`Settings.Agree`).

The check of a record looks at its numbers through comparisons only, so equal records pass it alike
(`LawfulSettings`). This holds of all three settings records.
-/

set_option autoImplicit false

namespace FlightGuidance

/-- The check does not tell equal records apart. -/
class LawfulSettings (α : Type) [BEq α] [Settings α] : Prop where
  check_congr {first second : α} (equal : (first == second) = true) :
    Settings.check first = Settings.check second

namespace Settings

variable {α : Type} [Settings α]

/-- A record passes its check. -/
def Passes (record : α) : Prop := check record = .ok ()

instance (record : α) : Decidable (Passes record) :=
  match result : check record with
  | .ok () => .isTrue result
  | .error _ => .isFalse fun passes => by rw [Passes, result] at passes; cases passes

/-- Two records are the same, or equal as their numbers are. -/
def Agree [BEq α] (first second : α) : Prop := first = second ∨ (first == second) = true

variable [BEq α] [LawfulSettings α]

theorem passes_of_beq {first second : α} (equal : (first == second) = true)
    (passes : Passes second) : Passes first :=
  (LawfulSettings.check_congr equal).trans passes

theorem Agree.passes {first second : α} (agree : Agree first second) (passes : Passes second) :
    Passes first := by
  rcases agree with same | equal
  · rw [same]
    exact passes
  · exact passes_of_beq equal passes

end Settings

/-! ## The settings records -/

theorem HoldOffset.beq_of_beq {first second : HoldOffset} (equal : (first == second) = true) :
    (first.horizontal == second.horizontal) = true ∧
      (first.vertical == second.vertical) = true :=
  Bool.and_eq_true_iff.mp equal

theorem FailsafePositions.eq_of_beq {first second : FailsafePositions}
    (equal : (first == second) = true) : first = second := by
  obtain ⟨warning, critical⟩ := Bool.and_eq_true_iff.mp equal
  exact congrArg₂ FailsafePositions.mk (LawfulBEq.eq_of_beq warning) (LawfulBEq.eq_of_beq critical)

/-- Equal settings of the flight modes are equal in what their check looks at. -/
theorem ModeSettings.beq_of_beq {first second : ModeSettings} (equal : (first == second) = true) :
    (first.holdOffset == second.holdOffset) = true ∧
      (first.failsafePositions == second.failsafePositions) = true ∧
      (first.varioSmoothing == second.varioSmoothing) = true := by
  obtain ⟨-, rest⟩ := Bool.and_eq_true_iff.mp equal
  simp only [Bool.and_eq_true] at rest
  obtain ⟨-, -, -, -, positions, offset, smoothing, -⟩ := rest
  exact ⟨offset, positions, smoothing⟩

theorem ThrustLimits.beq_of_beq {first second : ThrustLimits} (equal : (first == second) = true) :
    (first.min == second.min) = true ∧ (first.neutral == second.neutral) = true ∧
      (first.max == second.max) = true := by
  obtain ⟨min, rest⟩ := Bool.and_eq_true_iff.mp equal
  exact ⟨min, Bool.and_eq_true_iff.mp rest⟩

instance : LawfulSettings ModeSettings where
  check_congr {first second} equal := by
    obtain ⟨offset, positions, smoothing⟩ := ModeSettings.beq_of_beq equal
    obtain ⟨horizontal, vertical⟩ := HoldOffset.beq_of_beq offset
    have zero : ((0 : Float32) == 0) = true := Single.beq_self (by decide)
    have one : ((1 : Float32) == 1) = true := Single.beq_self (by decide)
    change first.check = second.check
    unfold ModeSettings.check
    rw [FailsafePositions.eq_of_beq positions]
    simp only [Single.lt_congr zero horizontal, Single.lt_congr zero vertical,
      Single.le_congr zero smoothing, Single.lt_congr smoothing one]

instance : LawfulSettings FollowerSettings where
  check_congr {first second} equal := by
    obtain ⟨limits, -⟩ := Bool.and_eq_true_iff.mp equal
    obtain ⟨min, neutral, max⟩ := ThrustLimits.beq_of_beq limits
    change first.check = second.check
    unfold FollowerSettings.check
    simp only [Single.le_congr min neutral, Single.le_congr neutral max]

instance : LawfulSettings StabilizationSettings where
  check_congr {first second} equal := by
    obtain ⟨-, expo⟩ := Bool.and_eq_true_iff.mp equal
    change first.check = second.check
    unfold StabilizationSettings.check
    rw [show first.expo = second.expo from LawfulBEq.eq_of_beq expo]

end FlightGuidance
