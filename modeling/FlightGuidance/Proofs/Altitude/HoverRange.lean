import FlightGuidance.Proofs.Altitude.HoverWindow
import FlightGuidance.Proofs.Single.Extremes

/-!
# The spread of the hover estimate

A completed estimate reports the spread of the integral term over its samples, the largest one minus
the smallest one. Both extremes of an open window start from zero, and zero is not one of the
samples. So the reported spread is that of the samples and zero: it is the spread of the samples
exactly if zero lies between them, rounding apart (`Asked.range_iff`), and a constant integral term
has no spread only if it is zero.
-/

set_option autoImplicit false

namespace FlightGuidance
namespace AltitudeController

open Single (smallest largest)

/-- The integral terms that a call samples if it fills the window, in the order of the calls. -/
def samples (calls : List Call) (asked : AltitudeController) : List Float32 :=
  ((asked.call :: calls).take 80).reverse.map Call.integral

/-- The spread that is reported if the extremes start from zero. -/
def spreadFromZero (least most : Float32) : Float32 := Single.max 0 most - Single.min 0 least

section

variable {least most : Float32}

theorem spreadFromZero_of_pos (positive : 0 < least) (order : least ≤ most) :
    (spreadFromZero least most == most) = true := by
  have most_pos := Single.lt_of_lt_of_le positive order
  unfold spreadFromZero
  rw [Single.max_of_lt most_pos, Single.min_of_le (Single.le_of_lt positive)]
  exact Single.sub_zero_beq (Single.lt_iff.mp most_pos).2.1 (by decide +kernel)

theorem spreadFromZero_of_neg (negative : most < 0) (order : least ≤ most) :
    (spreadFromZero least most == -least) = true := by
  have least_neg := Single.lt_of_le_of_lt order negative
  unfold spreadFromZero
  rw [Single.max_of_le (Single.le_of_lt negative), Single.min_of_lt least_neg]
  exact Single.zero_sub_beq (Single.lt_iff.mp least_neg).1 (by decide +kernel)

theorem spreadFromZero_of_between (lower : least ≤ 0) (upper : 0 ≤ most) :
    (spreadFromZero least most == most - least) = true := by
  have number := (Single.le_iff.mp lower).1
  have number' := (Single.le_iff.mp upper).2.1
  unfold spreadFromZero
  by_cases most_pos : 0 < most <;> by_cases least_neg : least < 0
  · rw [Single.max_of_lt most_pos, Single.min_of_lt least_neg]
    exact Single.beq_self (Single.sub_number most_pos least_neg)
  · have zero := Single.beq_of_le_of_not_lt lower least_neg
    rw [Single.max_of_lt most_pos,
      Single.min_of_le (Single.le_of_not_lt Single.isNaN_zero number least_neg)]
    exact Single.beq_trans (Single.sub_zero_beq number' (by decide +kernel))
      (Single.beq_symm (Single.sub_zero_beq number' zero))
  · have zero := Single.beq_symm (Single.beq_of_le_of_not_lt upper most_pos)
    rw [Single.max_of_le (Single.le_of_not_lt number' Single.isNaN_zero most_pos),
      Single.min_of_lt least_neg]
    exact Single.beq_trans (Single.zero_sub_beq number (by decide +kernel))
      (Single.beq_symm (Single.zero_sub_beq number zero))
  · have zero := Single.beq_of_le_of_not_lt lower least_neg
    have zero' := Single.beq_symm (Single.beq_of_le_of_not_lt upper most_pos)
    rw [Single.max_of_le (Single.le_of_not_lt number' Single.isNaN_zero most_pos),
      Single.min_of_le (Single.le_of_not_lt Single.isNaN_zero number least_neg)]
    exact Single.beq_trans (by decide +kernel) (Single.beq_symm (Single.sub_zeros zero' zero))

/-- When the spread from zero is the spread. -/
theorem spreadFromZero_iff (order : least ≤ most) :
    (spreadFromZero least most == most - least) = true ↔
      (least ≤ 0 ∧ 0 ≤ most) ∨ (0 < least ∧ (most == most - least) = true) ∨
        (most < 0 ∧ (-least == most - least) = true) := by
  obtain ⟨number, number', -⟩ := Single.le_iff.mp order
  constructor
  · intro same
    by_cases lower : least ≤ 0
    · by_cases upper : 0 ≤ most
      · exact .inl ⟨lower, upper⟩
      · have negative := Single.lt_of_not_le Single.isNaN_zero number' upper
        have opposite := Single.beq_symm (spreadFromZero_of_neg negative order)
        exact .inr (.inr ⟨negative, Single.beq_trans opposite same⟩)
    · have positive := Single.lt_of_not_le number Single.isNaN_zero lower
      have largest := Single.beq_symm (spreadFromZero_of_pos positive order)
      exact .inr (.inl ⟨positive, Single.beq_trans largest same⟩)
  · rintro (⟨lower, upper⟩ | ⟨positive, same⟩ | ⟨negative, same⟩)
    · exact spreadFromZero_of_between lower upper
    · exact Single.beq_trans (spreadFromZero_of_pos positive order) same
    · exact Single.beq_trans (spreadFromZero_of_neg negative order) same

/-- A single number has no spread from zero exactly if it is zero. -/
theorem spreadFromZero_self_iff {integral : Float32} (number : integral.isNaN = false) :
    (spreadFromZero integral integral == 0) = true ↔ (integral == 0) = true := by
  have order := Single.le_self number
  constructor
  · intro none
    by_cases positive : 0 < integral
    · exact Single.beq_trans (Single.beq_symm (spreadFromZero_of_pos positive order)) none
    by_cases negative : integral < 0
    · exact Single.neg_beq_zero_iff.mp
        (Single.beq_trans (Single.beq_symm (spreadFromZero_of_neg negative order)) none)
    exact Single.beq_of_le_of_not_lt (Single.le_of_not_lt number Single.isNaN_zero positive)
      negative
  · intro zero
    obtain ⟨first, second, ranks⟩ := Single.beq_iff.mp zero
    have lower : integral ≤ 0 := Single.le_iff.mpr ⟨first, second, ranks.le⟩
    have upper : 0 ≤ integral := Single.le_iff.mpr ⟨second, first, ranks.ge⟩
    exact Single.beq_trans (spreadFromZero_of_between lower upper) (Single.sub_zeros zero zero)

end

variable {calls : List Call} {asked : AltitudeController} {correction : HoverCorrection}

theorem samples_ne_nil (calls : List Call) (asked : AltitudeController) :
    samples calls asked ≠ [] := by
  unfold samples
  rw [List.take_succ_cons, List.reverse_cons, List.map_append]
  exact List.append_ne_nil_of_right_ne_nil _ (List.cons_ne_nil _ _)

/-- The extremes of the samples. -/
theorem samples_spec (numbers : ∀ term ∈ samples calls asked, term.isNaN = false) :
    (smallest (samples calls asked) ∈ samples calls asked ∧
        ∀ term ∈ samples calls asked, smallest (samples calls asked) ≤ term) ∧
      largest (samples calls asked) ∈ samples calls asked ∧
        ∀ term ∈ samples calls asked, term ≤ largest (samples calls asked) := by
  obtain ⟨first, rest, listed⟩ := List.exists_cons_of_ne_nil (samples_ne_nil calls asked)
  rw [listed] at numbers ⊢
  exact ⟨Single.chooses_min.chosen_spec numbers, Single.chooses_max.chosen_spec numbers⟩

/-- A completed estimate reports the spread of its samples and zero. -/
theorem Asked.range_eq (called : Asked calls asked)
    (completes : asked.advanceEstimate.1 = some correction)
    (numbers : ∀ term ∈ samples calls asked, term.isNaN = false) :
    correction.range =
      spreadFromZero (smallest (samples calls asked)) (largest (samples calls asked)) := by
  obtain ⟨_, returned, -, range, -⟩ := called.corrects (called.fills completes)
  obtain rfl := Option.some_inj.mp (completes.symm.trans returned)
  have scanned : correction.range = (samples calls asked).foldl Single.max 0 -
      (samples calls asked).foldl Single.min 0 := range
  obtain ⟨first, rest, listed⟩ := List.exists_cons_of_ne_nil (samples_ne_nil calls asked)
  rw [listed] at numbers scanned ⊢
  rw [scanned, Single.chooses_max.foldl_cons Single.isNaN_zero numbers,
    Single.chooses_min.foldl_cons Single.isNaN_zero numbers]
  rfl

/-- **What a completed estimate reports as the spread of its samples.** It is the largest sample if
all are positive, and the opposite of the smallest one if all are negative. So it is the largest
minus the smallest one exactly if zero is not outside of them, or if the rounded difference happens
to be the same, and a constant integral term has no spread exactly if it is zero. -/
theorem Asked.range_iff (called : Asked calls asked)
    (completes : asked.advanceEstimate.1 = some correction)
    (numbers : ∀ term ∈ samples calls asked, term.isNaN = false) :
    let least := smallest (samples calls asked)
    let most := largest (samples calls asked)
    ((correction.range == most - least) = true ↔
        (least ≤ 0 ∧ 0 ≤ most) ∨ (0 < least ∧ (most == most - least) = true) ∨
          (most < 0 ∧ (-least == most - least) = true)) ∧
      (0 < least → (correction.range == most) = true) ∧
      (most < 0 → (correction.range == -least) = true) ∧
      ∀ integral, (∀ term ∈ samples calls asked, term = integral) →
        ((correction.range == 0) = true ↔ (integral == 0) = true) := by
  intro least most
  have range : correction.range = spreadFromZero least most := called.range_eq completes numbers
  obtain ⟨⟨leastOf, lower⟩, mostOf, -⟩ := samples_spec numbers
  have order : least ≤ most := lower most mostOf
  rw [range]
  refine ⟨spreadFromZero_iff order, fun positive => spreadFromZero_of_pos positive order,
    fun negative => spreadFromZero_of_neg negative order, fun integral constant => ?_⟩
  have number := numbers least leastOf
  rw [constant most mostOf, constant least leastOf]
  exact spreadFromZero_self_iff (constant least leastOf ▸ number)

/-- The hold above the neutral thrust samples integral terms below zero. -/
theorem range_of_hovering :
    ∃ correction, (fly hovering).1.advanceEstimate.1 = some correction ∧
      largest (samples (fly hovering).2 (fly hovering).1) < 0 ∧
      (correction.range == -smallest (samples (fly hovering).2 (fly hovering).1)) = true := by
  obtain ⟨completes, numbers, negative⟩ :
      (fly hovering).1.advanceEstimate.1.isSome = true ∧
        (∀ term ∈ samples (fly hovering).2 (fly hovering).1, term.isNaN = false) ∧
        largest (samples (fly hovering).2 (fly hovering).1) < 0 := by
    decide +kernel
  obtain ⟨correction, completes⟩ := Option.isSome_iff_exists.mp completes
  obtain ⟨-, -, below, -⟩ := Asked.range_iff (.directly (flown_fly hovering)) completes numbers
  exact ⟨correction, completes, negative, below negative⟩

/-- Its integral term is constant, and what it reports as the spread is the magnitude of that
term. -/
theorem range_above_spread :
    Asked (fly hovering).2 (fly hovering).1 ∧
      (∀ term ∈ samples (fly hovering).2 (fly hovering).1, term = -0.0625) ∧
      largest (samples (fly hovering).2 (fly hovering).1) -
        smallest (samples (fly hovering).2 (fly hovering).1) = 0 ∧
      (fly hovering).1.advanceEstimate.1.map HoverCorrection.range = some 0.0625 :=
  ⟨.directly (flown_fly hovering), by decide +kernel⟩

end AltitudeController
end FlightGuidance
