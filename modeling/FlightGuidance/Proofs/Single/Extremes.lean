import FlightGuidance.Proofs.Single.Rounding

/-!
# The extremes of a list of singles

The smallest and the largest number of a list come from one scan each, which chooses between the
extreme so far and the next number (`chosen`). Both choices keep the first of two equal numbers, so
they are associative as they stand, with both zeros (`Chooses.assoc`). Therefore a scan that starts
from another number than the first of the list chooses between that number and the extreme
(`Chooses.foldl_cons`).

The last section holds the differences with a zero, which decide what such a start does to the
spread of a list.
-/

set_option autoImplicit false

namespace FlightGuidance
namespace Single

open Float.Model (UnpackedFloat)

/-- A choice between two numbers that takes the one that comes first in some order. -/
structure Chooses (choice : Float32 → Float32 → Float32) (before : Float32 → Float32 → Prop) :
    Prop where
  total : ∀ {x y : Float32}, x.isNaN = false → y.isNaN = false → before x y ∨ before y x
  trans : ∀ {x y z : Float32}, before x y → before y z → before x z
  left : ∀ {x y : Float32}, before x y → choice x y = x
  right : ∀ {x y : Float32}, x.isNaN = false → y.isNaN = false → ¬before x y → choice x y = y

theorem lt_of_not_le {x y : Float32} (first : x.isNaN = false) (second : y.isNaN = false)
    (order : ¬x ≤ y) : y < x := by
  by_contra less
  exact order (le_of_not_lt first second less)

theorem le_total {x y : Float32} (first : x.isNaN = false) (second : y.isNaN = false) :
    x ≤ y ∨ y ≤ x := by
  by_cases order : x ≤ y
  · exact .inl order
  · exact .inr (le_of_lt (lt_of_not_le first second order))

theorem max_of_lt {x y : Float32} (order : x < y) : max x y = y := by
  unfold max
  rw [if_pos order]
  split <;> rfl

theorem chooses_min : Chooses min (· ≤ ·) where
  total := le_total
  trans := le_trans
  left := min_of_le
  right first second order := min_of_lt (lt_of_not_le first second order)

theorem chooses_max : Chooses max fun x y => y ≤ x where
  total first second := le_total second first
  trans former latter := le_trans latter former
  left := max_of_le
  right first second order := max_of_lt (lt_of_not_le second first order)

/-- The number that a scan of a list chooses. -/
def chosen (choice : Float32 → Float32 → Float32) : List Float32 → Float32
  | [] => 0
  | first :: terms => terms.foldl choice first

def smallest : List Float32 → Float32 := chosen min

def largest : List Float32 → Float32 := chosen max

namespace Chooses

variable {choice : Float32 → Float32 → Float32} {before : Float32 → Float32 → Prop}
  {x y z : Float32}

theorem either (chooses : Chooses choice before) (first : x.isNaN = false)
    (second : y.isNaN = false) : choice x y = x ∨ choice x y = y := by
  by_cases order : before x y
  · exact .inl (chooses.left order)
  · exact .inr (chooses.right first second order)

theorem number (chooses : Chooses choice before) (first : x.isNaN = false)
    (second : y.isNaN = false) : (choice x y).isNaN = false := by
  obtain same | same := chooses.either first second <;> rw [same] <;> assumption

theorem before_left (chooses : Chooses choice before) (first : x.isNaN = false)
    (second : y.isNaN = false) : before (choice x y) x := by
  by_cases order : before x y
  · rw [chooses.left order]
    exact (chooses.total first first).elim id id
  · rw [chooses.right first second order]
    exact (chooses.total first second).resolve_left order

theorem before_right (chooses : Chooses choice before) (first : x.isNaN = false)
    (second : y.isNaN = false) : before (choice x y) y := by
  by_cases order : before x y
  · rwa [chooses.left order]
  · rw [chooses.right first second order]
    exact (chooses.total second second).elim id id

/-- **A choice is associative.** -/
theorem assoc (chooses : Chooses choice before) (first : x.isNaN = false)
    (second : y.isNaN = false) (third : z.isNaN = false) :
    choice (choice x y) z = choice x (choice y z) := by
  by_cases former : before x y
  · rw [chooses.left former]
    by_cases latter : before y z
    · rw [chooses.left latter, chooses.left former, chooses.left (chooses.trans former latter)]
    · rw [chooses.right second third latter]
  · rw [chooses.right first second former]
    by_cases latter : before y z
    · rw [chooses.left latter, chooses.right first second former]
    · have reversed := (chooses.total first second).resolve_left former
      have last : ¬before x z := fun order => latter (chooses.trans reversed order)
      rw [chooses.right second third latter, chooses.right first third last]

/-- A number that is chosen from before the scan can be chosen from after it. -/
theorem foldl_choice (chooses : Chooses choice before) (first : x.isNaN = false)
    {terms : List Float32} (second : y.isNaN = false)
    (numbers : ∀ term ∈ terms, term.isNaN = false) :
    terms.foldl choice (choice x y) = choice x (terms.foldl choice y) := by
  induction terms generalizing y with
  | nil => rfl
  | cons term terms ih =>
      have third := numbers term List.mem_cons_self
      rw [List.foldl_cons, List.foldl_cons, chooses.assoc first second third]
      exact ih (chooses.number second third) fun term member =>
        numbers term (List.mem_cons_of_mem _ member)

/-- A scan that starts from another number chooses between that number and the extreme. -/
theorem foldl_cons (chooses : Chooses choice before) (start : x.isNaN = false)
    {first : Float32} {terms : List Float32}
    (numbers : ∀ term ∈ first :: terms, term.isNaN = false) :
    (first :: terms).foldl choice x = choice x (chosen choice (first :: terms)) :=
  chooses.foldl_choice start (numbers first List.mem_cons_self) fun term member =>
    numbers term (List.mem_cons_of_mem _ member)

/-- **A scan chooses a number of the list that comes before all of them.** -/
theorem chosen_spec (chooses : Chooses choice before) {first : Float32} {terms : List Float32}
    (numbers : ∀ term ∈ first :: terms, term.isNaN = false) :
    chosen choice (first :: terms) ∈ first :: terms ∧
      ∀ term ∈ first :: terms, before (chosen choice (first :: terms)) term := by
  induction terms generalizing first with
  | nil =>
      refine ⟨List.mem_cons_self, fun term member => ?_⟩
      obtain rfl := List.mem_singleton.mp member
      exact (chooses.total (numbers _ member) (numbers _ member)).elim id id
  | cons second terms ih =>
      have number := numbers first List.mem_cons_self
      have number' := numbers second (List.mem_cons_of_mem _ List.mem_cons_self)
      have later : ∀ term ∈ choice first second :: terms, term.isNaN = false := by
        intro term member
        obtain rfl | member := List.mem_cons.mp member
        · exact chooses.number number number'
        · exact numbers term (List.mem_cons_of_mem _ (List.mem_cons_of_mem _ member))
      obtain ⟨member, least⟩ := ih later
      have bound := least _ List.mem_cons_self
      refine ⟨?_, fun term among => ?_⟩
      · show chosen choice (choice first second :: terms) ∈ _
        obtain same | among := List.mem_cons.mp member
        · obtain left | right := chooses.either number number'
          · rw [same, left]
            exact List.mem_cons_self
          · rw [same, right]
            exact List.mem_cons_of_mem _ List.mem_cons_self
        · exact List.mem_cons_of_mem _ (List.mem_cons_of_mem _ among)
      · obtain rfl | among := List.mem_cons.mp among
        · exact chooses.trans bound (chooses.before_left number number')
        obtain rfl | among := List.mem_cons.mp among
        · exact chooses.trans bound (chooses.before_right number number')
        · exact least term (List.mem_cons_of_mem _ among)

end Chooses

/-! ## Equal differences -/

variable {x y z : Float32}

theorem beq_symm (same : (x == y) = true) : (y == x) = true := by
  obtain ⟨first, second, ranks⟩ := beq_iff.mp same
  exact beq_iff.mpr ⟨second, first, ranks.symm⟩

theorem beq_trans (former : (x == y) = true) (latter : (y == z) = true) : (x == z) = true := by
  obtain ⟨first, -, ranks⟩ := beq_iff.mp former
  obtain ⟨-, third, ranks'⟩ := beq_iff.mp latter
  exact beq_iff.mpr ⟨first, third, ranks.trans ranks'⟩

theorem beq_of_unpack (number : x.isNaN = false) (same : y.toModel.unpack = x.toModel.unpack) :
    (y == x) = true := by
  have number' : y.isNaN = false := by
    show y.toModel.unpack.isNaN = false
    rw [same]
    exact number
  refine beq_iff.mpr ⟨number', number, ?_⟩
  unfold rank
  rw [same]

theorem beq_of_le_of_not_lt (order : x ≤ y) (equal : ¬x < y) : (x == y) = true := by
  obtain ⟨first, second, ranks⟩ := le_iff.mp order
  refine beq_iff.mpr ⟨first, second, ranks.antisymm ?_⟩
  exact not_lt.mp fun less => equal (lt_iff.mpr ⟨first, second, less⟩)

theorem neg_beq_zero_iff : (-x == 0) = true ↔ (x == 0) = true := by
  rw [beq_zero_iff, beq_zero_iff, unpack_neg]
  constructor <;> rintro ⟨sign, zero⟩
  · cases value : x.toModel.unpack with
    | zero sign => exact ⟨sign, rfl⟩
    | notANumber | infinity | finite =>
        rw [value] at zero
        cases zero
  · rw [zero]
    exact ⟨-sign, rfl⟩

/-- The difference of zeros is a zero. -/
theorem sub_zeros (first : (x == 0) = true) (second : (y == 0) = true) : (x - y == 0) = true := by
  obtain ⟨sign, zero⟩ := beq_zero_iff.mp first
  obtain ⟨sign', zero'⟩ := beq_zero_iff.mp second
  refine beq_zero_iff.mpr ?_
  show ∃ sign, UnpackedFloat.unpack .binary32 (UnpackedFloat.pack .binary32
    (UnpackedFloat.sub .binary32 x.toModel.unpack y.toModel.unpack)) = .zero sign
  rw [zero, zero']
  cases sign <;> cases sign' <;> exact ⟨_, (Standard.zero _).unpack_pack⟩

/-- The difference from a number of the other sign is a number. -/
theorem sub_number (positive : 0 < x) (negative : y < 0) : (x - y).isNaN = false := by
  obtain ⟨-, first, above⟩ := lt_iff_units.mp positive
  obtain ⟨second, -, below⟩ := lt_iff_units.mp negative
  have zero : units 0 = 0 := by decide +kernel
  rw [zero] at above below
  have sum : (x + -y).isNaN = false ∧ ((1 : ℕ) : ℤ) ≤ UnpackedFloat.Sign.positive.apply _ :=
    le_units_add (grid_of_lt (by decide)) Nat.one_pos first (isNaN_neg y ▸ second) (by
      show (1 : ℤ) ≤ units x + units (-y)
      rw [units_neg]
      omega)
  exact add_neg x y ▸ sum.1

/-- Nothing is lost when a zero is subtracted. -/
theorem sub_zero_beq (number : x.isNaN = false) (second : (y == 0) = true) :
    (x - y == x) = true := by
  by_cases zero : (x == 0) = true
  · exact beq_trans (sub_zeros zero second) (beq_symm zero)
  · rw [← add_neg]
    exact beq_of_unpack number (unpack_add_zero (neg_beq_zero_iff.mpr second) zero)

/-- What is subtracted from a zero is negated. -/
theorem zero_sub_beq (number : y.isNaN = false) (first : (x == 0) = true) :
    (x - y == -y) = true := by
  by_cases zero : (y == 0) = true
  · exact beq_trans (sub_zeros first zero) (beq_symm (neg_beq_zero_iff.mpr zero))
  · rw [← add_neg]
    exact beq_of_unpack (isNaN_neg y ▸ number)
      (unpack_zero_add first (mt neg_beq_zero_iff.mp zero))

end Single
end FlightGuidance
