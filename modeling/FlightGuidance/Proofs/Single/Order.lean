import FlightGuidance.Single
import Mathlib.Algebra.Ring.Nat
import Mathlib.Data.Int.Order.Basic
import Mathlib.Data.Prod.Lex

/-!
# The order of the singles

Comparisons of singles fail when one side is not a number, and the two zeros are equal.
Apart from this they are comparisons in a linear order: every single has a rank
(`rank`), which tells the infinities, the signs and zero apart and then compares
exponents and significands, and two numbers compare as their ranks do (`le_iff`,
`lt_iff`). The laws of `≤` and `<` follow from this, each with the numbers that it needs.

The last sections hold what follows for `Single.min` and `Single.max`, what the bits of a
single unpack to (`Unpacks`), and which operations keep a number a number.
-/

set_option autoImplicit false

namespace FlightGuidance
namespace Single

open Float.Model (Format UnpackedFloat)
open Float.Model.UnpackedFloat (packComponents unpackSign unpackExponent unpackMantissa)

/-! ## Ranks -/

/-- The rank of an unpacked single. What is not a number has the rank of zero, which no
comparison looks at. -/
def unpackedRank : UnpackedFloat → ℤ ×ₗ ℤ ×ₗ ℤ
  | .infinity .negative => toLex (-2, toLex (0, 0))
  | .finite .negative significand exponent _ => toLex (-1, toLex (-exponent, -significand))
  | .zero _ | .notANumber => toLex (0, toLex (0, 0))
  | .finite .positive significand exponent _ => toLex (1, toLex (exponent, significand))
  | .infinity .positive => toLex (2, toLex (0, 0))

/-- The place of a single in the order. -/
def rank (x : Float32) : ℤ ×ₗ ℤ ×ₗ ℤ := unpackedRank x.toModel.unpack

theorem compare_neg_neg (a b : ℤ) : compare (-a) (-b) = (compare a b).swap := by
  rw [Int.compare_swap]
  simp only [compare, compareOfLessAndEq, Int.neg_lt_neg_iff, Int.neg_inj, eq_comm]

theorem compare_natCast (a b : ℕ) : compare (a : ℤ) (b : ℤ) = compare a b := by
  simp only [compare, compareOfLessAndEq, Int.ofNat_lt, Int.ofNat_inj]

/-- Two numbers compare as their ranks do. Two finite ones of one sign compare by exponent and
then by significand, in reverse if they are negative. -/
theorem compare_eq_of_isNaN {a b : UnpackedFloat} (first : a.isNaN = false)
    (second : b.isNaN = false) :
    a.compare b = some (compare (unpackedRank a) (unpackedRank b)) := by
  rcases a with (_ | _) | _ | _ | ⟨_ | _, m, e, _⟩ <;>
    rcases b with (_ | _) | _ | _ | ⟨_ | _, m', e', _⟩ <;>
    first
    | rfl
    | exact absurd first (by decide)
    | exact absurd second (by decide)
    | skip
  · show some ((compare e e').then (compare m m')).swap =
      some ((compare (-e) (-e')).then (compare (-(m : ℤ)) (-(m' : ℤ))))
    rw [compare_neg_neg, compare_neg_neg, compare_natCast, Ordering.swap_then]
  · show some ((compare e e').then (compare m m')) =
      some ((compare e e').then (compare (m : ℤ) (m' : ℤ)))
    rw [compare_natCast]

theorem compare_eq_none {a b : UnpackedFloat} (nan : ¬(a.isNaN = false ∧ b.isNaN = false)) :
    a.compare b = none := by
  cases a with
  | notANumber => rfl
  | infinity | zero | finite =>
      cases b with
      | notANumber => rfl
      | infinity | zero | finite => exact absurd ⟨rfl, rfl⟩ nan

/-! ## Comparisons -/

variable {x y z : Float32}

/-- A test of a comparison which fails for what is not a number is one of the ranks. -/
theorem compare_iff (test : Option Ordering → Bool) (fails : test none = false) {order : Prop}
    (agrees : test (some (compare (rank x) (rank y))) = true ↔ order) :
    test (x.toModel.unpack.compare y.toModel.unpack) = true ↔
      x.isNaN = false ∧ y.isNaN = false ∧ order := by
  by_cases numbers : x.isNaN = false ∧ y.isNaN = false
  · rw [compare_eq_of_isNaN numbers.1 numbers.2]
    simp only [numbers, true_and]
    exact agrees
  · rw [compare_eq_none numbers, fails]
    exact ⟨nofun, fun ordered => absurd ⟨ordered.1, ordered.2.1⟩ numbers⟩

/-- **Two singles are in order exactly if both are numbers and their ranks are in order.** -/
theorem le_iff : x ≤ y ↔ x.isNaN = false ∧ y.isNaN = false ∧ rank x ≤ rank y := by
  have compared : x ≤ y ↔ (x.toModel.unpack.compare y.toModel.unpack).any (·.isLE) = true :=
    decide_eq_true_iff
  have agrees : (some (compare (rank x) (rank y))).any (·.isLE) = true ↔ rank x ≤ rank y := by
    rw [Option.any_some, ← Ordering.ne_gt_iff_isLE]
    exact compare_le_iff_le
  exact compared.trans (compare_iff (Option.any (·.isLE)) rfl agrees)

theorem lt_iff : x < y ↔ x.isNaN = false ∧ y.isNaN = false ∧ rank x < rank y := by
  have compared : x < y ↔ (x.toModel.unpack.compare y.toModel.unpack == some .lt) = true :=
    decide_eq_true_iff
  have agrees : (some (compare (rank x) (rank y)) == some .lt) = true ↔ rank x < rank y := by
    rw [beq_iff_eq, Option.some_inj]
    exact compare_lt_iff_lt
  exact compared.trans (compare_iff (· == some .lt) rfl agrees)

/-- Two singles are equal exactly if both are numbers of one rank. -/
theorem beq_iff : (x == y) = true ↔ x.isNaN = false ∧ y.isNaN = false ∧ rank x = rank y := by
  have agrees : (some (compare (rank x) (rank y)) == some .eq) = true ↔ rank x = rank y := by
    rw [beq_iff_eq, Option.some_inj]
    exact compare_eq_iff_eq
  exact compare_iff (· == some .eq) rfl agrees

theorem isNaN_zero : (0 : Float32).isNaN = false := by decide +kernel

theorem beq_self (number : x.isNaN = false) : (x == x) = true :=
  beq_iff.mpr ⟨number, number, rfl⟩

/-- Equal singles compare alike. -/
theorem le_congr {x' y' : Float32} (first : (x == x') = true) (second : (y == y') = true) :
    x ≤ y ↔ x' ≤ y' := by
  obtain ⟨number, number', same⟩ := beq_iff.mp first
  obtain ⟨last, last', equal⟩ := beq_iff.mp second
  rw [le_iff, le_iff, number, number', same, last, last', equal]

theorem lt_congr {x' y' : Float32} (first : (x == x') = true) (second : (y == y') = true) :
    x < y ↔ x' < y' := by
  obtain ⟨number, number', same⟩ := beq_iff.mp first
  obtain ⟨last, last', equal⟩ := beq_iff.mp second
  rw [lt_iff, lt_iff, number, number', same, last, last', equal]

theorem le_self (number : x.isNaN = false) : x ≤ x := le_iff.mpr ⟨number, number, le_rfl⟩

theorem le_of_not_lt (first : x.isNaN = false) (second : y.isNaN = false) (order : ¬y < x) :
    x ≤ y := by
  rw [lt_iff, not_and, not_and, not_lt] at order
  exact le_iff.mpr ⟨first, second, order second first⟩

theorem le_of_lt (order : x < y) : x ≤ y := by
  obtain ⟨first, second, less⟩ := lt_iff.mp order
  exact le_iff.mpr ⟨first, second, less.le⟩

theorem not_le_of_lt (order : x < y) : ¬y ≤ x := by
  obtain ⟨-, -, less⟩ := lt_iff.mp order
  exact fun reversed => absurd (le_iff.mp reversed).2.2 (not_le.mpr less)

theorem lt_of_lt_of_le (first : x < y) (second : y ≤ z) : x < z := by
  obtain ⟨number, -, less⟩ := lt_iff.mp first
  obtain ⟨-, last, order⟩ := le_iff.mp second
  exact lt_iff.mpr ⟨number, last, less.trans_le order⟩

theorem lt_of_le_of_lt (first : x ≤ y) (second : y < z) : x < z := by
  obtain ⟨number, -, order⟩ := le_iff.mp first
  obtain ⟨-, last, less⟩ := lt_iff.mp second
  exact lt_iff.mpr ⟨number, last, order.trans_lt less⟩

theorem le_trans (first : x ≤ y) (second : y ≤ z) : x ≤ z := by
  obtain ⟨number, -, order⟩ := le_iff.mp first
  obtain ⟨-, last, order'⟩ := le_iff.mp second
  exact le_iff.mpr ⟨number, last, order.trans order'⟩

/-! ## The smaller and the larger of two -/

theorem isNaN_min (number : y.isNaN = false) : (min x y).isNaN = false := by
  unfold min
  split
  · exact number
  next first =>
    split
    · exact number
    · exact Bool.eq_false_of_not_eq_true first

theorem isNaN_max (number : y.isNaN = false) : (max x y).isNaN = false := by
  unfold max
  split
  · exact number
  next first =>
    split
    · exact number
    · exact Bool.eq_false_of_not_eq_true first

/-- The smaller of two numbers is at most the second one, if that is a number. -/
theorem min_le_iff : min x y ≤ y ↔ y.isNaN = false := by
  refine ⟨fun order => (le_iff.mp order).2.1, fun number => ?_⟩
  unfold min
  split
  · exact le_self number
  next first =>
    split
    · exact le_self number
    next order => exact le_of_not_lt (Bool.eq_false_of_not_eq_true first) number order

theorem le_max (number : y.isNaN = false) : y ≤ max x y := by
  unfold max
  split
  · exact le_self number
  next first =>
    split
    · exact le_self number
    next order => exact le_of_not_lt number (Bool.eq_false_of_not_eq_true first) order

theorem le_max_left (number : x.isNaN = false) : x ≤ max x y := by
  unfold max
  rw [number, if_neg Bool.false_ne_true]
  split
  next order => exact le_of_lt order
  next => exact le_self number

theorem le_min (first : z ≤ x) (second : z ≤ y) : z ≤ min x y := by
  unfold min
  split
  · exact second
  · split
    · exact second
    · exact first

theorem lt_min (first : z < x) (second : z < y) : z < min x y := by
  unfold min
  split
  · exact second
  · split
    · exact second
    · exact first

/-- A bound that holds changes nothing. -/
theorem max_of_le (order : y ≤ x) : max x y = x := by
  obtain ⟨-, number, ranked⟩ := le_iff.mp order
  have least : ¬x < y := fun less => (lt_iff.mp less).2.2.not_ge ranked
  unfold max
  rw [number, if_neg least]
  rfl

theorem min_of_le (order : x ≤ y) : min x y = x := by
  obtain ⟨number, -, ranked⟩ := le_iff.mp order
  have most : ¬y < x := fun less => (lt_iff.mp less).2.2.not_ge ranked
  unfold min
  rw [number, if_neg most]
  rfl

/-- The smaller of two numbers is the second one, if that is less. -/
theorem min_of_lt (order : y < x) : min x y = y := by
  unfold min
  rw [(lt_iff.mp order).2.1, if_pos order]
  rfl

/-! ## Numbers stay numbers -/

theorem isNaN_zero_or {p : Prop} [Decidable p] {sign : UnpackedFloat.Sign}
    {other : ¬p → UnpackedFloat} (number : ∀ nonzero, (other nonzero).isNaN = false) :
    (if zero : p then .zero sign else other zero).isNaN = false := by
  by_cases zero : p
  · rw [dif_pos zero]
    rfl
  · rw [dif_neg zero]
    exact number zero

theorem finite_congr {sign : UnpackedFloat.Sign} {significand significand' : ℕ}
    {exponent exponent' : ℤ} {nonzero : 0 < significand} (nonzero' : 0 < significand')
    (same : significand = significand') (level : exponent = exponent') :
    UnpackedFloat.finite sign significand exponent nonzero =
      .finite sign significand' exponent' nonzero' := by
  subst same level
  rfl

/-- What a single unpacks to, by its exponent and its significand. -/
inductive Unpacks (bits : BitVec Format.binary32.numBits) : UnpackedFloat → Prop where
  | infinity (special : unpackExponent bits = -1#_) (clear : unpackMantissa bits = 0#_) :
      Unpacks bits (.infinity (.ofBitVec (unpackSign bits)))
  | notANumber (special : unpackExponent bits = -1#_) (set : unpackMantissa bits ≠ 0#_) :
      Unpacks bits .notANumber
  | zero (small : unpackExponent bits = 0#_) (clear : unpackMantissa bits = 0#_) :
      Unpacks bits (.zero (.ofBitVec (unpackSign bits)))
  | denormal (small : unpackExponent bits = 0#_) (nonzero : 0 < (unpackMantissa bits).toNat) :
      Unpacks bits
        (.finite (.ofBitVec (unpackSign bits)) (unpackMantissa bits).toNat (-149) nonzero)
  | normal (large : unpackExponent bits ≠ 0#_)
      (nonzero : 0 < 2 ^ 23 + (unpackMantissa bits).toNat) :
      Unpacks bits
        (.finite (.ofBitVec (unpackSign bits)) (2 ^ 23 + (unpackMantissa bits).toNat)
          ((unpackExponent bits).toNat - 150) nonzero)

theorem unpack_unpacks (bits : BitVec Format.binary32.numBits) :
    Unpacks bits (UnpackedFloat.unpack .binary32 bits) := by
  have narrow : (unpackMantissa bits).toNat < 2 ^ 23 := (unpackMantissa bits).isLt
  unfold UnpackedFloat.unpack
  dsimp only
  by_cases special : unpackExponent bits = -1#_
  · rw [if_pos special]
    by_cases clear : unpackMantissa bits = 0#_
    · rw [if_pos clear]
      exact .infinity special clear
    · rw [if_neg clear]
      exact .notANumber special clear
  · rw [if_neg special]
    by_cases small : unpackExponent bits = 0#_
    · rw [if_pos small]
      by_cases clear : unpackMantissa bits = 0#_
      · rw [dif_pos clear]
        exact .zero small clear
      · have exponent : (unpackExponent bits).toNat = 0 := congrArg BitVec.toNat small
        have nonzero : 0 < (unpackMantissa bits).toNat :=
          Nat.pos_of_ne_zero fun zero => clear (BitVec.eq_of_toNat_eq zero)
        have lowest : ((unpackExponent bits).toNat : ℤ) - (127 + 23) + 1 = -149 := by omega
        rw [dif_neg clear]
        exact finite_congr nonzero rfl lowest ▸ .denormal small nonzero
    · have whole : (1#1 ++ unpackMantissa bits).toNat = 2 ^ 23 + (unpackMantissa bits).toNat := by
        rw [BitVec.toNat_append, ← Nat.shiftLeft_add_eq_or_of_lt narrow]
        rfl
      have nonzero : 0 < 2 ^ 23 + (unpackMantissa bits).toNat := Nat.add_pos_left (by decide) _
      rw [if_neg small]
      exact finite_congr nonzero whole rfl ▸ .normal small nonzero

/-- What is unpacked is not a number only behind the exponent of the infinities. -/
theorem isNaN_unpack {bits : BitVec Format.binary32.numBits}
    (ordinary : unpackExponent bits = -1#_ → unpackMantissa bits = 0#_) :
    (UnpackedFloat.unpack .binary32 bits).isNaN = false := by
  have unpacks := unpack_unpacks bits
  generalize UnpackedFloat.unpack .binary32 bits = unpacked at unpacks ⊢
  cases unpacks with
  | notANumber special set => exact absurd (ordinary special) set
  | _ => rfl

theorem isNaN_packComponents {sign : UnpackedFloat.Sign}
    {exponent : BitVec Format.binary32.exponentBits}
    {significand : BitVec Format.binary32.mantissaBitsWithoutImplicit}
    (ordinary : exponent = -1#_ → significand = 0#_) :
    (UnpackedFloat.unpack .binary32
      (packComponents .binary32 sign exponent significand)).isNaN = false := by
  apply isNaN_unpack
  rw [UnpackedFloat.unpackExponent_packComponents, UnpackedFloat.unpackMantissa_packComponents]
  exact ordinary

/-- A biased exponent within the range of the finite numbers is not the one of the infinities. -/
theorem ofNat_ne_special {biased : ℕ} (small : ¬2 ^ Format.binary32.exponentBits ≤ biased + 1) :
    BitVec.ofNat Format.binary32.exponentBits biased ≠ -1#_ := by
  intro special
  have equal := congrArg BitVec.toNat special
  rw [BitVec.toNat_ofNat, Nat.mod_eq_of_lt (by omega)] at equal
  rw [equal] at small
  exact absurd (by decide) small

/-- Packing keeps a number a number, though perhaps an infinite one. -/
theorem isNaN_pack {unpacked : UnpackedFloat} (number : unpacked.isNaN = false) :
    (UnpackedFloat.unpack .binary32 (UnpackedFloat.pack .binary32 unpacked)).isNaN = false := by
  cases unpacked with
  | notANumber => cases number
  | infinity sign => exact isNaN_packComponents fun _ => rfl
  | zero sign => exact isNaN_packComponents fun _ => rfl
  | finite sign significand exponent _ =>
      unfold UnpackedFloat.pack
      dsimp only
      split
      · exact isNaN_packComponents fun _ => rfl
      next small =>
        split
        · exact isNaN_packComponents fun special => absurd special (ofNat_ne_special small)
        · exact isNaN_packComponents fun special => absurd special (by decide)

theorem isNaN_roundWithAccuracy (sign : UnpackedFloat.Sign) (significand : ℕ) (exponent : ℤ)
    (accuracy : UnpackedFloat.Accuracy) :
    (UnpackedFloat.roundWithAccuracy .binary32 sign significand exponent accuracy).isNaN =
      false := by
  unfold UnpackedFloat.roundWithAccuracy
  exact isNaN_zero_or fun _ => rfl

/-- The product of a number with a finite one that is not zero is a number. -/
theorem isNaN_mul {sign : UnpackedFloat.Sign} {significand : ℕ} {exponent : ℤ}
    {positive : 0 < significand}
    (factor : x.toModel.unpack = .finite sign significand exponent positive)
    (number : y.isNaN = false) : (x * y).isNaN = false := by
  have unpacked : y.toModel.unpack.isNaN = false := number
  refine isNaN_pack ?_
  rw [factor]
  cases value : y.toModel.unpack with
  | notANumber => rw [value] at unpacked; cases unpacked
  | infinity => rfl
  | zero => rfl
  | finite => exact isNaN_roundWithAccuracy _ _ _ _

end Single
end FlightGuidance
