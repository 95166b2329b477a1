import FlightGuidance.Proofs.Single.Order

/-!
# The signs of sums, differences and quotients

A single is above zero exactly if it unpacks to a positive number that is not zero (`pos_iff`).
Packing keeps the sign, so that only a number that is too small for its significand to fit could
be lost (`pack_finite`). A sum is not that small: it is rounded at or above the lowest place that
a single has (`roundWithAccuracy_fits`), so a sum of a positive single and one that is not
negative is positive (`add_pos`). Differences and quotients may vanish, but keep their sign
(`sub_nonneg`, `div_nonneg`).
-/

set_option autoImplicit false

namespace FlightGuidance
namespace Single

open Float.Model (Format UnpackedFloat totalExponent)
open Float.Model.UnpackedFloat (Sign Accuracy ExtendedMantissa pack unpack packComponents
  unpackSign unpackExponent unpackMantissa unpackExponent_packComponents
  unpackMantissa_packComponents decreaseExponent shiftToTargetExponent shiftToExponent
  roundWithAccuracy)

/-! ## Signs -/

/-- An unpacked number above zero. -/
inductive Above : UnpackedFloat → Prop where
  | infinity : Above (.infinity .positive)
  | finite (significand : ℕ) (exponent : ℤ) (nonzero : 0 < significand) :
      Above (.finite .positive significand exponent nonzero)

/-- An unpacked number at or above zero. The sign of zero does not matter. -/
inductive NotBelow : UnpackedFloat → Prop where
  | zero (sign : Sign) : NotBelow (.zero sign)
  | above {unpacked : UnpackedFloat} (above : Above unpacked) : NotBelow unpacked

theorem above_iff (unpacked : UnpackedFloat) :
    Above unpacked ↔ unpacked.isNaN = false ∧ toLex (0, toLex (0, 0)) < unpackedRank unpacked := by
  rcases unpacked with (_ | _) | _ | _ | ⟨_ | _, significand, exponent, nonzero⟩
  · exact ⟨nofun, fun above => absurd above.2 (by decide)⟩
  · exact ⟨fun _ => ⟨rfl, by decide⟩, fun _ => .infinity⟩
  · exact ⟨nofun, nofun⟩
  · exact ⟨nofun, fun above => absurd above.2 (lt_irrefl _)⟩
  · refine ⟨nofun, fun above => absurd above.2 (lt_asymm ?_)⟩
    exact Prod.Lex.toLex_lt_toLex.mpr (.inl (show (-1 : ℤ) < 0 by decide))
  · refine ⟨fun _ => ⟨rfl, ?_⟩, fun _ => .finite _ _ _⟩
    exact Prod.Lex.toLex_lt_toLex.mpr (.inl (show (0 : ℤ) < 1 by decide))

theorem notBelow_iff (unpacked : UnpackedFloat) :
    NotBelow unpacked ↔
      unpacked.isNaN = false ∧ toLex (0, toLex (0, 0)) ≤ unpackedRank unpacked := by
  constructor
  · rintro (_ | above)
    · exact ⟨rfl, le_rfl⟩
    · obtain ⟨number, less⟩ := (above_iff unpacked).mp above
      exact ⟨number, less.le⟩
  · rintro ⟨number, order⟩
    rcases order.lt_or_eq with less | same
    · exact .above ((above_iff unpacked).mpr ⟨number, less⟩)
    · rcases unpacked with (_ | _) | _ | sign | ⟨_ | _, _, _, _⟩
      case zero => exact .zero sign
      case notANumber => cases number
      all_goals cases same

variable {x y : Float32}

theorem pos_iff : 0 < x ↔ Above x.toModel.unpack := by
  rw [lt_iff, above_iff]
  exact ⟨And.right, fun above => ⟨rfl, above⟩⟩

theorem nonneg_iff : 0 ≤ x ↔ NotBelow x.toModel.unpack := by
  rw [le_iff, notBelow_iff]
  exact ⟨And.right, fun above => ⟨rfl, above⟩⟩

/-! ## Packing -/

theorem unpackSign_packComponents {spec : Format} {sign : Sign}
    {exponent : BitVec spec.exponentBits} {significand : BitVec spec.mantissaBitsWithoutImplicit} :
    Sign.ofBitVec (unpackSign (packComponents spec sign exponent significand)) = sign := by
  have bit : unpackSign (packComponents spec sign exponent significand) = sign.toBitVec := by
    apply BitVec.eq_of_getLsbD_eq
    intro place first
    obtain rfl : place = 0 := by omega
    unfold unpackSign packComponents
    simp [BitVec.getLsbD_append, BitVec.getElem_append]
  rw [bit]
  cases sign <;> rfl

/-- What is unpacked from a positive sign is at or above zero if it is a number, and above zero
unless all bits are clear. -/
theorem unpack_positive {bits : BitVec Format.binary32.numBits}
    (sign : Sign.ofBitVec (unpackSign bits) = .positive)
    (ordinary : unpackExponent bits = -1#_ → unpackMantissa bits = 0#_) :
    NotBelow (unpack .binary32 bits) ∧
      (unpackExponent bits ≠ 0#_ ∨ unpackMantissa bits ≠ 0#_ → Above (unpack .binary32 bits)) := by
  have unpacks := unpack_unpacks bits
  generalize unpack .binary32 bits = unpacked at unpacks ⊢
  cases unpacks with
  | infinity =>
      rw [sign]
      exact ⟨.above .infinity, fun _ => .infinity⟩
  | notANumber special set => exact absurd (ordinary special) set
  | zero small clear => exact ⟨.zero _, fun set => (set.elim (· small) (· clear)).elim⟩
  | denormal | normal =>
      rw [sign]
      exact ⟨.above (.finite _ _ _), fun _ => .finite _ _ _⟩

theorem packComponents_positive {exponent : BitVec Format.binary32.exponentBits}
    {significand : BitVec Format.binary32.mantissaBitsWithoutImplicit}
    (ordinary : exponent = -1#_ → significand = 0#_) :
    NotBelow (unpack .binary32 (packComponents .binary32 .positive exponent significand)) ∧
      (exponent ≠ 0#_ ∨ significand ≠ 0#_ →
        Above (unpack .binary32 (packComponents .binary32 .positive exponent significand))) := by
  have positive := unpack_positive
    (@unpackSign_packComponents .binary32 .positive exponent significand)
  rw [unpackExponent_packComponents, unpackMantissa_packComponents] at positive
  exact positive ordinary

/-- A significand and an exponent that a single can have. -/
structure Fits (significand : ℕ) (exponent : ℤ) : Prop where
  nonzero : 0 < significand
  narrow : significand < 2 ^ 24
  lowest : -149 ≤ exponent

/-- A positive finite number is packed to one at or above zero, and to one above zero if it
fits. -/
theorem pack_finite (significand : ℕ) (exponent : ℤ) (nonzero : 0 < significand) :
    let packed := unpack .binary32 (pack .binary32 (.finite .positive significand exponent nonzero))
    NotBelow packed ∧ (Fits significand exponent → Above packed) := by
  unfold pack
  dsimp only
  split
  · exact (packComponents_positive fun _ => rfl).imp_right fun above _ => above (.inl (by decide))
  next small =>
    split
    · have ordinary := ofNat_ne_special small
      refine (packComponents_positive fun special => absurd special ordinary).imp_right
        fun above fits => above (.inl fun clear => ?_)
      have lowest := fits.lowest
      have bias : (Format.binary32.exponentBias : ℤ) = 127 := rfl
      have width : 2 ^ Format.binary32.exponentBits = 256 := rfl
      have biased := congrArg BitVec.toNat clear
      rw [BitVec.toNat_ofNat, Nat.mod_eq_of_lt (by omega), BitVec.toNat_zero] at biased
      omega
    next denormal =>
      refine (packComponents_positive fun special => absurd special (by decide)).imp_right
        fun above fits => above (.inr fun clear => ?_)
      have below : significand < 2 ^ 23 := by
        have bits : Format.binary32.mantissaBits = 24 := rfl
        have logarithm := (Nat.log2_lt nonzero.ne').mpr fits.narrow
        exact (Nat.log2_lt nonzero.ne').mp (by omega)
      have equal := congrArg BitVec.toNat clear
      rw [BitVec.toNat_ofNat, Nat.mod_eq_of_lt below, BitVec.toNat_zero] at equal
      exact nonzero.ne' equal

theorem pack_infinity : Above (unpack .binary32 (pack .binary32 (.infinity .positive))) :=
  .infinity

theorem pack_notBelow {unpacked : UnpackedFloat} (notBelow : NotBelow unpacked) :
    NotBelow (unpack .binary32 (pack .binary32 unpacked)) := by
  rcases notBelow with sign | (_ | ⟨significand, exponent, nonzero⟩)
  · cases sign <;> exact .zero _
  · exact .above .infinity
  · exact (pack_finite significand exponent nonzero).1

/-! ## Rounding -/

theorem mantissa_shiftRight (extended : ExtendedMantissa) (places : ℕ) :
    (extended >>> places).mantissa = extended.mantissa / 2 ^ places := by
  show (places.repeat ExtendedMantissa.shiftRightOne extended).mantissa = _
  induction places with
  | zero => exact (Nat.div_one _).symm
  | succ places inductionHypothesis =>
      rw [Nat.pow_succ, ← Nat.div_div_eq_div_mul, ← inductionHypothesis]
      rfl

theorem mantissa_ofMantissaAndAccuracy (significand : ℕ) (accuracy : Accuracy) :
    (ExtendedMantissa.ofMantissaAndAccuracy significand accuracy).mantissa = significand := by
  rcases accuracy with _ | (_ | _ | _) <;> rfl

/-- A significand of more than 24 bits is shifted to that length. -/
theorem shiftToTargetExponent_eq {significand : ℕ} {exponent : ℤ} (lowest : -149 ≤ exponent)
    (accuracy : Accuracy) :
    shiftToTargetExponent .binary32 significand exponent accuracy =
      (ExtendedMantissa.ofMantissaAndAccuracy significand accuracy >>> (significand.log2 - 23),
        exponent + (significand.log2 - 23 : ℕ)) := by
  have target : (Format.binary32.targetExponent (totalExponent significand exponent) -
      exponent).toNat = significand.log2 - 23 := by
    have bits : Format.binary32.mantissaBits = 24 := rfl
    have least : Format.binary32.minExponent = -149 := rfl
    unfold Format.targetExponent totalExponent
    omega
  unfold shiftToTargetExponent shiftToExponent
  dsimp only
  rw [target]

/-- A significand is shifted to one that fits. Only places above the lowest one are dropped. -/
theorem shiftToTargetExponent_fits {significand : ℕ} {exponent : ℤ} (nonzero : 0 < significand)
    (lowest : -149 ≤ exponent) (accuracy : Accuracy) :
    let shifted := shiftToTargetExponent .binary32 significand exponent accuracy
    Fits shifted.1.mantissa shifted.2 := by
  rw [shiftToTargetExponent_eq lowest]
  dsimp only
  rw [mantissa_shiftRight, mantissa_ofMantissaAndAccuracy]
  refine ⟨?_, ?_, by omega⟩
  · refine Nat.div_pos ?_ (Nat.two_pow_pos _)
    exact (Nat.pow_le_pow_right Nat.two_pos (Nat.sub_le _ _)).trans (Nat.log2_self_le nonzero.ne')
  · refine Nat.div_lt_of_lt_mul ?_
    rw [← Nat.pow_add]
    exact Nat.lt_log2_self.trans_le (Nat.pow_le_pow_right Nat.two_pos (by omega))

theorem roundedMantissa_pos {extended : ExtendedMantissa} (nonzero : 0 < extended.mantissa) :
    0 < extended.roundedMantissa := by
  unfold ExtendedMantissa.roundedMantissa
  rcases extended.accuracy with _ | (_ | _ | _)
  · exact nonzero
  · exact nonzero
  · exact Nat.add_pos_left nonzero _
  · exact Nat.succ_pos _

/-- A number at or above the lowest place is not rounded to zero. -/
theorem roundWithAccuracy_fits {significand : ℕ} {exponent : ℤ} (nonzero : 0 < significand)
    (lowest : -149 ≤ exponent) (sign : Sign) (accuracy : Accuracy) :
    ∃ significand' exponent', ∃ fits : Fits significand' exponent',
      roundWithAccuracy .binary32 sign significand exponent accuracy =
        .finite sign significand' exponent' fits.nonzero := by
  have first := shiftToTargetExponent_fits nonzero lowest accuracy
  have second := shiftToTargetExponent_fits (roundedMantissa_pos first.nonzero) first.lowest .exact
  exact ⟨_, _, second, dif_neg second.nonzero.ne'⟩

theorem round_fits {significand : ℕ} {exponent : ℤ} (nonzero : 0 < significand)
    (lowest : -149 ≤ exponent) (sign : Sign) :
    ∃ significand' exponent', ∃ fits : Fits significand' exponent',
      UnpackedFloat.round .binary32 sign significand exponent =
        .finite sign significand' exponent' fits.nonzero := by
  have least : -149 ≤ Format.binary32.targetExponent (totalExponent significand exponent) :=
    le_max_right _ _
  unfold UnpackedFloat.round decreaseExponent
  dsimp only
  rw [Nat.shiftLeft_eq]
  exact roundWithAccuracy_fits (Nat.mul_pos nonzero (Nat.two_pow_pos _)) (by omega) sign .exact

theorem notBelow_zero_or {p : Prop} [Decidable p] {sign : Sign} {other : ¬p → UnpackedFloat}
    (above : ∀ nonzero, Above (other nonzero)) :
    NotBelow (if zero : p then .zero sign else other zero) := by
  by_cases zero : p
  · rw [dif_pos zero]
    exact .zero sign
  · rw [dif_neg zero]
    exact .above (above zero)

theorem roundWithAccuracy_notBelow (significand : ℕ) (exponent : ℤ) (accuracy : Accuracy) :
    NotBelow (roundWithAccuracy .binary32 .positive significand exponent accuracy) := by
  unfold roundWithAccuracy
  exact notBelow_zero_or fun _ => .finite _ _ _

theorem normalize_natCast {significand : ℕ} (nonzero : 0 < significand) (exponent : ℤ)
    (zeroSign : Sign) :
    UnpackedFloat.normalize .binary32 significand exponent zeroSign =
      UnpackedFloat.round .binary32 .positive significand exponent := by
  have order : compare (significand : ℤ) 0 = .gt :=
    compare_gt_iff_gt.mpr (Int.natCast_pos.mpr nonzero)
  unfold UnpackedFloat.normalize
  rw [order]
  rfl

theorem normalize_notBelow {signed : ℤ} (nonnegative : 0 ≤ signed) (exponent : ℤ)
    (zeroSign : Sign) :
    NotBelow (UnpackedFloat.normalize .binary32 signed exponent zeroSign) := by
  obtain ⟨significand, rfl⟩ := Int.eq_ofNat_of_zero_le nonnegative
  rcases Nat.eq_zero_or_pos significand with rfl | nonzero
  · exact .zero _
  · rw [normalize_natCast nonzero]
    exact roundWithAccuracy_notBelow _ _ _

/-! ## Sums, differences and quotients -/

/-- The significand and the exponent of a single fit, and the significand is short only at the
lowest exponent. -/
theorem unpack_fits {bits : BitVec Format.binary32.numBits} {sign : Sign} {significand : ℕ}
    {exponent : ℤ} {nonzero : 0 < significand}
    (unpacked : unpack .binary32 bits = .finite sign significand exponent nonzero) :
    Fits significand exponent ∧ (-149 < exponent → 2 ^ 23 ≤ significand) := by
  have narrow : (unpackMantissa bits).toNat < 2 ^ 23 := (unpackMantissa bits).isLt
  have unpacks := unpack_unpacks bits
  rw [unpacked] at unpacks
  cases unpacks with
  | denormal => exact ⟨⟨nonzero, by omega, le_rfl⟩, fun higher => absurd higher (lt_irrefl _)⟩
  | normal large =>
      have exponent : (unpackExponent bits).toNat ≠ 0 := fun zero =>
        large (BitVec.eq_of_toNat_eq zero)
      exact ⟨⟨nonzero, by omega, by omega⟩, fun _ => by omega⟩

/-- A sum of a positive single and one that is not negative does not vanish. -/
theorem add_pos (positive : 0 < x) (nonnegative : 0 ≤ y) : 0 < x + y := by
  rw [pos_iff] at positive ⊢
  rw [nonneg_iff] at nonnegative
  show Above (unpack .binary32
    (pack .binary32 (UnpackedFloat.add .binary32 x.toModel.unpack y.toModel.unpack)))
  generalize first : x.toModel.unpack = a at positive ⊢
  generalize second : y.toModel.unpack = b at nonnegative ⊢
  rcases positive with _ | ⟨significand, exponent, nonzero⟩
  · rcases nonnegative with _ | (_ | ⟨_, _, _⟩) <;> exact pack_infinity
  · have fits := (unpack_fits first).1
    rcases nonnegative with _ | (_ | ⟨significand', exponent', nonzero'⟩)
    · exact (pack_finite _ _ _).2 fits
    · exact pack_infinity
    · have fits' := (unpack_fits second).1
      have lowest : -149 ≤ Min.min exponent exponent' := Int.le_min.mpr ⟨fits.lowest, fits'.lowest⟩
      show Above (unpack .binary32 (pack .binary32 (UnpackedFloat.normalize .binary32
        ((significand <<< (exponent - Min.min exponent exponent').toNat : ℕ) +
          (significand' <<< (exponent' - Min.min exponent exponent').toNat : ℕ))
        (Min.min exponent exponent') .positive)))
      rw [Nat.shiftLeft_eq, Nat.shiftLeft_eq]
      have sum : 0 < significand * 2 ^ (exponent - Min.min exponent exponent').toNat +
          significand' * 2 ^ (exponent' - Min.min exponent exponent').toNat :=
        Nat.add_pos_left (Nat.mul_pos nonzero (Nat.two_pow_pos _)) _
      rw [← Int.natCast_add, normalize_natCast sum]
      obtain ⟨_, _, fits, rounded⟩ := round_fits sum lowest .positive
      rw [rounded]
      exact (pack_finite _ _ _).2 fits

/-- A finite single that is larger by its exponent or else by its significand has the larger
significand at the smaller exponent. -/
theorem significand_le {significand significand' : ℕ} {exponent exponent' : ℤ}
    (fits : Fits significand exponent) (long : -149 < exponent' → 2 ^ 23 ≤ significand')
    (order : exponent < exponent' ∨ exponent = exponent' ∧ significand ≤ significand') :
    significand * 2 ^ (exponent - Min.min exponent' exponent).toNat ≤
      significand' * 2 ^ (exponent' - Min.min exponent' exponent).toNat := by
  rcases order with higher | ⟨rfl, less⟩
  · have lowest := fits.lowest
    have narrow := fits.narrow
    have same : (exponent - Min.min exponent' exponent).toNat = 0 := by omega
    have double : 2 ^ 1 ≤ 2 ^ (exponent' - Min.min exponent' exponent).toNat :=
      Nat.pow_le_pow_right Nat.two_pos (by omega)
    rw [same, Nat.pow_zero, Nat.mul_one]
    calc
      significand ≤ 2 ^ 23 * 2 ^ 1 := by omega
      _ ≤ significand' * 2 ^ (exponent' - Min.min exponent' exponent).toNat :=
        Nat.mul_le_mul (long (by omega)) double
  · exact Nat.mul_le_mul_right _ less

/-- The difference from a smaller finite single is not negative. -/
theorem sub_nonneg {significand : ℕ} {exponent : ℤ} {nonzero : 0 < significand}
    (subtrahend : y.toModel.unpack = .finite .positive significand exponent nonzero)
    (order : y ≤ x) : 0 ≤ x - y := by
  have positive : 0 < y := pos_iff.mpr (subtrahend ▸ .finite _ _ _)
  have above := pos_iff.mp (lt_of_lt_of_le positive order)
  have ranked := (le_iff.mp order).2.2
  unfold rank at ranked
  rw [nonneg_iff]
  refine pack_notBelow ?_
  show NotBelow (UnpackedFloat.sub .binary32 x.toModel.unpack y.toModel.unpack)
  rw [subtrahend] at ranked ⊢
  generalize minuend : x.toModel.unpack = a at above ranked ⊢
  rcases above with _ | ⟨significand', exponent', nonzero'⟩
  · exact .above .infinity
  · have fits := (unpack_fits subtrahend).1
    have long := (unpack_fits minuend).2
    have larger : exponent < exponent' ∨ exponent = exponent' ∧ significand ≤ significand' := by
      rcases Prod.Lex.toLex_le_toLex.mp ranked with less | ⟨_, inner⟩
      · exact absurd less (lt_irrefl _)
      · exact (Prod.Lex.toLex_le_toLex.mp inner).imp id fun ⟨level, less⟩ =>
          ⟨level, Int.ofNat_le.mp less⟩
    have shifted := significand_le fits long larger
    show NotBelow (UnpackedFloat.normalize .binary32
      ((significand' <<< (exponent' - Min.min exponent' exponent).toNat : ℕ) -
        (significand <<< (exponent - Min.min exponent' exponent).toNat : ℕ))
      (Min.min exponent' exponent) .positive)
    rw [Nat.shiftLeft_eq, Nat.shiftLeft_eq]
    exact normalize_notBelow (Int.sub_nonneg_of_le (Int.ofNat_le.mpr shifted)) _ _

theorem div_nonneg {significand : ℕ} {exponent : ℤ} {nonzero : 0 < significand}
    (divisor : y.toModel.unpack = .finite .positive significand exponent nonzero)
    (nonnegative : 0 ≤ x) : 0 ≤ x / y := by
  rw [nonneg_iff] at nonnegative ⊢
  refine pack_notBelow ?_
  show NotBelow (UnpackedFloat.div .binary32 x.toModel.unpack y.toModel.unpack)
  rw [divisor]
  generalize x.toModel.unpack = dividend at nonnegative ⊢
  rcases nonnegative with sign | (_ | ⟨_, _, _⟩)
  · exact .zero _
  · exact .above .infinity
  · exact roundWithAccuracy_notBelow _ _ _

end Single
end FlightGuidance
