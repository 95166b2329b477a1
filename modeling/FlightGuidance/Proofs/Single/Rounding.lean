import FlightGuidance.Proofs.Single.Units

/-!
# Rounded sums, products and quotients

A sum of finite singles is exact in units before it is rounded. Rounding goes to a single next to
the exact number and never past another single (`Rounded`), also when it carries into a longer
significand or to an infinity. What a sum can be is said once (`Sum`), and the facts that rounding
errors cannot spoil follow from it: adding what is not positive does not increase a number
(`not_lt_add`), and a sum reaches every magnitude of a single that the exact one reaches
(`le_units_add`).

The last section holds what is exact, opposites and the product with minus one, and what a quotient
reaches (`le_units_div`).
-/

set_option autoImplicit false

namespace FlightGuidance
namespace Single

open Float.Model (Format UnpackedFloat totalExponent)
open Float.Model.UnpackedFloat (Sign Accuracy ExtendedMantissa pack unpack decreaseExponent
  shiftToTargetExponent shiftToExponent roundWithAccuracy)

/-! ## Rounding -/

/-- A rounded quotient by a power of two is next to the exact one. -/
structure Nearby (significand places rounded : ℕ) : Prop where
  below : ∀ whole, whole * 2 ^ places ≤ significand → whole ≤ rounded
  above : ∀ whole, significand ≤ whole * 2 ^ places → rounded ≤ whole

theorem mantissa_le_roundedMantissa (extended : ExtendedMantissa) :
    extended.mantissa ≤ extended.roundedMantissa := by
  unfold ExtendedMantissa.roundedMantissa
  rcases extended.accuracy with _ | (_ | _ | _)
  · exact le_rfl
  · exact le_rfl
  · exact Nat.le_add_right _ _
  · exact Nat.le_succ _

theorem roundedMantissa_le (extended : ExtendedMantissa) :
    extended.roundedMantissa ≤ extended.mantissa + 1 := by
  unfold ExtendedMantissa.roundedMantissa
  rcases extended.accuracy with _ | (_ | _ | _)
  · exact Nat.le_succ _
  · exact Nat.le_succ _
  · exact Nat.add_le_add_left (Nat.le_of_lt_succ (Nat.mod_lt _ Nat.two_pos)) _
  · exact le_rfl

/-- Nothing is lost if only zeros are shifted out. -/
theorem shiftRight_exact {significand places : ℕ} (whole : 2 ^ places ∣ significand) :
    ExtendedMantissa.ofMantissaAndAccuracy significand .exact >>> places =
      { mantissa := significand / 2 ^ places, roundBit := false, stickyBit := false } := by
  show places.repeat ExtendedMantissa.shiftRightOne _ = _
  induction places with
  | zero =>
      rw [Nat.pow_zero, Nat.div_one]
      rfl
  | succ places inductionHypothesis =>
      rw [Nat.pow_succ] at whole ⊢
      have even : significand / 2 ^ places % 2 = 0 :=
        Nat.mod_eq_zero_of_dvd (Nat.dvd_div_of_mul_dvd whole)
      have shifted := inductionHypothesis (Nat.dvd_trans (Nat.dvd_mul_right _ _) whole)
      show ExtendedMantissa.shiftRightOne (places.repeat ExtendedMantissa.shiftRightOne _) = _
      rw [shifted, ← Nat.div_div_eq_div_mul]
      unfold ExtendedMantissa.shiftRightOne
      rw [even]
      rfl

/-- Rounding does not go below the whole part. -/
theorem le_roundedMantissa {significand places whole : ℕ} (accuracy : Accuracy)
    (order : whole * 2 ^ places ≤ significand) :
    whole ≤
      (ExtendedMantissa.ofMantissaAndAccuracy significand accuracy >>> places).roundedMantissa := by
  have quotient := mantissa_shiftRight (.ofMantissaAndAccuracy significand accuracy) places
  rw [mantissa_ofMantissaAndAccuracy] at quotient
  calc
    whole ≤ significand / 2 ^ places := (Nat.le_div_iff_mul_le (Nat.two_pow_pos _)).mpr order
    _ = _ := quotient.symm
    _ ≤ _ := mantissa_le_roundedMantissa _

theorem nearby_roundedMantissa (significand places : ℕ) :
    Nearby significand places
      (ExtendedMantissa.ofMantissaAndAccuracy significand .exact >>> places).roundedMantissa := by
  have quotient := mantissa_shiftRight (.ofMantissaAndAccuracy significand .exact) places
  rw [mantissa_ofMantissaAndAccuracy] at quotient
  refine ⟨fun whole => le_roundedMantissa .exact, fun whole order => ?_⟩
  rcases order.eq_or_lt with rfl | less
  · rw [shiftRight_exact (Nat.dvd_mul_left _ _), Nat.mul_div_cancel _ (Nat.two_pow_pos _)]
    exact le_rfl
  · calc
      _ ≤ _ := roundedMantissa_le _
      _ = significand / 2 ^ places + 1 := congrArg Nat.succ quotient
      _ ≤ whole := (Nat.div_lt_iff_lt_mul (Nat.two_pow_pos _)).mpr less

/-- A rounded significand of 24 bits fits, and one that is carried into the next bit is shifted
without loss. -/
theorem shiftToTargetExponent_carry {rounded : ℕ} {exponent : ℤ} (nonzero : 0 < rounded)
    (small : rounded ≤ 2 ^ 24) (lowest : -149 ≤ exponent)
    (long : -149 < exponent → 2 ^ 23 ≤ rounded) :
    let shifted := shiftToTargetExponent .binary32 rounded exponent .exact
    Canonical shifted.1.mantissa shifted.2 ∧
      height shifted.1.mantissa shifted.2 = height rounded exponent := by
  rw [shiftToTargetExponent_eq lowest]
  dsimp only
  rw [mantissa_shiftRight, mantissa_ofMantissaAndAccuracy]
  rcases small.eq_or_lt with rfl | narrow
  · have carried : (2 ^ 24).log2 - 23 = 1 := by decide
    rw [carried]
    refine ⟨⟨⟨by decide, by decide, by omega⟩, fun _ => by decide⟩, ?_⟩
    unfold height
    rw [show (exponent + (1 : ℕ) + 149).toNat = (exponent + 149).toNat + 1 by omega, Nat.pow_succ]
    omega
  · have same : rounded.log2 - 23 = 0 := by
      have bound := (Nat.log2_lt nonzero.ne').mpr narrow
      omega
    rw [same, Nat.pow_zero, Nat.div_one, Int.natCast_zero, Int.add_zero]
    exact ⟨⟨⟨nonzero, narrow, lowest⟩, long⟩, rfl⟩

/-- What is rounded at or above the lowest place is again a number that fits, with the rounded
significand as its magnitude. -/
theorem roundWithAccuracy_canonical {significand : ℕ} {exponent : ℤ} (nonzero : 0 < significand)
    (lowest : -149 ≤ exponent) (long : -149 < exponent → 2 ^ 23 ≤ significand) (sign : Sign)
    (accuracy : Accuracy) :
    ∃ significand' exponent', ∃ canonical : Canonical significand' exponent',
      roundWithAccuracy .binary32 sign significand exponent accuracy =
          .finite sign significand' exponent' canonical.nonzero ∧
        height significand' exponent' =
          height
            (ExtendedMantissa.ofMantissaAndAccuracy significand accuracy >>>
              (significand.log2 - 23)).roundedMantissa
            (exponent + (significand.log2 - 23 : ℕ)) := by
  have fits := shiftToTargetExponent_fits nonzero lowest accuracy
  have least := mantissa_le_roundedMantissa
    (ExtendedMantissa.ofMantissaAndAccuracy significand accuracy >>> (significand.log2 - 23))
  have most := roundedMantissa_le
    (ExtendedMantissa.ofMantissaAndAccuracy significand accuracy >>> (significand.log2 - 23))
  have quotient := mantissa_shiftRight (.ofMantissaAndAccuracy significand accuracy)
    (significand.log2 - 23)
  rw [mantissa_ofMantissaAndAccuracy] at quotient
  have kept : -149 < exponent + (significand.log2 - 23 : ℕ) →
      2 ^ 23 ≤ significand / 2 ^ (significand.log2 - 23) := by
    intro higher
    rcases Nat.eq_zero_or_pos (significand.log2 - 23) with none | dropped
    · rw [none, Nat.pow_zero, Nat.div_one]
      exact long (by omega)
    · refine (Nat.le_div_iff_mul_le (Nat.two_pow_pos _)).mpr ?_
      rw [← Nat.pow_add, show 23 + (significand.log2 - 23) = significand.log2 by omega]
      exact Nat.log2_self_le nonzero.ne'
  rw [shiftToTargetExponent_eq lowest] at fits
  dsimp only at fits
  obtain ⟨canonical, same⟩ := shiftToTargetExponent_carry (roundedMantissa_pos fits.nonzero)
    (by have := fits.narrow; omega) fits.lowest (by omega)
  refine ⟨_, _, canonical, ?_, same⟩
  unfold roundWithAccuracy
  rw [shiftToTargetExponent_eq lowest]
  exact dif_neg canonical.nonzero.ne'

/-- A rounded magnitude is on the same side as the exact one of every magnitude that can be
written with 24 bits. -/
structure Between (exact rounded : ℕ) : Prop where
  below : ∀ {significand places : ℕ}, significand < 2 ^ 24 →
    significand * 2 ^ places ≤ exact → significand * 2 ^ places ≤ rounded
  above : ∀ {significand places : ℕ}, significand < 2 ^ 24 →
    exact ≤ significand * 2 ^ places → rounded ≤ significand * 2 ^ places

section

variable {significand places rounded level grid place : ℕ}

/-- Above the place of rounding a magnitude is a whole number of that place. -/
theorem exists_whole (grid : ℕ) (high : places + level ≤ place) :
    ∃ whole, grid * 2 ^ place = whole * 2 ^ places * 2 ^ level := by
  refine ⟨grid * 2 ^ (place - (places + level)), ?_⟩
  rw [Nat.mul_assoc, ← Nat.pow_add, Nat.mul_assoc, ← Nat.pow_add, Nat.sub_add_cancel high]

/-- What is written with 24 bits below the place of rounding is smaller than what is rounded. -/
theorem short_lt (short : grid < 2 ^ 24) (low : ¬places + level ≤ place) :
    grid * 2 ^ place < 2 ^ (23 + places) * 2 ^ level := by
  calc
    grid * 2 ^ place < 2 ^ 24 * 2 ^ place :=
      Nat.mul_lt_mul_of_pos_right short (Nat.two_pow_pos _)
    _ = 2 ^ (24 + place) := (Nat.pow_add ..).symm
    _ ≤ 2 ^ (23 + places + level) := Nat.pow_le_pow_right Nat.two_pos (by omega)
    _ = 2 ^ (23 + places) * 2 ^ level := Nat.pow_add ..

/-- What goes to no place below the exact one goes to no magnitude of 24 bits below it. -/
theorem short_le_rounded (below : ∀ whole, whole * 2 ^ places ≤ significand → whole ≤ rounded)
    (long : places ≠ 0 → 2 ^ (23 + places) ≤ significand) (short : grid < 2 ^ 24)
    (order : grid * 2 ^ place ≤ significand * 2 ^ level) :
    grid * 2 ^ place ≤ rounded * 2 ^ (places + level) := by
  rw [Nat.pow_add, ← Nat.mul_assoc]
  by_cases high : places + level ≤ place
  · obtain ⟨whole, same⟩ := exists_whole grid high
    rw [same] at order ⊢
    exact Nat.mul_le_mul_right _ (Nat.mul_le_mul_right _
      (below whole (Nat.le_of_mul_le_mul_right order (Nat.two_pow_pos _))))
  by_cases none : places = 0
  · subst none
    rw [Nat.pow_zero, Nat.mul_one]
    exact order.trans (Nat.mul_le_mul_right _ (below significand (Nat.mul_one _).le))
  · have least : 2 ^ 23 ≤ rounded := below (2 ^ 23) (Nat.pow_add .. ▸ long none)
    refine (short_lt short high).le.trans (Nat.mul_le_mul_right _ ?_)
    rw [Nat.pow_add]
    exact Nat.mul_le_mul_right _ least

theorem Nearby.between (nearby : Nearby significand places rounded)
    (long : places ≠ 0 → 2 ^ (23 + places) ≤ significand) (level : ℕ) :
    Between (significand * 2 ^ level) (rounded * 2 ^ (places + level)) := by
  refine ⟨short_le_rounded nearby.below long, fun {grid place} short order => ?_⟩
  rw [Nat.pow_add, ← Nat.mul_assoc]
  by_cases high : places + level ≤ place
  · obtain ⟨whole, same⟩ := exists_whole grid high
    rw [same] at order ⊢
    exact Nat.mul_le_mul_right _ (Nat.mul_le_mul_right _
      (nearby.above whole (Nat.le_of_mul_le_mul_right order (Nat.two_pow_pos _))))
  by_cases none : places = 0
  · subst none
    rw [Nat.pow_zero, Nat.mul_one]
    exact (Nat.mul_le_mul_right _ (nearby.above significand (Nat.mul_one _).ge)).trans order
  · have exact : 2 ^ (23 + places) * 2 ^ level ≤ significand * 2 ^ level :=
      Nat.mul_le_mul_right _ (long none)
    exact absurd (exact.trans order) (short_lt short high).not_ge

end

/-- Rounding reaches every magnitude of 24 bits that the exact number reaches, whatever is known of
what was dropped before. -/
theorem roundWithAccuracy_reaches {significand : ℕ} {exponent : ℤ} (nonzero : 0 < significand)
    (lowest : -149 ≤ exponent) (long : -149 < exponent → 2 ^ 23 ≤ significand) (sign : Sign)
    (accuracy : Accuracy) :
    ∃ significand' exponent', ∃ canonical : Canonical significand' exponent',
      roundWithAccuracy .binary32 sign significand exponent accuracy =
          .finite sign significand' exponent' canonical.nonzero ∧
        ∀ {grid place : ℕ}, grid < 2 ^ 24 → grid * 2 ^ place ≤ height significand exponent →
          grid * 2 ^ place ≤ height significand' exponent' := by
  obtain ⟨significand', exponent', canonical, rounded, same⟩ :=
    roundWithAccuracy_canonical nonzero lowest long sign accuracy
  refine ⟨significand', exponent', canonical, rounded, fun {grid place} short order => ?_⟩
  have least := short_le_rounded (fun whole => le_roundedMantissa accuracy)
    (fun dropped => by
      rw [show 23 + (significand.log2 - 23) = significand.log2 by omega]
      exact Nat.log2_self_le nonzero.ne')
    short order
  have raised : (exponent + (significand.log2 - 23 : ℕ) + 149).toNat =
      significand.log2 - 23 + (exponent + 149).toNat := by omega
  rw [same]
  unfold height
  rwa [raised]

theorem roundWithAccuracy_between {significand : ℕ} {exponent : ℤ} (nonzero : 0 < significand)
    (lowest : -149 ≤ exponent) (long : -149 < exponent → 2 ^ 23 ≤ significand) (sign : Sign) :
    ∃ significand' exponent', ∃ canonical : Canonical significand' exponent',
      roundWithAccuracy .binary32 sign significand exponent .exact =
          .finite sign significand' exponent' canonical.nonzero ∧
        Between (height significand exponent) (height significand' exponent') := by
  obtain ⟨significand', exponent', canonical, rounded, same⟩ :=
    roundWithAccuracy_canonical nonzero lowest long sign .exact
  refine ⟨significand', exponent', canonical, rounded, ?_⟩
  have between := (nearby_roundedMantissa significand (significand.log2 - 23)).between
    (fun dropped => by
      rw [show 23 + (significand.log2 - 23) = significand.log2 by omega]
      exact Nat.log2_self_le nonzero.ne')
    (exponent + 149).toNat
  have place : (exponent + (significand.log2 - 23 : ℕ) + 149).toNat =
      significand.log2 - 23 + (exponent + 149).toNat := by omega
  rw [same]
  unfold height
  rwa [place]

theorem round_between {significand : ℕ} {exponent : ℤ} (nonzero : 0 < significand)
    (lowest : -149 ≤ exponent) (sign : Sign) :
    ∃ significand' exponent', ∃ canonical : Canonical significand' exponent',
      UnpackedFloat.round .binary32 sign significand exponent =
          .finite sign significand' exponent' canonical.nonzero ∧
        Between (height significand exponent) (height significand' exponent') := by
  have bits : Format.binary32.mantissaBits = 24 := rfl
  have least : Format.binary32.minExponent = -149 := rfl
  -- A short significand is shifted to the left as far as the lowest place allows.
  obtain ⟨shift, amount, kept, full⟩ : ∃ shift : ℕ,
      (exponent - Format.binary32.targetExponent (totalExponent significand exponent)).toNat =
        shift ∧
      -149 ≤ exponent - shift ∧ (-149 < exponent - shift → 23 ≤ significand.log2 + shift) := by
    refine ⟨_, rfl, ?_⟩
    unfold Format.targetExponent totalExponent
    omega
  have long : -149 < exponent - shift → 2 ^ 23 ≤ significand * 2 ^ shift := by
    intro higher
    calc
      2 ^ 23 ≤ 2 ^ (significand.log2 + shift) := Nat.pow_le_pow_right Nat.two_pos (full higher)
      _ = 2 ^ significand.log2 * 2 ^ shift := Nat.pow_add ..
      _ ≤ significand * 2 ^ shift := Nat.mul_le_mul_right _ (Nat.log2_self_le nonzero.ne')
  have same :
      height (significand * 2 ^ shift) (exponent - shift) = height significand exponent := by
    unfold height
    rw [Nat.mul_assoc, ← Nat.pow_add,
      show shift + (exponent - shift + 149).toNat = (exponent + 149).toNat by omega]
  obtain ⟨significand', exponent', canonical, rounded, between⟩ :=
    roundWithAccuracy_between (Nat.mul_pos nonzero (Nat.two_pow_pos _)) kept long sign
  refine ⟨significand', exponent', canonical, ?_, same ▸ between⟩
  rw [← rounded]
  unfold UnpackedFloat.round decreaseExponent
  dsimp only
  rw [amount, Nat.shiftLeft_eq]

/-- A rounded number that is above all singles is packed to an infinity. -/
theorem units_pack (sign : Sign) {significand : ℕ} {exponent : ℤ}
    (canonical : Canonical significand exponent) :
    unpackedUnits (unpack .binary32
        (pack .binary32 (.finite sign significand exponent canonical.nonzero))) =
      sign.apply (Min.min (height significand exponent) top : ℕ) := by
  by_cases low : exponent ≤ 104
  · rw [unpack_pack_finite sign canonical low, Nat.min_eq_left (height_lt_top canonical low).le]
    rfl
  · have high : top ≤ height significand exponent :=
      Nat.mul_le_mul (canonical.long (by omega)) (Nat.pow_le_pow_right Nat.two_pos (by omega))
    rw [unpack_pack_overflow sign canonical.nonzero (by omega), Nat.min_eq_right high]
    rfl

/-! ## Sums -/

/-- The magnitude of a single that is a number. -/
structure Grid (magnitude : ℕ) : Prop where
  short : ∃ significand places, significand < 2 ^ 24 ∧ magnitude = significand * 2 ^ places
  bounded : magnitude ≤ top

theorem grid_of_lt {magnitude : ℕ} (short : magnitude < 2 ^ 24) : Grid magnitude := by
  refine ⟨⟨magnitude, 0, short, (Nat.mul_one _).symm⟩, ?_⟩
  calc
    magnitude ≤ 2 ^ 24 := short.le
    _ = 2 ^ 23 * 2 ^ 1 := by decide
    _ ≤ top := Nat.mul_le_mul_left _ (Nat.pow_le_pow_right Nat.two_pos (by decide))

/-- The smaller of a magnitude and a whole number of a place that it does not exceed by 24 bits. -/
theorem Grid.min {magnitude place : ℕ} (on : Grid magnitude) (few : magnitude ≤ 2 ^ 24 * 2 ^ place)
    (whole : ℕ) : Grid (Min.min magnitude (whole * 2 ^ place)) := by
  rcases Nat.lt_or_ge (whole * 2 ^ place) magnitude with less | order
  · rw [Nat.min_eq_right less.le]
    have short : whole < 2 ^ 24 := Nat.lt_of_mul_lt_mul_right (less.trans_le few)
    exact ⟨⟨whole, place, short, rfl⟩, less.le.trans on.bounded⟩
  · rw [Nat.min_eq_left order]
    exact on

theorem natAbs_apply (sign : Sign) (magnitude : ℕ) :
    (sign.apply (magnitude : ℤ)).natAbs = magnitude := by
  cases sign
  · exact Int.natAbs_neg _
  · rfl

theorem grid_units {unpacked : UnpackedFloat} (standard : Standard unpacked) :
    Grid (unpackedUnits unpacked).natAbs := by
  cases standard with
  | infinity sign =>
      have magnitude := natAbs_apply sign top
      exact ⟨⟨2 ^ 23, _, by decide, magnitude⟩, magnitude.le⟩
  | notANumber | zero => exact grid_of_lt (show 0 < 2 ^ 24 by decide)
  | @finite sign significand exponent canonical low =>
      have magnitude := natAbs_apply sign (height significand exponent)
      exact ⟨⟨significand, _, canonical.narrow, magnitude⟩,
        magnitude.le.trans (height_lt_top canonical low).le⟩

theorem Grid.of_units {x : Float32} {magnitude : ℕ} (counted : units x = magnitude) :
    Grid magnitude := by
  have same : (unpackedUnits x.toModel.unpack).natAbs = magnitude := congrArg Int.natAbs counted
  exact same ▸ grid_units (standard x)

/-- A number that has been rounded is on the same side as the exact one of the magnitude of every
single. -/
structure Rounded (exact : ℤ) (unpacked : UnpackedFloat) : Prop where
  number : unpacked.isNaN = false
  below : ∀ {grid : ℤ}, Grid grid.natAbs → grid ≤ exact → grid ≤ unpackedUnits unpacked
  above : ∀ {grid : ℤ}, Grid grid.natAbs → exact ≤ grid → unpackedUnits unpacked ≤ grid

theorem rounded_self {unpacked : UnpackedFloat} (number : unpacked.isNaN = false) :
    Rounded (unpackedUnits unpacked) unpacked :=
  ⟨number, fun _ order => order, fun _ order => order⟩

theorem rounded_zero (sign : Sign) : Rounded 0 (.zero sign) :=
  ⟨rfl, fun _ order => order, fun _ order => order⟩

theorem rounded_pack (sign : Sign) {significand exact : ℕ} {exponent : ℤ}
    (canonical : Canonical significand exponent)
    (between : Between exact (height significand exponent)) :
    Rounded (sign.apply exact)
      (unpack .binary32
        (pack .binary32 (.finite sign significand exponent canonical.nonzero))) := by
  have below {grid : ℕ} (on : Grid grid) (order : grid ≤ exact) :
      grid ≤ Min.min (height significand exponent) top := by
    obtain ⟨⟨_, _, short, rfl⟩, bounded⟩ := on
    exact Nat.le_min.mpr ⟨between.below short order, bounded⟩
  have above {grid : ℕ} (on : Grid grid) (order : exact ≤ grid) :
      Min.min (height significand exponent) top ≤ grid := by
    obtain ⟨⟨_, _, short, rfl⟩, -⟩ := on
    exact (Nat.min_le_left _ _).trans (between.above short order)
  refine ⟨isNaN_pack rfl, fun {grid} on order => ?_, fun {grid} on order => ?_⟩
  all_goals
    rw [units_pack sign canonical]
    generalize Min.min (height significand exponent) top = rounded at below above ⊢
    cases sign <;> dsimp only [Sign.apply] at order ⊢
  · have := above on (by omega)
    omega
  · by_cases negative : grid < 0
    · omega
    · have := below on (by omega)
      omega
  · by_cases positive : 0 < grid
    · omega
    · have := below on (by omega)
      omega
  · have := above on (by omega)
    omega

theorem normalize_neg_natCast {significand : ℕ} (nonzero : 0 < significand) (exponent : ℤ)
    (zeroSign : Sign) :
    UnpackedFloat.normalize .binary32 (-(significand : ℤ)) exponent zeroSign =
      UnpackedFloat.round .binary32 .negative significand exponent := by
  have order : compare (-(significand : ℤ)) 0 = .lt :=
    compare_lt_iff_lt.mpr (Int.neg_neg_of_pos (Int.natCast_pos.mpr nonzero))
  unfold UnpackedFloat.normalize
  rw [order]
  dsimp only
  rw [Int.neg_neg, Int.toNat_natCast]

theorem normalize_sign {significand : ℕ} (nonzero : 0 < significand) (exponent : ℤ)
    (sign zeroSign : Sign) :
    UnpackedFloat.normalize .binary32 (sign.apply significand) exponent zeroSign =
      UnpackedFloat.round .binary32 sign significand exponent := by
  cases sign with
  | negative => exact normalize_neg_natCast nonzero exponent zeroSign
  | positive => exact normalize_natCast nonzero exponent zeroSign

theorem apply_mul_two_pow (sign : Sign) (magnitude places : ℕ) :
    sign.apply (magnitude : ℤ) * 2 ^ places = sign.apply (magnitude * 2 ^ places : ℕ) := by
  rw [Int.natCast_mul, Int.natCast_pow]
  cases sign
  · exact Int.neg_mul _ _
  · rfl

/-- A whole number of some place is rounded when it is normalized. -/
theorem normalize_rounded (signed : ℤ) {exponent : ℤ} (lowest : -149 ≤ exponent)
    (zeroSign : Sign) :
    Rounded (signed * 2 ^ (exponent + 149).toNat)
      (unpack .binary32
        (pack .binary32 (UnpackedFloat.normalize .binary32 signed exponent zeroSign))) := by
  obtain ⟨sign, significand, rfl⟩ :
      ∃ (sign : Sign) (significand : ℕ), signed = sign.apply significand := by
    rcases Int.natAbs_eq signed with positive | negative
    · exact ⟨.positive, _, positive⟩
    · exact ⟨.negative, _, negative⟩
  have exact : sign.apply (significand : ℤ) * 2 ^ (exponent + 149).toNat =
      sign.apply (height significand exponent) := apply_mul_two_pow sign significand _
  rw [exact]
  rcases Nat.eq_zero_or_pos significand with rfl | nonzero
  · have zero : UnpackedFloat.normalize .binary32 (sign.apply (0 : ℕ)) exponent zeroSign =
        .zero zeroSign := by cases sign <;> rfl
    have none : sign.apply (height 0 exponent) = 0 := by
      unfold height
      rw [Nat.zero_mul]
      cases sign <;> rfl
    rw [zero, none, (Standard.zero zeroSign).unpack_pack]
    exact rounded_zero zeroSign
  · obtain ⟨_, _, canonical, rounded, between⟩ := round_between nonzero lowest sign
    rw [normalize_sign nonzero, rounded]
    exact rounded_pack sign canonical between

/-- What a sum can be: an infinite summand stays as it is unless the other one is its opposite,
and a finite sum is rounded once. -/
inductive Sum (a b : UnpackedFloat) : UnpackedFloat → Prop where
  | notANumber (undefined : a.isNaN = false → b.isNaN = false →
      unpackedUnits a + unpackedUnits b = 0) : Sum a b .notANumber
  | first {sign : Sign} (infinite : a = .infinity sign) : Sum a b a
  | second {sign : Sign} (infinite : b = .infinity sign) : Sum a b b
  | rounded {sum : UnpackedFloat} (rounded : Rounded (unpackedUnits a + unpackedUnits b) sum) :
      Sum a b sum

/-- A finite number in units of the lower of two exponents. -/
theorem apply_decreased (sign : Sign) {significand : ℕ} {exponent smaller : ℤ}
    (lowest : -149 ≤ smaller) (order : smaller ≤ exponent) :
    sign.apply ((decreaseExponent significand exponent smaller).1 : ℤ) *
        2 ^ (smaller + 149).toNat =
      sign.apply (height significand exponent) := by
  have shifted : (decreaseExponent significand exponent smaller).1 * 2 ^ (smaller + 149).toNat =
      height significand exponent := by
    unfold decreaseExponent height
    dsimp only
    rw [Nat.shiftLeft_eq, Nat.mul_assoc, ← Nat.pow_add,
      show (exponent - smaller).toNat + (smaller + 149).toNat = (exponent + 149).toNat by omega]
  rw [← shifted]
  exact apply_mul_two_pow sign _ _

theorem add_finite (sign sign' : Sign) {significand significand' : ℕ} {exponent exponent' : ℤ}
    (canonical : Canonical significand exponent) (canonical' : Canonical significand' exponent') :
    Rounded (sign.apply (height significand exponent) + sign'.apply (height significand' exponent'))
      (unpack .binary32
        (pack .binary32
          (UnpackedFloat.add .binary32 (.finite sign significand exponent canonical.nonzero)
            (.finite sign' significand' exponent' canonical'.nonzero)))) := by
  have lowest : -149 ≤ Min.min exponent exponent' :=
    Int.le_min.mpr ⟨canonical.lowest, canonical'.lowest⟩
  rw [← apply_decreased sign lowest (Int.min_le_left _ _),
    ← apply_decreased sign' lowest (Int.min_le_right _ _), ← Int.add_mul]
  exact normalize_rounded _ lowest .positive

theorem sum_of_eq {a b sum : UnpackedFloat} (equal : UnpackedFloat.add .binary32 a b = sum)
    (standard : Standard sum) (summed : Sum a b sum) :
    Sum a b (unpack .binary32 (pack .binary32 (UnpackedFloat.add .binary32 a b))) := by
  rw [equal, standard.unpack_pack]
  exact summed

theorem add_sum {a b : UnpackedFloat} (first : Standard a) (second : Standard b) :
    Sum a b (unpack .binary32 (pack .binary32 (UnpackedFloat.add .binary32 a b))) := by
  cases first with
  | notANumber => cases second <;> exact sum_of_eq rfl .notANumber (.notANumber nofun)
  | infinity sign =>
      cases second with
      | notANumber => exact sum_of_eq rfl .notANumber (.notANumber fun _ => nofun)
      | infinity sign' =>
          by_cases same : (sign == sign') = true
          · exact sum_of_eq (if_pos same) (.infinity sign) (.first rfl)
          · have opposite : sign.apply (top : ℤ) + sign'.apply top = 0 := by
              cases sign <;> cases sign' <;> first | exact absurd rfl same | simp [Sign.apply]
            exact sum_of_eq (if_neg same) .notANumber (.notANumber fun _ _ => opposite)
      | zero | finite => exact sum_of_eq rfl (.infinity sign) (.first rfl)
  | zero sign =>
      cases second with
      | notANumber => exact sum_of_eq rfl .notANumber (.notANumber fun _ => nofun)
      | infinity sign' => exact sum_of_eq rfl (.infinity sign') (.second rfl)
      | zero sign' =>
          cases sign <;> cases sign' <;>
            exact sum_of_eq rfl (.zero _) (.rounded (rounded_zero _))
      | finite sign' canonical low =>
          refine sum_of_eq rfl (.finite sign' canonical low) (.rounded ?_)
          exact (Int.zero_add _).symm ▸ rounded_self rfl
  | finite sign canonical low =>
      cases second with
      | notANumber => exact sum_of_eq rfl .notANumber (.notANumber fun _ => nofun)
      | infinity sign' => exact sum_of_eq rfl (.infinity sign') (.second rfl)
      | zero =>
          refine sum_of_eq rfl (.finite sign canonical low) (.rounded ?_)
          exact (Int.add_zero _).symm ▸ rounded_self rfl
      | finite sign' canonical' low' => exact .rounded (add_finite sign sign' canonical canonical')

theorem unpackedUnits_infinity (sign : Sign) :
    unpackedUnits (.infinity sign) = sign.apply top :=
  rfl

/-- Seen along a direction, an infinity is at either end. -/
theorem apply_apply_top (sign sign' : Sign) :
    sign.apply (sign'.apply (top : ℤ)) = top ∨ sign.apply (sign'.apply (top : ℤ)) = -top := by
  cases sign <;> cases sign' <;> simp [Sign.apply]

theorem neg_top_le_apply {unpacked : UnpackedFloat} (standard : Standard unpacked) (sign : Sign) :
    -(top : ℤ) ≤ sign.apply (unpackedUnits unpacked) := by
  have bounded := (grid_units standard).bounded
  cases sign <;> dsimp only [Sign.apply] <;> omega

theorem apply_le_top {unpacked : UnpackedFloat} (standard : Standard unpacked) (sign : Sign) :
    sign.apply (unpackedUnits unpacked) ≤ top := by
  have bounded := (grid_units standard).bounded
  cases sign <;> dsimp only [Sign.apply] <;> omega

/-- A sum with what does not point in a direction lies no further in that direction. -/
theorem Sum.units_le {a b sum : UnpackedFloat} (summed : Sum a b sum) (standard : Standard a)
    (sign : Sign) (other : sign.apply (unpackedUnits b) ≤ 0) (number : sum.isNaN = false) :
    sign.apply (unpackedUnits sum) ≤ sign.apply (unpackedUnits a) := by
  have grid := grid_units standard
  have least := neg_top_le_apply standard sign
  have infinite : 0 < top := canonical_top.height_pos
  cases summed with
  | notANumber => cases number
  | first => exact le_rfl
  | @second sign' opposite =>
      rw [opposite, unpackedUnits_infinity] at other ⊢
      rcases apply_apply_top sign sign' with positive | negative <;> omega
  | rounded rounded =>
      cases sign with
      | negative =>
          dsimp only [Sign.apply] at other ⊢
          exact Int.neg_le_neg (rounded.below grid (by omega))
      | positive =>
          dsimp only [Sign.apply] at other ⊢
          exact rounded.above grid (by omega)

/-- A sum reaches every magnitude of a single that the exact one reaches. -/
theorem Sum.le_units {a b sum : UnpackedFloat} (summed : Sum a b sum) {sign : Sign} {grid : ℕ}
    (on : Grid grid) (positive : 0 < grid) (number : a.isNaN = false) (number' : b.isNaN = false)
    (order : grid ≤ sign.apply (unpackedUnits a) + sign.apply (unpackedUnits b))
    (standard : Standard a) (standard' : Standard b) :
    sum.isNaN = false ∧ grid ≤ sign.apply (unpackedUnits sum) := by
  have bounded := on.bounded
  have most := apply_le_top standard sign
  have most' := apply_le_top standard' sign
  cases summed with
  | notANumber undefined =>
      have opposite := undefined number number'
      cases sign <;> dsimp only [Sign.apply] at order <;> omega
  | @first sign' infinite =>
      refine ⟨number, ?_⟩
      rw [infinite, unpackedUnits_infinity] at order ⊢
      rcases apply_apply_top sign sign' with positive | negative <;> omega
  | @second sign' infinite =>
      refine ⟨number', ?_⟩
      rw [infinite, unpackedUnits_infinity] at order ⊢
      rcases apply_apply_top sign sign' with positive | negative <;> omega
  | rounded rounded =>
      refine ⟨rounded.number, ?_⟩
      cases sign with
      | negative =>
          dsimp only [Sign.apply] at order ⊢
          exact Int.le_neg_of_le_neg (rounded.above (by rwa [Int.natAbs_neg]) (by omega))
      | positive =>
          dsimp only [Sign.apply] at order ⊢
          exact rounded.below on order

/-! ## Sums of singles -/

variable {x y : Float32}

theorem sum (x y : Float32) : Sum x.toModel.unpack y.toModel.unpack (x + y).toModel.unpack :=
  add_sum (standard x) (standard y)

/-- **Adding what is not positive does not increase a number.** -/
theorem not_lt_add (other : y ≤ 0) : ¬x < x + y := by
  intro less
  obtain ⟨-, number, increased⟩ := lt_iff_units.mp less
  have bound := (sum x y).units_le (standard x) .positive (le_iff_units.mp other).2.2 number
  exact increased.not_ge bound

theorem not_add_lt (other : 0 ≤ y) : ¬x + y < x := by
  intro less
  obtain ⟨number, -, decreased⟩ := lt_iff_units.mp less
  have bound := (sum x y).units_le (standard x) .negative
    (Int.neg_nonpos_of_nonneg (le_iff_units.mp other).2.2) number
  exact decreased.not_ge (Int.neg_le_neg_iff.mp bound)

/-- **A sum reaches every magnitude of a single that the exact one reaches.** -/
theorem le_units_add {sign : Sign} {grid : ℕ} (on : Grid grid) (positive : 0 < grid)
    (number : x.isNaN = false) (number' : y.isNaN = false)
    (order : grid ≤ sign.apply (units x) + sign.apply (units y)) :
    (x + y).isNaN = false ∧ grid ≤ sign.apply (units (x + y)) :=
  (sum x y).le_units on positive number number' order (standard x) (standard y)

theorem beq_zero_iff : (x == 0) = true ↔ ∃ sign, x.toModel.unpack = .zero sign := by
  rw [beq_iff]
  constructor
  · rintro ⟨number, -, same⟩
    have unpacked : x.toModel.unpack.isNaN = false := number
    unfold rank at same
    rcases value : x.toModel.unpack with (_ | _) | _ | sign | ⟨_ | _, _, _, _⟩
    case zero => exact ⟨sign, rfl⟩
    case notANumber =>
      rw [value] at unpacked
      cases unpacked
    all_goals
      rw [value] at same
      cases same
  · rintro ⟨sign, zero⟩
    unfold rank Float32.isNaN Float32.Model.isNaN
    rw [zero]
    exact ⟨rfl, rfl, rfl⟩

theorem beq_zero_congr (same : x.toModel.unpack = y.toModel.unpack) :
    (x == 0) = true ↔ (y == 0) = true := by
  rw [beq_zero_iff, beq_zero_iff, same]

theorem unpack_add_of_eq {z : Float32}
    (equal : UnpackedFloat.add .binary32 x.toModel.unpack y.toModel.unpack = z.toModel.unpack) :
    (x + y).toModel.unpack = z.toModel.unpack := by
  show unpack .binary32 (pack .binary32
    (UnpackedFloat.add .binary32 x.toModel.unpack y.toModel.unpack)) = _
  rw [equal, (standard z).unpack_pack]

theorem unpackedAdd_comm (a b : UnpackedFloat) :
    UnpackedFloat.add .binary32 a b = UnpackedFloat.add .binary32 b a := by
  cases a with
  | notANumber => cases b <;> rfl
  | infinity sign =>
      cases b with
      | infinity sign' => cases sign <;> cases sign' <;> rfl
      | notANumber | zero | finite => rfl
  | zero sign =>
      cases b with
      | zero sign' => cases sign <;> cases sign' <;> rfl
      | notANumber | infinity | finite => rfl
  | finite sign significand exponent nonzero =>
      cases b with
      | notANumber | infinity | zero => rfl
      | finite sign' significand' exponent' nonzero' =>
          dsimp only [UnpackedFloat.add]
          rw [Int.min_comm exponent' exponent, Int.add_comm]

/-- The order of two summands does not matter. -/
theorem add_comm (x y : Float32) : x + y = y + x :=
  congrArg (fun sum => Float32.ofModel (.pack sum))
    (unpackedAdd_comm x.toModel.unpack y.toModel.unpack)

/-- Adding a zero leaves what is not zero as it is. -/
theorem unpack_zero_add {zero : Float32} (first : (zero == 0) = true)
    (nonzero : ¬(x == 0) = true) : (zero + x).toModel.unpack = x.toModel.unpack := by
  obtain ⟨sign, unpacked⟩ := beq_zero_iff.mp first
  rw [beq_zero_iff] at nonzero
  apply unpack_add_of_eq
  rw [unpacked]
  cases value : x.toModel.unpack with
  | zero sign => exact absurd ⟨sign, value⟩ nonzero
  | notANumber | infinity | finite => rfl

theorem unpack_add_zero {zero : Float32} (second : (zero == 0) = true)
    (nonzero : ¬(x == 0) = true) : (x + zero).toModel.unpack = x.toModel.unpack :=
  add_comm zero x ▸ unpack_zero_add second nonzero

/-! ## Differences, products and quotients -/

theorem apply_neg (sign : Sign) (signed : ℤ) : (-sign).apply signed = -sign.apply signed := by
  cases sign
  · exact (Int.neg_neg _).symm
  · rfl

theorem add_neg_eq_sub (a b : UnpackedFloat) :
    UnpackedFloat.add .binary32 a b.neg = UnpackedFloat.sub .binary32 a b := by
  cases a with
  | notANumber => cases b <;> rfl
  | infinity | zero => cases b <;> rfl
  | finite sign significand exponent nonzero =>
      cases b with
      | notANumber | infinity | zero => rfl
      | finite sign' significand' exponent' nonzero' =>
          show UnpackedFloat.normalize .binary32 (_ + (-sign').apply _) _ _ =
            UnpackedFloat.normalize .binary32 (_ - sign'.apply _) _ _
          rw [apply_neg, ← Int.sub_eq_add_neg]

/-- Adding the opposite is subtracting. -/
theorem add_neg (x y : Float32) : x + -y = x - y := by
  have same := add_neg_eq_sub x.toModel.unpack y.toModel.unpack
  rw [← unpack_neg] at same
  exact congrArg (fun sum => Float32.ofModel (.pack sum)) same

theorem isNaN_neg (x : Float32) : (-x).isNaN = x.isNaN := by
  show (-x).toModel.unpack.isNaN = x.toModel.unpack.isNaN
  rw [unpack_neg]
  cases x.toModel.unpack <;> rfl

theorem units_neg (x : Float32) : units (-x) = -units x := by
  unfold units
  rw [unpack_neg]
  cases x.toModel.unpack with
  | infinity | finite => exact apply_neg _ _
  | zero | notANumber => rfl

theorem isNaN_of_add (number : (x + y).isNaN = false) : y.isNaN = false := by
  have unpacked : (unpack .binary32 (pack .binary32
    (UnpackedFloat.add .binary32 x.toModel.unpack y.toModel.unpack))).isNaN = false := number
  show y.toModel.unpack.isNaN = false
  cases value : y.toModel.unpack with
  | notANumber =>
      have absorbed : UnpackedFloat.add .binary32 x.toModel.unpack .notANumber = .notANumber := by
        cases x.toModel.unpack <;> rfl
      rw [value, absorbed, Standard.notANumber.unpack_pack] at unpacked
      cases unpacked
  | infinity | zero | finite => rfl

/-- What is subtracted from a number and increases it is negative. -/
theorem neg_of_lt_sub (less : x < x - y) : y < 0 := by
  rw [← add_neg] at less
  have number : y.isNaN = false := isNaN_neg y ▸ isNaN_of_add (lt_iff.mp less).2.1
  by_contra nonnegative
  have opposite : -y ≤ 0 := by
    have order := (le_iff_units.mp (le_of_not_lt rfl number nonnegative)).2.2
    exact le_iff_units.mpr ⟨isNaN_neg y ▸ number, rfl, units_neg y ▸ Int.neg_nonpos_of_nonneg order⟩
  exact not_lt_add opposite less

theorem pos_of_sub_lt (less : x - y < x) : 0 < y := by
  rw [← add_neg] at less
  have number : y.isNaN = false := isNaN_neg y ▸ isNaN_of_add (lt_iff.mp less).1
  by_contra nonpositive
  have opposite : 0 ≤ -y := by
    have order := (le_iff_units.mp (le_of_not_lt number rfl nonpositive)).2.2
    exact le_iff_units.mpr ⟨rfl, isNaN_neg y ▸ number, units_neg y ▸ Int.neg_nonneg_of_nonpos order⟩
  exact not_add_lt opposite less

theorem log2_mul_two_pow {significand : ℕ} (nonzero : 0 < significand) (places : ℕ) :
    (significand * 2 ^ places).log2 = significand.log2 + places := by
  refine (Nat.log2_eq_iff (Nat.mul_pos nonzero (Nat.two_pow_pos _)).ne').mpr ⟨?_, ?_⟩
  · rw [Nat.pow_add]
    exact Nat.mul_le_mul_right _ (Nat.log2_self_le nonzero.ne')
  · rw [Nat.add_right_comm, Nat.pow_add]
    exact Nat.mul_lt_mul_of_pos_right Nat.lt_log2_self (Nat.two_pow_pos _)

theorem shiftToTargetExponent_shifted {significand : ℕ} {exponent : ℤ}
    (canonical : Canonical significand exponent) (places : ℕ) :
    shiftToTargetExponent .binary32 (significand * 2 ^ places) (exponent - places) .exact =
      ({ mantissa := significand, roundBit := false, stickyBit := false }, exponent) := by
  have nonzero := canonical.nonzero
  have target : (Format.binary32.targetExponent
      (totalExponent (significand * 2 ^ places) (exponent - places)) -
        (exponent - places)).toNat = places := by
    have bits : Format.binary32.mantissaBits = 24 := rfl
    have least : Format.binary32.minExponent = -149 := rfl
    have lowest := canonical.lowest
    have narrow := (Nat.log2_lt nonzero.ne').mpr canonical.narrow
    have long : -149 < exponent → 23 ≤ significand.log2 := fun higher =>
      (Nat.le_log2 nonzero.ne').mpr (canonical.long higher)
    unfold Format.targetExponent totalExponent
    rw [log2_mul_two_pow nonzero]
    omega
  unfold shiftToTargetExponent shiftToExponent
  dsimp only
  rw [target, shiftRight_exact (Nat.dvd_mul_left _ _), Nat.mul_div_cancel _ (Nat.two_pow_pos _),
    Int.sub_add_cancel]

/-- A number that a single can have is rounded to itself, also if it is written with zeros below
its last place. -/
theorem roundWithAccuracy_shifted (sign : Sign) {significand : ℕ} {exponent : ℤ}
    (canonical : Canonical significand exponent) (places : ℕ) :
    roundWithAccuracy .binary32 sign (significand * 2 ^ places) (exponent - places) .exact =
      .finite sign significand exponent canonical.nonzero := by
  have again := shiftToTargetExponent_shifted canonical 0
  rw [Nat.pow_zero, Nat.mul_one, Int.natCast_zero, Int.sub_zero] at again
  have rounded : ({ mantissa := significand, roundBit := false, stickyBit := false } :
      ExtendedMantissa).roundedMantissa = significand := rfl
  unfold roundWithAccuracy
  rw [shiftToTargetExponent_shifted canonical]
  dsimp only
  rw [rounded, again]
  exact dif_neg canonical.nonzero.ne'

theorem unpack_neg_one :
    (-1 : Float32).toModel.unpack = .finite .negative (2 ^ 23) (-23) (by decide) :=
  rfl

/-- The product with minus one is the opposite. -/
theorem neg_one_mul (x : Float32) : -1 * x = -x := by
  have same : UnpackedFloat.mul .binary32 (-1 : Float32).toModel.unpack x.toModel.unpack =
      x.toModel.unpack.neg := by
    rw [unpack_neg_one]
    have canonical := standard x
    generalize x.toModel.unpack = factor at canonical ⊢
    cases canonical with
    | notANumber => rfl
    | infinity sign | zero sign => cases sign <;> rfl
    | @finite sign significand exponent canonical low =>
        have product : Sign.negative * sign = -sign := by cases sign <;> rfl
        show roundWithAccuracy .binary32 (.negative * sign) (2 ^ 23 * significand)
          (-23 + exponent) .exact = .finite (-sign) significand exponent _
        rw [product, Nat.mul_comm, Int.add_comm]
        exact roundWithAccuracy_shifted (-sign) canonical 23
  exact congrArg (fun product => Float32.ofModel (.pack product)) same

theorem neg_congr (same : x.toModel.unpack = y.toModel.unpack) : -x = -y :=
  congrArg (fun unpacked : UnpackedFloat => Float32.ofModel (.pack unpacked.neg)) same

theorem apply_apply (sign : Sign) (signed : ℤ) : sign.apply (sign.apply signed) = signed := by
  cases sign <;> simp [Sign.apply]

theorem sign_eq_of_pos {sign sign' : Sign} {magnitude : ℕ}
    (positive : 0 < sign.apply (sign'.apply magnitude)) : sign' = sign := by
  cases sign <;> cases sign' <;> first | rfl | (dsimp only [Sign.apply] at positive; omega)

/-- A quotient before it is rounded reaches every magnitude with a short significand that the exact
one reaches. A place of its own is above the lowest one only if its significand is long. -/
theorem divCore_reaches {significand significand' : ℕ} {exponent exponent' : ℤ}
    (canonical : Canonical significand exponent) (nonzero' : 0 < significand')
    (fraction : exponent' ≤ 0) {grid places : ℕ} (short : grid < 2 ^ 24)
    (reached : grid * 2 ^ places * significand' ≤
      height significand exponent * 2 ^ (-exponent').toNat) :
    let quotient := UnpackedFloat.divCore .binary32 significand exponent significand' exponent'
    grid * 2 ^ places ≤ height quotient.1 quotient.2.1 ∧ -149 ≤ quotient.2.1 ∧
      (-149 < quotient.2.1 → 2 ^ 23 ≤ quotient.1) := by
  have bits : Format.binary32.mantissaBits = 24 := rfl
  have least : Format.binary32.minExponent = -149 := rfl
  have lowest := canonical.lowest
  obtain ⟨place, level, lower, kept, full⟩ : ∃ place : ℤ,
      Min.min (exponent - exponent') (Format.binary32.targetExponent
        (totalExponent significand exponent - totalExponent significand' exponent')) = place ∧
      place ≤ exponent - exponent' ∧ -149 ≤ place ∧
      (-149 < place → significand'.log2 + 24 ≤
        significand.log2 + (exponent - exponent' - place).toNat) := by
    refine ⟨_, rfl, ?_⟩
    unfold Format.targetExponent totalExponent
    omega
  unfold UnpackedFloat.divCore
  dsimp only
  rw [level, Nat.shiftLeft_eq]
  have long : -149 < place → 2 ^ 23 ≤
      significand * 2 ^ (exponent - exponent' - place).toNat / significand' := by
    intro higher
    refine (Nat.le_div_iff_mul_le nonzero').mpr ?_
    calc
      2 ^ 23 * significand' ≤ 2 ^ 23 * 2 ^ (significand'.log2 + 1) :=
        Nat.mul_le_mul_left _ Nat.lt_log2_self.le
      _ = 2 ^ (significand'.log2 + 24) := by rw [← Nat.pow_add]; congr 1; omega
      _ ≤ 2 ^ (significand.log2 + (exponent - exponent' - place).toNat) :=
        Nat.pow_le_pow_right Nat.two_pos (full higher)
      _ = 2 ^ significand.log2 * 2 ^ (exponent - exponent' - place).toNat := Nat.pow_add ..
      _ ≤ significand * 2 ^ (exponent - exponent' - place).toNat :=
        Nat.mul_le_mul_right _ (Nat.log2_self_le canonical.nonzero.ne')
  refine ⟨?_, kept, long⟩
  generalize lifted : (place + 149).toNat = lift
  have scale : height significand exponent * 2 ^ (-exponent').toNat =
      significand * 2 ^ (exponent - exponent' - place).toNat * 2 ^ lift := by
    unfold height
    rw [Nat.mul_assoc, Nat.mul_assoc, ← Nat.pow_add, ← Nat.pow_add]
    congr 2
    omega
  unfold height
  rw [lifted]
  by_cases coarse : lift ≤ places
  · -- The magnitude is a whole number of the place of the quotient.
    obtain ⟨above, rfl⟩ := Nat.exists_eq_add_of_le' coarse
    have whole : grid * 2 ^ (above + lift) = grid * 2 ^ above * 2 ^ lift := by
      rw [Nat.pow_add, Nat.mul_assoc]
    rw [scale, whole, Nat.mul_right_comm] at reached
    rw [whole]
    refine Nat.mul_le_mul_right _ ((Nat.le_div_iff_mul_le nonzero').mpr ?_)
    exact Nat.le_of_mul_le_mul_right reached (Nat.two_pow_pos _)
  · calc
      grid * 2 ^ places ≤ 2 ^ 24 * 2 ^ places := Nat.mul_le_mul_right _ short.le
      _ = 2 ^ 23 * 2 ^ (places + 1) := by rw [Nat.pow_succ]; omega
      _ ≤ _ := Nat.mul_le_mul (long (by omega)) (Nat.pow_le_pow_right Nat.two_pos (by omega))

/-- **A quotient reaches every magnitude of a single that the exact one reaches.** It has the sign
of the dividend. -/
theorem le_units_div {significand : ℕ} {exponent : ℤ} {nonzero : 0 < significand}
    (divisor : y.toModel.unpack = .finite .positive significand exponent nonzero)
    (fraction : exponent ≤ 0) {sign : Sign} {grid : ℕ} (on : Grid grid) (nonvanishing : 0 < grid)
    (reached : grid * significand ≤ sign.apply (units x) * 2 ^ (-exponent).toNat) :
    (x / y).isNaN = false ∧ grid ≤ sign.apply (units (x / y)) := by
  have standard := standard x
  unfold units at reached ⊢
  show (unpack .binary32 (pack .binary32
      (UnpackedFloat.div .binary32 x.toModel.unpack y.toModel.unpack))).isNaN = false ∧
    grid ≤ sign.apply (unpackedUnits (unpack .binary32 (pack .binary32
      (UnpackedFloat.div .binary32 x.toModel.unpack y.toModel.unpack))))
  rw [divisor]
  generalize x.toModel.unpack = dividend at standard reached ⊢
  have positive : 0 < sign.apply (unpackedUnits dividend) := by
    by_contra nonpositive
    have product := Int.mul_nonpos_of_nonpos_of_nonneg (Int.not_lt.mp nonpositive)
      (Int.le_of_lt (Int.pow_pos (n := 2) (m := (-exponent).toNat) (by decide)))
    have large : 0 < grid * significand := Nat.mul_pos nonvanishing nonzero
    omega
  obtain ⟨⟨short, places, few, rfl⟩, bounded⟩ := on
  cases standard with
  | notANumber | zero => cases sign <;> cases positive
  | infinity sign' =>
      obtain rfl := sign_eq_of_pos positive
      have quotient : UnpackedFloat.div .binary32 (.infinity sign')
          (.finite .positive significand exponent nonzero) = .infinity sign' := by
        cases sign' <;> rfl
      rw [quotient, (Standard.infinity sign').unpack_pack]
      refine ⟨rfl, ?_⟩
      rw [unpackedUnits_infinity, apply_apply]
      omega
  | @finite sign' significand' exponent' canonical low =>
      obtain rfl := sign_eq_of_pos positive
      have same : sign' / .positive = sign' := by cases sign' <;> rfl
      have magnitude : sign'.apply (unpackedUnits (.finite sign' significand' exponent'
          canonical.nonzero)) = height significand' exponent' := apply_apply sign' _
      rw [magnitude] at reached
      obtain ⟨reaches, lowest, long⟩ :=
        divCore_reaches canonical nonzero fraction few (by exact_mod_cast reached)
      let core := UnpackedFloat.divCore .binary32 significand' exponent' significand exponent
      have quotient : UnpackedFloat.div .binary32
          (.finite sign' significand' exponent' canonical.nonzero)
          (.finite .positive significand exponent nonzero) =
            roundWithAccuracy .binary32 sign' core.1 core.2.1 core.2.2 :=
        congrArg (roundWithAccuracy .binary32 · core.1 core.2.1 core.2.2) same
      have nonzero' : 0 < core.1 := by
        refine Nat.pos_of_mul_pos_right (Nat.lt_of_lt_of_le nonvanishing reaches)
      obtain ⟨_, _, rounded, equal, least⟩ :=
        roundWithAccuracy_reaches nonzero' lowest long sign' core.2.2
      rw [quotient, equal, units_pack sign' rounded, apply_apply]
      exact ⟨isNaN_pack rfl, Int.ofNat_le.mpr (Nat.le_min.mpr ⟨least few reaches, bounded⟩)⟩

end Single
end FlightGuidance
