import FlightGuidance.Proofs.Single.Sign
import Mathlib.Algebra.Order.Group.Int
import Mathlib.Algebra.Order.Ring.Nat

/-!
# Singles as whole numbers of units

Every finite single is a whole number of the smallest positive one (`units`), and an infinity
stands where the next single after the largest one would be. Packing a number that a single can
have loses nothing (`Standard.unpack_pack`), and two numbers compare as their units do
(`lt_iff_units`, `le_iff_units`).
-/

set_option autoImplicit false

namespace FlightGuidance
namespace Single

open Float.Model (Format UnpackedFloat totalExponent)
open Float.Model.UnpackedFloat (Sign Accuracy ExtendedMantissa pack unpack packComponents
  unpackSign unpackExponent unpackMantissa unpackExponent_packComponents
  unpackMantissa_packComponents decreaseExponent shiftToTargetExponent shiftToExponent
  roundWithAccuracy)

/-! ## Units -/

/-- The magnitude of a finite single in units of the smallest positive one. -/
def height (significand : ℕ) (exponent : ℤ) : ℕ := significand * 2 ^ (exponent + 149).toNat

/-- The magnitude at which the infinities stand. -/
def top : ℕ := height (2 ^ 23) 105

def unpackedUnits : UnpackedFloat → ℤ
  | .infinity sign => sign.apply top
  | .finite sign significand exponent _ => sign.apply (height significand exponent)
  | .zero _ | .notANumber => 0

/-- The number of units of a single. -/
def units (x : Float32) : ℤ := unpackedUnits x.toModel.unpack

/-- A significand and an exponent as a single has them: the significand is short only at the
lowest exponent. -/
structure Canonical (significand : ℕ) (exponent : ℤ) : Prop extends Fits significand exponent where
  long : -149 < exponent → 2 ^ 23 ≤ significand

/-- What a single unpacks to. -/
inductive Standard : UnpackedFloat → Prop where
  | infinity (sign : Sign) : Standard (.infinity sign)
  | notANumber : Standard .notANumber
  | zero (sign : Sign) : Standard (.zero sign)
  | finite (sign : Sign) {significand : ℕ} {exponent : ℤ}
      (canonical : Canonical significand exponent) (low : exponent ≤ 104) :
      Standard (.finite sign significand exponent canonical.nonzero)

/-- What has the exponent of the infinities is not finite. -/
theorem unpack_of_special {bits : BitVec Format.binary32.numBits}
    (special : unpackExponent bits = -1#_) :
    unpack .binary32 bits =
      if unpackMantissa bits = 0#_ then .infinity (.ofBitVec (unpackSign bits)) else .notANumber :=
  if_pos special

theorem unpack_standard (bits : BitVec Format.binary32.numBits) :
    Standard (unpack .binary32 bits) := by
  generalize unpacked : unpack .binary32 bits = value
  cases value with
  | infinity sign => exact .infinity sign
  | notANumber => exact .notANumber
  | zero sign => exact .zero sign
  | finite sign significand exponent nonzero =>
      have ordinary : unpackExponent bits ≠ -1#_ := by
        intro special
        rw [unpack_of_special special] at unpacked
        by_cases clear : unpackMantissa bits = 0#_
        · rw [if_pos clear] at unpacked
          cases unpacked
        · rw [if_neg clear] at unpacked
          cases unpacked
      have bounded : (unpackExponent bits).toNat < 255 := by
        have width : (unpackExponent bits).toNat < 2 ^ 8 := (unpackExponent bits).isLt
        have other : (unpackExponent bits).toNat ≠ 255 := fun special =>
          ordinary (BitVec.eq_of_toNat_eq special)
        omega
      have low : exponent ≤ 104 := by
        have unpacks := unpack_unpacks bits
        rw [unpacked] at unpacks
        cases unpacks with
        | denormal => decide
        | normal => omega
      obtain ⟨fits, long⟩ := unpack_fits unpacked
      exact .finite sign ⟨fits, long⟩ low

theorem standard (x : Float32) : Standard x.toModel.unpack := unpack_standard _

/-! ## Packing -/

theorem unpack_of_normal {bits : BitVec Format.binary32.numBits}
    (ordinary : (unpackExponent bits).toNat < 255) (large : 0 < (unpackExponent bits).toNat)
    {significand : ℕ} {exponent : ℤ} (nonzero : 0 < significand)
    (whole : 2 ^ 23 + (unpackMantissa bits).toNat = significand)
    (level : ((unpackExponent bits).toNat : ℤ) - 150 = exponent) :
    unpack .binary32 bits = .finite (.ofBitVec (unpackSign bits)) significand exponent nonzero := by
  have unpacks := unpack_unpacks bits
  generalize unpack .binary32 bits = unpacked at unpacks ⊢
  cases unpacks with
  | infinity special | notANumber special =>
      rw [special] at ordinary
      exact absurd ordinary (by decide)
  | zero small | denormal small =>
      rw [small] at large
      exact absurd large (by decide)
  | normal => exact finite_congr nonzero whole level

theorem unpack_of_denormal {bits : BitVec Format.binary32.numBits}
    (small : (unpackExponent bits).toNat = 0) {significand : ℕ} (nonzero : 0 < significand)
    (short : (unpackMantissa bits).toNat = significand) :
    unpack .binary32 bits = .finite (.ofBitVec (unpackSign bits)) significand (-149) nonzero := by
  have unpacks := unpack_unpacks bits
  generalize unpack .binary32 bits = unpacked at unpacks ⊢
  cases unpacks with
  | infinity special | notANumber special =>
      rw [special] at small
      exact absurd small (by decide)
  | zero _ clear =>
      rw [clear] at short
      exact absurd (short ▸ nonzero) (by decide)
  | denormal => exact finite_congr nonzero short rfl
  | normal large => exact absurd (BitVec.eq_of_toNat_eq small) large

theorem unpackSign_pack (sign : Sign) (exponent : BitVec Format.binary32.exponentBits)
    (significand : BitVec Format.binary32.mantissaBitsWithoutImplicit) :
    Sign.ofBitVec (unpackSign (packComponents .binary32 sign exponent significand)) = sign :=
  unpackSign_packComponents

/-- The biased exponent under which a finite number is packed. -/
def biased (exponent : ℤ) : ℕ :=
  (exponent + Format.binary32.exponentBias + Format.binary32.mantissaBitsWithoutImplicit).toNat

theorem biased_eq (exponent : ℤ) : biased exponent = (exponent + 150).toNat := by
  have bias : (Format.binary32.exponentBias : ℤ) = 127 := rfl
  have bits : (Format.binary32.mantissaBitsWithoutImplicit : ℤ) = 23 := rfl
  unfold biased
  omega

section

variable (sign : Sign) {significand : ℕ} {exponent : ℤ} (nonzero : 0 < significand)

theorem pack_of_high (high : 2 ^ Format.binary32.exponentBits ≤ biased exponent + 1) :
    pack .binary32 (.finite sign significand exponent nonzero) =
      UnpackedFloat.packedInfinity .binary32 sign :=
  if_pos high

theorem pack_of_long (low : ¬2 ^ Format.binary32.exponentBits ≤ biased exponent + 1)
    (long : significand.log2 + 1 = Format.binary32.mantissaBits) :
    pack .binary32 (.finite sign significand exponent nonzero) =
      packComponents .binary32 sign (BitVec.ofNat _ (biased exponent))
        (BitVec.ofNat _ significand) :=
  (if_neg low).trans (if_pos long)

theorem pack_of_short (low : ¬2 ^ Format.binary32.exponentBits ≤ biased exponent + 1)
    (short : ¬significand.log2 + 1 = Format.binary32.mantissaBits) :
    pack .binary32 (.finite sign significand exponent nonzero) =
      packComponents .binary32 sign 0#_ (BitVec.ofNat _ significand) :=
  (if_neg low).trans (if_neg short)

end

/-- A number that a single can have is packed without loss. -/
theorem unpack_pack_finite (sign : Sign) {significand : ℕ} {exponent : ℤ}
    (canonical : Canonical significand exponent) (low : exponent ≤ 104) :
    unpack .binary32 (pack .binary32 (.finite sign significand exponent canonical.nonzero)) =
      .finite sign significand exponent canonical.nonzero := by
  have width : 2 ^ Format.binary32.exponentBits = 256 := rfl
  have bits : Format.binary32.mantissaBits = 24 := rfl
  have place := biased_eq exponent
  have lowest := canonical.lowest
  have narrow := canonical.narrow
  have nonzero := canonical.nonzero
  by_cases long : 2 ^ 23 ≤ significand
  · have least := (Nat.le_log2 nonzero.ne').mpr long
    have most := (Nat.log2_lt nonzero.ne').mpr narrow
    rw [pack_of_long sign nonzero (by omega) (by omega)]
    generalize packed : packComponents .binary32 sign _ _ = word
    have field : (unpackExponent word).toNat = biased exponent := by
      rw [← packed, unpackExponent_packComponents, BitVec.toNat_ofNat, Nat.mod_eq_of_lt (by omega)]
    have fraction : (unpackMantissa word).toNat = significand - 2 ^ 23 := by
      rw [← packed, unpackMantissa_packComponents, BitVec.toNat_ofNat]
      show significand % 2 ^ 23 = _
      omega
    have whole : 2 ^ 23 + (unpackMantissa word).toNat = significand := by omega
    have level : ((unpackExponent word).toNat : ℤ) - 150 = exponent := by omega
    rw [unpack_of_normal (by omega) (by omega) nonzero whole level, ← packed, unpackSign_pack]
  · have short := (Nat.log2_lt nonzero.ne').mpr (Nat.lt_of_not_le long)
    obtain rfl : exponent = -149 := by
      by_contra higher
      exact long (canonical.long (by omega))
    rw [pack_of_short sign nonzero (by omega) (by omega)]
    generalize packed : packComponents .binary32 sign _ _ = word
    have field : (unpackExponent word).toNat = 0 := by
      rw [← packed, unpackExponent_packComponents]
      rfl
    have fraction : (unpackMantissa word).toNat = significand := by
      rw [← packed, unpackMantissa_packComponents, BitVec.toNat_ofNat]
      show significand % 2 ^ 23 = _
      omega
    rw [unpack_of_denormal field nonzero fraction, ← packed, unpackSign_pack]

theorem unpack_packedInfinity (sign : Sign) :
    unpack .binary32 (UnpackedFloat.packedInfinity .binary32 sign) = .infinity sign := by
  cases sign <;> rfl

/-- A number above all singles is packed to an infinity. -/
theorem unpack_pack_overflow (sign : Sign) {significand : ℕ} {exponent : ℤ}
    (nonzero : 0 < significand) (high : 104 < exponent) :
    unpack .binary32 (pack .binary32 (.finite sign significand exponent nonzero)) =
      .infinity sign := by
  have width : 2 ^ Format.binary32.exponentBits = 256 := rfl
  have place := biased_eq exponent
  rw [pack_of_high sign nonzero (by omega), unpack_packedInfinity]

/-- Packing loses nothing of what a single unpacks to. -/
theorem Standard.unpack_pack {unpacked : UnpackedFloat} (standard : Standard unpacked) :
    unpack .binary32 (pack .binary32 unpacked) = unpacked := by
  cases standard with
  | infinity sign => exact unpack_packedInfinity sign
  | notANumber => rfl
  | zero sign => cases sign <;> rfl
  | finite sign canonical low => exact unpack_pack_finite sign canonical low

theorem Standard.neg {unpacked : UnpackedFloat} (standard : Standard unpacked) :
    Standard unpacked.neg := by
  cases standard with
  | infinity sign => exact .infinity _
  | notANumber => exact .notANumber
  | zero sign => exact .zero _
  | finite sign canonical low => exact .finite _ canonical low

theorem unpack_neg (x : Float32) : (-x).toModel.unpack = x.toModel.unpack.neg :=
  (standard x).neg.unpack_pack

/-! ## Order -/

section

variable {significand significand' : ℕ} {exponent exponent' : ℤ}

theorem Canonical.height_pos (canonical : Canonical significand exponent) :
    0 < height significand exponent :=
  Nat.mul_pos canonical.nonzero (Nat.two_pow_pos _)

/-- The larger exponent has the larger magnitude, and for one exponent the larger significand. -/
theorem height_lt (canonical : Canonical significand exponent)
    (canonical' : Canonical significand' exponent')
    (order : exponent < exponent' ∨ exponent = exponent' ∧ significand < significand') :
    height significand exponent < height significand' exponent' := by
  unfold height
  rcases order with higher | ⟨rfl, less⟩
  · have lowest := canonical.lowest
    calc
      significand * 2 ^ (exponent + 149).toNat < 2 ^ 24 * 2 ^ (exponent + 149).toNat :=
        Nat.mul_lt_mul_of_pos_right canonical.narrow (Nat.two_pow_pos _)
      _ = 2 ^ 23 * 2 ^ ((exponent + 149).toNat + 1) := by omega
      _ ≤ significand' * 2 ^ (exponent' + 149).toNat :=
        Nat.mul_le_mul (canonical'.long (by omega)) (Nat.pow_le_pow_right Nat.two_pos (by omega))
  · exact Nat.mul_lt_mul_of_pos_right less (Nat.two_pow_pos _)

theorem canonical_top : Canonical (2 ^ 23) 105 :=
  ⟨⟨by decide, by decide, by decide⟩, fun _ => le_rfl⟩

theorem height_lt_top (canonical : Canonical significand exponent) (low : exponent ≤ 104) :
    height significand exponent < top :=
  height_lt canonical canonical_top (.inl (by omega))

end

theorem unpackedUnits_lt {a b : UnpackedFloat} (first : Standard a) (second : Standard b)
    (number : a.isNaN = false) (number' : b.isNaN = false)
    (less : unpackedRank a < unpackedRank b) : unpackedUnits a < unpackedUnits b := by
  have infinite : 0 < top := canonical_top.height_pos
  have bounds {significand exponent} (canonical : Canonical significand exponent)
      (low : exponent ≤ 104) :
      0 < height significand exponent ∧ height significand exponent < top :=
    ⟨canonical.height_pos, height_lt_top canonical low⟩
  rcases first with (_ | _) | _ | _ | ⟨_ | _, canonical, low⟩ <;>
    rcases second with (_ | _) | _ | _ | ⟨_ | _, canonical', low'⟩ <;>
    first
    | cases number; done
    | cases number'; done
    | dsimp only [unpackedRank, unpackedUnits, Sign.apply] at less ⊢
      simp only [Prod.Lex.toLex_lt_toLex, neg_lt_neg_iff, neg_inj, Int.ofNat_lt] at less ⊢
  all_goals
    first
    | omega
    | have := bounds canonical low
      omega
    | have := bounds canonical' low'
      omega
    | have := bounds canonical low
      have := bounds canonical' low'
      omega
    | exact height_lt canonical canonical' (by omega)
    | exact height_lt canonical' canonical (by omega)

theorem unpackedUnits_eq {a b : UnpackedFloat} (number : a.isNaN = false)
    (number' : b.isNaN = false) (same : unpackedRank a = unpackedRank b) :
    unpackedUnits a = unpackedUnits b := by
  rcases a with (_ | _) | _ | _ | ⟨_ | _, _, _, _⟩ <;>
    rcases b with (_ | _) | _ | _ | ⟨_ | _, _, _, _⟩ <;>
    first
    | rfl
    | cases number; done
    | cases number'; done
    | cases same; done
    | dsimp only [unpackedRank] at same
      simp only [toLex_inj, Prod.mk.injEq, neg_inj, Int.ofNat_inj, true_and] at same
      obtain ⟨rfl, rfl⟩ := same
      rfl

variable {x y : Float32}

/-- **Two singles are in order exactly if both are numbers and their units are in order.** -/
theorem lt_iff_units : x < y ↔ x.isNaN = false ∧ y.isNaN = false ∧ units x < units y := by
  rw [lt_iff]
  refine and_congr_right fun first => and_congr_right fun second => ⟨fun less => ?_, fun less => ?_⟩
  · exact unpackedUnits_lt (standard x) (standard y) first second less
  · by_contra order
    rcases (not_lt.mp order).lt_or_eq with reversed | same
    · exact less.not_gt (unpackedUnits_lt (standard y) (standard x) second first reversed)
    · exact less.ne' (unpackedUnits_eq second first same)

theorem le_iff_units : x ≤ y ↔ x.isNaN = false ∧ y.isNaN = false ∧ units x ≤ units y := by
  rw [le_iff]
  refine and_congr_right fun first => and_congr_right fun second => ?_
  have ranked : y < x ↔ rank y < rank x := by
    rw [lt_iff]
    exact ⟨fun less => less.2.2, fun less => ⟨second, first, less⟩⟩
  have measured : y < x ↔ units y < units x := by
    rw [lt_iff_units]
    exact ⟨fun less => less.2.2, fun less => ⟨second, first, less⟩⟩
  rw [← not_lt, ← not_lt, ← ranked, measured]

theorem beq_iff_units :
    (x == y) = true ↔ x.isNaN = false ∧ y.isNaN = false ∧ units x = units y := by
  rw [beq_iff]
  refine and_congr_right fun first => and_congr_right fun second => ⟨?_, fun same => ?_⟩
  · exact unpackedUnits_eq first second
  · have forth := le_iff_units.mpr ⟨first, second, same.le⟩
    have back := le_iff_units.mpr ⟨second, first, same.ge⟩
    exact (le_iff.mp forth).2.2.antisymm (le_iff.mp back).2.2

/-- A positive single up to one is finite. -/
theorem exists_finite (positive : 0 < x) (bounded : x ≤ 1) :
    ∃ significand exponent nonzero,
      x.toModel.unpack = .finite .positive significand exponent nonzero := by
  have order := (le_iff_units.mp bounded).2.2
  have above := pos_iff.mp positive
  unfold units at order
  generalize x.toModel.unpack = unpacked at above order ⊢
  cases above with
  | infinity => exact absurd order (by decide +kernel)
  | finite => exact ⟨_, _, _, rfl⟩

theorem le_units_min {least : ℤ} (first : least ≤ units x) (second : least ≤ units y) :
    least ≤ units (min x y) := by
  unfold min
  split
  · exact second
  · split
    · exact second
    · exact first

end Single
end FlightGuidance
