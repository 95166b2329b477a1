import FlightGuidance.Proofs.Single.Within

/-!
# The remainder of singles

The parts of a single are its magnitude, and the remainder of the magnitudes is again short enough
for a single. So nothing is rounded: in units the remainder is the one of whole numbers
(`abs_units_remainder`). It takes the sign of the dividend, which is read off its word
(`signBit_iff`), so that zeros have one too.
-/

set_option autoImplicit false

namespace FlightGuidance
namespace Single

open Float.Model (Format UnpackedFloat totalExponent)
open Float.Model.UnpackedFloat (Sign Accuracy pack unpack unpackExponent unpackMantissa unpackSign
  roundWithAccuracy)

variable {x y : Float32}

/-! ## The parts of a single -/

theorem toNat_unpackMantissa (bits : BitVec Format.binary32.numBits) :
    (unpackMantissa bits).toNat = bits.toNat % 8388608 := by
  show (BitVec.extractLsb 22 0 bits).toNat = _
  rw [BitVec.extractLsb_toNat]
  simp

theorem toNat_unpackExponent (bits : BitVec Format.binary32.numBits) :
    (unpackExponent bits).toNat = (bits.toNat >>> 23) % 256 := by
  show (BitVec.extractLsb 30 23 bits).toNat = _
  rw [BitVec.extractLsb_toNat]

/-- The word behind a single. -/
def word (x : Float32) : BitVec Format.binary32.numBits := x.toModel.toBits.toBitVec

theorem parts_eq (x : Float32) :
    let exponent := (unpackExponent (word x)).toNat
    let fraction := (unpackMantissa (word x)).toNat
    parts x = if exponent = 0 then (fraction, 0) else (fraction + 2 ^ 23, exponent - 1) := by
  dsimp only
  rw [toNat_unpackExponent, toNat_unpackMantissa]
  rfl

/-- **The parts of a finite single tell its magnitude.** -/
theorem abs_units_eq_parts (finite : x.isFinite = true) :
    |units x| = (parts x).1 * 2 ^ (parts x).2 ∧ (parts x).1 < 2 ^ 24 ∧ (parts x).2 ≤ 253 := by
  have unpacks := unpack_unpacks (word x)
  have unpacked : (unpack .binary32 (word x)).isFinite = true := finite
  have standard := standard x
  have narrow : (unpackMantissa (word x)).toNat < 2 ^ 23 :=
    (unpackMantissa (word x)).isLt
  rw [parts_eq]
  show |unpackedUnits (unpack .binary32 (word x))| = _ ∧ _
  change Standard (unpack .binary32 (word x)) at standard
  generalize unpack .binary32 (word x) = value at unpacks unpacked standard ⊢
  cases unpacks with
  | infinity | notANumber => cases unpacked
  | zero small clear =>
      rw [small, clear]
      exact ⟨rfl, by decide, by decide⟩
  | denormal small nonzero =>
      have exponent : (unpackExponent (word x)).toNat = 0 := congrArg BitVec.toNat small
      rw [if_pos exponent]
      refine ⟨?_, by omega, Nat.zero_le _⟩
      show |(Sign.ofBitVec _).apply (height _ _ : ℤ)| = _
      rw [abs_apply]
      rfl
  | normal large nonzero =>
      have exponent : (unpackExponent (word x)).toNat ≠ 0 := fun zero =>
        large (BitVec.eq_of_toNat_eq zero)
      have low : ((unpackExponent (word x)).toNat : ℤ) - 150 ≤ 104 := by
        cases standard with
        | finite sign canonical low => exact low
      rw [if_neg exponent]
      refine ⟨?_, by omega, by omega⟩
      show |(Sign.ofBitVec _).apply (height _ _ : ℤ)| = _
      rw [abs_apply]
      unfold height
      have place : ((unpackExponent (word x)).toNat - 150 + 149 : ℤ).toNat =
          (unpackExponent (word x)).toNat - 1 := by omega
      rw [place, Nat.add_comm]
      push_cast
      rfl

theorem units_unit {place : ℕ} (low : place ≤ 253) : units (unit place) = 2 ^ place ∧
    (unit place).isFinite = true := by
  have all : ∀ place : Fin 254, units (unit place) = 2 ^ place.val ∧
    (unit place).isFinite = true := by decide +kernel
  exact all ⟨place, by omega⟩

/-- A number of 24 bits is converted without loss. -/
theorem units_ofNat {number : ℕ} (short : number < 2 ^ 24) :
    units (Float32.ofNat number) = number * 2 ^ 149 ∧ (Float32.ofNat number).isFinite = true := by
  have on : Grid ((number * 2 ^ 149 : ℕ) : ℤ).natAbs :=
    ⟨⟨number, 149, short, Int.natAbs_natCast _⟩, by
      rw [Int.natAbs_natCast]
      exact (Nat.mul_le_mul_right _ short.le).trans (by decide)⟩
  have exactly {x : Float32} {exact : ℝ} (nearest : Nearest exact x.toModel.unpack)
      (same : exact = ((number * 2 ^ 149 : ℕ) : ℤ)) :
      units x = number * 2 ^ 149 ∧ x.isFinite = true := by
    have counted : units x = ((number * 2 ^ 149 : ℕ) : ℤ) := nearest.eq_of_grid on same
    have within : Within (number * 2 ^ 149) x :=
      ⟨nearest.number, by rw [counted, Nat.abs_cast]⟩
    refine ⟨by rw [counted]; push_cast; rfl, within.finite ?_⟩
    calc
      number * 2 ^ 149 < 2 ^ 24 * 2 ^ 149 := Nat.mul_lt_mul_of_pos_right short (by decide)
      _ ≤ top := by decide
  by_cases few : number < 2 ^ 23
  · have converted : Float32.ofNat number =
        number.toUInt64.toFloat32 * Float32.ofBits 1065353216 := by
      show OfScientific.ofScientific number false 0 = _
      show Float32.ofScientific number false 0 = _
      unfold Float32.ofScientific
      rw [dif_pos ⟨few, by decide⟩]
      rfl
    have kept : number.toUInt64.toNat = number := by
      rw [UInt64.toNat_ofNat', Nat.mod_eq_of_lt (by omega)]
    have whole : Nearest ((number.toUInt64.toNat : ℤ) * 2 ^ ((0 : ℤ) + 149))
        number.toUInt64.toFloat32.toModel.unpack := normalize_nearest _ 0 .positive
    rw [kept] at whole
    obtain ⟨counted, finite⟩ := exactly whole (by push_cast; ring)
    have one : units (Float32.ofBits 1065353216) = 2 ^ 149 := by decide +kernel
    rw [converted]
    refine exactly (mul_nearest finite (by decide +kernel)) ?_
    rw [counted, one]
    push_cast
    ring
  · -- From 23 bits on the significand is multiplied by the power of ten, which is one.
    have nonzero : number ≠ 0 := by omega
    have converted : (Float32.ofNat number).toModel.unpack =
        unpack .binary32 (pack .binary32
          (roundWithAccuracy .binary32 .positive (number <<< 24 * 10 ^ 0) (-24 + 0) .exact)) := by
      show (Float32.ofScientific number false 0).toModel.unpack = _
      unfold Float32.ofScientific
      rw [dif_neg fun both => few both.1]
      show unpack .binary32 (pack .binary32 (UnpackedFloat.ofScientific .binary32 number 0)) = _
      unfold UnpackedFloat.ofScientific
      have high : ¬(0 : ℤ) < -(2 ^ Format.binary32.exponentBits + number.log2) := by
        have least : (0 : ℤ) ≤ 2 ^ Format.binary32.exponentBits := by decide
        omega
      rw [dif_neg nonzero, if_neg (by decide), if_neg high, if_pos le_rfl]
      rfl
    have shifted : number <<< 24 * 10 ^ 0 = number * 2 ^ 24 := by
      rw [Nat.shiftLeft_eq, Nat.pow_zero, Nat.mul_one]
    rw [shifted] at converted
    have enough : (-24 : ℤ) + 0 ≤ Format.binary32.targetExponent
        (totalExponent (number * 2 ^ 24) (-24 + 0)) := by
      have bits : Format.binary32.mantissaBits = 24 := rfl
      unfold Format.targetExponent totalExponent
      rw [log2_mul_two_pow (Nat.pos_of_ne_zero nonzero)]
      omega
    obtain ⟨magnitude, mirrored⟩ := roundWithAccuracy_mirrored
      (Nat.mul_pos (Nat.pos_of_ne_zero nonzero) (Nat.two_pow_pos 24)) enough (extends_natCast _)
    have nearest := mirrored.nearest_apply .positive
    rw [← converted] at nearest
    refine exactly nearest ?_
    simp only [Sign.apply]
    push_cast
    ring

/-! ## Magnitudes -/

theorem unpack_abs (x : Float32) : x.abs.toModel.unpack = x.toModel.unpack.abs := by
  have standard := standard x
  show unpack .binary32 (pack .binary32 x.toModel.unpack.abs) = _
  generalize x.toModel.unpack = unpacked at standard ⊢
  cases standard with
  | infinity sign => exact (Standard.infinity .positive).unpack_pack
  | notANumber => rfl
  | zero sign => exact (Standard.zero .positive).unpack_pack
  | finite sign canonical low => exact (Standard.finite .positive canonical low).unpack_pack

theorem isNaN_abs (x : Float32) : x.abs.isNaN = x.isNaN := by
  show x.abs.toModel.unpack.isNaN = x.toModel.unpack.isNaN
  rw [unpack_abs]
  cases x.toModel.unpack <;> rfl

theorem units_abs (x : Float32) : units x.abs = |units x| := by
  unfold units
  rw [unpack_abs]
  cases x.toModel.unpack with
  | notANumber | zero => rfl
  | infinity | finite => exact (abs_apply _ _).symm

theorem value_abs (x : Float32) : value x.abs = |value x| := by
  rw [value_eq, value_eq, units_abs, abs_div, Int.cast_abs,
    abs_of_pos (show (0 : ℝ) < 2 ^ 149 by positivity)]

/-! ## Signs -/

theorem unpackSign_eq (bits : BitVec Format.binary32.numBits) :
    unpackSign bits = BitVec.ofBool (bits.getLsbD 31) := by
  apply BitVec.eq_of_getLsbD_eq
  intro place first
  obtain rfl : place = 0 := by omega
  unfold unpackSign
  simp

theorem signBit_eq (x : Float32) : signBit x = (word x).getLsbD 31 := by
  have mask : (0x80000000#32) = BitVec.twoPow 32 31 := by decide
  have masked : word x &&& 0x80000000#32 =
      if (word x).getLsbD 31 then BitVec.twoPow 32 31 else 0#32 := by
    rw [mask]
    exact BitVec.and_twoPow (word x) 31
  have same : x.toBits &&& 0x80000000 = UInt32.ofBitVec (word x &&& 0x80000000#32) := rfl
  unfold signBit
  rw [same, masked]
  cases (word x).getLsbD 31 <;> rfl

/-- The sign bit is set where the sign is negative. -/
theorem signBit_iff (x : Float32) :
    signBit x = true ↔ Sign.ofBitVec (unpackSign (word x)) = .negative := by
  rw [signBit_eq, unpackSign_eq]
  cases (word x).getLsbD 31
  · exact ⟨nofun, nofun⟩
  · exact ⟨fun _ => rfl, fun _ => rfl⟩

theorem signBit_of_positive (x : Float32)
    (positive : Sign.ofBitVec (unpackSign (word x)) = .positive) : signBit x = false := by
  rw [Bool.eq_false_iff, ne_eq, signBit_iff, positive]
  exact nofun

/-- A finite unpacked number of a sign. -/
inductive Signed (sign : Sign) : UnpackedFloat → Prop where
  | zero : Signed sign (.zero sign)
  | finite (significand : ℕ) (exponent : ℤ) (nonzero : 0 < significand) :
      Signed sign (.finite sign significand exponent nonzero)

theorem Signed.sign_pack {sign : Sign} {unpacked : UnpackedFloat} (signed : Signed sign unpacked) :
    Sign.ofBitVec (unpackSign (pack .binary32 unpacked)) = sign := by
  cases signed with
  | zero => cases sign <;> rfl
  | finite significand exponent nonzero =>
      unfold pack
      dsimp only
      split
      · cases sign <;> rfl
      · split <;> exact unpackSign_packComponents

theorem Signed.neg {sign : Sign} {unpacked : UnpackedFloat} (signed : Signed sign unpacked) :
    Signed (-sign) unpacked.neg := by
  cases signed with
  | zero => exact .zero
  | finite => exact .finite _ _ _

theorem signed_unpack (finite : x.isFinite = true) :
    Signed (.ofBitVec (unpackSign (word x))) x.toModel.unpack := by
  have unpacks := unpack_unpacks (word x)
  have unpacked : (unpack .binary32 (word x)).isFinite = true := finite
  show Signed _ (unpack .binary32 (word x))
  generalize unpack .binary32 (word x) = value at unpacks unpacked ⊢
  cases unpacks with
  | infinity | notANumber => cases unpacked
  | zero => exact .zero
  | denormal | normal => exact .finite _ _ _

/-- Negation turns the sign bit over, also that of a zero. -/
theorem signBit_neg (finite : x.isFinite = true) : signBit (-x) = !signBit x := by
  have negated : Sign.ofBitVec (unpackSign (word (-x))) =
      -Sign.ofBitVec (unpackSign (word x)) :=
    (signed_unpack finite).neg.sign_pack
  have first := signBit_iff (-x)
  have second := signBit_iff x
  rw [negated] at first
  generalize Sign.ofBitVec (unpackSign (word x)) = sign at first second
  cases sign with
  | positive =>
      rw [first.mpr rfl, Bool.eq_false_iff.mpr (mt second.mp nofun)]
      rfl
  | negative =>
      rw [second.mpr rfl, Bool.eq_false_iff.mpr (mt first.mp nofun)]
      rfl

theorem units_of_signBit (finite : x.isFinite = true) :
    (signBit x = false → 0 ≤ units x) ∧ (signBit x = true → units x ≤ 0) := by
  have signed := signed_unpack finite
  have bit := signBit_iff x
  generalize Sign.ofBitVec (unpackSign (word x)) = sign at signed bit
  have counted : ∃ magnitude : ℕ, units x = sign.apply magnitude := by
    unfold units
    generalize x.toModel.unpack = unpacked at signed ⊢
    cases signed with
    | zero => cases sign <;> exact ⟨0, rfl⟩
    | finite => exact ⟨_, rfl⟩
  obtain ⟨magnitude, counted⟩ := counted
  rw [counted]
  cases sign with
  | positive => exact ⟨fun _ => Int.natCast_nonneg _, fun set => absurd (bit.mp set) nofun⟩
  | negative =>
      exact ⟨fun clear => absurd (bit.mpr rfl) (ne_true_of_eq_false clear),
        fun _ => Int.neg_nonpos_of_nonneg (Int.natCast_nonneg _)⟩

theorem unpackSign_pack_abs (unpacked : UnpackedFloat) :
    Sign.ofBitVec (unpackSign (pack .binary32 unpacked.abs)) = .positive := by
  have clear : unpackSign (pack .binary32 .notANumber) = 0#1 ∧
      unpackSign (pack .binary32 (.infinity .positive)) = 0#1 := by decide
  cases unpacked with
  | notANumber => exact congrArg Sign.ofBitVec clear.1
  | infinity sign => exact congrArg Sign.ofBitVec clear.2
  | zero => exact Signed.zero.sign_pack
  | finite sign significand exponent nonzero =>
      exact (Signed.finite significand exponent nonzero).sign_pack

theorem signBit_of_abs {unpacked : UnpackedFloat} (magnitude : unpacked.abs = unpacked) :
    signBit (Float32.ofModel (.pack unpacked)) = false := by
  refine signBit_of_positive _ ?_
  show Sign.ofBitVec (unpackSign (pack .binary32 unpacked)) = .positive
  rw [← magnitude]
  exact unpackSign_pack_abs unpacked

/-- The sign bit of a magnitude is clear. -/
theorem signBit_abs (x : Float32) : signBit x.abs = false :=
  signBit_of_positive _ (unpackSign_pack_abs x.toModel.unpack)

theorem abs_roundWithAccuracy (significand : ℕ) (exponent : ℤ) (accuracy : Accuracy) :
    (roundWithAccuracy .binary32 .positive significand exponent accuracy).abs =
      roundWithAccuracy .binary32 .positive significand exponent accuracy := by
  unfold roundWithAccuracy
  exact apply_dite UnpackedFloat.abs _ _ _

/-- A quotient keeps its sign, also where nothing else is left of it. -/
theorem signBit_div (nonnegative : 0 < x ∨ x = 0) (positive : 0 < y) :
    signBit (x / y) = false := by
  refine @signBit_of_abs (UnpackedFloat.div .binary32 x.toModel.unpack y.toModel.unpack) ?_
  have divisor := pos_iff.mp positive
  rcases nonnegative with above | zero
  · have dividend := pos_iff.mp above
    generalize x.toModel.unpack = a at dividend ⊢
    generalize y.toModel.unpack = b at divisor ⊢
    cases dividend <;> cases divisor <;> first | rfl | exact abs_roundWithAccuracy _ _ _
  · have unpacked : x.toModel.unpack = .zero .positive :=
      congrArg (fun x => x.toModel.unpack) zero
    rw [unpacked]
    generalize y.toModel.unpack = b at divisor ⊢
    cases divisor <;> rfl

theorem abs_units_copySign (magnitude sign : Float32) :
    |units (copySign magnitude sign)| = |units magnitude| ∧
      (copySign magnitude sign).isNaN = magnitude.isNaN ∧
      (signBit sign = false → 0 ≤ units (copySign magnitude sign)) := by
  unfold copySign
  split
  next set =>
    rw [units_neg, abs_neg, units_abs, abs_abs, isNaN_neg, isNaN_abs]
    exact ⟨rfl, rfl, fun clear => absurd set (by rw [clear]; decide)⟩
  next clear =>
    rw [units_abs, abs_abs, isNaN_abs]
    exact ⟨rfl, rfl, fun _ => abs_nonneg _⟩

/-! ## Remainders -/

/-- A finite single is neither infinite nor something else than a number. -/
theorem units_ne_zero (finite : x.isFinite = true) (nonzero : ¬(x == 0) = true) : units x ≠ 0 :=
  fun zero => nonzero (beq_iff_units.mpr ⟨(ordinary_of_finite finite).1, isNaN_zero, zero⟩)

/-- The product of a number of 24 bits and a unit is exact. -/
theorem units_ofNat_mul_unit {number place : ℕ} (short : number < 2 ^ 24) (low : place ≤ 253)
    (fits : number * 2 ^ place ≤ top) :
    (Float32.ofNat number * unit place).isNaN = false ∧
      units (Float32.ofNat number * unit place) = (number * 2 ^ place : ℕ) := by
  obtain ⟨counted, finite⟩ := units_ofNat short
  obtain ⟨counted', finite'⟩ := units_unit low
  have nearest := mul_nearest finite finite'
  refine ⟨nearest.number, nearest.eq_of_grid ?_ ?_⟩
  · exact ⟨⟨number, place, short, Int.natAbs_natCast _⟩, (Int.natAbs_natCast _).trans_le fits⟩
  · rw [counted, counted']
    push_cast
    ring

/-- **A remainder is exact.** -/
theorem abs_units_remainder (first : x.isFinite = true) (second : y.isFinite = true)
    (nonzero : ¬(y == 0) = true) :
    (remainder x y).isNaN = false ∧ |units (remainder x y)| = |units x| % |units y| ∧
      (signBit x = false → 0 ≤ units (remainder x y)) := by
  obtain ⟨counted, short, low⟩ := abs_units_eq_parts first
  obtain ⟨counted', short', low'⟩ := abs_units_eq_parts second
  have value : remainder x y =
      copySign (Float32.ofNat (((parts x).1 <<< ((parts x).2 - Nat.min (parts x).2 (parts y).2)) %
        ((parts y).1 <<< ((parts y).2 - Nat.min (parts x).2 (parts y).2))) *
          unit (Nat.min (parts x).2 (parts y).2)) x := by
    obtain ⟨number, bounded⟩ := ordinary_of_finite second
    unfold remainder
    rw [first, number, Bool.eq_false_iff.mpr nonzero, bounded]
    rfl
  have positive : 0 < (parts y).1 := by
    refine Nat.pos_of_ne_zero fun zero => units_ne_zero second nonzero ?_
    rw [zero, Int.natCast_zero, Int.zero_mul] at counted'
    exact abs_eq_zero.mp counted'
  generalize (parts x).1 = significand at counted short value
  generalize (parts x).2 = place at counted low value
  generalize (parts y).1 = divisor at counted' short' value positive
  generalize (parts y).2 = place' at counted' low' value
  obtain ⟨lowest, smaller, first', second', either⟩ : ∃ lowest, Nat.min place place' = lowest ∧
      lowest ≤ place ∧ lowest ≤ place' ∧ (place = lowest ∨ place' = lowest) := by
    rcases Nat.le_total place place' with less | less
    · exact ⟨place, Nat.min_eq_left less, le_rfl, less, .inl rfl⟩
    · exact ⟨place', Nat.min_eq_right less, less, le_rfl, .inr rfl⟩
  rw [smaller, Nat.shiftLeft_eq, Nat.shiftLeft_eq] at value
  -- One of the two is not shifted, and bounds the rest.
  have narrow :
      significand * 2 ^ (place - lowest) % (divisor * 2 ^ (place' - lowest)) < 2 ^ 24 := by
    rcases either with rfl | rfl
    · rw [Nat.sub_self, Nat.pow_zero, Nat.mul_one]
      exact (Nat.mod_le _ _).trans_lt short
    · rw [Nat.sub_self, Nat.pow_zero, Nat.mul_one]
      exact (Nat.mod_lt _ positive).trans short'
  have whole : significand * 2 ^ (place - lowest) % (divisor * 2 ^ (place' - lowest)) * 2 ^ lowest =
      significand * 2 ^ place % (divisor * 2 ^ place') := by
    rw [← Nat.mul_mod_mul_right, Nat.mul_assoc, Nat.mul_assoc, ← Nat.pow_add, ← Nat.pow_add,
      Nat.sub_add_cancel first', Nat.sub_add_cancel second']
  have fits : significand * 2 ^ place % (divisor * 2 ^ place') ≤ top := by
    have bounded : (units x).natAbs ≤ top := (grid_units (standard x)).bounded
    rw [Int.abs_eq_natAbs] at counted
    have same : (units x).natAbs = significand * 2 ^ place := by exact_mod_cast counted
    exact (Nat.mod_le _ _).trans (same ▸ bounded)
  obtain ⟨number, exact⟩ := units_ofNat_mul_unit narrow (first'.trans low) (whole ▸ fits)
  obtain ⟨magnitude, same, above⟩ := abs_units_copySign
    (Float32.ofNat (significand * 2 ^ (place - lowest) % (divisor * 2 ^ (place' - lowest))) *
      unit lowest) x
  rw [value]
  refine ⟨same.trans number, ?_, above⟩
  rw [magnitude, exact, whole, Nat.abs_cast, counted, counted']
  push_cast
  rfl

/-- A magnitude below the divisor is its own remainder. -/
theorem units_remainder_abs (first : x.isFinite = true) (second : y.isFinite = true)
    (less : |units x| < |units y|) :
    (remainder x.abs y).isNaN = false ∧ units (remainder x.abs y) = |units x| := by
  have finite : x.abs.isFinite = true := by
    have unpacked : x.toModel.unpack.isFinite = true := first
    show x.abs.toModel.unpack.isFinite = true
    rw [unpack_abs]
    cases value : x.toModel.unpack with
    | notANumber | infinity => rw [value] at unpacked; cases unpacked
    | zero | finite => rfl
  have nonzero : ¬(y == 0) = true := by
    intro zero
    have none : units y = 0 := (beq_iff_units.mp zero).2.2
    rw [none, abs_zero] at less
    exact absurd less (not_lt.mpr (abs_nonneg _))
  obtain ⟨number, magnitude, above⟩ := abs_units_remainder finite second nonzero
  refine ⟨number, ?_⟩
  rw [units_abs, abs_abs, Int.emod_eq_of_lt (abs_nonneg _) less] at magnitude
  rw [← magnitude, abs_of_nonneg (above (signBit_abs x))]

end Single
end FlightGuidance
