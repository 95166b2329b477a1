import FlightGuidance.Checksum
import Mathlib.Algebra.CharP.Two
import Mathlib.Algebra.Field.ZMod
import Mathlib.Data.Nat.Bitwise
import Mathlib.RingTheory.AdjoinRoot
import Mathlib.Tactic.ComputeDegree

/-!
# The checksum as a remainder

A bit string stands for a polynomial over the field with two elements, in which its first bit
belongs to the highest power (`polynomial`). The bits of a byte are those of its remainder
polynomial, and different bytes have different ones (`byte_injective`).

All of the checksum is arithmetic modulo the generator. One bit of the division multiplies the
remainder by the indeterminate (`residue_shift`). A byte of the table does it eight times
(`residue_step`), and the long division does it for each bit that it takes in
(`residue_divide`). Since a byte is a polynomial of a degree below that of the generator, what is
congruent to the message is its remainder (`eq_of_residue`, `polynomial_of_residue`).
-/

set_option autoImplicit false

namespace FlightGuidance
namespace Checksum

open Polynomial

/-! ## Bit strings as polynomials -/

/-- A bit as a coefficient. -/
def digit (bit : Bool) : ZMod 2 := if bit then 1 else 0

/-- A bit string as a polynomial. The last bit is the constant term. -/
noncomputable def polynomial : List Bool → (ZMod 2)[X]
  | [] => 0
  | bit :: rest => C (digit bit) * X ^ rest.length + polynomial rest

/-- The bits of a byte string, each byte with its most significant bit first. -/
def bits (bytes : List UInt8) : List Bool := bytes.flatMap bitsOf

/-- The bits in which two bit strings differ. -/
def differences (first second : List Bool) : List Bool := List.zipWith xor first second

@[simp] theorem length_bitsOf (byte : UInt8) : (bitsOf byte).length = 8 := rfl

@[simp] theorem bits_nil : bits [] = [] := rfl

@[simp] theorem bits_cons (byte : UInt8) (rest : List UInt8) :
    bits (byte :: rest) = bitsOf byte ++ bits rest :=
  List.flatMap_cons

theorem length_bits (bytes : List UInt8) : (bits bytes).length = 8 * bytes.length := by
  induction bytes with
  | nil => rfl
  | cons byte rest inductionHypothesis =>
      rw [bits_cons, List.length_append, inductionHypothesis, length_bitsOf, List.length_cons]
      omega

theorem digit_xor (first second : Bool) :
    digit (xor first second) = digit first + digit second := by
  cases first <;> cases second <;> decide

theorem polynomial_append (front back : List Bool) :
    polynomial (front ++ back) = polynomial front * X ^ back.length + polynomial back := by
  induction front with
  | nil => simp [polynomial]
  | cons bit front inductionHypothesis =>
      simp only [List.cons_append, polynomial, inductionHypothesis, List.length_append]
      ring

theorem polynomial_replicate_false (count : ℕ) : polynomial (List.replicate count false) = 0 := by
  induction count with
  | zero => rfl
  | succ count inductionHypothesis =>
      simp [List.replicate_succ, polynomial, digit, inductionHypothesis]

theorem polynomial_differences {first second : List Bool}
    (sameLength : first.length = second.length) :
    polynomial (differences first second) = polynomial first + polynomial second := by
  induction first generalizing second with
  | nil =>
      obtain rfl := List.eq_nil_of_length_eq_zero sameLength.symm
      simp [differences, polynomial]
  | cons bit first inductionHypothesis =>
      obtain ⟨other, second, rfl⟩ := List.exists_cons_of_length_eq_add_one sameLength.symm
      have tails : first.length = second.length := Nat.succ.inj sameLength
      have rest := inductionHypothesis tails
      have width : (differences first second).length = second.length := by
        simp [differences, tails]
      simp only [differences, List.zipWith_cons_cons, polynomial] at rest width ⊢
      rw [rest, width, digit_xor, C_add, tails]
      ring

/-- The degree is less than the number of bits. -/
theorem degree_polynomial_lt (bits : List Bool) : (polynomial bits).degree < bits.length := by
  induction bits with
  | nil => simp [polynomial]
  | cons bit rest inductionHypothesis =>
      have below : (rest.length : WithBot ℕ) < (bit :: rest).length := by
        exact_mod_cast Nat.lt_succ_self rest.length
      refine (degree_add_le _ _).trans_lt (max_lt ?_ ?_)
      · exact (degree_C_mul_X_pow_le _ _).trans_lt below
      · exact inductionHypothesis.trans below

/-- Bit strings of one length with the same polynomial are the same. -/
theorem polynomial_injective {first second : List Bool}
    (sameLength : first.length = second.length) (same : polynomial first = polynomial second) :
    first = second := by
  induction first generalizing second with
  | nil => exact (List.eq_nil_of_length_eq_zero sameLength.symm).symm
  | cons bit first inductionHypothesis =>
      obtain ⟨other, second, rfl⟩ := List.exists_cons_of_length_eq_add_one sameLength.symm
      have tails : first.length = second.length := Nat.succ.inj sameLength
      have leading (bit : Bool) (rest : List Bool) :
          (polynomial (bit :: rest)).coeff rest.length = digit bit := by
        rw [polynomial, coeff_add, coeff_C_mul_X_pow, if_pos rfl,
          coeff_eq_zero_of_degree_lt (degree_polynomial_lt rest), add_zero]
      have digits : digit bit = digit other := by
        rw [← leading bit first, ← leading other second, same, tails]
      have bits : bit = other := by
        cases bit <;> cases other <;> first | rfl | exact absurd digits (by decide)
      subst bits
      have rest : polynomial first = polynomial second := by
        simpa only [polynomial, tails, add_right_inj] using same
      rw [inductionHypothesis tails rest]

/-! ## Bytes -/

theorem bitsOf_xor (first second : UInt8) :
    bitsOf (first ^^^ second) = differences (bitsOf first) (bitsOf second) := by
  simp only [bitsOf, differences, List.map_cons, List.map_nil, List.zipWith_cons_cons,
    List.zipWith_nil_left, UInt8.toNat_xor, Nat.testBit_xor]

theorem bitsOf_injective {first second : UInt8} (same : bitsOf first = bitsOf second) :
    first = second := by
  refine UInt8.toNat_inj.mp (Nat.eq_of_testBit_eq fun index => ?_)
  by_cases inside : index < 8
  · have agree := List.map_inj_left.mp same index
    exact agree (by simp; omega)
  · have above (byte : UInt8) : byte.toNat.testBit index = false :=
      Nat.testBit_lt_two_pow (Nat.lt_of_lt_of_le byte.toNat_lt
        (Nat.pow_le_pow_right (by decide) (Nat.not_lt.mp inside)))
    rw [above, above]

/-- A byte as a polynomial. -/
noncomputable def ofByte (byte : UInt8) : (ZMod 2)[X] := polynomial (bitsOf byte)

theorem polynomial_bits_cons (byte : UInt8) (rest : List UInt8) :
    polynomial (bits (byte :: rest)) =
      ofByte byte * X ^ (8 * rest.length) + polynomial (bits rest) := by
  rw [bits_cons, polynomial_append, length_bits, ofByte]

theorem ofByte_xor (first second : UInt8) :
    ofByte (first ^^^ second) = ofByte first + ofByte second := by
  have sameLength : (bitsOf first).length = (bitsOf second).length := rfl
  rw [ofByte, bitsOf_xor, polynomial_differences sameLength]
  rfl

theorem degree_ofByte_lt (byte : UInt8) : (ofByte byte).degree < 8 :=
  degree_polynomial_lt (bitsOf byte)

theorem ofByte_injective {first second : UInt8} (same : ofByte first = ofByte second) :
    first = second :=
  bitsOf_injective (polynomial_injective rfl same)

theorem ofByte_bit (bit : Bool) : ofByte (if bit then 1 else 0) = C (digit bit) := by
  have bits : bitsOf (if bit then 1 else 0) = List.replicate 7 false ++ [bit] := by
    cases bit <;> decide
  rw [ofByte, bits, polynomial_append, polynomial_replicate_false]
  simp [polynomial]

/-- A shift of the byte drops its leading bit. -/
theorem bitsOf_shiftLeft (byte : UInt8) :
    bitsOf (byte <<< 1) = (bitsOf byte).tail ++ [false] := by
  have shifted : (byte <<< 1).toNat = byte.toNat <<< 1 % 2 ^ 8 := UInt8.toNat_shiftLeft byte 1
  simp only [bitsOf, List.map_cons, List.map_nil, List.tail_cons, List.cons_append,
    List.nil_append, shifted, Nat.testBit_mod_two_pow, Nat.testBit_shiftLeft]
  rfl

/-- The leading bit of a byte. -/
def leading (byte : UInt8) : Bool := byte.toNat.testBit 7

theorem leading_eq_false_iff (byte : UInt8) : leading byte = false ↔ byte &&& 0x80 = 0 := by
  have masked : (byte &&& 0x80).toNat = (leading byte).toNat * 2 ^ 7 :=
    Nat.and_two_pow byte.toNat 7
  rw [← UInt8.toNat_inj, masked]
  cases leading byte <;> decide

/-- The leading bit moves to the power of the generator. -/
theorem ofByte_mul_X (byte : UInt8) :
    ofByte byte * X = C (digit (leading byte)) * X ^ 8 + ofByte (byte <<< 1) := by
  have split : bitsOf byte = leading byte :: (bitsOf byte).tail := rfl
  have width : ((bitsOf byte).tail ++ [false]).length = 8 := rfl
  have pushed : polynomial (bitsOf byte ++ [false]) = ofByte byte * X := by
    rw [polynomial_append]
    simp [polynomial, digit, ofByte]
  rw [← pushed, split, List.cons_append, polynomial, width, ofByte,
    bitsOf_shiftLeft]

/-! ## The generator -/

/-- The generator of the checksum. -/
noncomputable def generatorPolynomial : (ZMod 2)[X] := X ^ 8 + X ^ 7 + X ^ 6 + X ^ 4 + X ^ 2 + 1

theorem generatorPolynomial_monic : generatorPolynomial.Monic := by
  unfold generatorPolynomial
  monicity!

theorem degree_generatorPolynomial : generatorPolynomial.degree = 8 := by
  unfold generatorPolynomial
  compute_degree!

/-- The generator without its leading term is the byte of the code. -/
theorem generatorPolynomial_eq : generatorPolynomial = X ^ 8 + ofByte generator := by
  have bits : bitsOf generator = [true, true, false, true, false, true, false, true] := rfl
  rw [ofByte, bits]
  simp [polynomial, digit, generatorPolynomial]
  ring

/-- What is congruent modulo the generator is the same. -/
noncomputable def residue : (ZMod 2)[X] →+* AdjoinRoot generatorPolynomial :=
  AdjoinRoot.mk generatorPolynomial

theorem residue_eq_iff {first second : (ZMod 2)[X]} :
    residue first = residue second ↔ generatorPolynomial ∣ first - second :=
  AdjoinRoot.mk_eq_mk

theorem residue_X_pow : residue (X ^ 8) = residue (ofByte generator) := by
  rw [residue_eq_iff, CharTwo.sub_eq_add, ← generatorPolynomial_eq]

/-- Bytes that are congruent are the same. -/
theorem eq_of_residue {first second : UInt8}
    (same : residue (ofByte first) = residue (ofByte second)) : first = second := by
  have small : (ofByte first - ofByte second).degree < generatorPolynomial.degree := by
    rw [degree_generatorPolynomial]
    exact (degree_sub_le _ _).trans_lt (max_lt (degree_ofByte_lt _) (degree_ofByte_lt _))
  exact ofByte_injective
    (sub_eq_zero.mp (eq_zero_of_dvd_of_degree_lt (residue_eq_iff.mp same) small))

/-- A byte that is congruent to a polynomial is the remainder of it. -/
theorem ofByte_of_residue {byte : UInt8} {message : (ZMod 2)[X]}
    (same : residue (ofByte byte) = residue message) :
    ofByte byte = message %ₘ generatorPolynomial := by
  have small : (ofByte byte).degree < generatorPolynomial.degree := by
    rw [degree_generatorPolynomial]
    exact degree_ofByte_lt byte
  rw [← modByMonic_eq_of_dvd_sub generatorPolynomial_monic (residue_eq_iff.mp same),
    (modByMonic_eq_self_iff generatorPolynomial_monic).mpr small]

/-! ## The division -/

/-- **One step of the division** multiplies by the indeterminate. -/
theorem residue_shift (remainder : UInt8) :
    residue (ofByte (shift remainder)) = residue X * residue (ofByte remainder) := by
  rw [mul_comm, ← map_mul, ofByte_mul_X, shift]
  by_cases clear : remainder &&& 0x80 = 0
  · rw [if_pos clear, (leading_eq_false_iff remainder).mpr clear]
    simp [digit]
  · have set : leading remainder = true := by
      rwa [← leading_eq_false_iff, Bool.not_eq_false] at clear
    rw [if_neg clear, set, ofByte_xor, map_add, map_add, map_mul, residue_X_pow]
    simp [digit, add_comm]

theorem residue_shifts (count : ℕ) (remainder : UInt8) :
    residue (ofByte (shifts count remainder)) =
      residue X ^ count * residue (ofByte remainder) := by
  induction count generalizing remainder with
  | zero => simp [shifts]
  | succ count inductionHypothesis =>
      rw [shifts, inductionHypothesis, residue_shift]
      ring

theorem step_eq (digest byte : UInt8) : step digest byte = shifts 8 (digest ^^^ byte) := by
  unfold step table
  rw [Vector.getElem_ofFn, UInt8.ofNat_toNat]

theorem residue_step (digest byte : UInt8) :
    residue (ofByte (step digest byte)) =
      residue X ^ 8 * (residue (ofByte digest) + residue (ofByte byte)) := by
  rw [step_eq, residue_shifts, ofByte_xor, map_add]

theorem extend_cons (digest byte : UInt8) (rest : List UInt8) :
    extend digest (byte :: rest) = extend (step digest byte) rest :=
  List.foldl_cons ..

theorem divide_cons (remainder : UInt8) (bit : Bool) (rest : List Bool) :
    divide remainder (bit :: rest) = divide (divideBit remainder bit) rest :=
  List.foldl_cons ..

/-- The checksum takes in a message, moved past the remainder. -/
theorem residue_extend (digest : UInt8) (bytes : List UInt8) :
    residue (ofByte (extend digest bytes)) =
      residue X ^ (8 * bytes.length) * residue (ofByte digest) +
        residue X ^ 8 * residue (polynomial (bits bytes)) := by
  induction bytes generalizing digest with
  | nil => simp [extend, polynomial]
  | cons byte rest inductionHypothesis =>
      rw [extend_cons, inductionHypothesis, residue_step, polynomial_bits_cons, map_add, map_mul,
        map_pow, List.length_cons]
      ring

/-- The long division takes in a message. -/
theorem residue_divide (remainder : UInt8) (message : List Bool) :
    residue (ofByte (divide remainder message)) =
      residue X ^ message.length * residue (ofByte remainder) +
        residue (polynomial message) := by
  induction message generalizing remainder with
  | nil => simp [divide, polynomial]
  | cons bit rest inductionHypothesis =>
      rw [divide_cons, inductionHypothesis, divideBit, ofByte_xor, ofByte_bit, map_add,
        residue_shift, polynomial, List.length_cons, map_add, map_mul, map_pow]
      ring

theorem ofByte_zero : ofByte 0 = 0 := polynomial_replicate_false 8

theorem residue_ofBytes (bytes : List UInt8) :
    residue (ofByte (ofBytes bytes)) = residue X ^ 8 * residue (polynomial (bits bytes)) := by
  rw [ofBytes, residue_extend, ofByte_zero, map_zero, mul_zero, zero_add]

/-- The message with room for the remainder behind it. -/
def padded (bytes : List UInt8) : List Bool := bits bytes ++ List.replicate 8 false

theorem residue_padded (bytes : List UInt8) :
    residue (polynomial (padded bytes)) = residue X ^ 8 * residue (polynomial (bits bytes)) := by
  rw [padded, polynomial_append, polynomial_replicate_false, add_zero, List.length_replicate,
    map_mul, map_pow, mul_comm]

/-- **The checksum is the remainder of the padded message**, as the long division finds it and as
the ring of polynomials has it. -/
theorem ofBytes_eq_divide (bytes : List UInt8) :
    ofBytes bytes = divide 0 (padded bytes) ∧
      ofByte (ofBytes bytes) = polynomial (padded bytes) %ₘ generatorPolynomial := by
  constructor
  · apply eq_of_residue
    rw [residue_divide, residue_ofBytes, residue_padded, ofByte_zero, map_zero, mul_zero, zero_add]
  · apply ofByte_of_residue
    rw [residue_ofBytes, residue_padded]

/-- Feeding a string in parts is feeding it as a whole. -/
theorem foldl_extend (digest : UInt8) (chunks : List (List UInt8)) :
    chunks.foldl extend digest = extend digest chunks.flatten := by
  induction chunks generalizing digest with
  | nil => rfl
  | cons chunk chunks inductionHypothesis =>
      rw [List.foldl_cons, inductionHypothesis, List.flatten_cons, extend_append]

end Checksum
end FlightGuidance
