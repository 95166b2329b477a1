import FlightGuidance.Proofs.Checksum.Remainder

/-!
# What the checksum detects

Two byte strings of one length have the same checksum exactly if the generator divides the
polynomial of the bits in which they differ (`ofBytes_eq_iff`). Two kinds of damage are always
found by this. The generator has an even number of terms, so it divides no polynomial with an odd
number of them (`even_of_dvd`). It has a constant term, so it is coprime to the indeterminate and
divides no burst that is shorter than itself (`eq_replicate_of_dvd`).
-/

set_option autoImplicit false

namespace FlightGuidance
namespace Checksum

open Polynomial

/-- The number of differing bits is odd. -/
def DifferOddly (first second : List UInt8) : Prop :=
  Odd ((differences (bits first) (bits second)).count true)

/-- The strings differ inside a window of eight consecutive bits, and agree before it and
after it. -/
structure DifferInWindow (first second : List UInt8) : Prop where
  ne : first ≠ second
  window : ∃ start,
    (bits first).take start = (bits second).take start ∧
      (bits first).drop (start + 8) = (bits second).drop (start + 8)

/-! ## Differences -/

theorem bits_injective {first second : List UInt8} (same : bits first = bits second) :
    first = second := by
  induction first generalizing second with
  | nil =>
      cases second with
      | nil => rfl
      | cons => cases same
  | cons byte first inductionHypothesis =>
      cases second with
      | nil => cases same
      | cons other second =>
          rw [bits_cons, bits_cons] at same
          have sameWidth : (bitsOf byte).length = (bitsOf other).length := rfl
          obtain ⟨head, tail⟩ := List.append_inj same sameWidth
          rw [bitsOf_injective head, inductionHypothesis tail]

theorem differences_self (bits : List Bool) :
    differences bits bits = List.replicate bits.length false := by
  induction bits with
  | nil => rfl
  | cons bit rest inductionHypothesis =>
      rw [differences, List.zipWith_cons_cons, Bool.xor_self, List.length_cons,
        List.replicate_succ, ← inductionHypothesis]
      rfl

/-- Strings that agree outside of a window differ in a burst. -/
theorem differences_of_window {first second : List Bool} {start : ℕ}
    (before : first.take start = second.take start)
    (after : first.drop (start + 8) = second.drop (start + 8)) :
    ∃ front window back, window.length ≤ 8 ∧
      differences first second =
        List.replicate front false ++ window ++ List.replicate back false := by
  have head : (differences first second).take start =
      List.replicate (second.take start).length false := by
    rw [← differences_self, differences, List.take_zipWith, before]
    rfl
  have tail : (differences first second).drop (start + 8) =
      List.replicate (second.drop (start + 8)).length false := by
    rw [← differences_self, differences, List.drop_zipWith, after]
    rfl
  refine ⟨(second.take start).length, ((differences first second).drop start).take 8,
    (second.drop (start + 8)).length, List.length_take_le 8 _, ?_⟩
  rw [← head, ← tail, List.append_assoc, ← List.drop_drop, List.take_append_drop,
    List.take_append_drop]

section SameLength

variable {first second : List UInt8} (sameLength : first.length = second.length)

include sameLength

theorem polynomial_differences_bits :
    polynomial (differences (bits first) (bits second)) =
      polynomial (bits first) + polynomial (bits second) := by
  refine polynomial_differences ?_
  rw [length_bits, length_bits, sameLength]

/-- Strings without a difference are the same. -/
theorem eq_of_polynomial_differences
    (none : polynomial (differences (bits first) (bits second)) = 0) : first = second := by
  rw [polynomial_differences_bits sameLength, ← CharTwo.sub_eq_add, sub_eq_zero] at none
  refine bits_injective (polynomial_injective ?_ none)
  rw [length_bits, length_bits, sameLength]

end SameLength

/-! ## Divisibility by the generator -/

/-- The constant term of the generator makes it coprime to the indeterminate. -/
theorem generatorPolynomial_isCoprime (power : ℕ) : IsCoprime generatorPolynomial (X ^ power) := by
  have split : 1 * generatorPolynomial +
      -(X ^ 7 + X ^ 6 + X ^ 5 + X ^ 3 + X) * X = 1 := by
    unfold generatorPolynomial
    ring
  exact IsCoprime.pow_right ⟨_, _, split⟩

/-- **Checksums are the same exactly if the generator divides the differences.** -/
theorem ofBytes_eq_iff {first second : List UInt8} (sameLength : first.length = second.length) :
    ofBytes first = ofBytes second ↔
      generatorPolynomial ∣ polynomial (differences (bits first) (bits second)) := by
  have congruent : ofBytes first = ofBytes second ↔
      residue (X ^ 8 * polynomial (bits first)) = residue (X ^ 8 * polynomial (bits second)) := by
    simp only [map_mul, map_pow, ← residue_ofBytes]
    exact ⟨fun same => by rw [same], eq_of_residue⟩
  rw [congruent, residue_eq_iff, ← mul_sub, CharTwo.sub_eq_add,
    polynomial_differences_bits sameLength]
  exact ⟨(generatorPolynomial_isCoprime 8).dvd_of_dvd_mul_left, fun divides => divides.mul_left _⟩

/-- At one, a polynomial counts its terms. -/
theorem eval_one_polynomial (bits : List Bool) :
    (polynomial bits).eval 1 = (bits.count true : ZMod 2) := by
  induction bits with
  | nil => simp [polynomial]
  | cons bit rest inductionHypothesis =>
      rw [polynomial, eval_add, inductionHypothesis]
      cases bit <;> simp [digit, add_comm]

theorem eval_one_generatorPolynomial : generatorPolynomial.eval 1 = 0 := by
  simp only [generatorPolynomial, eval_add, eval_pow, eval_X, eval_one, one_pow]
  decide

/-- The generator divides only polynomials with an even number of terms. -/
theorem even_of_dvd {bits : List Bool} (divides : generatorPolynomial ∣ polynomial bits) :
    Even (bits.count true) := by
  have root := eval_dvd divides (x := 1)
  rw [eval_one_generatorPolynomial, zero_dvd_iff, eval_one_polynomial] at root
  exact ZMod.natCast_eq_zero_iff_even.mp root

/-- The generator divides no burst that is shorter than itself. -/
theorem polynomial_eq_zero_of_dvd {before after : ℕ} {window : List Bool}
    (short : window.length ≤ 8)
    (divides : generatorPolynomial ∣
      polynomial (List.replicate before false ++ window ++ List.replicate after false)) :
    polynomial (List.replicate before false ++ window ++ List.replicate after false) = 0 := by
  have burst : polynomial (List.replicate before false ++ window ++ List.replicate after false) =
      polynomial window * X ^ after := by
    simp only [polynomial_append, polynomial_replicate_false, List.length_replicate, zero_mul,
      zero_add, add_zero]
  have small : (polynomial window).degree < generatorPolynomial.degree := by
    rw [degree_generatorPolynomial]
    exact (degree_polynomial_lt window).trans_le (by exact_mod_cast short)
  rw [burst] at divides ⊢
  have divides := (generatorPolynomial_isCoprime after).dvd_of_dvd_mul_right divides
  rw [eq_zero_of_dvd_of_degree_lt divides small, zero_mul]

theorem DifferInWindow.not_dvd {first second : List UInt8} (differ : DifferInWindow first second)
    (sameLength : first.length = second.length) :
    ¬generatorPolynomial ∣ polynomial (differences (bits first) (bits second)) := by
  intro divides
  obtain ⟨start, before, after⟩ := differ.window
  obtain ⟨front, window, back, short, burst⟩ := differences_of_window before after
  rw [burst] at divides
  have none := polynomial_eq_zero_of_dvd short divides
  rw [← burst] at none
  exact differ.ne (eq_of_polynomial_differences sameLength none)

/-- **What the checksum is, and what it detects.** Fed in any parts, a string has as its checksum
the remainder of the string and eight zero bits: that of the long division, bit after bit, which is
the remainder by the generator in the ring of polynomials. Strings of one length that differ in an
odd number of bits, or only in a window of eight bits, have different checksums. -/
theorem remainder_and_detection :
    (∀ chunks : List (List UInt8),
      chunks.foldl extend 0 =
          divide 0 (bits chunks.flatten ++ List.replicate 8 false) ∧
        polynomial (bitsOf (chunks.foldl extend 0)) =
          polynomial (bits chunks.flatten ++ List.replicate 8 false) %ₘ
            (X ^ 8 + X ^ 7 + X ^ 6 + X ^ 4 + X ^ 2 + 1)) ∧
      ∀ first second : List UInt8, first.length = second.length →
        DifferOddly first second ∨ DifferInWindow first second →
          ofBytes first ≠ ofBytes second := by
  constructor
  · intro chunks
    rw [foldl_extend]
    exact ofBytes_eq_divide chunks.flatten
  · intro first second sameLength differ same
    have divides := (ofBytes_eq_iff sameLength).mp same
    rcases differ with odd | window
    · exact Nat.not_even_iff_odd.mpr odd (even_of_dvd divides)
    · exact window.not_dvd sameLength divides

/-- Three flipped bits that lie far apart, and four in a window across the boundary of two
bytes. -/
theorem damage_detected :
    let sent : List UInt8 := [0x12, 0x34, 0x56]
    let scattered : List UInt8 := [0x92, 0x35, 0x57]
    let burst : List UInt8 := [0x13, 0xd4, 0x56]
    sent.length = scattered.length ∧ DifferOddly sent scattered ∧
      ofBytes sent ≠ ofBytes scattered ∧
      sent.length = burst.length ∧ DifferInWindow sent burst ∧ ofBytes sent ≠ ofBytes burst := by
  intro sent scattered burst
  have odd : DifferOddly sent scattered := ⟨1, by decide⟩
  have window : DifferInWindow sent burst := ⟨by decide, 7, by decide, by decide⟩
  exact ⟨rfl, odd, remainder_and_detection.2 _ _ rfl (.inl odd), rfl, window,
    remainder_and_detection.2 _ _ rfl (.inr window)⟩

end Checksum
end FlightGuidance
