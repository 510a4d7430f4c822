/-
# VersionStamp.Proofs.Magnitudes — numbers that are not too large

A reader that keeps numbers in floating-point words refuses those beyond the end of the words.  A
rounding at most doubles a number (`AtMost.rounded`), and there are three of them on the way to a
word, so there is plenty of room for a natural number of 64 bits (`not_isTooLarge_ofWhole`).
-/
import Mathlib.Tactic.Linarith
import Mathlib.Tactic.Ring
import VersionStamp.Json.Reader

namespace VersionStamp

/-! ## Roundings

The bound is coarse on purpose.  Rounding up adds one half at most to what is at least one half, so
twice the number is always enough, and bounds of this form can be multiplied and chained without a
division. -/

theorem mul_halfEven_le (n d : Nat) : d * halfEven n d ≤ 2 * n := by
  have most := halfEven_le n d
  rcases Nat.eq_zero_or_pos (halfEven n d) with none | some_unit
  · rw [none, Nat.mul_zero]
    exact Nat.zero_le _
  · have unit : d ≤ d * halfEven n d := Nat.le_mul_of_pos_right d some_unit
    omega

namespace Ratio

/-- The fraction is at most a natural number. -/
structure AtMost (q : Ratio) (k : Nat) : Prop where
  den_pos : 0 < q.den
  num_le : q.num ≤ k * q.den

variable {q r : Ratio} {k l : Nat}

theorem atMost_ofNat (n : Nat) : (ofNat n).AtMost n :=
  ⟨Nat.one_pos, Nat.le_of_eq (Nat.mul_one n).symm⟩

theorem AtMost.mul (first : q.AtMost k) (second : r.AtMost l) : (q * r).AtMost (k * l) where
  den_pos := Nat.mul_pos first.den_pos second.den_pos
  num_le := calc
    q.num * r.num ≤ (k * q.den) * (l * r.den) := Nat.mul_le_mul first.num_le second.num_le
    _ = (k * l) * (q.den * r.den) := Nat.mul_mul_mul_comm k q.den l r.den

theorem rounded_le (q : Ratio) : q.rounded.num * q.den ≤ 2 * q.num * q.rounded.den := by
  unfold rounded
  dsimp only
  split
  · next =>
    have doubled := mul_halfEven_le (q.num <<< (53 + q.den.log2 - q.num.log2))
      (q.den <<< (q.num.log2 - (53 + q.den.log2)))
    simp only [Nat.shiftLeft_eq, Nat.one_mul] at doubled ⊢
    linarith
  · next =>
    have doubled := mul_halfEven_le (q.num <<< (53 + q.den.log2 - q.num.log2))
      (2 * q.den <<< (q.num.log2 - (53 + q.den.log2)))
    simp only [Nat.shiftLeft_eq, Nat.one_mul, Nat.pow_succ] at doubled ⊢
    linarith

theorem rounded_den_pos (q : Ratio) : 0 < q.rounded.den := by
  unfold rounded
  dsimp only
  split
  · rw [Nat.one_shiftLeft]
    exact Nat.two_pow_pos _
  · rw [Nat.one_shiftLeft]
    exact Nat.two_pow_pos _

theorem AtMost.rounded (most : q.AtMost k) : q.rounded.AtMost (2 * k) where
  den_pos := q.rounded_den_pos
  num_le := by
    refine Nat.le_of_mul_le_mul_right ?_ most.den_pos
    calc q.rounded.num * q.den ≤ 2 * q.num * q.rounded.den := q.rounded_le
      _ ≤ 2 * (k * q.den) * q.rounded.den :=
          Nat.mul_le_mul_right _ (Nat.mul_le_mul_left 2 most.num_le)
      _ = 2 * k * q.rounded.den * q.den := by ring

theorem AtMost.not_atLeast_pow {i : Nat} (most : q.AtMost k) (less : k < Nat.pow 2 i) (j : Nat)
    (le : i ≤ j) : q.atLeast (ofNat (Nat.pow 2 j)) = false := by
  have bound : k < Nat.pow 2 j := Nat.lt_of_lt_of_le less (Nat.pow_le_pow_right (by omega) le)
  have below : q.num < Nat.pow 2 j * q.den := Nat.lt_of_le_of_lt most.num_le
    (Nat.mul_lt_mul_of_pos_right bound most.den_pos)
  simpa [atLeast, ofNat] using below

end Ratio

/-! ## Numbers of 64 bits

The reader keeps so many digits of a number and scales them by a power of ten, and it rounds the
digits, the power and the product.  Three times a factor of two leaves a number of 64 bits far
below the end of the words. -/

namespace Json

theorem length_appendDigits_le (significand : Nat) (digits : List Char) :
    (appendDigits significand digits).2.length ≤ digits.length := by
  induction digits generalizing significand with
  | nil => exact Nat.le_refl 0
  | cons d ds ih =>
      rw [appendDigits]
      split
      · exact Nat.le_succ_of_le (ih _)
      · exact Nat.le_refl _

namespace Magnitude

theorem floating_atMost (m : Magnitude) :
    m.floating.AtMost (2 * (2 * m.significand * (2 * Nat.pow 10 m.exponent.toNat))) :=
  ((Ratio.atMost_ofNat _).rounded.mul (Ratio.atMost_ofNat _).rounded).rounded

/-- A number of 64 bits is not too large. -/
theorem not_isTooLarge_ofWhole {n : Nat} (fits : n < UInt64.size) :
    (ofWhole (Nat.toDigits 10 n)).isTooLarge = false := by
  have short : (Nat.toDigits 10 n).length ≤ 20 :=
    (Nat.length_toDigits_le_iff (by omega) (by omega)).mpr (Nat.lt_trans fits (by decide))
  have exponent : (ofWhole (Nat.toDigits 10 n)).exponent.toNat ≤ 20 :=
    Nat.le_trans (length_appendDigits_le 0 _) short
  have significand := significand_ofWhole_lt (Nat.toDigits 10 n)
  have power : Nat.pow 10 (ofWhole (Nat.toDigits 10 n)).exponent.toNat ≤ Nat.pow 10 20 :=
    Nat.pow_le_pow_right (by omega) exponent
  have small := calc
    2 * (2 * (ofWhole (Nat.toDigits 10 n)).significand *
        (2 * Nat.pow 10 (ofWhole (Nat.toDigits 10 n)).exponent.toNat))
      ≤ 2 * (2 * UInt64.size * (2 * Nat.pow 10 20)) := by
        gcongr
    _ < Nat.pow 2 135 := by decide
  have beyond : ∀ j, 135 ≤ j →
      (ofWhole (Nat.toDigits 10 n)).floating.atLeast (Ratio.ofNat (Nat.pow 2 j)) = false :=
    (floating_atMost _).not_atLeast_pow small
  have no_end : (ofWhole (Nat.toDigits 10 n)).floating.atLeast wordEnd = false :=
    beyond 1024 (by decide)
  have below_limit : ¬ exponentLimit < (ofWhole (Nat.toDigits 10 n)).exponent := by
    rw [exponentLimit]
    omega
  simp [isTooLarge, no_end, below_limit]

end Magnitude

end Json

end VersionStamp
