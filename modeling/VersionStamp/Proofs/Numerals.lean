/-
# VersionStamp.Proofs.Numerals — the decimal spelling of a number

A number is spelled by its digits, without a zero in front (`toDigits_ofDigitChars`,
`eq_nil_of_toDigits_eq_zero_cons`).  Where a width is given, zeros fill it up.  Said without a
printer, that is a *numeral*: digits with the right value, at least as many as the width, and no
zero in front that the width does not ask for.  There is exactly one of them for each number, the
one that is printed (`isNumeral_padded`, `IsNumeral.eq_padded`).
-/
import Mathlib.Data.List.Induction
import VersionStamp.Calendar

namespace VersionStamp

/-! ## Digits

From digits to a number and back.  The induction is on the digits from the end, where the number is
ten times the value of those in front plus the last one.  A zero in front is what would be lost on
the way, and the only thing. -/

theorem isDigit_of_mem_toDigits {n : Nat} : ∀ c ∈ Nat.toDigits 10 n, c.isDigit = true :=
  fun _ mem => Nat.isDigit_of_mem_toDigits (by omega) (Nat.le_refl 10) mem

theorem eq_nil_of_toDigits_eq_zero_cons (n : Nat) {ds : List Char}
    (digits : Nat.toDigits 10 n = '0' :: ds) : ds = [] := by
  induction n using Nat.strongRecOn generalizing ds with
  | ind n ih =>
      by_cases small : n < 10
      · rw [Nat.toDigits_of_lt_base small] at digits
        exact (List.cons.inj digits).2.symm
      · rw [Nat.toDigits_of_base_le (by omega) (by omega)] at digits
        cases front : Nat.toDigits 10 (n / 10) with
        | nil => exact absurd front Nat.toDigits_ne_nil
        | cons d front' =>
            rw [front] at digits
            obtain ⟨rfl, -⟩ := List.cons.inj digits
            -- The digits before the last one would be a zero alone.
            obtain rfl := ih (n / 10) (by omega) front
            have value : Nat.ofDigitChars 10 (Nat.toDigits 10 (n / 10)) 0 = n / 10 :=
              Nat.ofDigitChars_toDigits (by omega) (Nat.le_refl 10)
            rw [front] at value
            have : 0 = n / 10 := value
            omega

theorem digitChar_of_isDigit {c : Char} (digit : c.isDigit = true) :
    c.toNat - '0'.toNat < 10 ∧ Nat.digitChar (c.toNat - '0'.toNat) = c := by
  have bounds : 48 ≤ c.toNat ∧ c.toNat ≤ 57 := Char.isDigit_iff_toNat.mp digit
  have small : c.toNat - 48 < 10 := by omega
  refine ⟨small, Char.toNat_inj.mp ?_⟩
  have value : (Nat.digitChar (c.toNat - 48)).toNat = 48 + (c.toNat - 48) :=
    Nat.toNat_digitChar_of_lt_ten small
  exact value.trans (by omega)

theorem ofDigitChars_concat (front : List Char) (c : Char) :
    Nat.ofDigitChars 10 (front ++ [c]) 0 =
      10 * Nat.ofDigitChars 10 front 0 + (c.toNat - '0'.toNat) := by
  rw [Nat.ofDigitChars_append, Nat.ofDigitChars_cons, Nat.ofDigitChars_nil]

/-- Digits without a zero in front are the digits of their value. -/
theorem toDigits_ofDigitChars {digits : List Char} (all_digits : ∀ c ∈ digits, c.isDigit = true)
    (some_digit : digits ≠ []) (no_zero : digits.head? ≠ some '0') :
    Nat.toDigits 10 (Nat.ofDigitChars 10 digits 0) = digits := by
  induction digits using List.reverseRecOn with
  | nil => exact absurd rfl some_digit
  | append_singleton front c ih =>
      obtain ⟨small, spelled⟩ := digitChar_of_isDigit (all_digits c (by simp))
      rw [ofDigitChars_concat]
      cases front with
      | nil => rw [Nat.ofDigitChars_nil, Nat.mul_zero, Nat.zero_add, Nat.toDigits_of_lt_base small,
          spelled, List.nil_append]
      | cons d front =>
          have before := ih (fun c mem => all_digits c (List.mem_append_left _ mem))
            (List.cons_ne_nil d front) (by simpa using no_zero)
          have positive : 0 < Nat.ofDigitChars 10 (d :: front) 0 := by
            rw [Nat.pos_iff_ne_zero]
            intro zero
            rw [zero, Nat.toDigits_zero] at before
            obtain ⟨rfl, -⟩ := List.cons.inj before
            exact no_zero rfl
          rw [← Nat.toDigits_append_toDigits (by omega) positive small, before,
            Nat.toDigits_of_lt_base small, spelled]

/-! ## Numerals

Filling up to a width puts zeros in front of the digits.  A numeral is cut there, into its zeros
and the digits behind them; the digits are settled by the number, and the zeros by the width. -/

theorem isDigit_of_mem_padded {width n : Nat} {c : Char} (mem : c ∈ padded width n) :
    c.isDigit = true := by
  rcases List.mem_append.mp mem with zero | digit
  · rw [List.eq_of_mem_replicate zero]
    decide
  · exact isDigit_of_mem_toDigits c digit

/-- A run of decimal digits that stands for a number.  Zeros stand in front of it only up to a
width. -/
structure IsNumeral (width : Nat) (digits : List Char) (n : Nat) : Prop where
  all_digits : ∀ c ∈ digits, c.isDigit = true
  value : Nat.ofDigitChars 10 digits 0 = n
  wide : width ≤ digits.length
  no_spare_zero : digits.length = width ∨ digits.head? ≠ some '0'

/-- What is printed up to a width is a numeral of that width. -/
theorem isNumeral_padded (width n : Nat) (some_width : 0 < width) :
    IsNumeral width (padded width n) n where
  all_digits _ mem := isDigit_of_mem_padded mem
  value := by
    rw [padded, Nat.ofDigitChars_append, Nat.ofDigitChars_replicate_zero, Nat.mul_zero,
      Nat.ofDigitChars_ten_toDigits]
  wide := by
    simp only [padded, List.length_append, List.length_replicate]
    omega
  no_spare_zero := by
    by_cases short : (Nat.toDigits 10 n).length ≤ width
    · left
      simp only [padded, List.length_append, List.length_replicate]
      omega
    · right
      have none_in_front : width - (Nat.toDigits 10 n).length = 0 := by omega
      simp only [padded, none_in_front, List.replicate_zero, List.nil_append]
      intro zero
      obtain ⟨ds, digits⟩ := List.head?_eq_some_iff.mp zero
      obtain rfl := eq_nil_of_toDigits_eq_zero_cons n digits
      rw [digits] at short
      simp only [List.length_singleton] at short
      omega

theorem exists_zeros (cs : List Char) :
    ∃ k rest, cs = List.replicate k '0' ++ rest ∧ rest.head? ≠ some '0' := by
  induction cs with
  | nil => exact ⟨0, [], rfl, by simp⟩
  | cons c cs ih =>
      by_cases zero : c = '0'
      · obtain ⟨k, rest, rfl, no_zero⟩ := ih
        exact ⟨k + 1, rest, by rw [zero, List.replicate_succ, List.cons_append], no_zero⟩
      · exact ⟨0, c :: cs, rfl, by simpa using zero⟩

/-- There is one numeral of a width for each number. -/
theorem IsNumeral.eq_padded {width n : Nat} {digits : List Char}
    (numeral : IsNumeral width digits n) (some_width : 0 < width) : digits = padded width n := by
  obtain ⟨all_digits, rfl, wide, no_spare_zero⟩ := numeral
  obtain ⟨k, rest, rfl, no_zero⟩ := exists_zeros digits
  have value : Nat.ofDigitChars 10 (List.replicate k '0' ++ rest) 0 =
      Nat.ofDigitChars 10 rest 0 := by
    rw [Nat.ofDigitChars_append, Nat.ofDigitChars_replicate_zero, Nat.mul_zero]
  simp only [List.length_append, List.length_replicate] at wide no_spare_zero
  -- Zeros stand in front only if they fill the width.
  have fills : k = 0 ∨ k + rest.length = width := by
    rcases no_spare_zero with full | no_zero'
    · exact .inr full
    · left
      cases k with
      | zero => rfl
      | succ k => exact absurd rfl no_zero'
  rw [padded, value]
  by_cases empty : rest = []
  · subst empty
    have all_zero : k = width - 1 + 1 := by
      simp only [List.length_nil] at wide fills
      omega
    rw [Nat.ofDigitChars_nil, Nat.toDigits_zero, List.append_nil, List.length_singleton,
      ← List.replicate_succ', ← all_zero]
  · have spelled : Nat.toDigits 10 (Nat.ofDigitChars 10 rest 0) = rest :=
      toDigits_ofDigitChars (fun c mem => all_digits c (List.mem_append_right _ mem)) empty no_zero
    have front : k = width - rest.length := by omega
    rw [spelled, ← front]

end VersionStamp
