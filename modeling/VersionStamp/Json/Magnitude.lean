/-
# VersionStamp.Json.Magnitude — how large a number is

Readers of JSON keep a number in a floating-point word, which has 53 significant bits and ends just
below two to the power 1024.  A document with a number beyond that end is refused, so the reader has
to know how large a number is, though it keeps the spelling.

A magnitude is a significand that fits 64 bits and a power of ten.  Digits that no longer fit are
left out: before the point they count towards the power of ten, after it not at all.  The
floating-point value is the product of the two, each of them rounded, and rounded once more.
-/
import VersionStamp.Ratio

namespace VersionStamp.Json

/-- The value of a decimal digit. -/
def digitValue (d : Char) : Nat := d.toNat - '0'.toNat

/-- Appends digits to a significand as long as it fits 64 bits, and gives back those left out. -/
def appendDigits (significand : Nat) : List Char → Nat × List Char
  | [] => (significand, [])
  | d :: ds =>
    let next := significand * 10 + digitValue d
    if next < UInt64.size then appendDigits next ds else (significand, d :: ds)

/-- A number without its sign: the significand times ten to the exponent. -/
structure Magnitude where
  significand : Nat
  exponent : Int
  deriving DecidableEq, Repr

namespace Magnitude

/-- The magnitude that the digits before the point give. -/
def ofWhole (digits : List Char) : Magnitude :=
  let (significand, left) := appendDigits 0 digits
  ⟨significand, left.length⟩

/-- The magnitude with the digits after the point. -/
def withFraction (m : Magnitude) (digits : List Char) : Magnitude :=
  let (significand, left) := appendDigits m.significand digits
  ⟨significand, m.exponent - (digits.length - left.length : Nat)⟩

/-- The magnitude times a power of ten. -/
def scaled (m : Magnitude) (exponent : Int) : Magnitude :=
  { m with exponent := m.exponent + exponent }

/-- The largest power of ten that a floating-point word holds. -/
def exponentLimit : Int := 308

/-- Where floating-point words end. -/
def wordEnd : Ratio := .ofNat (Nat.pow 2 1024)

/-- The floating-point value of a number whose exponent is not negative, if words had no end. -/
def floating (m : Magnitude) : Ratio :=
  ((Ratio.ofNat m.significand).rounded *
    (Ratio.ofNat (Nat.pow 10 m.exponent.toNat)).rounded).rounded

/-- The number lies beyond the end of floating-point words.  One with a negative exponent never
does. -/
def isTooLarge (m : Magnitude) : Bool :=
  m.significand != 0 &&
    (exponentLimit < m.exponent || (0 ≤ m.exponent && m.floating.atLeast wordEnd))

end Magnitude

/-- The largest exponent that is spelled out; it fits 31 bits. -/
def spelledExponentLimit : Nat := 2147483647

/-- The value of the digits of an exponent, or the digits after the one that takes it beyond the
limit. -/
def exponentFrom (value : Nat) : List Char → Except (List Char) Nat
  | [] => .ok value
  | d :: ds =>
    let next := value * 10 + digitValue d
    if next ≤ spelledExponentLimit then exponentFrom next ds else .error ds

/-! ## What is kept

Digits are appended only as long as the significand fits, so it fits in the end, however many
digits there are. -/

theorem appendDigits_lt {significand : Nat} (fits : significand < UInt64.size)
    (digits : List Char) : (appendDigits significand digits).1 < UInt64.size := by
  induction digits generalizing significand with
  | nil => exact fits
  | cons d ds ih =>
      rw [appendDigits]
      split
      · next h => exact ih h
      · exact fits

/-- The significand of a number fits 64 bits. -/
theorem Magnitude.significand_ofWhole_lt (digits : List Char) :
    (Magnitude.ofWhole digits).significand < UInt64.size :=
  appendDigits_lt (by decide) digits

end VersionStamp.Json
