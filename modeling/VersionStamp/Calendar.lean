/-
# VersionStamp.Calendar — dates and times of day, and the one way to write each

A commit date arrives as text and leaves as text.  In between it is a `Date` of the proleptic
Gregorian calendar and a `Time` of day, so that a token counts as a date only if that day exists.

Each value has exactly one spelling, `Date.text` and `Time.text`.  The readers `Date.ofText?` and
`Time.ofText?` accept a token only if it is that spelling of some value: a value is guessed from the
digits, and the guess stands if it is spelled like the token.  So a reader never has to list the
forms that are wrong (a missing zero, a stray sign, a digit of another script).
-/

namespace VersionStamp

/-! ## Numbers in decimal -/

/-- The decimal digits of a number, with zeros in front up to the given width. -/
def padded (width n : Nat) : List Char :=
  let digits := Nat.toDigits 10 n
  List.replicate (width - digits.length) '0' ++ digits

/-! ## Dates -/

/-- Every fourth year is a leap year, except the centuries that 400 does not divide. -/
def isLeapYear (year : Int) : Bool :=
  year % 4 == 0 && (year % 100 != 0 || year % 400 == 0)

/-- The number of days of a month; none for a month that does not exist. -/
def daysInMonth (year : Int) (month : Nat) : Nat :=
  match month with
  | 1 | 3 | 5 | 7 | 8 | 10 | 12 => 31
  | 4 | 6 | 9 | 11 => 30
  | 2 => if isLeapYear year then 29 else 28
  | _ => 0

/-- The first and the last year that the calendar covers. -/
def firstYear : Int := -262143

@[inherit_doc firstYear]
def lastYear : Int := 262142

/-- The day exists. -/
abbrev IsDay (year : Int) (month day : Nat) : Prop :=
  firstYear ≤ year ∧ year ≤ lastYear ∧ 1 ≤ day ∧ day ≤ daysInMonth year month

/-- A day of the proleptic Gregorian calendar, with a year 0. -/
structure Date where
  year : Int
  month : Nat
  day : Nat
  exists_day : IsDay year month day
  deriving DecidableEq

/-- A year of four digits stands as it is; any other has a sign and at least four digits. -/
def yearText (year : Int) : List Char :=
  match year with
  | .ofNat y => if y < 10000 then padded 4 y else '+' :: padded 4 y
  | .negSucc y => '-' :: padded 4 (y + 1)

namespace Date

/-- The spelling of a date: year, month and day, joined by hyphens. -/
def text (d : Date) : List Char :=
  yearText d.year ++ '-' :: padded 2 d.month ++ '-' :: padded 2 d.day

/-- The day with these numbers, if there is one. -/
def ofNumbers? (year : Int) (month day : Nat) : Option Date :=
  if h : IsDay year month day then some ⟨year, month, day, h⟩ else none

/-- The year that a run of digits with an optional sign stands for. -/
def yearOfText : List Char → Int
  | '-' :: digits => -(Nat.ofDigitChars 10 digits 0 : Int)
  | '+' :: digits => Nat.ofDigitChars 10 digits 0
  | digits => Nat.ofDigitChars 10 digits 0

/-- The date a token would be, going by the places of its digits alone. -/
def guess? (cs : List Char) : Option Date :=
  let yearPlaces := cs.length - 6
  match cs.drop yearPlaces with
  | ['-', m₁, m₂, '-', d₁, d₂] =>
    ofNumbers? (yearOfText (cs.take yearPlaces))
      (Nat.ofDigitChars 10 [m₁, m₂] 0) (Nat.ofDigitChars 10 [d₁, d₂] 0)
  | _ => none

/-- The date that a token spells. -/
def ofText? (cs : List Char) : Option Date :=
  (guess? cs).filter fun d => d.text == cs

/-- Only the spelling of a date is read as that date. -/
theorem text_of_ofText? {cs : List Char} {d : Date} (h : ofText? cs = some d) : d.text = cs := by
  simp only [ofText?, Option.filter_eq_some_iff, beq_iff_eq] at h
  exact h.2

end Date

/-! ## Times of day -/

/-- A time of day exists; a minute may end in a leap second. -/
abbrev IsTime (hour minute second : Nat) : Prop := hour < 24 ∧ minute < 60 ∧ second ≤ 60

/-- A time of day, to the second. -/
structure Time where
  hour : Nat
  minute : Nat
  second : Nat
  exists_time : IsTime hour minute second
  deriving DecidableEq

namespace Time

/-- The spelling of a time: two digits each, joined by colons. -/
def text (t : Time) : List Char :=
  padded 2 t.hour ++ ':' :: padded 2 t.minute ++ ':' :: padded 2 t.second

/-- The time with these numbers, if there is one. -/
def ofNumbers? (hour minute second : Nat) : Option Time :=
  if h : IsTime hour minute second then some ⟨hour, minute, second, h⟩ else none

/-- The time a token would be, going by the places of its digits alone. -/
def guess? : List Char → Option Time
  | [h₁, h₂, ':', m₁, m₂, ':', s₁, s₂] =>
    ofNumbers? (Nat.ofDigitChars 10 [h₁, h₂] 0) (Nat.ofDigitChars 10 [m₁, m₂] 0)
      (Nat.ofDigitChars 10 [s₁, s₂] 0)
  | _ => none

/-- The time that a token spells. -/
def ofText? (cs : List Char) : Option Time :=
  (guess? cs).filter fun t => t.text == cs

/-- Only the spelling of a time is read as that time. -/
theorem text_of_ofText? {cs : List Char} {t : Time} (h : ofText? cs = some t) : t.text = cs := by
  simp only [ofText?, Option.filter_eq_some_iff, beq_iff_eq] at h
  exact h.2

end Time

end VersionStamp
