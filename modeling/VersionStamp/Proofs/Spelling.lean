/-
# VersionStamp.Proofs.Spelling — which tokens spell a date or a time

A reader of dates guesses a date from the places of the digits and lets the guess stand if it is
spelled like the token.  What it accepts is said here without a guess and without printing: a year
is four digits, or more of them after a plus, or at least four after a minus; a month, a day, an
hour, a minute and a second are two digits each; and the day or the time has to exist (`SpellsDate`,
`SpellsTime`).  A token is read as a date exactly if it spells that date
(`Date.ofText?_eq_some_iff`), and so for times.

Not every date looks like `YYYY-MM-DD` then.  `hasDateForm_iff` says that those of the years 0 to
9999 do and no other, and the last section says what is left of a date without its hyphens: eight
digits in the years -9999 to 9999, in which a year and its negative can no longer be told apart
(`undashed_eq_iff`).
-/
import Mathlib.Data.List.Basic
import VersionStamp.Proofs.Numerals

namespace VersionStamp

/-! ## The grammar

A token spells a date or a time if it is put together from numerals of the right width and the day
or the time exists.  Nothing here is printed or guessed at, so that the grammar can be held against
what the reader of dates does. -/

/-- A run of so many decimal digits. -/
structure IsDigits (count : Nat) (cs : List Char) : Prop where
  length_eq : cs.length = count
  all_digits : ∀ c ∈ cs, c.isDigit = true

/-- Two digits that stand for a number. -/
structure IsTwoDigits (digits : List Char) (n : Nat) : Prop extends IsDigits 2 digits where
  value : Nat.ofDigitChars 10 digits 0 = n

/-- The text spells a year: four digits, or more with a plus, or a negative year with a minus. -/
inductive SpellsYear : List Char → Int → Prop
  | plain {digits : List Char} {y : Nat} (numeral : IsNumeral 4 digits y)
      (four : digits.length = 4) : SpellsYear digits y
  | late {digits : List Char} {y : Nat} (numeral : IsNumeral 4 digits y) (late : 9999 < y) :
      SpellsYear ('+' :: digits) y
  | early {digits : List Char} {y : Nat} (numeral : IsNumeral 4 digits y) (early : 0 < y) :
      SpellsYear ('-' :: digits) (-y)

/-- The text spells a day that exists. -/
inductive SpellsDate : List Char → Int → Nat → Nat → Prop
  | of {y m d : List Char} {year : Int} {month day : Nat} (spells_year : SpellsYear y year)
      (spells_month : IsTwoDigits m month) (spells_day : IsTwoDigits d day)
      (is_day : IsDay year month day) : SpellsDate (y ++ '-' :: m ++ '-' :: d) year month day

/-- The text spells a time of day. -/
inductive SpellsTime : List Char → Nat → Nat → Nat → Prop
  | of {h m s : List Char} {hour minute second : Nat} (spells_hour : IsTwoDigits h hour)
      (spells_minute : IsTwoDigits m minute) (spells_second : IsTwoDigits s second)
      (is_time : IsTime hour minute second) :
      SpellsTime (h ++ ':' :: m ++ ':' :: s) hour minute second

theorem SpellsDate.is_day {cs : List Char} {year : Int} {month day : Nat}
    (spells : SpellsDate cs year month day) : IsDay year month day := by
  cases spells with
  | of spells_year spells_month spells_day is_day => exact is_day

theorem SpellsTime.is_time {cs : List Char} {hour minute second : Nat}
    (spells : SpellsTime cs hour minute second) : IsTime hour minute second := by
  cases spells with
  | of spells_hour spells_minute spells_second is_time => exact is_time

/-! ## Numerals of a given width

A number printed with leading zeros has the width asked for exactly if it is small enough, and any
two digits are the numeral of their number.  That is all the grammar has to know about `padded`. -/

theorem length_padded (width : Nat) {n : Nat} (some_width : 0 < width)
    (small : n < Nat.pow 10 width) : (padded width n).length = width := by
  have short : (Nat.toDigits 10 n).length ≤ width :=
    (Nat.length_toDigits_le_iff (by omega) some_width).mpr small
  simp only [padded, List.length_append, List.length_replicate]
  omega

theorem lt_of_length_padded (width : Nat) {n : Nat} (some_width : 0 < width)
    (full : (padded width n).length = width) : n < Nat.pow 10 width := by
  refine (Nat.length_toDigits_le_iff (by omega) some_width).mp ?_
  simp only [padded, List.length_append, List.length_replicate] at full
  omega

theorem isTwoDigits_padded {n : Nat} (small : n < 100) : IsTwoDigits (padded 2 n) n where
  length_eq := length_padded 2 (by omega) small
  all_digits _ mem := isDigit_of_mem_padded mem
  value := (isNumeral_padded 2 n (by omega)).value

theorem IsTwoDigits.eq_padded {digits : List Char} {n : Nat} (two_digits : IsTwoDigits digits n) :
    digits = padded 2 n :=
  have numeral : IsNumeral 2 digits n :=
    ⟨two_digits.all_digits, two_digits.value, Nat.le_of_eq two_digits.length_eq.symm,
      .inl two_digits.length_eq⟩
  numeral.eq_padded (by omega)

theorem IsTwoDigits.exists_eq_pair {digits : List Char} {n : Nat}
    (two_digits : IsTwoDigits digits n) : ∃ tens units, digits = [tens, units] :=
  List.length_eq_two.mp two_digits.length_eq

/-! ## Dates

There is one spelling for each date, the one it is printed with: every part of the grammar leaves a
single numeral for its number.  The reader's guess goes by the last six places alone, so at the
spelling of a date it finds that date, and since it prints what it has guessed and compares, it
accepts nothing else. -/

theorem spellsYear_yearText (year : Int) : SpellsYear (yearText year) year := by
  unfold yearText
  cases year with
  | ofNat y =>
      have numeral := isNumeral_padded 4 y (by omega)
      dsimp only
      split
      · next small => exact .plain numeral (length_padded 4 (by omega) small)
      · next late => exact .late numeral (by omega)
  | negSucc y =>
      have numeral := isNumeral_padded 4 (y + 1) (by omega)
      exact .early numeral (by omega)

theorem SpellsYear.eq_yearText {cs : List Char} {year : Int} (spells : SpellsYear cs year) :
    cs = yearText year := by
  cases spells with
  | @plain _ y numeral four =>
      obtain rfl := numeral.eq_padded (by omega)
      have small : y < 10000 := lt_of_length_padded 4 (by omega) four
      exact (if_pos small).symm
  | @late digits y numeral late =>
      obtain rfl := numeral.eq_padded (by omega)
      have large : ¬ y < 10000 := by omega
      exact (if_neg large).symm
  | @early digits y numeral early =>
      obtain rfl := numeral.eq_padded (by omega)
      obtain ⟨before, rfl⟩ := Nat.exists_eq_succ_of_ne_zero (Nat.pos_iff_ne_zero.mp early)
      rfl

theorem IsDay.bounds {year : Int} {month day : Nat} (is_day : IsDay year month day) :
    month < 100 ∧ day < 100 := by
  obtain ⟨-, -, some_day, within⟩ := is_day
  unfold daysInMonth at within
  split at within
  any_goals omega
  split at within
  · omega
  · omega

/-- There is one spelling for each date. -/
theorem SpellsDate.eq_spelling {cs : List Char} {year : Int} {month day : Nat}
    (spells : SpellsDate cs year month day) :
    cs = yearText year ++ '-' :: padded 2 month ++ '-' :: padded 2 day := by
  cases spells with
  | of spells_year spells_month spells_day is_day =>
      rw [← spells_year.eq_yearText, ← spells_month.eq_padded, ← spells_day.eq_padded]

namespace Date

variable {cs : List Char} {d : Date}

theorem spellsDate_text (d : Date) : SpellsDate d.text d.year d.month d.day := by
  obtain ⟨small_month, small_day⟩ := IsDay.bounds d.exists_day
  exact .of (spellsYear_yearText d.year) (isTwoDigits_padded small_month)
    (isTwoDigits_padded small_day) d.exists_day

theorem eq_text_of_spellsDate (spells : SpellsDate cs d.year d.month d.day) : cs = d.text := by
  rw [spells.eq_spelling, text]

theorem yearOfText_of_spellsYear {year : Int} (spells : SpellsYear cs year) :
    yearOfText cs = year := by
  cases spells with
  | @plain _ y numeral four =>
      unfold yearOfText
      split
      · exact absurd (numeral.all_digits '-' (by simp)) (by decide)
      · exact absurd (numeral.all_digits '+' (by simp)) (by decide)
      · rw [numeral.value]
  | late numeral late => rw [yearOfText, numeral.value]
  | early numeral early => rw [yearOfText, numeral.value]

theorem guess?_append (y : List Char) (m₁ m₂ d₁ d₂ : Char) :
    guess? (y ++ ['-', m₁, m₂, '-', d₁, d₂]) =
      ofNumbers? (yearOfText y) (Nat.ofDigitChars 10 [m₁, m₂] 0)
        (Nat.ofDigitChars 10 [d₁, d₂] 0) := by
  have places : (y ++ ['-', m₁, m₂, '-', d₁, d₂]).length - 6 = y.length := by simp
  simp only [guess?, places, List.drop_left, List.take_left]

theorem guess?_of_spellsDate (spells : SpellsDate cs d.year d.month d.day) :
    guess? cs = some d := by
  generalize year_eq : d.year = year, month_eq : d.month = month, day_eq : d.day = day at spells
  cases spells with
  | @of y m n _ _ _ spells_year spells_month spells_day is_day =>
      obtain ⟨m₁, m₂, rfl⟩ := spells_month.exists_eq_pair
      obtain ⟨d₁, d₂, rfl⟩ := spells_day.exists_eq_pair
      rw [List.append_assoc]
      subst year_eq month_eq day_eq
      refine (guess?_append y m₁ m₂ d₁ d₂).trans ?_
      rw [yearOfText_of_spellsYear spells_year, spells_month.value, spells_day.value, ofNumbers?,
        dif_pos is_day]

/-- A token is read as a date exactly if it spells that date. -/
theorem ofText?_eq_some_iff : ofText? cs = some d ↔ SpellsDate cs d.year d.month d.day := by
  constructor
  · intro read
    rw [← text_of_ofText? read]
    exact spellsDate_text d
  · intro spells
    rw [ofText?, guess?_of_spellsDate spells, eq_text_of_spellsDate spells]
    simp

end Date

/-! ## Times of day

As for dates.  The parts of a time have fixed places, so the guess needs no lemma of its own. -/

namespace Time

variable {cs : List Char} {t : Time}

theorem spellsTime_text (t : Time) : SpellsTime t.text t.hour t.minute t.second := by
  obtain ⟨hour, minute, second⟩ := t.exists_time
  exact .of (isTwoDigits_padded (by omega)) (isTwoDigits_padded (by omega))
    (isTwoDigits_padded (by omega)) t.exists_time

theorem eq_text_of_spellsTime (spells : SpellsTime cs t.hour t.minute t.second) :
    cs = t.text := by
  generalize hour_eq : t.hour = hour, minute_eq : t.minute = minute, second_eq : t.second = second
    at spells
  cases spells with
  | of spells_hour spells_minute spells_second is_time =>
      rw [spells_hour.eq_padded, spells_minute.eq_padded, spells_second.eq_padded, ← hour_eq,
        ← minute_eq, ← second_eq, text]

theorem guess?_of_spellsTime (spells : SpellsTime cs t.hour t.minute t.second) :
    guess? cs = some t := by
  generalize hour_eq : t.hour = hour, minute_eq : t.minute = minute, second_eq : t.second = second
    at spells
  cases spells with
  | of spells_hour spells_minute spells_second is_time =>
      obtain ⟨h₁, h₂, rfl⟩ := spells_hour.exists_eq_pair
      obtain ⟨m₁, m₂, rfl⟩ := spells_minute.exists_eq_pair
      obtain ⟨s₁, s₂, rfl⟩ := spells_second.exists_eq_pair
      subst hour_eq minute_eq second_eq
      simp only [List.cons_append, List.nil_append, guess?, spells_hour.value,
        spells_minute.value, spells_second.value, ofNumbers?, dif_pos is_time]

/-- A token is read as a time exactly if it spells that time. -/
theorem ofText?_eq_some_iff : ofText? cs = some t ↔ SpellsTime cs t.hour t.minute t.second := by
  constructor
  · intro read
    rw [← text_of_ofText? read]
    exact spellsTime_text t
  · intro spells
    rw [ofText?, guess?_of_spellsTime spells, eq_text_of_spellsTime spells]
    simp

end Time

/-! ## The common form

Of the parts of a date and a time only the year can be spelled with more than its digits.  Whether
the whole looks like `YYYY-MM-DD HH:MM:SS` is therefore a question about the year, and it is passed
on from the year to the date and from the date to both. -/

/-- `YYYY-MM-DD`. -/
inductive HasDateForm : List Char → Prop
  | of {y m d : List Char} (year : IsDigits 4 y) (month : IsDigits 2 m) (day : IsDigits 2 d) :
      HasDateForm (y ++ '-' :: m ++ '-' :: d)

/-- `HH:MM:SS`. -/
inductive HasTimeForm : List Char → Prop
  | of {h m s : List Char} (hour : IsDigits 2 h) (minute : IsDigits 2 m) (second : IsDigits 2 s) :
      HasTimeForm (h ++ ':' :: m ++ ':' :: s)

/-- `YYYY-MM-DD HH:MM:SS`. -/
inductive HasMomentForm : List Char → Prop
  | of {date time : List Char} (has_date : HasDateForm date) (has_time : HasTimeForm time) :
      HasMomentForm (date ++ ' ' :: time)

theorem SpellsTime.hasTimeForm {cs : List Char} {hour minute second : Nat}
    (spells : SpellsTime cs hour minute second) : HasTimeForm cs := by
  cases spells with
  | of spells_hour spells_minute spells_second is_time =>
      exact .of spells_hour.toIsDigits spells_minute.toIsDigits spells_second.toIsDigits

theorem SpellsYear.isDigits_iff {cs : List Char} {year : Int} (spells : SpellsYear cs year) :
    IsDigits 4 cs ↔ 0 ≤ year ∧ year ≤ 9999 := by
  cases spells with
  | @plain _ y numeral four =>
      have small : y < 10000 := by
        obtain rfl := numeral.eq_padded (by omega)
        exact lt_of_length_padded 4 (by omega) four
      exact iff_of_true ⟨four, numeral.all_digits⟩ (by omega)
  | late numeral late =>
      refine iff_of_false (fun digits => ?_) (by omega)
      exact absurd (digits.all_digits '+' List.mem_cons_self) (by decide)
  | early numeral early =>
      refine iff_of_false (fun digits => ?_) (by omega)
      exact absurd (digits.all_digits '-' List.mem_cons_self) (by decide)

/-- The dates of the years with four digits have the common form, and no others. -/
theorem SpellsDate.hasDateForm_iff {cs : List Char} {year : Int} {month day : Nat}
    (spells : SpellsDate cs year month day) : HasDateForm cs ↔ 0 ≤ year ∧ year ≤ 9999 := by
  cases spells with
  | @of y m d _ _ _ spells_year spells_month spells_day is_day =>
      rw [← spells_year.isDigits_iff]
      constructor
      · intro form
        generalize same : y ++ '-' :: m ++ '-' :: d = cs at form
        cases form with
        | @of y' m' d' year' month' day' =>
            -- Month and day have two digits on either side, so the years stand at the same place.
            have lengths := congrArg List.length same
            simp only [List.length_append, List.length_cons, spells_month.length_eq,
              spells_day.length_eq, month'.length_eq, day'.length_eq] at lengths
            rw [List.append_assoc, List.append_assoc] at same
            rwa [(List.append_inj same (by omega)).1]
      · intro four
        exact .of four spells_month.toIsDigits spells_day.toIsDigits

theorem HasTimeForm.length_eq {cs : List Char} (has_time : HasTimeForm cs) : cs.length = 8 := by
  cases has_time with
  | of hour minute second =>
      simp only [List.length_append, List.length_cons, hour.length_eq, minute.length_eq,
        second.length_eq]

theorem HasTimeForm.hasMomentForm_iff {date time : List Char} (has_time : HasTimeForm time) :
    HasMomentForm (date ++ ' ' :: time) ↔ HasDateForm date := by
  constructor
  · intro form
    generalize same : date ++ ' ' :: time = cs at form
    cases form with
    | @of date' time' has_date' has_time' =>
        have lengths := congrArg List.length same
        simp only [List.length_append, List.length_cons, has_time.length_eq,
          has_time'.length_eq] at lengths
        rwa [(List.append_inj same (by omega)).1]
  · intro has_date
    exact .of has_date has_time

/-! ## Dates without their hyphens

The hyphens between the parts of a date can be taken out without loss, since month and day have two
digits each.  The minus of a negative year cannot: `-0001` and `0001` are left with the same
digits, while a plus stays.  So a date is told from the text without hyphens up to the sign of its
year. -/

/-- A text without its hyphens. -/
def undashed (cs : List Char) : List Char := cs.filter (· ≠ '-')

theorem undashed_eq_self {cs : List Char} (all_digits : ∀ c ∈ cs, c.isDigit = true) :
    undashed cs = cs := by
  refine List.filter_eq_self.mpr fun c mem => ?_
  have digit := all_digits c mem
  rw [decide_eq_true_iff]
  rintro rfl
  exact absurd digit (by decide)

theorem undashed_append (cs ds : List Char) : undashed (cs ++ ds) = undashed cs ++ undashed ds :=
  List.filter_append ..

theorem undashed_cons_dash (cs : List Char) : undashed ('-' :: cs) = undashed cs :=
  List.filter_cons_of_neg (by decide)

theorem undashed_padded (width n : Nat) : undashed (padded width n) = padded width n :=
  undashed_eq_self fun _ mem => isDigit_of_mem_padded mem

theorem undashed_yearText (year : Int) :
    undashed (yearText year) =
      if 9999 < year then '+' :: padded 4 year.natAbs else padded 4 year.natAbs := by
  unfold yearText
  cases year with
  | ofNat y =>
      dsimp only
      by_cases small : y < 10000
      · have early : ¬ 9999 < Int.ofNat y := by simp only [Int.ofNat_eq_natCast]; omega
        rw [if_pos small, if_neg early]
        exact undashed_padded 4 y
      · have late : 9999 < Int.ofNat y := by simp only [Int.ofNat_eq_natCast]; omega
        rw [if_neg small, if_pos late, undashed, List.filter_cons_of_pos (by decide)]
        exact congrArg ('+' :: ·) (undashed_padded 4 y)
  | negSucc y =>
      rw [if_neg (by omega), undashed_cons_dash]
      exact undashed_padded 4 (y + 1)

theorem padded_inj {width n n' : Nat} (some_width : 0 < width)
    (same : padded width n = padded width n') : n = n' := by
  rw [← (isNumeral_padded width n some_width).value, same,
    (isNumeral_padded width n' some_width).value]

/-- Without hyphens, two years look alike if they are the same or one is the negative of the other,
and no plus tells them apart. -/
theorem undashed_yearText_eq_iff (year year' : Int) :
    undashed (yearText year) = undashed (yearText year') ↔
      year = year' ∨ year = -year' ∧ year ≤ 9999 ∧ year' ≤ 9999 := by
  have no_plus (n : Nat) (digits : List Char) : padded 4 n ≠ '+' :: digits := by
    intro same
    have mem : '+' ∈ padded 4 n := same ▸ List.mem_cons_self
    exact absurd (isDigit_of_mem_padded mem) (by decide)
  have natAbs_eq (n n' : Int) : padded 4 n.natAbs = padded 4 n'.natAbs ↔ n.natAbs = n'.natAbs :=
    ⟨padded_inj (by omega), congrArg (padded 4)⟩
  rw [undashed_yearText, undashed_yearText]
  split_ifs with late late' late'
  · rw [List.cons_inj_right, natAbs_eq]
    omega
  · exact iff_of_false (fun same => no_plus _ _ same.symm) (by omega)
  · exact iff_of_false (no_plus _ _) (by omega)
  · rw [natAbs_eq]
    omega

theorem SpellsDate.undashed_eq {cs : List Char} {year : Int} {month day : Nat}
    (spells : SpellsDate cs year month day) :
    undashed cs = undashed (yearText year) ++ (padded 2 month ++ padded 2 day) := by
  rw [spells.eq_spelling, undashed_append, undashed_append, undashed_cons_dash,
    undashed_cons_dash, undashed_padded, undashed_padded, List.append_assoc]

theorem length_month_day {month day : Nat} {year : Int} (is_day : IsDay year month day) :
    (padded 2 month ++ padded 2 day).length = 4 := by
  obtain ⟨small_month, small_day⟩ := is_day.bounds
  rw [List.length_append, (isTwoDigits_padded small_month).length_eq,
    (isTwoDigits_padded small_day).length_eq]

/-- Without hyphens, two dates look alike exactly if they are the same day of the same year, or of
a year and its negative. -/
theorem SpellsDate.undashed_eq_iff {cs cs' : List Char} {year year' : Int}
    {month month' day day' : Nat} (spells : SpellsDate cs year month day)
    (spells' : SpellsDate cs' year' month' day') :
    undashed cs = undashed cs' ↔
      (year = year' ∨ year = -year' ∧ year ≤ 9999 ∧ year' ≤ 9999) ∧ month = month' ∧
        day = day' := by
  have four := length_month_day spells.is_day
  have four' := length_month_day spells'.is_day
  have two := (isTwoDigits_padded spells.is_day.bounds.1).length_eq
  have two' := (isTwoDigits_padded spells'.is_day.bounds.1).length_eq
  rw [spells.undashed_eq, spells'.undashed_eq, ← undashed_yearText_eq_iff]
  constructor
  · intro same
    obtain ⟨years, month_days⟩ := List.append_inj' same (four.trans four'.symm)
    obtain ⟨months, days⟩ := List.append_inj month_days (two.trans two'.symm)
    exact ⟨years, padded_inj (by omega) months, padded_inj (by omega) days⟩
  · rintro ⟨years, rfl, rfl⟩
    rw [years]

/-- Without hyphens, a date is eight digits in the years up to 9999, before or after the year 0. -/
theorem SpellsDate.isDigits_undashed_iff {cs : List Char} {year : Int} {month day : Nat}
    (spells : SpellsDate cs year month day) :
    IsDigits 8 (undashed cs) ↔ -9999 ≤ year ∧ year ≤ 9999 := by
  have four := length_month_day spells.is_day
  rw [spells.undashed_eq, undashed_yearText]
  split_ifs with late
  · refine iff_of_false (fun digits => ?_) (by omega)
    exact absurd (digits.all_digits '+' List.mem_cons_self) (by decide)
  · constructor
    · intro digits
      have length_eq := digits.length_eq
      rw [List.length_append, four] at length_eq
      have small : year.natAbs < 10000 := lt_of_length_padded 4 (by omega) (by omega)
      omega
    · intro bounds
      have small : year.natAbs < 10000 := by omega
      refine ⟨?_, List.forall_mem_append.mpr ⟨?_, List.forall_mem_append.mpr ⟨?_, ?_⟩⟩⟩
      · rw [List.length_append, four, length_padded 4 (by omega) small]
      · exact fun _ mem => isDigit_of_mem_padded mem
      · exact fun _ mem => isDigit_of_mem_padded mem
      · exact fun _ mem => isDigit_of_mem_padded mem

end VersionStamp
