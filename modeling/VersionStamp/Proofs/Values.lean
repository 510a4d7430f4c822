/-
# VersionStamp.Proofs.Values — what a stamp writes between quotes

A value is put into a text that is searched again, so two things matter about it: it holds no quote,
and it is not taken for the beginning of an assignment.  The dates end in a digit and so are never
leads.  The release version is any line without quotes; it is trimmed, so it can only be a lead if
it ends in `=`.
-/
import VersionStamp.Proofs.Assignment
import VersionStamp.Proofs.Normalizing

namespace VersionStamp

/-! ## The spelling of dates and times

A date or a time is made of digits and four marks, and ends in a digit.  None of these is a quote
or a control, so the text of it can stand between quotes. -/

theorem exists_padded_eq_concat (width n : Nat) :
    ∃ front digit, padded width n = front ++ [digit] ∧ digit.isDigit = true := by
  have some_digit : padded width n ≠ [] := by simp [padded, Nat.toDigits_ne_nil]
  refine ⟨_, _, (List.dropLast_append_getLast some_digit).symm, ?_⟩
  exact isDigit_of_mem_padded (List.getLast_mem some_digit)

/-- A character that stands in a date or a time. -/
def IsDateChar (c : Char) : Prop := c.isDigit = true ∨ c ∈ ['-', '+', ':', ' ']

theorem isDateChar_of_mem_padded {width n : Nat} {c : Char} (mem : c ∈ padded width n) :
    IsDateChar c := .inl (isDigit_of_mem_padded mem)

theorem isDateChar_of_mem_yearText {year : Int} {c : Char} (mem : c ∈ yearText year) :
    IsDateChar c := by
  unfold yearText at mem
  split at mem
  · split at mem
    · exact isDateChar_of_mem_padded mem
    · rcases List.mem_cons.mp mem with rfl | mem
      · exact .inr (by decide)
      · exact isDateChar_of_mem_padded mem
  · rcases List.mem_cons.mp mem with rfl | mem
    · exact .inr (by decide)
    · exact isDateChar_of_mem_padded mem

theorem Date.isDateChar_of_mem_text {d : Date} {c : Char} (mem : c ∈ d.text) : IsDateChar c := by
  simp only [Date.text, List.mem_append, List.mem_cons] at mem
  rcases mem with (mem | rfl | mem) | rfl | mem
  · exact isDateChar_of_mem_yearText mem
  · exact .inr (by decide)
  · exact isDateChar_of_mem_padded mem
  · exact .inr (by decide)
  · exact isDateChar_of_mem_padded mem

theorem Time.isDateChar_of_mem_text {t : Time} {c : Char} (mem : c ∈ t.text) : IsDateChar c := by
  simp only [Time.text, List.mem_append, List.mem_cons] at mem
  rcases mem with (mem | rfl | mem) | rfl | mem
  · exact isDateChar_of_mem_padded mem
  · exact .inr (by decide)
  · exact isDateChar_of_mem_padded mem
  · exact .inr (by decide)
  · exact isDateChar_of_mem_padded mem

theorem IsDateChar.isPlain {c : Char} (h : IsDateChar c) : isPlain c = true := by
  refine Stamp.isPlain_iff.mpr fun special => ?_
  simp only [List.mem_cons, List.not_mem_nil, or_false] at special
  unfold IsDateChar at h
  rcases special with rfl | rfl | rfl | rfl
  · exact absurd h (by decide)
  · exact absurd h (by decide)
  · exact absurd h (by decide)
  · exact absurd h (by decide)

namespace Stamp

/-! ## The values of a stamp

A stamp has three values, two of them dates.  The third is the release version of a commit, trimmed
and checked; if it was not accepted there is no stamp. -/

theorem exists_manifestDate_eq_concat (s : Stamp) :
    ∃ front digit, s.manifestDate.toList = front ++ [digit] ∧ digit.isDigit = true := by
  obtain ⟨front, digit, spelled, is_digit⟩ := exists_padded_eq_concat 2 s.time.second
  refine ⟨s.date.text ++ ' ' :: (padded 2 s.time.hour ++ ':' :: padded 2 s.time.minute ++
    ':' :: front), digit, ?_, is_digit⟩
  simp [manifestDate, Time.text, spelled]

theorem exists_manifestIsoDate_eq_concat (s : Stamp) :
    ∃ front digit, s.manifestIsoDate.toList = front ++ [digit] ∧ digit.isDigit = true := by
  obtain ⟨front, digit, spelled, is_digit⟩ := exists_padded_eq_concat 2 s.date.day
  have no_hyphen : digit ≠ '-' := by
    rintro rfl
    exact absurd is_digit (by decide)
  refine ⟨(yearText s.date.year ++ '-' :: padded 2 s.date.month ++ '-' :: front).filter (· ≠ '-'),
    digit, ?_, is_digit⟩
  simp [manifestIsoDate, Date.text, spelled, List.filter_append, no_hyphen]

theorem ofCommit_eq_error {record : CommitRecord} {failure : Failure}
    (rejected : ofCommit record = .error failure) :
    failure = .malformedDate record.fullDate ∨
      failure = .invalidReleaseVersion record.releaseVersion := by
  unfold ofCommit at rejected
  cases moment : moment? record.fullDate with
  | none =>
      rw [moment] at rejected
      exact .inl (Except.error.inj rejected).symm
  | some read =>
      rw [moment] at rejected
      dsimp only at rejected
      split at rejected
      · cases rejected
      · exact .inr (Except.error.inj rejected).symm

theorem release_of_ofCommit {record : CommitRecord} {s : Stamp}
    (accepted : ofCommit record = .ok s) : s.release = Text.trimmed record.releaseVersion :=
  (ofCommit_eq_ok_iff.mp accepted).2.symm

theorem isBlank_getLast?_release {record : CommitRecord} {s : Stamp}
    (accepted : ofCommit record = .ok s) :
    ∀ c ∈ s.release.toList.getLast?, Text.isBlank c = false := by
  rw [release_of_ofCommit accepted]
  intro c last
  simp only [Text.trimmed, Text.trim, Text.trimEnd, String.toList_ofList,
    List.getLast?_reverse] at last
  have := List.head?_dropWhile_not Text.isBlank
    (Text.trimStart record.releaseVersion.toList).reverse
  rw [Option.mem_def] at last
  simpa [last] using this

end Stamp

namespace Constant

/-- A value can stand between quotes, on one line. -/
theorem isPlain_of_mem_value {c : Constant} {s : Stamp} {ch : Char}
    (mem : ch ∈ (c.value s).toList) : isPlain ch = true := by
  cases c with
  | releaseVersion => exact List.all_eq_true.mp s.is_release.2 ch mem
  | manifestDate =>
      simp only [value, Stamp.manifestDate, String.toList_ofList, List.mem_append,
        List.mem_cons] at mem
      rcases mem with mem | rfl | mem
      · exact (Date.isDateChar_of_mem_text mem).isPlain
      · decide
      · exact (Time.isDateChar_of_mem_text mem).isPlain
  | manifestIsoDate =>
      simp only [value, Stamp.manifestIsoDate, String.toList_ofList, List.mem_filter] at mem
      exact (Date.isDateChar_of_mem_text mem.1).isPlain

theorem quote_free_value (c : Constant) (s : Stamp) : '"' ∉ (c.value s).toList := by
  intro mem
  exact absurd (isPlain_of_mem_value mem) (by decide)

/-! ## Values that are leads

A piece is a lead by how it ends: in `=` and blanks.  Dates end in a digit and an accepted release
version does not end in a blank, so `=` as its last character is the one way in which a value can
be a lead. -/

theorem isSign_of_isLead {name piece : List Char} (named : IsName name)
    (is_lead : isLead name piece = true) :
    ∀ c ∈ piece.getLast?, c = '=' ∨ Text.isBlank c = true := by
  obtain ⟨before, lead, rfl, -, blank₁, blank₂⟩ := (isLead_iff named).mp is_lead
  rename_i gap₁ gap₂
  intro c last
  rw [← List.append_assoc, List.getLast?_append_of_ne_nil _ (List.cons_ne_nil _ _)] at last
  rcases List.mem_cons.mp (List.mem_of_getLast? last) with rfl | mem
  · exact .inl rfl
  · exact .inr (blank₂ c mem)

theorem isBlank_of_isDigit {c : Char} (is_digit : c.isDigit = true) : Text.isBlank c = false := by
  have bounds : 48 ≤ c.toNat ∧ c.toNat ≤ 57 := Char.isDigit_iff_toNat.mp is_digit
  simp only [Text.isBlank, Text.Ranges.contains, Text.blankRanges, List.any_eq_false]
  intro range mem
  simp only [List.mem_cons, List.not_mem_nil, or_false] at mem
  rcases mem with rfl | rfl | rfl | rfl | rfl | rfl | rfl | rfl | rfl | rfl <;> simp <;> omega

theorem not_isLead_of_ends_in_digit {name front : List Char} {digit : Char} (named : IsName name)
    (is_digit : digit.isDigit = true) : ¬ isLead name (front ++ [digit]) = true := by
  intro is_lead
  rcases isSign_of_isLead named is_lead digit (by simp) with rfl | blank
  · exact absurd is_digit (by decide)
  · rw [isBlank_of_isDigit is_digit] at blank
    exact Bool.false_ne_true blank

theorem not_isLead_date {c : Constant} (dated : c ≠ releaseVersion) (s : Stamp) (d : Constant) :
    ¬ isLead d.name.toList (c.value s).toList = true := by
  cases c with
  | releaseVersion => exact absurd rfl dated
  | manifestDate =>
      obtain ⟨front, digit, spelled, is_digit⟩ := s.exists_manifestDate_eq_concat
      rw [value, spelled]
      exact not_isLead_of_ends_in_digit (isName_name d) is_digit
  | manifestIsoDate =>
      obtain ⟨front, digit, spelled, is_digit⟩ := s.exists_manifestIsoDate_eq_concat
      rw [value, spelled]
      exact not_isLead_of_ends_in_digit (isName_name d) is_digit

/-- A value is no lead, unless it is a release version that ends in `=`. -/
theorem not_isLead_value {record : CommitRecord} {s : Stamp}
    (accepted : Stamp.ofCommit record = .ok s) (no_sign : s.release.toList.getLast? ≠ some '=')
    (c d : Constant) : ¬ isLead d.name.toList (c.value s).toList = true := by
  by_cases dated : c = releaseVersion
  · subst dated
    intro is_lead
    have ink := Stamp.isBlank_getLast?_release accepted
    have sign := isSign_of_isLead (isName_name d) is_lead
    cases last : s.release.toList.getLast? with
    | none =>
        rw [List.getLast?_eq_none_iff] at last
        exact s.is_release.1 (String.toList_eq_nil_iff.mp last)
    | some c =>
        rcases sign c last with rfl | blank
        · exact no_sign last
        · exact absurd blank (by simp [ink c last])
  · exact not_isLead_date dated s d

end Constant

end VersionStamp
