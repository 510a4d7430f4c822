/-
# VersionStamp.Proofs.Normalizing — which commits get a stamp, and what it says

A commit has to say when it was made and what it releases.  `IsDated` and `IsReleased` say what is
asked of either text, as a grammar of places in it, and `ofCommit_accepts_grammar` that a commit is
accepted exactly if its texts are of this kind, that the stamp carries the tokens and the trimmed
version as they stand there, and which fault is reported otherwise.

The grammar admits every year of the calendar, and the years with a sign do not have the form that
the files are meant to have.  `date_forms_iff` says what the written dates look like, year by year.
-/
import VersionStamp.Proofs.Blanks
import VersionStamp.Proofs.Spelling
import VersionStamp.Stamp

namespace VersionStamp.Stamp

open Text

variable {fullDate raw : String} {record : CommitRecord} {s : Stamp} {d : Date} {t : Time}

/-! ## What a commit has to say

Two conditions on texts, neither of which mentions a stamp: both can be checked on what git has
printed. -/

/-- The text begins with a day and a time of day that exist. -/
def IsDated (fullDate : String) : Prop :=
  ∃ date time year month day hour minute second, OpensWith fullDate.toList date time ∧
    SpellsDate date year month day ∧ SpellsTime time hour minute second

/-- Without the white space around it, the text can stand between quotes on one line, and there is
something left. -/
def IsReleased (raw : String) : Prop :=
  ∃ text, Trims raw.toList text ∧ text ≠ [] ∧ ∀ c ∈ text, c ∉ ['"', '\\', '\n', '\r']

/-! ## What is read

Each check of `ofCommit` is put next to its grammar.  The date is looked at first; the failure for
the version therefore implies that the date was good. -/

theorem moment?_eq_some_iff :
    moment? fullDate = some (d, t) ↔ ∃ date time, OpensWith fullDate.toList date time ∧
      SpellsDate date d.year d.month d.day ∧ SpellsTime time t.hour t.minute t.second := by
  unfold moment?
  constructor
  · intro read
    split at read
    · next date time ws split =>
      split at read
      · next d' t' is_date is_time =>
        obtain ⟨rfl, rfl⟩ := Prod.mk.inj (Option.some.inj read)
        exact ⟨date, time, opensWith_iff.mpr ⟨ws, split⟩, Date.ofText?_eq_some_iff.mp is_date,
          Time.ofText?_eq_some_iff.mp is_time⟩
      · exact nomatch read
    · exact nomatch read
  · rintro ⟨date, time, opens, spells_date, spells_time⟩
    obtain ⟨ws, split⟩ := opensWith_iff.mp opens
    rw [split]
    simp only [Date.ofText?_eq_some_iff.mpr spells_date, Time.ofText?_eq_some_iff.mpr spells_time]

theorem moment?_isSome_iff : (moment? fullDate).isSome ↔ IsDated fullDate := by
  constructor
  · intro read
    obtain ⟨⟨d, t⟩, moment⟩ := Option.isSome_iff_exists.mp read
    obtain ⟨date, time, opens, spells_date, spells_time⟩ := moment?_eq_some_iff.mp moment
    exact ⟨date, time, d.year, d.month, d.day, t.hour, t.minute, t.second, opens, spells_date,
      spells_time⟩
  · rintro ⟨date, time, year, month, day, hour, minute, second, opens, spells_date, spells_time⟩
    have moment : moment? fullDate = some (⟨year, month, day, spells_date.is_day⟩,
        ⟨hour, minute, second, spells_time.is_time⟩) :=
      moment?_eq_some_iff.mpr ⟨date, time, opens, spells_date, spells_time⟩
    rw [moment]
    rfl

theorem isPlain_iff {c : Char} : isPlain c = true ↔ c ∉ ['"', '\\', '\n', '\r'] := by
  simp [isPlain, and_assoc]

theorem isRelease_trimmed_iff : IsRelease (trimmed raw) ↔ IsReleased raw := by
  have nonempty : trimmed raw ≠ "" ↔ trim raw.toList ≠ [] := by
    rw [trimmed]
    simp
  rw [IsRelease, nonempty, List.all_eq_true, trimmed, String.toList_ofList]
  constructor
  · rintro ⟨some_text, plain⟩
    exact ⟨_, trims_iff.mpr rfl, some_text, fun c mem => isPlain_iff.mp (plain c mem)⟩
  · rintro ⟨text, trims, some_text, plain⟩
    rw [trims_iff.mp trims]
    exact ⟨some_text, fun c mem => isPlain_iff.mpr (plain c mem)⟩

theorem ofCommit_eq_ok_iff : ofCommit record = .ok s ↔
    moment? record.fullDate = some (s.date, s.time) ∧
      trimmed record.releaseVersion = s.release := by
  unfold ofCommit
  cases moment : moment? record.fullDate with
  | none => exact iff_of_false (fun made => nomatch made) (fun h => nomatch h.1)
  | some read =>
      obtain ⟨d, t⟩ := read
      dsimp only
      constructor
      · intro made
        split at made
        · obtain rfl := Except.ok.inj made
          exact ⟨rfl, rfl⟩
        · exact nomatch made
      · rintro ⟨same, released⟩
        obtain ⟨rfl, rfl⟩ := Prod.mk.inj (Option.some.inj same)
        have is_release : IsRelease (trimmed record.releaseVersion) := released ▸ s.is_release
        obtain ⟨release, date, time, _⟩ := s
        subst released
        rw [dif_pos is_release]

theorem ofCommit_eq_malformedDate_iff :
    ofCommit record = .error (.malformedDate record.fullDate) ↔
      (moment? record.fullDate).isNone := by
  unfold ofCommit
  cases moment : moment? record.fullDate with
  | none => exact iff_of_true rfl rfl
  | some read =>
      refine iff_of_false (fun failed => ?_) (by simp)
      dsimp only at failed
      split at failed
      · exact nomatch failed
      · exact nomatch failed

theorem ofCommit_eq_invalidReleaseVersion_iff :
    ofCommit record = .error (.invalidReleaseVersion record.releaseVersion) ↔
      (moment? record.fullDate).isSome ∧ ¬ IsRelease (trimmed record.releaseVersion) := by
  unfold ofCommit
  cases moment : moment? record.fullDate with
  | none => exact iff_of_false (fun failed => nomatch failed) (by simp)
  | some read =>
      dsimp only
      split
      · next is_release => exact iff_of_false (fun failed => nomatch failed) (by simp [is_release])
      · next not_release => exact iff_of_true rfl (by simp [not_release])

/-! ## What is accepted

The stamp of an accepted commit writes the two tokens as they came, since dates and times have one
spelling each.  So the stamp is told by the tokens, and acceptance by the grammar. -/

theorem exists_tokens (accepted : ofCommit record = .ok s) :
    ∃ date time, OpensWith record.fullDate.toList date time ∧
      SpellsDate date s.date.year s.date.month s.date.day ∧
      SpellsTime time s.time.hour s.time.minute s.time.second ∧
      s.manifestDate.toList = date ++ ' ' :: time ∧
      s.manifestIsoDate.toList = undashed date := by
  obtain ⟨date, time, opens, spells_date, spells_time⟩ :=
    moment?_eq_some_iff.mp (ofCommit_eq_ok_iff.mp accepted).1
  refine ⟨date, time, opens, spells_date, spells_time, ?_, ?_⟩
  · rw [Date.eq_text_of_spellsDate spells_date, Time.eq_text_of_spellsTime spells_time,
      manifestDate, String.toList_ofList]
  · rw [Date.eq_text_of_spellsDate spells_date, manifestIsoDate, String.toList_ofList, undashed]

theorem exists_ofCommit_eq_ok_iff : (∃ s, ofCommit record = .ok s) ↔
    IsDated record.fullDate ∧ IsReleased record.releaseVersion := by
  rw [← moment?_isSome_iff, ← isRelease_trimmed_iff]
  constructor
  · rintro ⟨s, accepted⟩
    obtain ⟨moment, released⟩ := ofCommit_eq_ok_iff.mp accepted
    exact ⟨by rw [moment]; rfl, released ▸ s.is_release⟩
  · rintro ⟨dated, is_release⟩
    obtain ⟨⟨d, t⟩, moment⟩ := Option.isSome_iff_exists.mp dated
    exact ⟨⟨_, d, t, is_release⟩, ofCommit_eq_ok_iff.mpr ⟨moment, rfl⟩⟩

/-- A commit is accepted exactly if its date begins with a day and a time that exist and its version
can be released.  The stamp then has the two tokens and the trimmed version.  Of two faults the one
in the date is reported, and each is reported with the text as it came. -/
theorem ofCommit_accepts_grammar (record : CommitRecord) :
    ((∃ s, ofCommit record = .ok s) ↔
      IsDated record.fullDate ∧ IsReleased record.releaseVersion) ∧
    (∀ s, ofCommit record = .ok s ↔ ∃ date time, OpensWith record.fullDate.toList date time ∧
      SpellsDate date s.date.year s.date.month s.date.day ∧
      SpellsTime time s.time.hour s.time.minute s.time.second ∧
      Trims record.releaseVersion.toList s.release.toList ∧
      s.manifestDate.toList = date ++ ' ' :: time ∧
      s.manifestIsoDate.toList = date.filter (· ≠ '-')) ∧
    (ofCommit record = .error (.malformedDate record.fullDate) ↔ ¬ IsDated record.fullDate) ∧
    (ofCommit record = .error (.invalidReleaseVersion record.releaseVersion) ↔
      IsDated record.fullDate ∧ ¬ IsReleased record.releaseVersion) := by
  refine ⟨exists_ofCommit_eq_ok_iff, fun s => ?_, ?_, ?_⟩
  · constructor
    · intro accepted
      obtain ⟨date, time, opens, spells_date, spells_time, manifest, iso⟩ :=
        exists_tokens accepted
      have trims : Trims record.releaseVersion.toList s.release.toList := by
        rw [trims_iff, ← (ofCommit_eq_ok_iff.mp accepted).2, trimmed, String.toList_ofList]
      exact ⟨date, time, opens, spells_date, spells_time, trims, manifest, iso⟩
    · rintro ⟨date, time, opens, spells_date, spells_time, trims, -, -⟩
      refine ofCommit_eq_ok_iff.mpr ⟨?_, ?_⟩
      · exact moment?_eq_some_iff.mpr ⟨date, time, opens, spells_date, spells_time⟩
      · rw [trimmed, trims_iff.mp trims, String.ofList_toList]
  · rw [ofCommit_eq_malformedDate_iff, ← moment?_isSome_iff]
    simp
  · rw [ofCommit_eq_invalidReleaseVersion_iff, moment?_isSome_iff, isRelease_trimmed_iff]

/-! ## What the dates look like

Everything here hangs on the year.  Its spelling decides whether the date looks like a date, and
its sign is all that is lost with the hyphens. -/

variable {record' : CommitRecord} {s' : Stamp}

/-- The year of an accepted date tells its form.  The dates have the common form in the years 0 to
9999 and no others; the compact form is eight digits in the years -9999 to 9999; and two different
dates have one compact form exactly if they are the same day of a year and its negative, and no
plus tells them apart. -/
theorem date_forms_iff (accepted : ofCommit record = .ok s)
    (accepted' : ofCommit record' = .ok s') :
    ∃ date time date' time', OpensWith record.fullDate.toList date time ∧
      OpensWith record'.fullDate.toList date' time' ∧
      SpellsDate date s.date.year s.date.month s.date.day ∧
      (HasDateForm date ↔ 0 ≤ s.date.year ∧ s.date.year ≤ 9999) ∧
      (HasMomentForm s.manifestDate.toList ↔ 0 ≤ s.date.year ∧ s.date.year ≤ 9999) ∧
      (IsDigits 8 s.manifestIsoDate.toList ↔ -9999 ≤ s.date.year ∧ s.date.year ≤ 9999) ∧
      (s.manifestIsoDate = s'.manifestIsoDate ↔ date = date' ∨
        s.date.year = -s'.date.year ∧ s.date.year ≤ 9999 ∧ s'.date.year ≤ 9999 ∧
          s.date.month = s'.date.month ∧ s.date.day = s'.date.day) := by
  obtain ⟨date, time, opens, spells, spells_time, manifest, iso⟩ := exists_tokens accepted
  obtain ⟨date', time', opens', spells', -, -, iso'⟩ := exists_tokens accepted'
  refine ⟨date, time, date', time', opens, opens', spells, spells.hasDateForm_iff, ?_, ?_, ?_⟩
  · rw [manifest, spells_time.hasTimeForm.hasMomentForm_iff, spells.hasDateForm_iff]
  · rw [iso, spells.isDigits_undashed_iff]
  · have same_iff : s.manifestIsoDate = s'.manifestIsoDate ↔ undashed date = undashed date' := by
      rw [← iso, ← iso', String.toList_inj]
    rw [same_iff]
    constructor
    · intro same
      obtain ⟨years | opposite, months, days⟩ := (spells.undashed_eq_iff spells').mp same
      · left
        rw [spells.eq_spelling, spells'.eq_spelling, years, months, days]
      · exact .inr ⟨opposite.1, opposite.2.1, opposite.2.2, months, days⟩
    · rintro (rfl | ⟨opposite, early, early', months, days⟩)
      · rfl
      · exact (spells.undashed_eq_iff spells').mpr ⟨.inr ⟨opposite, early, early'⟩, months, days⟩

/-- The first moment of a year. -/
def newYear (year : Int) (exists_day : IsDay year 1 1) : Stamp :=
  ⟨"1.0", ⟨year, 1, 1, exists_day⟩, ⟨0, 0, 0, by decide⟩, by decide⟩

/-- A day before the year 0 is accepted.  Its date does not have the common form, and its compact
form is the one of the same day after the year 0. -/
theorem date_forms_iff_of_negative :
    let early := newYear (-1) (by decide)
    let late := newYear 1 (by decide)
    ofCommit ⟨"c0ffee", "-0001-01-01 00:00:00 +0000", "1.0"⟩ = .ok early ∧
      ofCommit ⟨"c0ffee", "0001-01-01 00:00:00 +0000", "1.0"⟩ = .ok late ∧
      ¬ HasMomentForm early.manifestDate.toList ∧ early.manifestDate ≠ late.manifestDate ∧
      early.manifestIsoDate = late.manifestIsoDate := by
  intro early late
  have accepted : ofCommit ⟨"c0ffee", "-0001-01-01 00:00:00 +0000", "1.0"⟩ = .ok early := by
    decide +kernel
  have accepted' : ofCommit ⟨"c0ffee", "0001-01-01 00:00:00 +0000", "1.0"⟩ = .ok late := by
    decide +kernel
  obtain ⟨date, time, date', time', -, -, -, -, form_iff, -, compact_iff⟩ :=
    date_forms_iff accepted accepted'
  refine ⟨accepted, accepted', ?_, by decide +kernel, ?_⟩
  · rw [form_iff]
    decide
  · rw [compact_iff]
    right
    decide

end VersionStamp.Stamp
