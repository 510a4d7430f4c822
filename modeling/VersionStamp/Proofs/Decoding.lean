/-
# VersionStamp.Proofs.Decoding — the header gives its stamp back

The header is printed and never read by the program, but a reader of it is promised something: each
line defines one value, and the value is what stands between its two quotes.  `Lists` says so of a
text without printing it, and `Lists.unique` that a text lists its values in one way only.  A value
with a quote or a line feed in it would break this; no stamp has one.

What was read off a header can be normalized again, and the same stamp comes out
(`content_decodes`).  So the written form is canonical: two stamps never share a header, and nothing
of a stamp is lost in it.
-/
import VersionStamp.Proofs.Values
import VersionStamp.Rendered

namespace VersionStamp

namespace Header

variable {line text value value' : List Char} {values values' : List String}

/-! ## Lines that quote a value each

A reader finds a value by its quotes and a line by its line feed.  A line in which nothing else is
quoted has one value, by the first quote and the next; and lines that hold no line feed can be told
apart, so a text has one list of values. -/

/-- The line has two quotes and no more, and this value stands between them. -/
inductive Quotes : List Char → List Char → Prop
  | of {front value back : List Char} (front_free : '"' ∉ front) (value_free : '"' ∉ value)
      (back_free : '"' ∉ back) : Quotes (front ++ '"' :: (value ++ '"' :: back)) value

/-- The text is one line after another, each with a line feed at its end, and each line quotes one
of the values, in order. -/
inductive Lists : List Char → List String → Prop
  | done : Lists [] []
  | line {line text : List Char} {value : String} {values : List String}
      (one_line : '\n' ∉ line) (quotes : Quotes line value.toList) (behind : Lists text values) :
      Lists (line ++ '\n' :: text) (value :: values)

theorem Quotes.unique (quotes : Quotes line value) (quotes' : Quotes line value') :
    value = value' := by
  cases quotes with
  | @of front value back front_free value_free _ =>
      generalize same : front ++ '"' :: (value ++ '"' :: back) = line at quotes'
      cases quotes' with
      | of front_free' value_free' _ =>
          obtain ⟨-, behind⟩ := Text.eq_of_append_cons_eq front_free front_free' same
          exact (Text.eq_of_append_cons_eq value_free value_free' behind).1

/-- A text lists its values in one way. -/
theorem Lists.unique (lists : Lists text values) (lists' : Lists text values') :
    values = values' := by
  induction lists generalizing values' with
  | done =>
      generalize nothing : ([] : List Char) = text at lists'
      cases lists' with
      | done => rfl
      | line => exact absurd nothing (by simp)
  | @line first rest value values one_line quotes behind ih =>
      generalize same : first ++ '\n' :: rest = text at lists'
      cases lists' with
      | done => exact absurd same (by simp)
      | line one_line' quotes' behind' =>
          obtain ⟨rfl, rfl⟩ := Text.eq_of_append_cons_eq one_line one_line' same
          rw [String.toList_injective (quotes.unique quotes'), ih behind']

/-! ## The header as such a text

None of the three values can hold a quote or a line feed: the release version is checked for it,
and dates and times are digits and marks between them.  So every line of the header is one that
quotes its value. -/

/-- The value can stand between quotes on one line. -/
structure IsQuotable (value : String) : Prop where
  quote_free : '"' ∉ value.toList
  one_line : '\n' ∉ value.toList

theorem toList_define (name value : String) : (define name value).toList =
    ("#define ".toList ++ name.toList ++ " ".toList) ++ '"' :: (value.toList ++ '"' :: ['\n']) := by
  simp [define, toString]

theorem lists_define (name : String) {value : String} (named : IsQuotable name)
    (quotable : IsQuotable value) (behind : Lists text values) :
    Lists ((define name value).toList ++ text) (value :: values) := by
  have front_free : '"' ∉ "#define ".toList ++ name.toList ++ " ".toList := by
    simp [named.quote_free]
  have quotes : Quotes (("#define ".toList ++ name.toList ++ " ".toList) ++
      '"' :: (value.toList ++ '"' :: [])) value.toList :=
    .of front_free quotable.quote_free List.not_mem_nil
  have one_line : '\n' ∉ ("#define ".toList ++ name.toList ++ " ".toList) ++
      '"' :: (value.toList ++ '"' :: []) := by
    simp [named.one_line, quotable.one_line]
  have lists := Lists.line one_line quotes behind
  rw [toList_define]
  simpa using lists

end Header

theorem Constant.isQuotable_value (c : Constant) (s : Stamp) : Header.IsQuotable (c.value s) where
  quote_free := c.quote_free_value s
  one_line := by
    intro mem
    exact absurd (isPlain_of_mem_value mem) (by decide)

namespace Header

theorem lists_content (s : Stamp) :
    Lists (content s).toList [s.release, s.manifestDate, s.manifestIsoDate] := by
  have release : IsQuotable s.release := Constant.releaseVersion.isQuotable_value s
  have manifest : IsQuotable s.manifestDate := Constant.manifestDate.isQuotable_value s
  have iso : IsQuotable s.manifestIsoDate := Constant.manifestIsoDate.isQuotable_value s
  have third := lists_define "MANIFEST_ISODATE" (by constructor <;> decide) iso .done
  have second := lists_define "MANIFEST_DATE" (by constructor <;> decide) manifest third
  have first := lists_define "RELEASE_VERSION" (by constructor <;> decide) release second
  simpa [content] using first

theorem lists_content_iff {s : Stamp} : Lists (content s).toList values ↔
    values = [s.release, s.manifestDate, s.manifestIsoDate] := by
  constructor
  · intro lists
    exact lists.unique (lists_content s)
  · rintro rfl
    exact lists_content s

end Header

namespace Stamp

open Text

variable {record : CommitRecord} {s s' : Stamp} {behind front back : List Char}

/-! ## Back from the values to the stamp

The values of a header were printed from a stamp and are put through the checks for the metadata of
a commit once more.  The date is read as itself, since it is spelled as the reader wants it, and
the release version was trimmed before, so trimming it again takes off only what was put around it.
-/

theorem moment_eq_of_manifestDate (same : s.manifestDate = s'.manifestDate) :
    s.date = s'.date ∧ s.time = s'.time := by
  have written : s.date.text ++ ' ' :: s.time.text = s'.date.text ++ ' ' :: s'.time.text := by
    simpa [manifestDate] using congrArg String.toList same
  -- A time has eight characters, so the blank stands at the same place in both.
  have eight := s.time.spellsTime_text.hasTimeForm.length_eq
  have eight' := s'.time.spellsTime_text.hasTimeForm.length_eq
  obtain ⟨dates, times⟩ := List.append_inj' written (by simp [eight, eight'])
  have read := Date.ofText?_eq_some_iff.mpr s.date.spellsDate_text
  have read' := Date.ofText?_eq_some_iff.mpr s'.date.spellsDate_text
  have told := Time.ofText?_eq_some_iff.mpr s.time.spellsTime_text
  have told' := Time.ofText?_eq_some_iff.mpr s'.time.spellsTime_text
  rw [dates] at read
  rw [(List.cons.inj times).2] at told
  exact ⟨Option.some.inj (read.symm.trans read'), Option.some.inj (told.symm.trans told')⟩

theorem eq_of_values (releases : s.release = s'.release)
    (dates : s.manifestDate = s'.manifestDate) : s = s' := by
  obtain ⟨date_eq, time_eq⟩ := moment_eq_of_manifestDate dates
  cases s with
  | mk release date time is_release =>
      cases s' with
      | mk release' date' time' is_release' =>
          simp only at releases date_eq time_eq
          subst releases date_eq time_eq
          rfl

theorem moment?_manifestDate (accepted : ofCommit record = .ok s) (ends : EndsWord behind) :
    moment? (String.ofList (s.manifestDate.toList ++ behind)) = some (s.date, s.time) := by
  obtain ⟨date, time, opens, spells_date, spells_time, written, -⟩ := exists_tokens accepted
  refine moment?_eq_some_iff.mpr ⟨date, time, ?_, spells_date, spells_time⟩
  generalize record.fullDate.toList = raw at opens
  cases opens with
  | of is_front is_first is_gap apart is_second ends' =>
      have one_blank : IsGap [' '] := List.forall_mem_singleton.mpr (by decide)
      have opens := OpensWith.of (List.forall_mem_nil _) is_first one_blank
        (List.cons_ne_nil ' ' []) is_second ends
      simpa [written] using opens

theorem trimmed_release (accepted : ofCommit record = .ok s) (is_front : IsGap front)
    (is_back : IsGap back) :
    trimmed (String.ofList (front ++ s.release.toList ++ back)) = s.release := by
  have trims : Trims record.releaseVersion.toList s.release.toList := by
    rw [trims_iff, ← (ofCommit_eq_ok_iff.mp accepted).2, trimmed, String.toList_ofList]
  generalize record.releaseVersion.toList = raw at trims
  generalize released : s.release.toList = release at trims
  cases trims with
  | of _ _ begins ends =>
      have trims := Trims.of is_front is_back begins ends
      rw [trimmed, String.toList_ofList, trims_iff.mp trims, ← released, String.ofList_toList]

end Stamp

open Text

/-- The header of an accepted commit is three lines, each with two quotes and with one of the values
between them; it lists nothing else, and no other stamp has the same header.  What was read off
it is accepted again and gives the same stamp: the date with nothing behind it, or with a blank
and anything else, and the release version with any blanks around it. -/
theorem Header.content_decodes {record : CommitRecord} {s : Stamp}
    (accepted : Stamp.ofCommit record = .ok s) :
    (∀ values, Lists (content s).toList values ↔
      values = [s.release, s.manifestDate, s.manifestIsoDate]) ∧
    (∀ s', content s' = content s → s' = s) ∧
    ∀ release moment iso, Lists (content s).toList [release, moment, iso] →
      ∀ sha front back behind, IsGap front → IsGap back → EndsWord behind →
        Stamp.ofCommit ⟨sha, String.ofList (moment.toList ++ behind),
          String.ofList (front ++ release.toList ++ back)⟩ = .ok s := by
  refine ⟨fun values => lists_content_iff, ?_, ?_⟩
  · intro s' same
    have lists := lists_content s'
    rw [same, lists_content_iff] at lists
    obtain ⟨releases, rest⟩ := List.cons.inj lists
    exact Stamp.eq_of_values releases (List.cons.inj rest).1
  · intro release moment iso lists sha front back behind is_front is_back ends
    obtain ⟨rfl, rest⟩ := List.cons.inj (lists_content_iff.mp lists)
    obtain ⟨rfl, -⟩ := List.cons.inj rest
    exact Stamp.ofCommit_eq_ok_iff.mpr
      ⟨Stamp.moment?_manifestDate accepted ends, Stamp.trimmed_release accepted is_front is_back⟩

/-- A leap second of a leap day before the year 0, and a version with blanks around it and in it. -/
theorem Header.content_decodes_early :
    ∃ s, Stamp.ofCommit ⟨"c0ffee", "-0004-02-29 23:59:60 +0100", "\u3000 2.0 β=\t"⟩ = .ok s ∧
      Lists (content s).toList ["2.0 β=", "-0004-02-29 23:59:60", "00040229"] ∧
      Stamp.ofCommit ⟨"", "-0004-02-29 23:59:60\u2003\"later\"", "\n2.0 β=\r\n"⟩ = .ok s := by
  let s : Stamp := ⟨"2.0 β=", ⟨-4, 2, 29, by decide⟩, ⟨23, 59, 60, by decide⟩, by decide⟩
  have accepted : Stamp.ofCommit
      ⟨"c0ffee", "-0004-02-29 23:59:60 +0100", "\u3000 2.0 β=\t"⟩ = .ok s := by decide +kernel
  obtain ⟨lists_iff, -, again⟩ := content_decodes accepted
  have values : [s.release, s.manifestDate, s.manifestIsoDate] =
      ["2.0 β=", "-0004-02-29 23:59:60", "00040229"] := by decide +kernel
  have lists := (lists_iff _).mpr values.symm
  refine ⟨s, accepted, lists, ?_⟩
  have is_front : IsGap ['\n'] := List.forall_mem_singleton.mpr (by decide)
  have is_back : IsGap ['\r', '\n'] := List.forall_mem_cons.mpr ⟨by decide, is_front⟩
  have ends : EndsWord "\u2003\"later\"".toList := by
    rintro c ⟨rfl⟩
    decide
  exact again _ _ _ lists "" _ _ _ is_front is_back ends

end VersionStamp
