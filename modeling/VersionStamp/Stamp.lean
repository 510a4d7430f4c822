/-
# VersionStamp.Stamp — the values both target files carry

A commit record is what git answered, as text.  A stamp is what may be written: a release version
that can stand between quotes, a day that exists and a time of day.  Both written forms of the date
are printed from the same `Date`, so the two files cannot disagree about it.
-/
import VersionStamp.Calendar
import VersionStamp.Failure
import VersionStamp.Text.Blank

namespace VersionStamp

/-- What git answers about one commit. -/
structure CommitRecord where
  sha : String
  fullDate : String
  releaseVersion : String
  deriving DecidableEq, Repr

/-- The character may stand between the quotes of a literal as itself, on one line. -/
def isPlain (c : Char) : Bool := c ≠ '"' && c ≠ '\\' && c ≠ '\n' && c ≠ '\r'

/-- The text can be a release version: it is not empty and all its characters are plain. -/
abbrev IsRelease (s : String) : Prop := s ≠ "" ∧ s.toList.all isPlain

/-- A release version and the moment of its commit. -/
structure Stamp where
  release : String
  date : Date
  time : Time
  is_release : IsRelease release
  deriving DecidableEq

namespace Stamp

/-- Date and time without a zone. -/
def manifestDate (s : Stamp) : String := String.ofList (s.date.text ++ ' ' :: s.time.text)

/-- The digits of the date. -/
def manifestIsoDate (s : Stamp) : String := String.ofList (s.date.text.filter (· ≠ '-'))

/-- The day and the time that a commit date begins with; what follows the two words is not read. -/
def moment? (fullDate : String) : Option (Date × Time) :=
  match Text.words fullDate.toList with
  | date :: time :: _ =>
    match Date.ofText? date, Time.ofText? time with
    | some d, some t => some (d, t)
    | _, _ => none
  | _ => none

/-- The stamp of a commit.  Of two faults, the one in the date is reported. -/
def ofCommit (record : CommitRecord) : Except Failure Stamp :=
  match moment? record.fullDate with
  | none => .error (.malformedDate record.fullDate)
  | some (date, time) =>
    let release := Text.trimmed record.releaseVersion
    if h : IsRelease release then .ok ⟨release, date, time, h⟩
    else .error (.invalidReleaseVersion record.releaseVersion)

end Stamp

end VersionStamp
