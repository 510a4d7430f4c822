/-
# VersionStamp.Failure — everything that can go wrong, and how it is told

A `Failure` is a cause.  What is printed about it is computed from the cause: its message, a hint
for the operator, the chain of causes beneath it, and the exit code of the process.

What was being attempted when a cause arose is told by *contexts*.  Only causes that say nothing
about it themselves, failures of input and output and plain messages, collect contexts; every other
cause already names its subject, and `inContext` leaves it as it is.  A context is added to a
failure itself, or to a result that may be one (`inAttempt`).
-/
import VersionStamp.IoError
import VersionStamp.Text.Quoted

namespace VersionStamp

/-- The exit codes of a run that failed. -/
inductive ExitCode where
  /-- The operator's mistake. -/
  | user
  /-- The system's refusal: git, input and output. -/
  | system
  /-- Metadata or a target file that does not have the expected form. -/
  | validation
  deriving DecidableEq, Repr

/-- The number that the process ends with. -/
def ExitCode.toNat : ExitCode → Nat
  | user => 1
  | system => 2
  | validation => 3

/-- A cause of failure. -/
inductive Failure where
  /-- Git ran and reported a failure of its own. -/
  | commandFailed (command stderr : String)
  /-- There is no repository at the path. -/
  | repositoryNotFound (path : String)
  /-- The identifier names no commit. -/
  | commitNotFound (commit : String)
  /-- The commit date does not begin with a date and a time. -/
  | malformedDate (raw : String)
  /-- The release version cannot stand between quotes. -/
  | invalidReleaseVersion (raw : String)
  /-- The grammar file assigns a constant nowhere. -/
  | constantNotFound (path constant : String)
  /-- A first file was written, and then a second could not be. -/
  | partialWrite (updated stale : String) (cause : Failure)
  /-- Input or output failed; the contexts stand newest first. -/
  | io (cause : IoError) (contexts : List String)
  /-- A message with an optional hint; the contexts stand newest first. -/
  | message (text : String) (hint : Option String) (contexts : List String)
  deriving DecidableEq, Repr

namespace Failure

/-- Adds what was being attempted, to the causes that do not tell it themselves. -/
def inContext (context : String) : Failure → Failure
  | io cause contexts => io cause (context :: contexts)
  | message text hint contexts => message text hint (context :: contexts)
  | failure => failure

/-- Input or output failed in an attempt at something. -/
def attempting (purpose : String) (cause : IoError) : Failure := (io cause []).inContext purpose

/-- A report could not be written as JSON, or read as such. -/
def ofJsonError (text : String) : Failure :=
  message s!"JSON error: {text}"
    (some "The --json report could not be serialized; rerun without --json.") []

end Failure

/-! ## Results in an attempt at something

A context is added to a result as it is to a failure: a value is left alone, and a cause is told as
a failure first.  The two forms differ only in when the context is put into words, which is for a
failure alone in the second. -/

/-- Causes that can be told as failures. -/
class Cause (ε : Type) where
  asFailure : ε → Failure

instance : Cause Failure := ⟨id⟩

instance : Cause IoError := ⟨fun cause => .io cause []⟩

section

variable {ε α : Type} [Cause ε]

/-- A result, with what was being attempted if it is a failure. -/
def inAttempt (purpose : String) (result : Except ε α) : Except Failure α :=
  result.mapError fun cause => (Cause.asFailure cause).inContext purpose

/-- As `inAttempt`, for a purpose that is put into words only if it is needed. -/
def inAttemptAt (purpose : Unit → String) (result : Except ε α) : Except Failure α :=
  result.mapError fun cause => (Cause.asFailure cause).inContext (purpose ())

theorem inAttemptAt_eq_mapError (purpose : String) (result : Except IoError α) :
    inAttemptAt (fun _ => purpose) result = result.mapError (.attempting purpose) := rfl

end

namespace Failure

/-! ## What is told

What is told of a failure goes by its kind.  Contexts show in the text and nowhere else, so that
the help, the exit code and the causes are the same however much was attempted. -/

/-- The text of a failure. -/
def text : Failure → String
  | commandFailed command stderr => s!"Git command failed: {command}\n{stderr}"
  | repositoryNotFound path => s!"pikchr repository not found at {path}"
  | commitNotFound commit => s!"Commit {commit} not found in pikchr repository"
  | malformedDate raw => s!"Malformed commit date: {Text.quoted raw}"
  | invalidReleaseVersion raw => s!"Invalid release version: {Text.quoted raw}"
  | constantNotFound path constant => s!"Constant {constant} not found in {path}"
  | partialWrite _ stale cause => s!"Failed to update {stale}: {cause.text}"
  | io cause [] => s!"I/O error: {cause.message}"
  | io cause contexts => "\n".intercalate contexts ++ ": " ++ cause.message
  | message text _ contexts => "\n".intercalate (text :: contexts)

/-- What the operator can do about it. -/
def help : Failure → Option String
  | commandFailed _ _ => none
  | repositoryNotFound _ => some <|
      "Expected directory structure:\n  <parent>/pikchr    (upstream repo)\n" ++
      "  <parent>/gopikchr  (this repo, run from here)\nor pass --upstream <DIR>."
  | commitNotFound _ => some
      "Fetch the upstream repository, or check the commit id with `git log` there."
  | malformedDate _ => some <|
      "The commit date is read with `git show -s --format=%ci`; " ++
      "check the upstream git version."
  | invalidReleaseVersion _ => some
      "VERSION must hold a single line without quotes or backslashes."
  | constantNotFound _ constant => some
      s!"Restore a `{constant} = \"...\"` assignment in the file; no files were modified."
  | partialWrite updated stale _ => some <|
      s!"{updated} is up to date but {stale} is stale. " ++
      "Fix the cause and rerun; the command is idempotent."
  | io _ _ => none
  | message _ hint _ => hint

/-- The exit code of the process. -/
def exitCode : Failure → ExitCode
  | commandFailed _ _ | repositoryNotFound _ | commitNotFound _ => .system
  | malformedDate _ | invalidReleaseVersion _ => .validation
  | constantNotFound _ _ => .validation
  | partialWrite _ _ _ => .system
  | io _ _ => .system
  | message _ _ _ => .user

/-- The texts of the causes beneath a failure, the nearest first. -/
def sources : Failure → List String
  | partialWrite _ _ cause => cause.text :: cause.sources
  | io cause _ => [cause.message]
  | _ => []

/-- What is printed when a run ends in this failure. -/
def printed (failure : Failure) : String :=
  let hint := match failure.help with
    | some help => s!"💡 Help: {help}\n"
    | none => ""
  s!"❌ Error: {failure.text}\n" ++ hint

end Failure

end VersionStamp
