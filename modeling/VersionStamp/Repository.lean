/-
# VersionStamp.Repository — what the source repository tells about a commit

A repository is opened once, and then asked for the id of a commit, its date, and a file as it was
at that commit.  `resolve` puts the answers together into a record.

A commit without a `VERSION` file, or with an empty one, has the release version 1.0.
-/
import VersionStamp.Git
import VersionStamp.Stamp
import VersionStamp.Text.Utf8

namespace VersionStamp

/-- The needle stands somewhere in the text. -/
def Text.holds (needle : List Char) : List Char → Bool
  | [] => needle.isEmpty
  | c :: cs => needle.isPrefixOf (c :: cs) || holds needle cs

/-- A repository that git has been asked about. -/
structure Repository where
  path : String
  deriving DecidableEq, Repr

namespace Repository

/-- The failure that git itself reports. -/
def reported (command : String) (reply : Reply) : Failure :=
  .commandFailed command (Text.trimmed (Text.lossyText reply.stderr))

/-- What git writes when there is no repository. -/
def noRepository : String := "not a git repository"

/-- Opens the repository in a directory. -/
def ofDirectory (git : Git) (path : String) : Conversation Repository := do
  let reply ← git.ask "Failed to execute git rev-parse"
    ⟨path, ["rev-parse", "--is-inside-work-tree"]⟩
  if reply.succeeded then return ⟨path⟩
  else if Text.holds noRepository.toList (Text.lossyText reply.stderr).toList then
    .ofExcept (.error (.repositoryNotFound path))
  else .ofExcept (.error (reported "git rev-parse --is-inside-work-tree" reply))

/-- The full id of the commit that a revision names, if it names one. -/
def commitId (r : Repository) (git : Git) (revision : String) :
    Conversation (Option String) := do
  let reply ← git.ask "Failed to run git rev-parse"
    ⟨r.path, ["rev-parse", "--verify", "--quiet", revision ++ "^\x7bcommit\x7d"]⟩
  let id := Text.trimmed (Text.lossyText reply.stdout)
  return if reply.succeeded ∧ id ≠ "" then some id else none

/-- The date of a commit. -/
def commitDate (r : Repository) (git : Git) (sha : String) : Conversation String := do
  let reply ← git.ask "Failed to get commit date" ⟨r.path, ["show", "-s", "--format=%ci", sha]⟩
  if reply.succeeded then
    return String.ofList (Text.trim (Text.firstLine (Text.lossyText reply.stdout).toList))
  else .ofExcept (.error (reported "git show -s --format=%ci" reply))

/-- The content of a file at a commit, if git shows one. -/
def fileAt (r : Repository) (git : Git) (sha file : String) :
    Conversation (Option ByteArray) := do
  let reply ← git.ask "Failed to read file from commit" ⟨r.path, ["show", s!"{sha}:{file}"]⟩
  return if reply.succeeded then some reply.stdout else none

/-- The release version of a commit that does not give one. -/
def defaultRelease : String := "1.0"

/-- The file that holds the release version. -/
def versionFile : String := "VERSION"

/-- The release version in the content of the version file. -/
def releaseOf (content : Option ByteArray) : String :=
  match content.map fun bytes => Text.trimmed (Text.lossyText bytes) with
  | none | some "" => defaultRelease
  | some release => release

/-- The revision is one that git can be asked about: one that begins with `-` would be taken for an
option. -/
def isRevision (revision : String) : Bool :=
  match revision.toList with
  | [] | '-' :: _ => false
  | _ => true

/-- All that is to be known about the commit that a revision names. -/
def resolve (r : Repository) (git : Git) (revision : String) : Conversation CommitRecord := do
  let found ← if isRevision revision then r.commitId git revision else pure none
  match found with
  | none => .ofExcept (.error (.commitNotFound revision))
  | some sha =>
    let fullDate ← r.commitDate git sha
    let content ← r.fileAt git sha versionFile
    return ⟨sha, fullDate, releaseOf content⟩

end Repository

end VersionStamp
