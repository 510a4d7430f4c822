/-
# VersionStamp.Rendered — what a target file holds and what it shall hold

Each of the two target files is first rendered: its present text is read and its new text computed,
and nothing is written.  Whether the file changes, and how, is then a matter of comparing the two.

The header holds three definitions and nothing else, and its text is made anew every time.  Of the
grammar only the literals of three constants are replaced.
-/
import VersionStamp.Constant
import VersionStamp.Diff.Unified

namespace VersionStamp

namespace Header

/-- One definition of a quoted value. -/
def define (name value : String) : String := s!"#define {name} \"{value}\"\n"

/-- The whole header. -/
def content (s : Stamp) : String :=
  define "RELEASE_VERSION" s.release ++ define "MANIFEST_DATE" s.manifestDate ++
    define "MANIFEST_ISODATE" s.manifestIsoDate

end Header

/-- The two target files. -/
inductive Target where
  | header
  | grammar
  deriving DecidableEq, Repr

/-- What a target file is called in messages. -/
def Target.name : Target → String
  | header => "C header"
  | grammar => "Go grammar"

/-- A target file's present and new text.  A file that does not exist has no present text. -/
structure Rendered where
  target : Target
  path : String
  previous : Option String
  content : String
  substitutions : List Substitution
  deriving DecidableEq, Repr

namespace Rendered

/-- The file would not be the same after writing. -/
def isChanged (r : Rendered) : Bool := r.previous ≠ some r.content

/-- The change in unified format; a file that does not exist is shown as empty. -/
def diff (r : Rendered) (label : String) : String :=
  Diff.unified label (r.previous.getD "") r.content

end Rendered

end VersionStamp
