/-
# VersionStamp.Layout — where the source repository and the target files are

The program runs in the root of the downstream checkout.  The source repository is expected beside
it, and can be named instead:

    <parent>/pikchr     source repository
    <parent>/gopikchr   downstream checkout
      c/VERSION.h
      internal/pikchr.y
-/
import VersionStamp.Failure
import VersionStamp.Workspace

namespace VersionStamp

/-- The paths of one run. -/
structure Layout where
  root : String
  source : String
  deriving DecidableEq, Repr

namespace Layout

/-- The name of the source repository beside the downstream checkout. -/
def sourceName : String := "pikchr"

/-- The path of the source repository.  One that is named is read from the root. -/
def sourcePath (root : String) (named : Option String) : String :=
  match named with
  | some path => Path.join root path
  | none =>
    match Path.parent? root with
    | some parent => Path.join parent sourceName
    | none => Path.join (Path.join root "..") sourceName

/-- The layout around a root, if its source repository is a directory. -/
def discover (w : Workspace) (root : String) (named : Option String) :
    Except Failure Layout :=
  let source := sourcePath root named
  if w.isDirectory source then .ok ⟨root, source⟩
  else .error (.repositoryNotFound source)

/-- The header with the version definitions. -/
def versionHeader (l : Layout) : String := Path.join l.root "c/VERSION.h"

/-- The grammar with the version constants. -/
def grammarFile (l : Layout) : String := Path.join l.root "internal/pikchr.y"

end Layout

end VersionStamp
