/-
# VersionStamp.Program — the program as its caller sees it

From the arguments, the files and git to an exit code, two printed texts, the calls to git and the
files that are left.  Wrong arguments end the program before git is asked or a file is looked at.
-/
import VersionStamp.CommandLine.Reader

namespace VersionStamp.Program

/-- What the caller sees of a run. -/
structure Ended where
  exitCode : Nat
  stdout : String
  stderr : String
  calls : List Call
  tree : FileTree

/-- The exit code for wrong arguments. -/
def usageExitCode : Nat := 2

/-- Runs the program with some arguments. -/
def run (w : Workspace) (git : Git) (arguments : List String) : Ended :=
  match CommandLine.read arguments with
  | .error e => ⟨usageExitCode, "", e.text, [], w.tree⟩
  | .ok (.print text) => ⟨0, text, "", [], w.tree⟩
  | .ok (.run request) =>
    let outcome := Update.run w git request
    match outcome.result with
    | .ok () => ⟨0, outcome.stdout, "", outcome.calls, outcome.tree⟩
    | .error failure =>
      ⟨failure.exitCode.toNat, outcome.stdout, failure.printed, outcome.calls, outcome.tree⟩

end VersionStamp.Program
