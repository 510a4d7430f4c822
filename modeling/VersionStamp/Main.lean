/-
# VersionStamp.Main — the program on a real file system

Everything is decided by `Program.run`, which works on a tree in memory.  Here the part of the file
system that a run can look at is read into such a tree, and the files that differ afterwards are
written back.  What git answers is read from standard input as a transcript; without one, git counts
as missing, and a text that is no transcript ends the program before it runs.
-/
import VersionStamp.Program
import VersionStamp.Transcript

namespace VersionStamp.Main

/-- The path of a location. -/
def pathOf (loc : Location) : String := "/" ++ "/".intercalate loc

/-- The locations that a walk along some segments passes. -/
def passed (here : Location) : List Path.Segment → List Location
  | [] => [here]
  | s :: rest =>
    if Path.stays s then passed here rest
    else if s = ['.', '.'] then here :: passed here.dropLast rest
    else here :: passed (here ++ [String.ofList s]) rest

/-- The locations that a run can look at. -/
def lookedAt (cwd : Location) (source : Option String) : List Location :=
  let root := pathOf cwd
  let layout : Layout := ⟨root, Layout.sourcePath root source⟩
  [layout.source, layout.versionHeader, layout.grammarFile].flatMap fun path =>
    passed [] (Path.segments path)

/-- What stands at a location.  A directory is known by the refusal to read it as a file. -/
def probe (loc : Location) : IO (Option Node) := do
  try return some (.file (← IO.FS.readBinFile (pathOf loc)))
  catch
    | .inappropriateType .. => return some .directory
    | _ => return none

/-- The part of the file system at some locations. -/
def load (locations : List Location) : IO FileTree := do
  let mut entries : List (Location × Node) := []
  for loc in locations.eraseDups do
    if let some node ← probe loc then
      entries := entries ++ [(loc, node)]
  return ⟨entries⟩

/-- Writes the files that differ between two trees. -/
def store (before after : FileTree) : IO Unit := do
  for (loc, node) in after.entries do
    if let .file content := node then
      if before.node? loc ≠ some node then
        IO.FS.writeBinFile (pathOf loc) content

/-- Everything that stands on an input. -/
def readAll (input : IO.FS.Stream) : IO String := do
  let mut text := ""
  repeat
    let line ← input.getLine
    if line.isEmpty then break
    text := text ++ line
  return text

/-- Git as a transcript knows it; without a transcript, git is missing. -/
def gitOf (text : String) : Except Failure Git :=
  if text.isEmpty then .ok .absent
  else inAttempt "Failed to read the answers of git from standard input" <|
    (Transcript.ofText text).map Transcript.git

/-- The files, as far as a run with these arguments looks at them, and git. -/
def surroundings (arguments : List String) : IO (Except Failure (Workspace × Git)) := do
  let cwd := ((toString (← IO.currentDir)).splitOn "/").filter (· ≠ "")
  match CommandLine.read arguments with
  | .ok (.run request) =>
    let tree ← load (lookedAt cwd request.source)
    let git := gitOf (← readAll (← IO.getStdin))
    return git.map fun git => (⟨tree, cwd⟩, git)
  | _ => return .ok (⟨.empty, cwd⟩, .absent)

end VersionStamp.Main

/-- Runs the program with the arguments it was started with. -/
def main (arguments : List String) : IO UInt32 := do
  match ← VersionStamp.Main.surroundings arguments with
  | .error failure =>
    -- The hint would be about the report of a run, and there was no run.
    IO.eprintln failure.text
    return failure.exitCode.toNat.toUInt32
  | .ok (w, git) =>
    let ended := VersionStamp.Program.run w git arguments
    VersionStamp.Main.store w.tree ended.tree
    IO.print ended.stdout
    IO.eprint ended.stderr
    return ended.exitCode.toUInt32
