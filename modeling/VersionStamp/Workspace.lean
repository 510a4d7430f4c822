/-
# VersionStamp.Workspace — reading and writing files by their paths

A workspace is a tree together with the directory in which the program runs.  A path is walked
segment by segment from there, or from the root; every segment, also one that stays in place, needs
a directory to start from.  There are no links, so `..` leads back the way one came.

What can go wrong is told as the system tells it, and in the order in which it is noticed.
-/
import VersionStamp.FileTree
import VersionStamp.IoError
import VersionStamp.Path
import VersionStamp.Text.Utf8

namespace VersionStamp

/-- A tree and the directory that relative paths start from. -/
structure Workspace where
  tree : FileTree
  cwd : Location
  deriving DecidableEq

namespace Workspace

/-- The longest name, and the longest path, in bytes. -/
def nameLimit : Nat := 255

@[inherit_doc nameLimit]
def pathLimit : Nat := 4095

/-- Where one segment leads from a location. -/
def step (tree : FileTree) (here : Location) (s : Path.Segment) :
    Except SystemError Location :=
  match tree.node? here with
  | none => .error .notFound
  | some (.file _) => .error .notADirectory
  | some .directory =>
    let name := String.ofList s
    if Path.stays s then .ok here
    else if s = ['.', '.'] then .ok here.dropLast
    else if nameLimit < name.utf8ByteSize then .error .nameTooLong
    else .ok (here ++ [name])

/-- Where some segments lead from a location. -/
def walk (tree : FileTree) (here : Location) (segments : List Path.Segment) :
    Except SystemError Location :=
  segments.foldlM (step tree) here

/-- Where a path starts from. -/
def start (w : Workspace) (path : String) : Location :=
  if Path.isAbsolute path then [] else w.cwd

/-- The location that a path names; there need not be anything. -/
def locate (w : Workspace) (path : String) : Except IoError Location :=
  if path.toList.contains '\x00' then .error .nulInPath
  else if path = "" then .error (.system .notFound)
  else if pathLimit < path.utf8ByteSize then .error (.system .nameTooLong)
  else (walk w.tree (w.start path) (Path.segments path)).mapError .system

/-- The path names a directory. -/
def isDirectory (w : Workspace) (path : String) : Bool :=
  match w.locate path with
  | .ok loc => w.tree.node? loc = some .directory
  | .error _ => false

/-! ## Reading -/

/-- The bytes of the file that a path names. -/
def readBytes (w : Workspace) (path : String) : Except IoError ByteArray := do
  let loc ← w.locate path
  match w.tree.node? loc with
  | none => .error (.system .notFound)
  | some .directory => .error (.system .isADirectory)
  | some (.file content) => .ok content

/-- The text of the file that a path names. -/
def readText (w : Workspace) (path : String) : Except IoError String := do
  match Text.text? (← w.readBytes path) with
  | some text => .ok text
  | none => .error .notText

/-! ## Writing

To write a file takes less than to read it, since it need not be there, and asks more of the path:
it has to end in a name. -/

/-- The location of the file that a path names, whether there is one or it would be made.  The way
to it has to be there, which is seen first.  Then the last segment has to be a name with no slash
after it, and only then does it matter how long that name is and what stands there. -/
def locateFile (w : Workspace) (path : String) : Except IoError Location :=
  if path.toList.contains '\x00' then .error .nulInPath
  else if path = "" then .error (.system .notFound)
  else if pathLimit < path.utf8ByteSize then .error (.system .nameTooLong)
  else
    match (Path.segments path).reverse.dropWhile (· = []) with
    | [] => .error (.system .isADirectory)
    | last :: front =>
      Except.mapError .system do
        let here ← walk w.tree (w.start path) (front.reverse ++ [[]])
        if (Path.segments path).getLast? = some [] ∨ Path.stays last ∨ last = ['.', '.'] then
          .error .isADirectory
        else
          let loc ← step w.tree here last
          match w.tree.node? loc with
          | some .directory => .error .isADirectory
          | _ => .ok loc

/-- Writes a text to the file that a path names, and makes the file if there is none. -/
def writeText (w : Workspace) (path text : String) : Except IoError Workspace := do
  let loc ← w.locateFile path
  return { w with tree := w.tree.write loc (Text.bytes text) }

end Workspace

end VersionStamp
