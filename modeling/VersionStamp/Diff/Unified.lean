/-
# VersionStamp.Diff.Unified — a change in unified format

The format shows each hunk under a line `@@ -old +new @@`, which gives the range of lines it covers
on either side, and marks its lines with a blank, `-` or `+`.  A line without an ending of its own
is followed by a note.  Two equal texts have no hunks, and then nothing is printed at all.
-/
import VersionStamp.Diff.Hunk
import VersionStamp.Diff.Search
import VersionStamp.Diff.Shift

namespace VersionStamp.Diff

/-- A range of lines, from after `start` lines to after `stop` lines.  A range of one line is its
number; any other is the number of its first line and its length, and an empty one stands after the
line it names. -/
def rangeText (start stop : Nat) : String :=
  let length := stop - start
  if length = 1 then toString (start + 1)
  else if length = 0 then s!"{start},0"
  else s!"{start + 1},{length}"

/-- The line that opens a hunk. -/
def hunkHeader (first last : Block) : String :=
  let old := rangeText first.oldAt (last.oldAt + last.oldLines.length)
  let new := rangeText first.newAt (last.newAt + last.newLines.length)
  s!"@@ -{old} +{new} @@\n"

/-- One line under its mark. -/
def markedLine (mark : Char) (line : Line) : List Char :=
  mark :: line ++
    (if line.isClosed then [] else "\n\\ No newline at end of file\n".toList)

/-- The lines of a block under their marks. -/
def Block.marked : Block → List Char
  | .same _ _ lines => lines.flatMap (markedLine ' ')
  | .edit _ _ deleted inserted =>
    deleted.flatMap (markedLine '-') ++ inserted.flatMap (markedLine '+')

/-- A hunk under its header. -/
def Hunk.text (hunk : Hunk) : List Char :=
  match hunk.head?, hunk.getLast? with
  | some first, some last => (hunkHeader first last).toList ++ hunk.flatMap Block.marked
  | _, _ => []

/-- The change between two texts, under a label. -/
def unified (label old new : String) : String :=
  match hunks (gather (script (lines old.toList) (lines new.toList))) with
  | [] => ""
  | shown => s!"--- a/{label}\n+++ b/{label}\n" ++ String.ofList (shown.flatMap Hunk.text)

end VersionStamp.Diff
