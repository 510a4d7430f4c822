/-
# VersionStamp.Diff.Hunk — the parts of a change that are worth showing

For a reader, the runs of a script become blocks: lines that stay, and edits, which replace some old
lines by some new ones.  Around the edits `contextLines` of the lines that stay are shown on either
side.  Edits that are closer to each other than that share a hunk; a longer stretch of lines that
stay ends one hunk and begins the next.
-/
import VersionStamp.Diff.Script

namespace VersionStamp.Diff

/-- Some consecutive lines of both lists. -/
inductive Block where
  /-- Lines that stay. -/
  | same (oldAt newAt : Nat) (lines : List Line)
  /-- Old lines that are replaced by new ones; one of the two may be missing. -/
  | edit (oldAt newAt : Nat) (deleted inserted : List Line)
  deriving DecidableEq, Repr

namespace Block

/-- The number of old lines before the block. -/
def oldAt : Block → Nat
  | same o _ _ => o
  | edit o _ _ _ => o

/-- The number of new lines before the block. -/
def newAt : Block → Nat
  | same _ n _ => n
  | edit _ n _ _ => n

/-- The old lines of the block. -/
def oldLines : Block → List Line
  | same _ _ lines => lines
  | edit _ _ deleted _ => deleted

/-- The new lines of the block. -/
def newLines : Block → List Line
  | same _ _ lines => lines
  | edit _ _ _ inserted => inserted

/-- The block without its first `k` lines, if they stay. -/
def dropStart (k : Nat) : Block → Block
  | same o n lines => same (o + k) (n + k) (lines.drop k)
  | block => block

/-- The first `k` lines of the block, if they stay. -/
def takeStart (k : Nat) : Block → Block
  | same o n lines => same o n (lines.take k)
  | block => block

/-- Puts a run in front of blocks.  An edit takes its old place from its first deletion and its new
place from its first insertion; where it has no lines on one side, from the first run it has. -/
def push (r : Run) (blocks : List Block) : List Block :=
  match r.kind, blocks with
  | .keep, same _ _ lines :: rest => same r.oldAt r.newAt (r.lines ++ lines) :: rest
  | .keep, blocks => same r.oldAt r.newAt r.lines :: blocks
  | .delete, edit _ n deleted inserted :: rest =>
    edit r.oldAt (if inserted.isEmpty then r.newAt else n) (r.lines ++ deleted) inserted :: rest
  | .delete, blocks => edit r.oldAt r.newAt r.lines [] :: blocks
  | .insert, edit o _ deleted inserted :: rest =>
    edit (if deleted.isEmpty then r.oldAt else o) r.newAt deleted (r.lines ++ inserted) :: rest
  | .insert, blocks => edit r.oldAt r.newAt [] r.lines :: blocks

/-- The blocks of a script. -/
def ofScript (script : Script) : List Block := script.foldr push []

end Block

/-! ## Hunks -/

/-- How many lines that stay are shown on either side of an edit. -/
def contextLines : Nat := 2

/-- Consecutive blocks that are shown together. -/
abbrev Hunk := List Block

/-- Shortens the lines that stay at the start of the blocks to the last `contextLines` of them. -/
def trimFront : List Block → List Block
  | b@(.same _ _ lines) :: rest => b.dropStart (lines.length - contextLines) :: rest
  | blocks => blocks

/-- Shortens the lines that stay at the end of the blocks to the first `contextLines` of them. -/
def trimBack : List Block → List Block
  | [] => []
  | [b] => [b.takeStart contextLines]
  | b :: rest => b :: trimBack rest

/-- Blocks are shown if there is an edit among them; lines that stay never stand alone. -/
def Hunk.isShown : Hunk → Bool
  | [] => false
  | [.same _ _ _] => false
  | _ => true

/-- Cuts blocks into hunks; `hunk` holds the blocks of the one begun. -/
def cutHunks (hunk : Hunk) : List Block → List Hunk
  | [] => if hunk.isShown then [hunk] else []
  | b :: rest =>
    match b with
    | .same _ _ lines =>
      if 2 * contextLines < lines.length then
        (hunk ++ [b.takeStart contextLines]) ::
          cutHunks [b.dropStart (lines.length - contextLines)] rest
      else cutHunks (hunk ++ [b]) rest
    | .edit _ _ _ _ => cutHunks (hunk ++ [b]) rest

/-- The hunks of a script. -/
def hunks (script : Script) : List Hunk :=
  cutHunks [] (trimBack (trimFront (Block.ofScript script)))

end VersionStamp.Diff
