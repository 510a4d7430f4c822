/-
# VersionStamp.Diff.Script — a change from one list of lines to another

A script goes through both lists at once.  Each of its runs keeps, deletes or inserts some lines:
the kept and deleted ones make up the old list, the kept and inserted ones the new list.  A script
that says so of two lists is a correct account of the change between them, whoever found it.

A run also carries the two line numbers at which it was found.  They are what a reader of the change
is told, and they are moved along with the run, but nothing about the lines is computed from them.
-/
import VersionStamp.Diff.Line

namespace VersionStamp.Diff

/-- What happens to the lines of a run. -/
inductive Kind where
  | keep
  | delete
  | insert
  deriving DecidableEq, Repr

/-- Some lines that share their fate, and where they were found: the number of lines before them in
the old list and in the new. -/
structure Run where
  kind : Kind
  oldAt : Nat
  newAt : Nat
  lines : List Line
  deriving DecidableEq, Repr

/-- Runs in the order of both lists. -/
abbrev Script := List Run

/-- The lines of a run that the old list has. -/
def Run.oldLines (r : Run) : List Line := if r.kind = .insert then [] else r.lines

/-- The lines of a run that the new list has. -/
def Run.newLines (r : Run) : List Line := if r.kind = .delete then [] else r.lines

/-- The list that a script starts from. -/
def Script.old (script : Script) : List Line := script.flatMap Run.oldLines

/-- The list that a script arrives at. -/
def Script.new (script : Script) : List Line := script.flatMap Run.newLines

/-! ## What two lists share -/

/-- How many lines two lists have in common at their start. -/
def sharedStart : List Line → List Line → Nat
  | a :: as, b :: bs => if a = b then sharedStart as bs + 1 else 0
  | _, _ => 0

/-- How many lines two lists have in common at their end. -/
def sharedEnd (as bs : List Line) : Nat := sharedStart as.reverse bs.reverse

end VersionStamp.Diff
