/-
# VersionStamp.Proofs.Patch — what the unified format says to its reader

A patch is a list of *parts*, one for each hunk: the ranges of lines that it covers on either side,
and its lines under their marks.  Nothing here knows how a patch is made.  There are two things to
do with one.  `read?` takes it from a text in unified format, and `patched?` carries it out on a
text: each part has to begin behind the one before it, and its old lines have to stand exactly where
it says.  To carry a patch out backwards is to carry out the one with both sides exchanged.

`Tiles` says of two lists of lines that the parts of a patch and the lines between them make up the
one list on the old side and the other on the new.  Such a patch leads from the first list to the
second and back (`Tiles.patchedFrom?_eq`, `Tiles.flip`), and its parts are in order.
-/
import Mathlib.Data.List.Basic
import VersionStamp.Diff.Script

namespace VersionStamp.Patch

open Diff (Kind Line)

/-- A range of lines: how many stand before it, and how many it has. -/
structure Span where
  start : Nat
  length : Nat
  deriving DecidableEq, Repr

/-- The number of lines up to the end of a range. -/
def Span.stop (s : Span) : Nat := s.start + s.length

/-- A line of a part: what happens to it, and its text. -/
structure Entry where
  kind : Kind
  line : Line
  deriving DecidableEq, Repr

/-- A hunk as its reader sees it. -/
structure Part where
  old : Span
  new : Span
  entries : List Entry
  deriving DecidableEq, Repr

/-- The lines of a part that the old text has. -/
def oldLines (entries : List Entry) : List Line :=
  (entries.filter (·.kind ≠ .insert)).map Entry.line

/-- The lines of a part that the new text has. -/
def newLines (entries : List Entry) : List Line :=
  (entries.filter (·.kind ≠ .delete)).map Entry.line

theorem oldLines_append (es es' : List Entry) :
    oldLines (es ++ es') = oldLines es ++ oldLines es' := by
  simp [oldLines]

theorem newLines_append (es es' : List Entry) :
    newLines (es ++ es') = newLines es ++ newLines es' := by
  simp [newLines]

/-! ## Reading a patch

The reader is written from the end of the text, because a note belongs to the line before it.  It
takes the format as it is described: a header with a range for each side, lines under marks, and
the note.  Whatever else it meets, it reads nothing. -/

/-- A number in decimal digits. -/
def readNumber? (cs : List Char) : Option Nat :=
  if cs ≠ [] ∧ cs.all Char.isDigit then some (Nat.ofDigitChars 10 cs 0) else none

/-- The range of so many lines of which the first has this number.  An empty range comes right
behind the line with the number. -/
def spanOf? (number length : Nat) : Option Span :=
  if length = 0 then some ⟨number, 0⟩
  else if number = 0 then none
  else some ⟨number - 1, length⟩

/-- A range; how many lines it has is not said of a single one. -/
def readSpan? (cs : List Char) : Option Span := do
  match cs.splitOn ',' with
  | [number] => spanOf? (← readNumber? number) 1
  | [number, length] => spanOf? (← readNumber? number) (← readNumber? length)
  | _ => none

/-- The line that opens a hunk. -/
def readHeader? (line : Line) : Option (Span × Span) := do
  match line.splitOn ' ' with
  | [['@', '@'], '-' :: old, '+' :: new, ['@', '@', '\n']] =>
    return (← readSpan? old, ← readSpan? new)
  | _ => none

/-- What a mark says. -/
def readMark? : Char → Option Kind
  | ' ' => some .keep
  | '-' => some .delete
  | '+' => some .insert
  | _ => none

/-- What stands behind a line that has no ending of its own. -/
def note : Line := "\\ No newline at end of file\n".toList

/-- Reads lines, the last one first: the entries before any header, and the parts.  The line before
a note is taken without its ending. -/
def readLines? : List Line → Option (List Entry × List Part)
  | [] => some ([], [])
  | line :: rest => do
    let (entries, parts) ← readLines? rest
    if line = note then return (entries, parts)
    match line with
    | [] => none
    | '@' :: _ =>
      let (old, new) ← readHeader? line
      return ([], ⟨old, new, entries⟩ :: parts)
    | mark :: text =>
      let kind ← readMark? mark
      return (⟨kind, if rest.head? = some note then text.dropLast else text⟩ :: entries, parts)

/-- The parts of a patch, whose first line has to be a header. -/
def read? (cs : List Char) : Option (List Part) := do
  let ([], parts) ← readLines? (Diff.lines cs) | none
  return parts

/-! ## Carrying a patch out

Each part says where its old lines stand, so it is clear how many lines are to be passed before it;
if the old lines are not there, nothing comes out.  Exchanging the sides of every part gives the
patch for the way back. -/

/-- The lines that parts make of lines, of which those up to `done` have been passed. -/
def patchedFrom? (done : Nat) : List Part → List Line → Option (List Line)
  | [], rest => some rest
  | p :: parts, rest =>
    let gap := p.old.start - done
    let behind := rest.drop gap
    if done ≤ p.old.start ∧ gap ≤ rest.length ∧ p.old.length = (oldLines p.entries).length ∧
        oldLines p.entries <+: behind then
      (patchedFrom? p.old.stop parts (behind.drop p.old.length)).map fun after =>
        rest.take gap ++ newLines p.entries ++ after
    else none

/-- The text that a patch makes of a text. -/
def patched? (parts : List Part) (text : String) : Option String :=
  (patchedFrom? 0 parts (Diff.lines text.toList)).map fun ls => String.ofList ls.flatten

/-- What happens to a line when the sides are exchanged. -/
def flipKind : Kind → Kind
  | .keep => .keep
  | .delete => .insert
  | .insert => .delete

/-- The part with its sides exchanged. -/
def Part.flip (p : Part) : Part :=
  ⟨p.new, p.old, p.entries.map fun e => ⟨flipKind e.kind, e.line⟩⟩

/-! ## What a patch is like

What can be asked of a patch beyond leading from one text to the other: that its parts are in
order, that each shows a change with little around it, and that the ranges in the headers are those
that the parts cover.  The last does not always hold, and `Announces` says where it may fail. -/

/-- The parts are in order on both sides, and do not overlap. -/
def InOrder (parts : List Part) : Prop :=
  parts.Pairwise fun p q => p.old.stop ≤ q.old.start ∧ p.new.stop ≤ q.new.start

/-- How many lines that stay the part begins with. -/
def leading (entries : List Entry) : Nat := (entries.takeWhile (·.kind = .keep)).length

/-- The part shows a change, with two lines around it at most. -/
structure Framed (entries : List Entry) : Prop where
  changes : ∃ e ∈ entries, e.kind ≠ .keep
  before : leading entries ≤ 2
  after : leading entries.reverse ≤ 2

/-- The changes that come before any line that stays. -/
def outermost (entries : List Entry) : List Entry := entries.takeWhile (·.kind ≠ .keep)

/-- The part begins with changes, and there all of them are of this kind. -/
def OpensOnly (kind : Kind) (entries : List Entry) : Prop :=
  outermost entries ≠ [] ∧ ∀ e ∈ outermost entries, e.kind = kind

/-- The part begins with changes of one kind alone at the start of both texts, or ends with such
changes at the end of both, which have so many lines. -/
def AtEdge (kind : Kind) (oldLength newLength : Nat) (p : Part) : Prop :=
  (p.old.start = 0 ∧ p.new.start = 0 ∧ OpensOnly kind p.entries) ∨
    (p.old.stop = oldLength ∧ p.new.stop = newLength ∧ OpensOnly kind p.entries.reverse)

/-- What is said of a part: its lines are those that it has.  The ranges are those that it covers,
except that the old range may be wrong at an edge with insertions alone, and the new range at an
edge with deletions alone. -/
structure Announces (oldLength newLength : Nat) (said p : Part) : Prop where
  entries_eq : said.entries = p.entries
  old_eq : said.old = p.old ∨ AtEdge .insert oldLength newLength p
  new_eq : said.new = p.new ∨ AtEdge .delete oldLength newLength p

/-- What is printed shows the change from one text to another: nothing if they are the same, and
otherwise, behind two lines with the label, a patch that leads from the one to the other, and
backwards from the other to the one. -/
structure Shows (label old new printed : String) : Prop where
  empty_iff : printed = "" ↔ old = new
  exists_patch : old ≠ new → ∃ body said parts,
    printed = s!"--- a/{label}\n+++ b/{label}\n" ++ body ∧ read? body.toList = some said ∧
      List.Forall₂ (Announces (Diff.lines old.toList).length (Diff.lines new.toList).length)
        said parts ∧
      patched? parts old = some new ∧ patched? (parts.map Part.flip) new = some old ∧
      InOrder parts ∧ ∀ p ∈ parts, Framed p.entries

/-! ## Lists that are made up of the parts

`Tiles` follows the parts from the first to the last, with the lines between them, on both sides at
once.  All that a reader can do with the patch is derived from it by induction: it leads forth and
back, and its parts are in order. -/

/-- The parts, with lines between them that both lists have, make up the one list and the other,
which begin after so many lines. -/
inductive Tiles : Nat → Nat → List Part → List Line → List Line → Prop
  | done {o n : Nat} {rest : List Line} : Tiles o n [] rest rest
  | part {o n : Nat} {gap old new : List Line} {p : Part} {parts : List Part}
      (old_eq : p.old = ⟨o + gap.length, (oldLines p.entries).length⟩)
      (new_eq : p.new = ⟨n + gap.length, (newLines p.entries).length⟩)
      (behind : Tiles p.old.stop p.new.stop parts old new) :
      Tiles o n (p :: parts) (gap ++ (oldLines p.entries ++ old))
        (gap ++ (newLines p.entries ++ new))

namespace Tiles

variable {o n : Nat} {parts : List Part} {old new : List Line}

theorem skip {gap : List Line} (tiles : Tiles (o + gap.length) (n + gap.length) parts old new) :
    Tiles o n parts (gap ++ old) (gap ++ new) := by
  cases tiles with
  | done => exact .done
  | part old_eq new_eq behind =>
      rw [← List.append_assoc gap, ← List.append_assoc gap]
      refine .part ?_ ?_ behind
      · rw [old_eq, List.length_append, Nat.add_assoc]
      · rw [new_eq, List.length_append, Nat.add_assoc]

theorem append (tiles : Tiles o n parts old new) (gap : List Line) :
    Tiles o n parts (old ++ gap) (new ++ gap) := by
  induction tiles with
  | done => exact .done
  | part old_eq new_eq _ ih =>
      simp only [List.append_assoc]
      exact .part old_eq new_eq ih

theorem eq_of_nil (tiles : Tiles o n [] old new) : old = new := by
  cases tiles
  rfl

theorem patchedFrom?_eq (tiles : Tiles o n parts old new) :
    patchedFrom? o parts old = some new := by
  induction tiles with
  | done => rfl
  | @part o n gap old new p parts old_eq new_eq behind ih =>
      have start_eq : p.old.start = o + gap.length := by rw [old_eq]
      have length_eq : p.old.length = (oldLines p.entries).length := by rw [old_eq]
      have gap_eq : p.old.start - o = gap.length := by omega
      rw [patchedFrom?]
      simp only [gap_eq, List.drop_left, List.take_left]
      rw [if_pos ⟨by omega, by simp, length_eq, List.prefix_append _ _⟩, length_eq,
        List.drop_left, ih, Option.map_some, List.append_assoc]

theorem oldLines_flip (p : Part) : oldLines p.flip.entries = newLines p.entries := by
  have kept : ∀ kind, flipKind kind ≠ .insert ↔ kind ≠ .delete := by
    rintro (_ | _ | _) <;> decide
  simp only [oldLines, newLines, Part.flip, List.filter_map, List.map_map, Function.comp_def, kept]

theorem newLines_flip (p : Part) : newLines p.flip.entries = oldLines p.entries := by
  have kept : ∀ kind, flipKind kind ≠ .delete ↔ kind ≠ .insert := by
    rintro (_ | _ | _) <;> decide
  simp only [oldLines, newLines, Part.flip, List.filter_map, List.map_map, Function.comp_def, kept]

theorem flip (tiles : Tiles o n parts old new) : Tiles n o (parts.map Part.flip) new old := by
  induction tiles with
  | done => exact .done
  | @part o n gap old new p parts old_eq new_eq behind ih =>
      have whole := @Tiles.part n o gap new old p.flip (parts.map Part.flip)
        (by rw [oldLines_flip]; exact new_eq) (by rw [newLines_flip]; exact old_eq) ih
      rwa [oldLines_flip, newLines_flip] at whole

theorem mem_of_mem_entries (tiles : Tiles o n parts old new) :
    ∀ p ∈ parts, ∀ e ∈ p.entries, e.line ∈ old ∨ e.line ∈ new := by
  induction tiles with
  | done => exact nofun
  | @part o n gap old new p parts _ _ _ ih =>
      rw [List.forall_mem_cons]
      constructor
      · intro e mem
        by_cases inserts : e.kind = .insert
        · have listed : e.line ∈ newLines p.entries :=
            List.mem_map_of_mem (List.mem_filter.mpr ⟨mem, by simp [inserts]⟩)
          simp [listed]
        · have listed : e.line ∈ oldLines p.entries :=
            List.mem_map_of_mem (List.mem_filter.mpr ⟨mem, by simp [inserts]⟩)
          simp [listed]
      · intro q mem e mem'
        rcases ih q mem e mem' with listed | listed <;> simp [listed]

theorem le_start (tiles : Tiles o n parts old new) :
    ∀ p ∈ parts, o ≤ p.old.start ∧ n ≤ p.new.start := by
  induction tiles with
  | done => exact nofun
  | part old_eq new_eq _ ih =>
      rw [List.forall_mem_cons]
      rw [old_eq, new_eq] at ih ⊢
      simp only [Span.stop] at ih ⊢
      exact ⟨by omega, fun q mem => by have := ih q mem; omega⟩

theorem inOrder (tiles : Tiles o n parts old new) : InOrder parts := by
  induction tiles with
  | done => exact .nil
  | part _ _ behind ih => exact .cons behind.le_start ih

end Tiles

theorem patched?_of_tiles {parts : List Part} {old new : String}
    (tiles : Tiles 0 0 parts (Diff.lines old.toList) (Diff.lines new.toList)) :
    patched? parts old = some new := by
  simp [patched?, tiles.patchedFrom?_eq, Diff.flatten_lines]

end VersionStamp.Patch
