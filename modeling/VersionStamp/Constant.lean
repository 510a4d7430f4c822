/-
# VersionStamp.Constant — the constants of the grammar file

The grammar file assigns three string constants.  An assignment is a name that stands on its own,
then `=` with any white space around it, then a quoted literal:

    ReleaseVersion   = "1.0"

A literal stands between two double quotes, and what is written between them never holds a quote.
So the quotes of a text are a frame that no replacement moves: cut the text at every quote, change
some pieces for others without quotes, and join them again (`Pieces`).  Among the pieces an
assignment is easy to see: it is a piece that ends in the name and the sign (`isLead`), and the
piece after it, if another quote closes that piece.
-/
import VersionStamp.Stamp
import VersionStamp.Text.Word

namespace VersionStamp

/-! ## A text cut at its quotes -/

/-- A text as the pieces between its double quotes; the first and the last piece are outside. -/
abbrev Pieces := List (List Char)

namespace Pieces

/-- The pieces of a text, one more than it has quotes. -/
def cut (cs : List Char) : Pieces := cs.splitOn '"'

/-- The text with these pieces. -/
def join (pieces : Pieces) : List Char := ['"'].intercalate pieces

theorem join_cut (cs : List Char) : join (cut cs) = cs := List.intercalate_splitOn '"'

/-- Pieces without quotes are the pieces of the text they make. -/
theorem cut_join {pieces : Pieces} (quote_free : ∀ piece ∈ pieces, '"' ∉ piece)
    (some_piece : pieces ≠ []) : cut (join pieces) = pieces :=
  List.splitOn_intercalate '"' quote_free some_piece

end Pieces

/-! ## The constants -/

/-- The constants that the grammar file assigns. -/
inductive Constant where
  | releaseVersion
  | manifestDate
  | manifestIsoDate
  deriving DecidableEq, Repr

namespace Constant

/-- Every constant, in the order in which they are filled. -/
def all : List Constant := [releaseVersion, manifestDate, manifestIsoDate]

/-- The name of a constant. -/
def name : Constant → String
  | releaseVersion => "ReleaseVersion"
  | manifestDate => "ManifestDate"
  | manifestIsoDate => "ManifestISODate"

/-- The value a stamp gives to a constant. -/
def value (s : Stamp) : Constant → String
  | releaseVersion => s.release
  | manifestDate => s.manifestDate
  | manifestIsoDate => s.manifestIsoDate

/-! ## Assignments -/

/-- What stands before the name, if the text ends in the name, white space, `=` and white space. -/
def beforeLead? (name : List Char) (piece : List Char) : Option (List Char) :=
  match piece.reverse.dropWhile Text.isBlank with
  | '=' :: before =>
    (name.reverse.isPrefixOf? (before.dropWhile Text.isBlank)).map List.reverse
  | _ => none

/-- The piece ends as an assignment of the name begins: name, white space, `=`, white space; and
the name does not continue a word. -/
def isLead (name : List Char) (piece : List Char) : Bool :=
  match beforeLead? name piece with
  | none => false
  | some before => before.getLast?.all (!Text.isWord ·)

/-- Writes the value into the literal of every assignment of the name, from left to right.  The
literal of an assignment is not looked at for a further one.  The number tells how many there
are. -/
def fill (name value : List Char) : Pieces → Pieces × Nat
  | lead :: literal :: next :: rest =>
    if isLead name lead then
      let (filled, count) := fill name value (next :: rest)
      (lead :: value :: filled, count + 1)
    else
      let (filled, count) := fill name value (literal :: next :: rest)
      (lead :: filled, count)
  | pieces => (pieces, 0)

/-- Gives the value to every assignment of the name in a text. -/
def assign (name value : List Char) (cs : List Char) : List Char × Nat :=
  let (filled, count) := fill name value (Pieces.cut cs)
  (Pieces.join filled, count)

end Constant

/-! ## All constants of a text -/

/-- How many assignments of a constant were given its value. -/
structure Substitution where
  constant : Constant
  replacements : Nat
  deriving DecidableEq, Repr

/-- Gives the constants their values one after the other, each on the text the one before left. -/
def substituteEach (s : Stamp) : List Constant → List Char → List Char × List Substitution
  | [], cs => (cs, [])
  | c :: constants, cs =>
    let (assigned, count) := Constant.assign c.name.toList (c.value s).toList cs
    let (substituted, counts) := substituteEach s constants assigned
    (substituted, ⟨c, count⟩ :: counts)

/-- The text with the values of a stamp, and how often each constant was assigned.  A constant that
is assigned nowhere is reported with the count zero. -/
def substitute (text : String) (s : Stamp) : String × List Substitution :=
  let (substituted, counts) := substituteEach s Constant.all text.toList
  (String.ofList substituted, counts)

end VersionStamp
