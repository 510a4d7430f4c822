/-
# VersionStamp.Path — paths as text

A path is a text; what lies between its slashes are its segments.  Paths are shown as they were
given, so nothing here normalizes one.  Joining two paths puts their texts together.  Taking the
parent goes by components: an empty segment or a `.` does not count, unless a relative path begins
with it, and the parent is the text up to the end of the last component that is left.
-/

namespace VersionStamp.Path

/-- What stands between two slashes. -/
abbrev Segment := List Char

/-- The segments of a path; the first one of an absolute path is empty. -/
def segments (path : String) : List Segment := path.toList.splitOn '/'

/-- The path with these segments. -/
def ofSegments (segments : List Segment) : String := String.ofList (['/'].intercalate segments)

/-- The segment stays where it is, and names nothing. -/
def stays (s : Segment) : Bool := s = [] || s = ['.']

/-- The path begins at the root. -/
def isAbsolute (path : String) : Bool := path.toList.head? = some '/'

/-- The path `b`, read from `a`. -/
def join (a b : String) : String :=
  if isAbsolute b then b
  else if a = "" ∨ a.toList.getLast? = some '/' then a ++ b
  else a ++ "/" ++ b

/-- The path without its last component; the root and the empty path have none. -/
def parent? (path : String) : Option String :=
  match segments path with
  | [] => none
  | first :: rest =>
    match rest.reverse.dropWhile stays with
    | [] => if first = [] then none else some ""
    | _ :: before =>
      let kept := (before.dropWhile stays).reverse
      if first = [] ∧ kept = [] then some "/" else some (ofSegments (first :: kept))

/-- The segments after those of a base, if they begin with the components of the base. -/
def stripSegments? : List Segment → List Segment → Option (List Segment)
  | [], segments => some (segments.dropWhile stays)
  | b :: base, segments =>
    match segments.dropWhile stays with
    | [] => none
    | s :: rest => if s = b then stripSegments? base rest else none

/-- An absolute path as seen from a base; a path that is not beneath the base stays as it is. -/
def relativeTo (base path : String) : String :=
  if isAbsolute base ∧ isAbsolute path then
    match stripSegments? ((segments base).filter (!stays ·)) (segments path) with
    | some rest => ofSegments rest
    | none => path
  else path

end VersionStamp.Path
