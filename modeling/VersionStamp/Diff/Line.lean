/-
# VersionStamp.Diff.Line — a text as a list of lines

A line ends after a line feed, after a carriage return, or after the two together, and keeps its
ending.  Only the last line of a text can be without one.  So the lines of a text, put one after the
other, are the text.
-/

namespace VersionStamp.Diff

/-- One line, with its ending. -/
abbrev Line := List Char

/-- The lines of `start.reverse ++ cs`, where `start` is the open line read so far, reversed. -/
def linesFrom (start : List Char) : List Char → List Line
  | [] => if start.isEmpty then [] else [start.reverse]
  | '\r' :: '\n' :: rest => (start.reverse ++ ['\r', '\n']) :: linesFrom [] rest
  | c :: rest =>
    if c = '\n' ∨ c = '\r' then (start.reverse ++ [c]) :: linesFrom [] rest
    else linesFrom (c :: start) rest

/-- The lines of a text. -/
def lines (cs : List Char) : List Line := linesFrom [] cs

theorem flatten_linesFrom (start cs : List Char) :
    (linesFrom start cs).flatten = start.reverse ++ cs := by
  fun_induction linesFrom start cs with
  | case1 start h => simp_all
  | case2 start h => simp
  | case3 start rest ih => simp [ih]
  | case4 start c rest _ h ih => simp [ih]
  | case5 start c rest _ h ih => simp [ih]

/-- No character of a text is lost or moved when it is cut into lines. -/
theorem flatten_lines (cs : List Char) : (lines cs).flatten = cs :=
  flatten_linesFrom [] cs

/-- The line ends in a line feed or a carriage return. -/
def Line.isClosed (line : Line) : Bool :=
  match line.getLast? with
  | some c => c = '\n' || c = '\r'
  | none => false

end VersionStamp.Diff
