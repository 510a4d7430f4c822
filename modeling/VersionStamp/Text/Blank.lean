/-
# VersionStamp.Text.Blank — white space, and the words and lines it separates

White space is the Unicode property `White_Space`.  It is wider than the ASCII blanks (NO-BREAK
SPACE and IDEOGRAPHIC SPACE belong to it) and narrower than "looks empty" (ZERO WIDTH SPACE and the
information separators U+001C–001F do not).

Every character property the program needs is data of the Unicode standard: a few, or a few hundred,
intervals of code points.  White space is the smallest of them, so the intervals stand here too.

Texts are `String` at the library's surface and `List Char` inside, where the recursion is on the
list.
-/

namespace VersionStamp.Text

/-! ## Sets of characters -/

/-- A set of code points: closed intervals `(first, last)`, in increasing order. -/
abbrev Ranges := List (Nat × Nat)

/-- The code point lies in one of the intervals.  All are looked at, so that nothing depends on
their order. -/
def Ranges.contains (ranges : Ranges) (code : Nat) : Bool :=
  ranges.any fun range => range.1 ≤ code && code ≤ range.2

/-- Unicode `White_Space`. -/
def blankRanges : Ranges :=
  [(0x9, 0xD), (0x20, 0x20), (0x85, 0x85), (0xA0, 0xA0), (0x1680, 0x1680), (0x2000, 0x200A),
   (0x2028, 0x2029), (0x202F, 0x202F), (0x205F, 0x205F), (0x3000, 0x3000)]

/-- White space, in the sense of Unicode. -/
def isBlank (c : Char) : Bool := blankRanges.contains c.toNat

/-! ## Trimming -/

/-- The text without the blanks at its start. -/
def trimStart (cs : List Char) : List Char := cs.dropWhile isBlank

/-- The text without the blanks at its end. -/
def trimEnd (cs : List Char) : List Char := (cs.reverse.dropWhile isBlank).reverse

/-- The text without the blanks at either end. -/
def trim (cs : List Char) : List Char := trimEnd (trimStart cs)

/-- `trim` on strings. -/
def trimmed (s : String) : String := String.ofList (trim s.toList)

/-! ## Words -/

/-- The words of `word ++ cs`, where `word` is the part of a word that has been read so far. -/
def wordsFrom (word : List Char) : List Char → List (List Char)
  | [] => if word.isEmpty then [] else [word]
  | c :: rest =>
    if isBlank c then
      if word.isEmpty then wordsFrom [] rest else word :: wordsFrom [] rest
    else wordsFrom (word ++ [c]) rest

/-- The maximal runs of characters that are not blank, in order. -/
def words (cs : List Char) : List (List Char) := wordsFrom [] cs

/-- A word ends at the first blank after it. -/
theorem wordsFrom_append_blank {word cs : List Char} {b : Char} {rest : List Char}
    (ink : ∀ c ∈ cs, isBlank c = false) (blank : isBlank b = true) (some_ink : word ++ cs ≠ []) :
    wordsFrom word (cs ++ b :: rest) = (word ++ cs) :: wordsFrom [] rest := by
  induction cs generalizing word with
  | nil =>
      have : word.isEmpty = false := by simpa using some_ink
      simp [wordsFrom, blank, this]
  | cons c cs ih =>
      have hc := ink c (by simp)
      have := @ih (word ++ [c]) (fun d hd => ink d (by simp [hd])) (by simp)
      simpa [wordsFrom, hc] using this

/-! ## Lines -/

/-- The first line of a text, without its line feed. -/
def firstLine (cs : List Char) : List Char := cs.takeWhile (· ≠ '\n')

end VersionStamp.Text
