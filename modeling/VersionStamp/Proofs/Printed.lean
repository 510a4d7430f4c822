/-
# VersionStamp.Proofs.Printed — what is printed of a change can be read back

A hunk is printed as whole lines: its header, and its entries under their marks, with a note behind
an entry whose line has no ending.  None of these lines begins with a line feed, so cutting the
printed text gives just these lines again, even where an entry ends in a lone carriage return
(`lines_flatten`).  The reader goes through them from the last to the first and needs to know of
what comes next only whether it is a note.
-/
import VersionStamp.Diff.Unified
import VersionStamp.Proofs.Numerals
import VersionStamp.Proofs.Patch

namespace VersionStamp.Diff

/-! ## Lines

Whole lines are cut off a text one by one, unless a line that ends in a carriage return is followed
by a line feed: then the two are one ending.  What is printed never begins a line with a line feed,
and that is the one condition in what follows.  Every line of a text is a whole one, but perhaps
the last. -/

/-- There is no line break among the characters. -/
def BreakFree (cs : List Char) : Prop := ∀ c ∈ cs, c ≠ '\n' ∧ c ≠ '\r'

instance : DecidablePred BreakFree := fun cs =>
  decidable_of_iff (cs.all fun c => c != '\n' && c != '\r') (by simp [BreakFree])

/-- The endings of lines. -/
def endings : List (List Char) := [['\n'], ['\r'], ['\r', '\n']]

/-- One line with its ending. -/
def IsWhole (l : Line) : Prop :=
  ∃ body, BreakFree body ∧ ∃ ending ∈ endings, l = body ++ ending

theorem breakFree_nil : BreakFree [] := List.forall_mem_nil _

theorem breakFree_append {cs ds : List Char} : BreakFree (cs ++ ds) ↔ BreakFree cs ∧ BreakFree ds :=
  List.forall_mem_append

theorem linesFrom_append {start body : List Char} (free : BreakFree body) (cs : List Char) :
    linesFrom start (body ++ cs) = linesFrom (body.reverse ++ start) cs := by
  induction body generalizing start with
  | nil => rfl
  | cons c body ih =>
      have ⟨⟨no_feed, no_return⟩, rest_free⟩ := List.forall_mem_cons.mp free
      rw [List.cons_append, List.reverse_cons, List.append_assoc, List.singleton_append,
        ← ih rest_free, linesFrom]
      · rw [if_neg (by simp [no_feed, no_return])]
      · rintro rest rfl
        exact absurd rfl no_return

theorem lines_append {l : Line} (whole : IsWhole l) {rest : List Char}
    (apart : rest.head? ≠ some '\n') : lines (l ++ rest) = l :: lines rest := by
  obtain ⟨body, free, ending, mem, rfl⟩ := whole
  rw [lines, List.append_assoc, linesFrom_append free, List.append_nil]
  simp only [endings, List.mem_cons, List.not_mem_nil, or_false] at mem
  rcases mem with rfl | rfl | rfl
  · simp [linesFrom, lines]
  · cases rest with
    | nil => simp [linesFrom, lines]
    | cons c rest =>
        have : c ≠ '\n' := by simpa using apart
        simp [linesFrom, lines, this]
  · simp [linesFrom, lines]

/-- Whole lines that do not begin with a line feed are the lines of the text that they make up. -/
theorem lines_flatten {ls : List Line} (whole : ∀ l ∈ ls, IsWhole l)
    (apart : ∀ l ∈ ls, ∃ c text, l = c :: text ∧ c ≠ '\n') : lines ls.flatten = ls := by
  induction ls with
  | nil => rfl
  | cons l ls ih =>
      rw [List.forall_mem_cons] at whole apart
      rw [List.flatten_cons, lines_append whole.1, ih whole.2 apart.2]
      cases ls with
      | nil => exact nofun
      | cons l' ls =>
          obtain ⟨c, text, rfl, no_feed⟩ := apart.2 l' List.mem_cons_self
          simpa using no_feed

/-- A line of a text: it has its ending, or has none and no break. -/
def IsLine (l : Line) : Prop := IsWhole l ∨ BreakFree l ∧ l ≠ []

theorem breakFree_reverse {cs : List Char} : BreakFree cs.reverse ↔ BreakFree cs := by
  simp only [BreakFree, List.mem_reverse]

theorem isLine_of_mem_linesFrom {start cs : List Char} (free : BreakFree start) :
    ∀ l ∈ linesFrom start cs, IsLine l := by
  fun_induction linesFrom start cs with
  | case1 start none_open => exact List.forall_mem_nil _
  | case2 start some_open =>
      rw [List.forall_mem_singleton]
      exact .inr ⟨breakFree_reverse.mpr free, by simpa using some_open⟩
  | case3 start rest ih =>
      rw [List.forall_mem_cons]
      exact ⟨.inl ⟨_, breakFree_reverse.mpr free, _, by simp [endings], rfl⟩, ih breakFree_nil⟩
  | case4 start c rest _ ends ih =>
      rw [List.forall_mem_cons]
      refine ⟨.inl ⟨_, breakFree_reverse.mpr free, [c], ?_, rfl⟩, ih breakFree_nil⟩
      rcases ends with rfl | rfl <;> simp [endings]
  | case5 start c rest _ goes_on ih =>
      exact ih (List.forall_mem_cons.mpr ⟨not_or.mp goes_on, free⟩)

theorem isLine_of_mem_lines {cs : List Char} : ∀ l ∈ lines cs, IsLine l :=
  isLine_of_mem_linesFrom breakFree_nil

theorem isWhole_cons {mark : Char} (no_break : mark ≠ '\n' ∧ mark ≠ '\r') {l : Line}
    (whole : IsWhole l) : IsWhole (mark :: l) := by
  obtain ⟨body, free, ending, mem, rfl⟩ := whole
  exact ⟨mark :: body, List.forall_mem_cons.mpr ⟨no_break, free⟩, ending, mem, rfl⟩

theorem isClosed_of_isWhole {l : Line} (whole : IsWhole l) : l.isClosed = true := by
  obtain ⟨body, -, ending, mem, rfl⟩ := whole
  simp only [endings, List.mem_cons, List.not_mem_nil, or_false] at mem
  rcases mem with rfl | rfl | rfl <;> simp [Line.isClosed]

theorem isClosed_of_breakFree {l : Line} (free : BreakFree l) : l.isClosed = false := by
  cases last : l.getLast? with
  | none => simp [Line.isClosed, last]
  | some c =>
      have ⟨no_feed, no_return⟩ := free c (List.mem_of_getLast? last)
      simp [Line.isClosed, last, no_feed, no_return]

end VersionStamp.Diff

namespace VersionStamp.Patch

open Diff

/-! ## Lines under their marks

An entry is printed as its line under a mark, and where the line has no ending one is given to it
and a note follows.  The reader takes the ending off again if it sees a note next; so an entry is
read back unless the line behind it is a note that is not its own.  No mark begins a note, so that
does not happen. -/

/-- The mark for what happens to a line. -/
def mark : Kind → Char
  | .keep => ' '
  | .delete => '-'
  | .insert => '+'

theorem mark_ne (kind : Kind) :
    mark kind ≠ '@' ∧ mark kind ≠ '\\' ∧ mark kind ≠ '\n' ∧ mark kind ≠ '\r' := by
  cases kind <;> decide

/-- The lines that are printed for an entry. -/
def Entry.printed (e : Entry) : List Line :=
  if e.line.isClosed then [mark e.kind :: e.line] else [mark e.kind :: e.line ++ ['\n'], note]

theorem flatten_printed (e : Entry) : e.printed.flatten = markedLine (mark e.kind) e.line := by
  have ended : "\n\\ No newline at end of file\n".toList = '\n' :: note := by decide
  unfold Entry.printed markedLine
  rw [ended]
  split <;> simp

theorem isWhole_of_mem_printed {e : Entry} (is_line : IsLine e.line) :
    ∀ l ∈ e.printed, IsWhole l ∧ ∃ c text, l = c :: text ∧ c ≠ '\n' := by
  obtain ⟨-, -, no_feed, no_return⟩ := mark_ne e.kind
  unfold Entry.printed
  rcases is_line with whole | ⟨free, -⟩
  · rw [if_pos (isClosed_of_isWhole whole), List.forall_mem_singleton]
    exact ⟨isWhole_cons ⟨no_feed, no_return⟩ whole, _, _, rfl, no_feed⟩
  · rw [isClosed_of_breakFree free, if_neg (by decide), List.forall_mem_cons,
      List.forall_mem_singleton]
    have ended : IsWhole (e.line ++ ['\n']) := ⟨e.line, free, ['\n'], by simp [endings], rfl⟩
    have note_whole : IsWhole note :=
      ⟨note.dropLast, by decide, ['\n'], by simp [endings], by decide⟩
    exact ⟨⟨isWhole_cons ⟨no_feed, no_return⟩ ended, _, _, rfl, no_feed⟩, note_whole, _, _, rfl,
      by decide⟩

theorem cons_ne_note {c : Char} (no_backslash : c ≠ '\\') (text : List Char) :
    c :: text ≠ note := by
  have head : note.head? = some '\\' := by decide
  intro same
  rw [← same, List.head?_cons, Option.some.injEq] at head
  exact no_backslash head

theorem mark_cons_ne_note (kind : Kind) (text : List Char) : mark kind :: text ≠ note :=
  cons_ne_note (mark_ne kind).2.1 text

theorem readLines?_mark_cons (kind : Kind) (text : List Char) {rest : List Line}
    {entries : List Entry} {parts : List Part} (read : readLines? rest = some (entries, parts)) :
    readLines? ((mark kind :: text) :: rest) = some
      (⟨kind, if rest.head? = some note then text.dropLast else text⟩ :: entries, parts) := by
  have apart := mark_cons_ne_note kind text
  cases kind <;> simp_all [readLines?, mark, readMark?]

/-- What is printed for an entry is read back, unless a note follows that is not its own. -/
theorem readLines?_printed {e : Entry} {rest : List Line} {entries : List Entry}
    {parts : List Part} (read : readLines? rest = some (entries, parts))
    (no_note : rest.head? ≠ some note) :
    readLines? (e.printed ++ rest) = some (e :: entries, parts) ∧
      (e.printed ++ rest).head? ≠ some note := by
  unfold Entry.printed
  split
  · rw [List.singleton_append, readLines?_mark_cons e.kind e.line read, if_neg no_note]
    exact ⟨rfl, by simp [mark_cons_ne_note]⟩
  · have read' : readLines? (note :: rest) = some (entries, parts) := by simp [readLines?, read]
    rw [List.cons_append, List.cons_append, List.singleton_append,
      readLines?_mark_cons e.kind (e.line ++ ['\n']) read']
    simp [mark_cons_ne_note]

theorem readLines?_flatMap_printed (es : List Entry) {rest : List Line} {entries : List Entry}
    {parts : List Part} (read : readLines? rest = some (entries, parts))
    (no_note : rest.head? ≠ some note) :
    readLines? (es.flatMap Entry.printed ++ rest) = some (es ++ entries, parts) ∧
      (es.flatMap Entry.printed ++ rest).head? ≠ some note := by
  induction es with
  | nil => exact ⟨read, no_note⟩
  | cons e es ih =>
      rw [List.flatMap_cons, List.append_assoc]
      exact readLines?_printed ih.1 ih.2

/-! ## Headers

A range is written by its first line and its length, the length only if it is not one, and the
first line is one less where the range is empty.  The reader undoes all of this; between the
numbers stand characters that no number contains. -/

theorem readNumber?_toDigits (n : Nat) : readNumber? (Nat.toDigits 10 n) = some n := by
  rw [readNumber?, if_pos ⟨Nat.toDigits_ne_nil, List.all_eq_true.mpr isDigit_of_mem_toDigits⟩,
    Nat.ofDigitChars_toDigits (by omega) (Nat.le_refl 10)]

theorem rangeText_eq (start stop : Nat) :
    ∃ number length, spanOf? number length = some ⟨start, stop - start⟩ ∧
      ((rangeText start stop).toList = Nat.toDigits 10 number ∧ length = 1 ∨
        (rangeText start stop).toList =
          Nat.toDigits 10 number ++ ',' :: Nat.toDigits 10 length) := by
  unfold rangeText
  by_cases single : stop - start = 1
  · exact ⟨start + 1, 1, by simp [spanOf?, single], .inl ⟨by simp [single], rfl⟩⟩
  by_cases empty : stop - start = 0
  · exact ⟨start, 0, by simp [spanOf?, empty], .inr (by simp [empty, toString])⟩
  · exact ⟨start + 1, stop - start, by simp [spanOf?, empty],
      .inr (by simp [single, empty, toString])⟩

theorem not_mem_toDigits {c : Char} (no_digit : c.isDigit = false) (n : Nat) :
    c ∉ Nat.toDigits 10 n := by
  intro mem
  exact absurd (isDigit_of_mem_toDigits c mem) (by simp [no_digit])

theorem readSpan?_rangeText (start stop : Nat) :
    readSpan? (rangeText start stop).toList = some ⟨start, stop - start⟩ := by
  obtain ⟨number, length, spans, ⟨text_eq, rfl⟩ | text_eq⟩ := rangeText_eq start stop
  · have comma_free := not_mem_toDigits (show ','.isDigit = false by decide) number
    simp [text_eq, readSpan?, List.splitOn_eq_singleton comma_free, readNumber?_toDigits, spans]
  · have comma_free := not_mem_toDigits (show ','.isDigit = false by decide)
    simp [text_eq, readSpan?, List.splitOn_append_cons_self,
      List.splitOn_eq_singleton (comma_free _), readNumber?_toDigits, spans]

theorem isDigit_or_comma_of_mem_rangeText {start stop : Nat} {c : Char}
    (mem : c ∈ (rangeText start stop).toList) : c.isDigit = true ∨ c = ',' := by
  obtain ⟨number, length, -, ⟨text_eq, -⟩ | text_eq⟩ := rangeText_eq start stop
  · exact .inl (isDigit_of_mem_toDigits c (text_eq ▸ mem))
  · rw [text_eq, List.mem_append, List.mem_cons] at mem
    rcases mem with mem | rfl | mem
    · exact .inl (isDigit_of_mem_toDigits c mem)
    · exact .inr rfl
    · exact .inl (isDigit_of_mem_toDigits c mem)

theorem toList_hunkHeader (first last : Block) :
    (hunkHeader first last).toList =
      ['@', '@'] ++ ' ' ::
        (('-' :: (rangeText first.oldAt (last.oldAt + last.oldLines.length)).toList) ++ ' ' ::
          (('+' :: (rangeText first.newAt (last.newAt + last.newLines.length)).toList) ++ ' ' ::
            ['@', '@', '\n'])) := by
  simp [hunkHeader, toString]

theorem readHeader?_hunkHeader (first last : Block) :
    readHeader? (hunkHeader first last).toList = some
      (⟨first.oldAt, last.oldAt + last.oldLines.length - first.oldAt⟩,
        ⟨first.newAt, last.newAt + last.newLines.length - first.newAt⟩) := by
  have blank_free : ∀ c start stop, c ≠ ' ' → ' ' ∉ c :: (rangeText start stop).toList := by
    intro c start stop no_blank mem
    rcases List.mem_cons.mp mem with same | mem
    · exact no_blank same.symm
    · exact absurd (isDigit_or_comma_of_mem_rangeText mem) (by decide)
  rw [readHeader?, toList_hunkHeader, List.splitOn_append_cons_self,
    List.splitOn_append_cons_self, List.splitOn_append_cons_self,
    List.splitOn_eq_singleton (by decide),
    List.splitOn_eq_singleton (blank_free '-' _ _ (by decide)),
    List.splitOn_eq_singleton (blank_free '+' _ _ (by decide)),
    List.splitOn_eq_singleton (by decide)]
  simp [readSpan?_rangeText]

theorem readLines?_header_cons {text : List Char} {rest : List Line} {entries : List Entry}
    {parts : List Part} {old new : Span} (read : readLines? rest = some (entries, parts))
    (header : readHeader? ('@' :: text) = some (old, new)) :
    readLines? (('@' :: text) :: rest) = some ([], ⟨old, new, entries⟩ :: parts) := by
  have apart : '@' :: text ≠ note := cons_ne_note (by decide) text
  simp [readLines?, read, apart, header]

theorem breakFree_rangeText (start stop : Nat) : BreakFree (rangeText start stop).toList := by
  intro c mem
  rcases isDigit_or_comma_of_mem_rangeText mem with digit | rfl
  · constructor <;> rintro rfl <;> exact absurd digit (by decide)
  · decide

theorem isWhole_hunkHeader (first last : Block) : IsWhole (hunkHeader first last).toList := by
  refine ⟨['@', '@', ' ', '-'] ++ (rangeText first.oldAt (last.oldAt + _)).toList ++ [' ', '+'] ++
    (rangeText first.newAt (last.newAt + _)).toList ++ [' ', '@', '@'], ?_, ['\n'],
    by simp [endings], (toList_hunkHeader first last).trans (by simp; rfl)⟩
  simp only [breakFree_append]
  exact ⟨⟨⟨⟨by decide, breakFree_rangeText _ _⟩, by decide⟩, breakFree_rangeText _ _⟩, by decide⟩

end VersionStamp.Patch

namespace VersionStamp.Diff

open Patch

/-! ## Hunks

A hunk reads back as what it announces: ranges from the numbers of its outermost blocks, and its
entries.  Whether those ranges are right is not a matter of printing and is not looked at here. -/

/-- The entries of a block, in the order in which they are shown. -/
def Block.entries : Block → List Entry
  | .same _ _ lines => lines.map fun l => ⟨.keep, l⟩
  | .edit _ _ deleted inserted =>
    (deleted.map fun l => ⟨.delete, l⟩) ++ inserted.map fun l => ⟨.insert, l⟩

theorem Block.marked_eq (b : Block) : b.marked = (b.entries.flatMap Entry.printed).flatten := by
  have together : ∀ kind (ls : List Line),
      ((ls.map fun l => (⟨kind, l⟩ : Entry)).flatMap Entry.printed).flatten =
        ls.flatMap (markedLine (mark kind)) := by
    intro kind ls
    induction ls with
    | nil => rfl
    | cons l ls ih => simp [flatten_printed, ih]
  cases b with
  | same o n ls => exact (together .keep ls).symm
  | edit o n deleted inserted =>
      simp only [Block.marked, Block.entries, List.flatMap_append, List.flatten_append, together]
      rfl

/-- The entries of a hunk. -/
def Hunk.entries (h : Hunk) : List Entry := h.flatMap Block.entries

/-- What the text of a hunk tells of it: its ranges go from where its first block was found to
where its last one was, and its entries are shown as they are. -/
def Hunk.announced (h : Hunk) : Part :=
  match h.head?, h.getLast? with
  | some first, some last =>
    ⟨⟨first.oldAt, last.oldAt + last.oldLines.length - first.oldAt⟩,
      ⟨first.newAt, last.newAt + last.newLines.length - first.newAt⟩, h.entries⟩
  | _, _ => ⟨⟨0, 0⟩, ⟨0, 0⟩, []⟩

/-- The lines that are printed for a hunk. -/
def Hunk.printed (h : Hunk) : List Line :=
  match h.head?, h.getLast? with
  | some first, some last => (hunkHeader first last).toList :: h.entries.flatMap Entry.printed
  | _, _ => []

theorem Hunk.text_eq (h : Hunk) : h.text = h.printed.flatten := by
  have together : ∀ blocks : List Block, blocks.flatMap Block.marked =
      ((blocks.flatMap Block.entries).flatMap Entry.printed).flatten := by
    intro blocks
    induction blocks with
    | nil => rfl
    | cons b blocks ih => simp [Block.marked_eq, ih]
  unfold Hunk.text Hunk.printed
  cases h.head? with
  | none => rfl
  | some first =>
      cases h.getLast? with
      | none => rfl
      | some last => exact congrArg _ (together h)

theorem exists_ends {h : Hunk} (some_block : h ≠ []) :
    ∃ first last, h.head? = some first ∧ h.getLast? = some last :=
  ⟨_, _, List.head?_eq_some_head some_block, List.getLast?_eq_some_getLast some_block⟩

theorem readLines?_hunk {h : Hunk} (some_block : h ≠ []) {rest : List Line} {parts : List Part}
    (read : readLines? rest = some ([], parts)) (no_note : rest.head? ≠ some note) :
    readLines? (h.printed ++ rest) = some ([], h.announced :: parts) ∧
      (h.printed ++ rest).head? ≠ some note := by
  obtain ⟨first, last, begins, ends⟩ := exists_ends some_block
  have entries_read := (readLines?_flatMap_printed h.entries read no_note).1
  rw [List.append_nil] at entries_read
  have header := readHeader?_hunkHeader first last
  simp only [Hunk.printed, Hunk.announced, begins, ends, List.cons_append]
  rw [toList_hunkHeader, List.cons_append] at header ⊢
  exact ⟨readLines?_header_cons entries_read header, fun same =>
    cons_ne_note (by decide) _ (Option.some.inj same)⟩

theorem isWhole_of_mem_hunk {h : Hunk} (are_lines : ∀ e ∈ h.entries, IsLine e.line) :
    ∀ l ∈ h.printed, IsWhole l ∧ ∃ c text, l = c :: text ∧ c ≠ '\n' := by
  unfold Hunk.printed
  split
  · next first last _ _ =>
    rw [List.forall_mem_cons]
    refine ⟨⟨isWhole_hunkHeader first last, _, _, toList_hunkHeader first last, by decide⟩, ?_⟩
    intro l mem
    obtain ⟨e, mem_entries, mem_printed⟩ := List.mem_flatMap.mp mem
    exact isWhole_of_mem_printed (are_lines e mem_entries) l mem_printed
  · exact nofun

theorem readLines?_hunks {hs : List Hunk} (some_block : ∀ h ∈ hs, h ≠ []) :
    readLines? (hs.flatMap Hunk.printed) = some ([], hs.map Hunk.announced) ∧
      (hs.flatMap Hunk.printed).head? ≠ some note := by
  induction hs with
  | nil => exact ⟨rfl, nofun⟩
  | cons h hs ih =>
      rw [List.forall_mem_cons] at some_block
      exact readLines?_hunk some_block.1 (ih some_block.2).1 (ih some_block.2).2

/-- What is printed of hunks is read back. -/
theorem read?_flatMap_text {hs : List Hunk} (some_block : ∀ h ∈ hs, h ≠ [])
    (are_lines : ∀ h ∈ hs, ∀ e ∈ h.entries, IsLine e.line) :
    read? (hs.flatMap Hunk.text) = some (hs.map Hunk.announced) := by
  have together : hs.flatMap Hunk.text = (hs.flatMap Hunk.printed).flatten := by
    clear some_block are_lines
    induction hs with
    | nil => rfl
    | cons h hs ih => simp [Hunk.text_eq, ih]
  have printed : ∀ l ∈ hs.flatMap Hunk.printed,
      IsWhole l ∧ ∃ c text, l = c :: text ∧ c ≠ '\n' := by
    intro l mem
    obtain ⟨h, mem_hunks, mem_printed⟩ := List.mem_flatMap.mp mem
    exact isWhole_of_mem_hunk (are_lines h mem_hunks) l mem_printed
  rw [together, read?, lines_flatten (fun l mem => (printed l mem).1)
    (fun l mem => (printed l mem).2), (readLines?_hunks some_block).1]
  rfl

end VersionStamp.Diff
