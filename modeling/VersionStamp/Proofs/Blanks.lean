/-
# VersionStamp.Proofs.Blanks — the words of a text, and its trimmed form

Words are cut out by a scan that carries the word it is in.  Here they are places in the text:
`OpensWith` says that a text is white space, a word, white space, a second word, and then nothing or
white space with anything behind it, and `opensWith_iff` that the scan finds exactly these two words
first.  `Trims` says in the same way what it is to take the white space off both ends, and
`trims_iff` that trimming does so.
-/
import Mathlib.Data.List.TakeWhile
import VersionStamp.Text.Blank

namespace VersionStamp.Text

variable {cs gap word rest text first second : List Char} {ws : List (List Char)}

/-- White space alone, or nothing. -/
abbrev IsGap (cs : List Char) : Prop := ∀ c ∈ cs, isBlank c = true

/-- Some characters, none of them blank. -/
structure IsWord (cs : List Char) : Prop where
  nonempty : cs ≠ []
  no_blank : ∀ c ∈ cs, isBlank c = false

/-- A word ends here: nothing is left, or a blank is next. -/
abbrev EndsWord (rest : List Char) : Prop := ∀ c ∈ rest.head?, isBlank c = true

/-! ## Words

A scan passes over a gap, goes through a word to the next blank, and starts again there.  Read
backwards, what is scanned as a word has a place in the text with a gap before it, so two words
first means that the text opens with them. -/

theorem words_cons_of_isBlank {b : Char} (blank : isBlank b = true) (cs : List Char) :
    words (b :: cs) = words cs := by
  simp [words, wordsFrom, blank]

theorem words_gap_append (is_gap : IsGap gap) (cs : List Char) : words (gap ++ cs) = words cs := by
  induction gap with
  | nil => rfl
  | cons b gap ih =>
      obtain ⟨blank, is_gap⟩ := List.forall_mem_cons.mp is_gap
      rw [List.cons_append, words_cons_of_isBlank blank, ih is_gap]

theorem wordsFrom_append (begun : word ≠ []) (no_blank : ∀ c ∈ cs, isBlank c = false)
    (ends : EndsWord rest) : wordsFrom word (cs ++ rest) = (word ++ cs) :: words rest := by
  cases rest with
  | nil =>
      rw [List.append_nil]
      induction cs generalizing word with
      | nil => simp [wordsFrom, words, begun]
      | cons c cs ih =>
          obtain ⟨ink, no_blank⟩ := List.forall_mem_cons.mp no_blank
          rw [wordsFrom, ink, if_neg Bool.false_ne_true, ih (by simp) no_blank, List.append_assoc,
            List.singleton_append]
  | cons b rest =>
      have blank : isBlank b = true := ends b rfl
      rw [wordsFrom_append_blank no_blank blank (by simp [begun]), words_cons_of_isBlank blank,
        words]

theorem words_append (is_word : IsWord word) (ends : EndsWord rest) :
    words (word ++ rest) = word :: words rest := by
  cases word with
  | nil => exact absurd rfl is_word.nonempty
  | cons c cs =>
      obtain ⟨ink, no_blank⟩ := List.forall_mem_cons.mp is_word.no_blank
      rw [List.cons_append, words, wordsFrom, ink, if_neg Bool.false_ne_true]
      exact wordsFrom_append (List.cons_ne_nil c []) no_blank ends

theorem exists_of_words_eq_cons (split : words cs = word :: ws) :
    ∃ gap rest, cs = gap ++ word ++ rest ∧ IsGap gap ∧ IsWord word ∧ EndsWord rest ∧
      words rest = ws := by
  induction cs with
  | nil => exact nomatch split
  | cons c cs ih =>
      by_cases blank : isBlank c = true
      · rw [words_cons_of_isBlank blank] at split
        obtain ⟨gap, rest, rfl, is_gap, is_word, ends, left⟩ := ih split
        exact ⟨c :: gap, rest, rfl, List.forall_mem_cons.mpr ⟨blank, is_gap⟩, is_word, ends, left⟩
      · -- The word begins here and goes on to the next blank.
        have parts : cs = cs.takeWhile (!isBlank ·) ++ cs.dropWhile (!isBlank ·) :=
          List.takeWhile_append_dropWhile.symm
        have is_word : IsWord (c :: cs.takeWhile (!isBlank ·)) := by
          refine ⟨List.cons_ne_nil c _, List.forall_mem_cons.mpr ⟨by simpa using blank, ?_⟩⟩
          intro d mem
          simpa using List.mem_takeWhile_imp mem
        have ends : EndsWord (cs.dropWhile (!isBlank ·)) := by
          intro d next
          have := List.head?_dropWhile_not (!isBlank ·) cs
          rw [Option.mem_def] at next
          simpa [next] using this
        have found := words_append is_word ends
        rw [List.cons_append, ← parts, split] at found
        obtain ⟨rfl, rfl⟩ := List.cons.inj found
        exact ⟨[], _, congrArg (c :: ·) parts, List.forall_mem_nil _, is_word, ends, rfl⟩

/-- The text begins with two words, perhaps after white space.  Behind the second there is nothing,
or white space and then anything. -/
inductive OpensWith : List Char → List Char → List Char → Prop
  | of {front first gap second rest : List Char} (is_front : IsGap front) (is_first : IsWord first)
      (is_gap : IsGap gap) (apart : gap ≠ []) (is_second : IsWord second) (ends : EndsWord rest) :
      OpensWith (front ++ first ++ (gap ++ second ++ rest)) first second

theorem opensWith_iff :
    OpensWith cs first second ↔ ∃ ws, words cs = first :: second :: ws := by
  constructor
  · rintro ⟨is_front, is_first, is_gap, apart, is_second, ends⟩
    rename_i front gap rest
    have behind : EndsWord (gap ++ second ++ rest) := by
      cases gap with
      | nil => exact absurd rfl apart
      | cons b gap =>
          rintro c ⟨⟩
          exact is_gap b List.mem_cons_self
    refine ⟨words rest, ?_⟩
    rw [List.append_assoc, words_gap_append is_front, words_append is_first behind,
      List.append_assoc, words_gap_append is_gap, words_append is_second ends]
  · rintro ⟨ws, split⟩
    obtain ⟨front, rest, rfl, is_front, is_first, ends, left⟩ := exists_of_words_eq_cons split
    obtain ⟨gap, rest, rfl, is_gap, is_second, ends', -⟩ := exists_of_words_eq_cons left
    refine .of is_front is_first is_gap ?_ is_second ends'
    rintro rfl
    -- Without a gap the first word would go on.
    obtain ⟨c, tail, rfl⟩ := List.exists_cons_of_ne_nil is_second.nonempty
    have blank := ends c rfl
    rw [is_second.no_blank c List.mem_cons_self] at blank
    exact Bool.false_ne_true blank

/-! ## Trimming

Trimming drops white space from the front and, with the text reversed, from the end.  A text whose
ends are no blanks is what is left of it with any gaps around it. -/

/-- The text is the other one without the white space at either end. -/
inductive Trims : List Char → List Char → Prop
  | of {front text back : List Char} (is_front : IsGap front) (is_back : IsGap back)
      (begins : ∀ c ∈ text.head?, isBlank c = false)
      (ends : ∀ c ∈ text.getLast?, isBlank c = false) : Trims (front ++ text ++ back) text

theorem dropWhile_gap_append (is_gap : IsGap gap) (begins : ∀ c ∈ cs.head?, isBlank c = false) :
    (gap ++ cs).dropWhile isBlank = cs := by
  rw [List.dropWhile_append_of_pos is_gap]
  cases cs with
  | nil => rfl
  | cons c cs => rw [List.dropWhile_cons_of_neg (by simp [begins c rfl])]

theorem head?_dropWhile_isBlank (cs : List Char) :
    ∀ c ∈ (cs.dropWhile isBlank).head?, isBlank c = false := by
  intro c first
  have := List.head?_dropWhile_not isBlank cs
  rw [Option.mem_def] at first
  simpa [first] using this

theorem trimEnd_append_gap (is_gap : IsGap gap) (ends : ∀ c ∈ cs.getLast?, isBlank c = false) :
    trimEnd (cs ++ gap) = cs := by
  have reversed : IsGap gap.reverse := fun c mem => is_gap c (List.mem_reverse.mp mem)
  rw [trimEnd, List.reverse_append,
    dropWhile_gap_append reversed (by rwa [List.head?_reverse]), List.reverse_reverse]

theorem trims_iff : Trims cs text ↔ trim cs = text := by
  constructor
  · rintro ⟨is_front, is_back, begins, ends⟩
    rename_i front back
    rw [trim, trimStart, List.append_assoc]
    -- Nothing is left of white space alone, and then it cannot be told which end it came from.
    cases text with
    | nil =>
        have all_blank : IsGap (front ++ ([] ++ back)) :=
          List.forall_mem_append.mpr ⟨is_front, is_back⟩
        rw [List.dropWhile_eq_nil_iff.mpr all_blank]
        rfl
    | cons c text =>
        rw [dropWhile_gap_append is_front (by simpa using begins), trimEnd_append_gap is_back ends]
  -- The gaps are what `takeWhile` finds from either end.
  · rintro rfl
    have front : IsGap (cs.takeWhile isBlank) := fun c mem => List.mem_takeWhile_imp mem
    have back : IsGap ((trimStart cs).reverse.takeWhile isBlank).reverse := fun c mem =>
      List.mem_takeWhile_imp (List.mem_reverse.mp mem)
    have parts : trimStart cs = trim cs ++ ((trimStart cs).reverse.takeWhile isBlank).reverse :=
      calc trimStart cs
        _ = ((trimStart cs).reverse.takeWhile isBlank ++
              (trimStart cs).reverse.dropWhile isBlank).reverse := by
            rw [List.takeWhile_append_dropWhile, List.reverse_reverse]
        _ = trim cs ++ ((trimStart cs).reverse.takeWhile isBlank).reverse := by
            rw [List.reverse_append, trim, trimEnd]
    have begins : ∀ c ∈ (trim cs).head?, isBlank c = false := by
      intro c first
      refine head?_dropWhile_isBlank cs c ?_
      change c ∈ (trimStart cs).head?
      rw [parts, List.head?_append, Option.mem_def.mp first]
      rfl
    have ends : ∀ c ∈ (trim cs).getLast?, isBlank c = false := by
      intro c last
      rw [trim, trimEnd, List.getLast?_reverse] at last
      exact head?_dropWhile_isBlank _ c last
    have whole : cs = cs.takeWhile isBlank ++ trim cs ++
        ((trimStart cs).reverse.takeWhile isBlank).reverse := by
      rw [List.append_assoc, ← parts, trimStart, List.takeWhile_append_dropWhile]
    have trims := Trims.of front back begins ends
    rwa [← whole] at trims

end VersionStamp.Text
