/-
# VersionStamp.Proofs.Course — a second pass takes the course of the first

A pass goes through a text from left to right: over a gap to the assignment that begins first, into
its literal, and on behind its second quote.  `Course` writes down what it goes over in this way,
as entries and a rest, and says so of the uncut text.

A pass replaces what stands between the quotes and nothing else on its course.  The quotes stay, so
a scan of the text that it leaves goes over the same gaps to the same leads (`InStep`).  It does so
even if the value reads as the beginning of an assignment itself: the scan comes to the value behind
a lead, and goes on behind the value without looking for anything in it.  So nothing of the first
value is left after a second pass (`fill_fill`), and all that is asked of the values is that they
hold no quote.
-/
import VersionStamp.Proofs.AtOnce

namespace VersionStamp.Constant

/-- The same entry, with something else between its quotes. -/
def Entry.withLiteral (e : Entry) (value : List Char) : Entry := { e with literal := value }

/-- The course of a scan for a constant.  It leads to the assignment that begins first, and goes on
behind it; where no assignment is left, there is only the rest. -/
inductive Course (c : Constant) : List Char → List Entry → List Char → Prop
  | stop {cs : List Char} (none_left : ∀ literal, ¬ Assigns c.name.toList literal cs) :
      Course c cs [] cs
  | next {gap lead literal after cs rest : List Char} {entries : List Entry}
      (here : AssignsAt c.name.toList gap lead literal after cs)
      (first : BeginsFirst c.name.toList gap cs) (onward : Course c after entries rest) :
      Course c cs (⟨gap, c, lead, literal⟩ :: entries) rest

variable {c : Constant} {cs cs' piece rest value : List Char} {entries : List Entry} {n : Nat}

/-! ## The course of a text

The first assignment of a constant in a text is settled by the text, and so is its literal; hence
there is one course.  A piece in which no assignment begins can be put before a text without
changing its course but for the gap at its beginning, or the rest. -/

theorem Course.text_eq (course : Course c cs entries rest) : cs = plainText entries rest := by
  induction course with
  | stop none_left => rfl
  | next here first onward ih => rw [plainText_cons, ← ih, here.text_eq]

theorem Course.unique {entries' : List Entry} {rest' : List Char}
    (course : Course c cs entries rest) (course' : Course c cs entries' rest') :
    entries' = entries ∧ rest' = rest := by
  induction course generalizing entries' with
  | stop none_left =>
      cases course' with
      | stop _ => exact ⟨rfl, rfl⟩
      | next here _ _ => exact absurd ⟨_, _, _, here⟩ (none_left _)
  | next here first _ ih =>
      cases course' with
      | stop none_left => exact absurd ⟨_, _, _, here⟩ (none_left _)
      | next here' first' onward' =>
          obtain ⟨rfl, rfl, rfl, rfl⟩ := here.eq_of_first (isName_name c) first here' first'
          obtain ⟨rfl, rfl⟩ := ih onward'
          exact ⟨rfl, rfl⟩

theorem Course.behind_stop (free : '"' ∉ piece) (other : ¬ isLead c.name.toList piece = true)
    (course : Course c cs [] rest) : Course c (piece ++ '"' :: cs) [] (piece ++ '"' :: rest) := by
  cases course with
  | stop none_left =>
      exact .stop fun literal =>
        (assigns_quote_iff (isName_name c) free other).not.mpr (none_left literal)

theorem Course.behind_next {e : Entry} (free : '"' ∉ piece)
    (other : ¬ isLead c.name.toList piece = true) (course : Course c cs (e :: entries) rest) :
    Course c (piece ++ '"' :: cs) ({ e with gap := piece ++ '"' :: e.gap } :: entries) rest := by
  cases course with
  | next here first onward =>
      exact .next (here.behind_quote piece)
        ((beginsFirst_quote_iff (isName_name c) free other).mpr first) onward

/-! ## Two texts in step

The induction that follows `fill` needs both texts at once, the one that is passed over and the one
that is left, with their courses behind the same piece.  `InStep` is what it carries: one case puts
a gap before both texts, the other an assignment with the old literal before the one and with the
value before the other. -/

/-- A scan goes through two texts in step: over the same gaps to the same `n` leads, and to the same
rest.  In the second text it finds the value between the quotes, every time. -/
def InStep (c : Constant) (value : List Char) (n : Nat) (cs cs' : List Char) : Prop :=
  ∃ entries rest, Course c cs entries rest ∧
    Course c cs' (entries.map (·.withLiteral value)) rest ∧ entries.length = n

theorem InStep.refl (none_left : ∀ literal, ¬ Assigns c.name.toList literal cs) :
    InStep c value 0 cs cs :=
  ⟨[], cs, .stop none_left, .stop none_left, rfl⟩

theorem InStep.behind (step : InStep c value n cs cs') (free : '"' ∉ piece)
    (other : ¬ isLead c.name.toList piece = true) :
    InStep c value n (piece ++ '"' :: cs) (piece ++ '"' :: cs') := by
  obtain ⟨entries, rest, course, course', length⟩ := step
  -- The piece belongs to the first gap, or to the rest if there is no gap.
  cases entries with
  | nil =>
      exact ⟨[], _, course.behind_stop free other, course'.behind_stop free other, length⟩
  | cons e entries =>
      exact ⟨_ :: entries, rest, course.behind_next free other, course'.behind_next free other,
        length⟩

theorem InStep.met {front opening literal : List Char} (step : InStep c value n cs cs')
    (free : '"' ∉ front ++ opening) (ends : EndsWord front) (opens : Opens c.name.toList opening)
    (literal_free : '"' ∉ literal) (value_free : '"' ∉ value) :
    InStep c value (n + 1) (front ++ opening ++ '"' :: (literal ++ '"' :: cs))
      (front ++ opening ++ '"' :: (value ++ '"' :: cs')) := by
  obtain ⟨entries, rest, course, course', length⟩ := step
  have first : ∀ {behind : List Char},
      BeginsFirst c.name.toList front (front ++ opening ++ '"' :: behind) :=
    fun here => here.prefix_of_lead (isName_name c) free opens
  refine ⟨⟨front, c, opening, literal⟩ :: entries, rest, ?_, ?_, by rw [List.length_cons, length]⟩
  · exact .next ⟨rfl, ends, opens, literal_free⟩ first course
  · exact .next ⟨rfl, ends, opens, value_free⟩ first course'

/-- A pass leaves a text in step with the one that it was given, and counts the steps. -/
theorem inStep_fill (value_free : '"' ∉ value) : ∀ {pieces : Pieces}, pieces.QuoteFree →
    InStep c value (fill c.name.toList value pieces).2 (Pieces.join pieces)
      (Pieces.join (fill c.name.toList value pieces).1)
  | [], free => .refl fun _ => (assigns_join (isName_name c) _ free).not.mpr id
  | [_], free => .refl fun _ => (assigns_join (isName_name c) _ free).not.mpr id
  | [_, _], free => .refl fun _ => (assigns_join (isName_name c) _ free).not.mpr id
  | p :: q :: r :: rest, free => by
      by_cases is_lead : isLead c.name.toList p = true
      · have ih := inStep_fill value_free free.tail.tail
        obtain ⟨front, opening, rfl, ends, opens⟩ := (isLead_iff (isName_name c)).mp is_lead
        obtain ⟨filled, filled_eq, -⟩ := exists_fill_cons c.name.toList value r rest
        rw [filled_eq] at ih
        rw [fill_of_isLead is_lead, filled_eq, Pieces.join_cons_cons, Pieces.join_cons_cons,
          Pieces.join_cons_cons, Pieces.join_cons_cons]
        exact ih.met free.head ends opens free.tail.head value_free
      · have ih := inStep_fill value_free free.tail
        obtain ⟨filled, filled_eq, -⟩ := exists_fill_cons c.name.toList value q (r :: rest)
        rw [filled_eq] at ih
        rw [fill_of_not_isLead is_lead, filled_eq, Pieces.join_cons_cons, Pieces.join_cons_cons]
        exact ih.behind free.head is_lead

/-! ## A second pass

On the pieces this is an induction of its own, which needs nothing of the values: the second pass
steps over a literal exactly where the first one did.  Only joining and cutting between the passes
asks for a value without quotes. -/

/-- A second pass over the pieces writes where the first one wrote, and counts as many. -/
theorem fill_fill (name value value' : List Char) : ∀ (pieces : Pieces),
    fill name value' (fill name value pieces).1 = fill name value' pieces
  | [] => rfl
  | [_] => rfl
  | [_, _] => rfl
  | p :: q :: r :: rest => by
      by_cases is_lead : isLead name p = true
      · -- The second pass comes to the value as a literal, so it does not ask what it reads as.
        have ih := fill_fill name value value' (r :: rest)
        obtain ⟨filled, filled_eq, -⟩ := exists_fill_cons name value r rest
        rw [filled_eq] at ih
        rw [fill_of_isLead is_lead, filled_eq, fill_of_isLead is_lead, fill_of_isLead is_lead, ih]
      · have ih := fill_fill name value value' (q :: r :: rest)
        obtain ⟨filled, filled_eq, length⟩ := exists_fill_cons name value q (r :: rest)
        obtain ⟨s, filled, rfl⟩ := List.exists_cons_of_length_eq_add_one length
        rw [filled_eq] at ih
        rw [fill_of_not_isLead is_lead, filled_eq, fill_of_not_isLead is_lead,
          fill_of_not_isLead is_lead, ih]

/-- A pass with a value without quotes leaves no trace for the next pass. -/
theorem assign_assign (value_free : '"' ∉ value) (name value' cs : List Char) :
    assign name value' (assign name value cs).1 = assign name value' cs := by
  have behind := cut_assign_of_quote_free value_free name cs
  have again := fill_fill name value value' (Pieces.cut cs)
  unfold assign at behind ⊢
  rw [behind, again]

/-- A pass with a value without quotes, which may well read as an assignment, writes into the
literals on the course of its text and counts them.  A scan of the text that it leaves takes the
same course, but for the value in all literals.  A second pass with the value changes nothing, and
one with another value does what it would have done at first. -/
theorem assign_keeps_course (value_free : '"' ∉ value) (c : Constant) (cs : List Char) :
    ∃ entries rest, Course c cs entries rest ∧
      assign c.name.toList value cs =
        (plainText (entries.map (·.withLiteral value)) rest, entries.length) ∧
      (∀ again behind, Course c (assign c.name.toList value cs).1 again behind ↔
        again = entries.map (·.withLiteral value) ∧ behind = rest) ∧
      (assign c.name.toList value (assign c.name.toList value cs).1).1 =
        (assign c.name.toList value cs).1 ∧
      ∀ value', assign c.name.toList value' (assign c.name.toList value cs).1 =
        assign c.name.toList value' cs := by
  have in_step := inStep_fill (c := c) value_free (Pieces.quote_free_cut cs)
  rw [Pieces.join_cut] at in_step
  obtain ⟨entries, rest, course, course', length⟩ := in_step
  refine ⟨entries, rest, course, ?_, fun again behind => ⟨course'.unique, ?_⟩, ?_,
    fun value' => assign_assign value_free c.name.toList value' cs⟩
  · exact Prod.ext course'.text_eq length.symm
  · rintro ⟨rfl, rfl⟩
    exact course'
  · rw [assign_assign value_free]

/-- The constant is named in a literal, behind a literal and before a quote that is left open. -/
def crowded : String :=
  "ReleaseVersion = \"ReleaseVersion=\"ReleaseVersion = \"1\"ReleaseVersion=\""

/-- A value that reads as the beginning of an assignment is met twice, and is overwritten twice. -/
theorem assign_keeps_course_of_crowded :
    '"' ∉ "ReleaseVersion =".toList ∧
      (∃ entries rest, entries.length = 2 ∧ Course releaseVersion crowded.toList entries rest ∧
        Course releaseVersion
          ("ReleaseVersion = \"ReleaseVersion =\"ReleaseVersion = \"ReleaseVersion =\"" ++
            "ReleaseVersion=\"").toList
          (entries.map (·.withLiteral "ReleaseVersion =".toList)) rest) ∧
      assign releaseVersion.name.toList "2.0".toList
          ("ReleaseVersion = \"ReleaseVersion =\"ReleaseVersion = \"ReleaseVersion =\"" ++
            "ReleaseVersion=\"").toList =
        ("ReleaseVersion = \"2.0\"ReleaseVersion = \"2.0\"ReleaseVersion=\"".toList, 2) := by
  have free : '"' ∉ "ReleaseVersion =".toList := by decide
  obtain ⟨entries, rest, course, once, again_iff, -, other⟩ :=
    assign_keeps_course free releaseVersion crowded.toList
  have first : assign releaseVersion.name.toList "ReleaseVersion =".toList crowded.toList =
      (("ReleaseVersion = \"ReleaseVersion =\"ReleaseVersion = \"ReleaseVersion =\"" ++
        "ReleaseVersion=\"").toList, 2) := by decide +kernel
  have course' := (again_iff _ _).mpr ⟨rfl, rfl⟩
  have second := other "2.0".toList
  rw [first] at once course' second
  refine ⟨free, ⟨entries, rest, (Prod.mk.inj once).2.symm, course, course'⟩, second.trans ?_⟩
  decide +kernel

end VersionStamp.Constant
