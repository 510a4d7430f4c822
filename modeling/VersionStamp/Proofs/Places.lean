/-
# VersionStamp.Proofs.Places — where the assignments that a scan meets stand

`MetAt` says of the uncut text that a scan from left to right meets an assignment at a place.  It is
what a reader would point at: the first assignment of the text, and then what is met in the text
behind it.  `MetAt.exists_isMet` and `exists_metAt` join this to the pieces that are met, and tell
between which characters the assignment stands (`Spans`).

Assignments of different constants *keep apart* if no two of those that are met share a character.
On pieces this means that none is met right behind one of another constant (`keepApart_iff`).
-/
import VersionStamp.Proofs.Meeting
import VersionStamp.Proofs.Overlap

namespace VersionStamp

namespace Pieces

/-- How many characters stand before the piece at an index. -/
def offset : Pieces → Nat → Nat
  | p :: rest, i + 1 => p.length + 1 + offset rest i
  | _, _ => 0

theorem offset_zero (pieces : Pieces) : offset pieces 0 = 0 := by
  cases pieces <;> rfl

theorem offset_cons_succ (p : List Char) (rest : Pieces) (i : Nat) :
    offset (p :: rest) (i + 1) = p.length + 1 + offset rest i := rfl

theorem offset_mono {pieces : Pieces} {i j : Nat} (le : i ≤ j) :
    offset pieces i ≤ offset pieces j := by
  induction pieces generalizing i j with
  | nil => exact Nat.le_refl 0
  | cons p rest ih =>
      match i, j, le with
      | 0, j, _ => exact offset_zero (p :: rest) ▸ Nat.zero_le _
      | i + 1, j + 1, le => exact Nat.add_le_add_left (ih (Nat.le_of_succ_le_succ le)) _

end Pieces

namespace Constant

variable {name : List Char}

/-! ## Places in a text

A scan meets the first assignment of a text and then what is met behind it, so `MetAt` has one case
for each.  Put before a text, a piece in which no assignment begins moves every place by its length
and the quote (`metAt_quote_iff`), and an assignment is one place more (`metAt_lead_iff`).  With
`isMet`, which has the same two cases, both directions between text and pieces go by induction on
the pieces. -/

/-- A scan of the text from left to right meets the assignment at this place: it is the first, or
is met behind the first one. -/
inductive MetAt (name : List Char) :
    List Char → List Char → List Char → List Char → List Char → Prop
  | first {before lead literal after cs : List Char}
      (here : AssignsAt name before lead literal after cs)
      (first : BeginsFirst name before cs) :
      MetAt name before lead literal after cs
  | later {before lead literal rest between lead' literal' after cs : List Char}
      (here : AssignsAt name before lead literal rest cs)
      (first : BeginsFirst name before cs)
      (met : MetAt name between lead' literal' after rest) :
      MetAt name (before ++ lead ++ '"' :: (literal ++ '"' :: between)) lead' literal' after cs

variable {before lead literal after piece rest : List Char}

theorem MetAt.assignsAt {cs : List Char} (met : MetAt name before lead literal after cs) :
    AssignsAt name before lead literal after cs := by
  induction met with
  | first here _ => exact here
  | later here _ _ ih =>
      have text_eq := here.text_eq
      rw [← List.cons_append, ← List.append_assoc] at text_eq
      rw [text_eq, ← List.cons_append, ← List.append_assoc]
      exact ih.behind_quote _

theorem metAt_quote_iff (named : IsName name) (free : '"' ∉ piece)
    (not_lead : ¬ isLead name piece = true) :
    MetAt name before lead literal after (piece ++ '"' :: rest) ↔
      ∃ between, before = piece ++ '"' :: between ∧
        MetAt name between lead literal after rest := by
  have first_iff := fun between =>
    @beginsFirst_quote_iff name piece between rest named free not_lead
  constructor
  · intro met
    cases met with
    | first here first =>
        obtain ⟨between, rfl, inside⟩ := here.exists_behind named free not_lead
        exact ⟨between, rfl, .first inside ((first_iff between).mp first)⟩
    | later here first met =>
        obtain ⟨between, rfl, inside⟩ := here.exists_behind named free not_lead
        exact ⟨_, by simp only [List.append_assoc, List.cons_append],
          .later inside ((first_iff between).mp first) met⟩
  · rintro ⟨between, rfl, met⟩
    cases met with
    | first here first => exact .first (here.behind_quote piece) ((first_iff _).mpr first)
    | later here first met =>
        have := MetAt.later (here.behind_quote piece) ((first_iff _).mpr first) met
        simpa using this

theorem metAt_lead_iff {front opening here : List Char} (named : IsName name)
    (free : '"' ∉ front ++ opening) (ends : EndsWord front) (opens : Opens name opening)
    (here_free : '"' ∉ here) :
    MetAt name before lead literal after (front ++ opening ++ '"' :: (here ++ '"' :: rest)) ↔
      (before = front ∧ lead = opening ∧ literal = here ∧ after = rest) ∨
      ∃ between, before = front ++ opening ++ '"' :: (here ++ '"' :: between) ∧
        MetAt name between lead literal after rest := by
  have assigns : AssignsAt name front opening here rest
      (front ++ opening ++ '"' :: (here ++ '"' :: rest)) := ⟨rfl, ends, opens, here_free⟩
  have first : BeginsFirst name front (front ++ opening ++ '"' :: (here ++ '"' :: rest)) :=
    fun here' => here'.prefix_of_lead named free opens
  constructor
  · intro met
    cases met with
    | first here' first' => exact .inl (here'.eq_of_first named first' assigns first)
    | later here' first' met =>
        obtain ⟨rfl, rfl, rfl, rfl⟩ := here'.eq_of_first named first' assigns first
        exact .inr ⟨_, rfl, met⟩
  · rintro (⟨rfl, rfl, rfl, rfl⟩ | ⟨between, rfl, met⟩)
    · exact .first assigns first
    · exact .later assigns first met

/-- An assignment occupies the end of one piece and the whole of the next. -/
structure Spans (pieces : Pieces) (i : Nat) (before lead literal : List Char) : Prop where
  begins_in : Pieces.offset pieces i ≤ before.length
  begins_before : before.length < Pieces.offset pieces (i + 1)
  length_eq : (before ++ lead ++ '"' :: literal ++ ['"']).length = Pieces.offset pieces (i + 2)

theorem Spans.behind {pieces : Pieces} {i : Nat} (span : Spans pieces i before lead literal)
    (p : List Char) : Spans (p :: pieces) (i + 1) (p ++ '"' :: before) lead literal := by
  obtain ⟨begins_in, begins_before, length_eq⟩ := span
  simp only [List.length_append, List.length_cons, List.length_nil] at length_eq
  constructor <;>
    simp only [List.length_append, List.length_cons, List.length_nil, Pieces.offset_cons_succ]
  · omega
  · omega
  · omega

theorem spans_zero (front opening q : List Char) (rest : Pieces) :
    Spans ((front ++ opening) :: q :: rest) 0 front opening q := by
  constructor <;>
    simp only [List.length_append, List.length_cons, List.length_nil, Pieces.offset_cons_succ,
      Pieces.offset_zero]
  · omega
  · omega
  · omega

theorem MetAt.exists_isMet (named : IsName name) : ∀ {pieces : Pieces} {before : List Char},
    pieces.QuoteFree → MetAt name before lead literal after (Pieces.join pieces) →
      ∃ i, isMet name pieces i = true ∧ Spans pieces i before lead literal
  | [], _, free, met => ((assigns_join named _ free).mp ⟨_, _, _, met.assignsAt⟩).elim
  | [_], _, free, met => ((assigns_join named _ free).mp ⟨_, _, _, met.assignsAt⟩).elim
  | [_, _], _, free, met => ((assigns_join named _ free).mp ⟨_, _, _, met.assignsAt⟩).elim
  | p :: q :: r :: rest, before, free, met => by
      by_cases is_lead : isLead name p = true
      · obtain ⟨front, opening, rfl, ends, opens⟩ := (isLead_iff named).mp is_lead
        rw [Pieces.join_cons_cons, Pieces.join_cons_cons,
          metAt_lead_iff named free.head ends opens free.tail.head] at met
        rcases met with ⟨rfl, rfl, rfl, rfl⟩ | ⟨between, rfl, met⟩
        · exact ⟨0, isMet_zero.trans is_lead, spans_zero before lead literal (r :: rest)⟩
        · obtain ⟨i, is_met, span⟩ := met.exists_isMet named free.tail.tail
          exact ⟨i + 2, (isMet_add_two is_lead i).trans is_met, (span.behind q).behind _⟩
      · rw [Pieces.join_cons_cons, metAt_quote_iff named free.head is_lead] at met
        obtain ⟨between, rfl, met⟩ := met
        obtain ⟨i, is_met, span⟩ := met.exists_isMet named free.tail
        exact ⟨i + 1, (isMet_succ is_lead i).trans is_met, span.behind p⟩

theorem exists_metAt (named : IsName name) : ∀ {pieces : Pieces} {i : Nat},
    pieces.QuoteFree → isMet name pieces i = true →
      ∃ before lead literal after, MetAt name before lead literal after (Pieces.join pieces) ∧
        Spans pieces i before lead literal
  | p :: q :: r :: rest, i, free, met => by
      by_cases is_lead : isLead name p = true
      · obtain ⟨front, opening, rfl, ends, opens⟩ := (isLead_iff named).mp is_lead
        rw [Pieces.join_cons_cons, Pieces.join_cons_cons]
        match i, met with
        | 0, _ =>
            exact ⟨front, opening, q, _, (metAt_lead_iff named free.head ends opens
              free.tail.head).mpr (.inl ⟨rfl, rfl, rfl, rfl⟩), spans_zero _ _ _ _⟩
        | 1, met => exact absurd met (by simp [isMet_one is_lead])
        | i + 2, met =>
            rw [isMet_add_two is_lead] at met
            obtain ⟨before, lead, literal, after, met, span⟩ :=
              exists_metAt named free.tail.tail met
            exact ⟨_, lead, literal, after, (metAt_lead_iff named free.head ends opens
              free.tail.head).mpr (.inr ⟨before, rfl, met⟩), (span.behind q).behind _⟩
      · rw [Pieces.join_cons_cons]
        match i, met with
        | 0, met => exact absurd (isMet_zero ▸ met) is_lead
        | i + 1, met =>
            rw [isMet_succ is_lead] at met
            obtain ⟨before, lead, literal, after, met, span⟩ := exists_metAt named free.tail met
            exact ⟨_, lead, literal, after, (metAt_quote_iff named free.head is_lead).mpr
              ⟨before, rfl, met⟩, span.behind p⟩

/-! ## Assignments that keep apart

Two assignments share a character only if the lead of one stands in the literal of the other, which
is the piece right behind the other's lead.  Two that are met for one constant never do, so the
condition is about different constants; and as a question about pieces it can be decided. -/

/-- The assignments of different constants that are met share no character: one ends before the
other begins. -/
def KeepApart (cs : List Char) : Prop :=
  ∀ ⦃c d : Constant⦄ ⦃before lead literal after before' lead' literal' after' : List Char⦄,
    c ≠ d → MetAt c.name.toList before lead literal after cs →
    MetAt d.name.toList before' lead' literal' after' cs →
    (before ++ lead ++ '"' :: literal ++ ['"']).length ≤ before'.length ∨
      (before' ++ lead' ++ '"' :: literal' ++ ['"']).length ≤ before.length

/-- The piece behind one that is met for a constant is not met for another. -/
def Spaced (pieces : Pieces) : Prop :=
  ∀ ⦃c d : Constant⦄ ⦃i : Nat⦄, c ≠ d → isMet c.name.toList pieces i = true →
    isMet d.name.toList pieces (i + 1) = false

theorem eq_of_isMet {c d : Constant} {pieces : Pieces} {i : Nat}
    (met : isMet c.name.toList pieces i = true) (met' : isMet d.name.toList pieces i = true) :
    c = d := by
  obtain ⟨lead, at_lead, is_lead, -⟩ := lead_of_isMet met
  obtain ⟨lead', at_lead', is_lead', -⟩ := lead_of_isMet met'
  rw [at_lead, Option.some.injEq] at at_lead'
  subst at_lead'
  by_contra different
  exact apart_of_ne different lead is_lead is_lead'

theorem keepApart_join_iff {pieces : Pieces} (free : pieces.QuoteFree) :
    KeepApart (Pieces.join pieces) ↔ Spaced pieces := by
  constructor
  · intro separate c d i different met
    by_contra met'
    rw [Bool.not_eq_false] at met'
    obtain ⟨before, lead, literal, after, here, span⟩ := exists_metAt (isName_name c) free met
    obtain ⟨before', lead', literal', after', here', span'⟩ :=
      exists_metAt (isName_name d) free met'
    -- The one has the lead of the other for its literal, so neither ends before the other begins.
    rcases separate different here here' with ends | ends
    · have begins : before'.length < Pieces.offset pieces (i + 2) := span'.begins_before
      rw [span.length_eq] at ends
      omega
    · have begins : Pieces.offset pieces (i + 1) ≤ Pieces.offset pieces (i + 1 + 2) :=
        Pieces.offset_mono (Nat.le_add_right _ _)
      have := span.begins_before
      rw [span'.length_eq] at ends
      omega
  · intro spaced c d before lead literal after before' lead' literal' after' different here here'
    obtain ⟨i, met, span⟩ := here.exists_isMet (isName_name c) free
    obtain ⟨j, met', span'⟩ := here'.exists_isMet (isName_name d) free
    rw [span.length_eq, span'.length_eq]
    -- They are met at different pieces, and not at neighbouring ones: two pieces lie between.
    rcases Nat.lt_trichotomy i j with lt | rfl | lt
    · have gap : j ≠ i + 1 := by
        rintro rfl
        exact absurd met' (by simp [spaced different met])
      have le : i + 2 ≤ j := by omega
      exact .inl (Nat.le_trans (Pieces.offset_mono le) span'.begins_in)
    · exact absurd (eq_of_isMet met met') different
    · have gap : i ≠ j + 1 := by
        rintro rfl
        exact absurd met (by simp [spaced different.symm met'])
      have le : j + 2 ≤ i := by omega
      exact .inr (Nat.le_trans (Pieces.offset_mono le) span.begins_in)

theorem keepApart_iff (cs : List Char) : KeepApart cs ↔ Spaced (Pieces.cut cs) := by
  have joined := keepApart_join_iff (Pieces.quote_free_cut cs)
  rwa [Pieces.join_cut] at joined

instance (cs : List Char) : Decidable (KeepApart cs) :=
  decidable_of_iff (∀ c ∈ all, ∀ d ∈ all, ∀ i ∈ List.range (Pieces.cut cs).length, c ≠ d →
      isMet c.name.toList (Pieces.cut cs) i = true →
      isMet d.name.toList (Pieces.cut cs) (i + 1) = false) <| by
    rw [keepApart_iff]
    refine ⟨fun spaced c d i different met => ?_,
      fun spaced c _ d _ i _ different met => spaced different met⟩
    obtain ⟨lead, -, -, closed⟩ := lead_of_isMet met
    exact spaced c c.mem_all d d.mem_all i (List.mem_range.mpr (by omega)) different met

/-- Assignments that share no character keep apart, whether they are met or not. -/
theorem Separate.keepApart {cs : List Char} (separate : Separate cs) : KeepApart cs :=
  fun _ _ _ _ _ _ _ _ _ _ different met met' =>
    separate different met.assignsAt met'.assignsAt

end Constant

end VersionStamp
