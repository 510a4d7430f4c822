/-
# VersionStamp.Proofs.Assignment — where a text assigns a name

`Constant.fill` looks for assignments among the pieces of a text that was cut at its quotes.  Here
an assignment is what a reader of the uncut text sees: the name, not inside a longer word, then `=`
with any white space around it, then a literal between two quotes.  `Assigns` says that the text
has one, wherever it begins and whatever else it overlaps.

The two views are joined by `assigns_join`, for every name that ends in ink and holds no quote
(`IsName`).  The step behind it is `assignsAt_quote_iff`: seen from the first quote of a text, an
assignment either has its literal right behind that quote or lies behind it altogether.
-/
import Mathlib.Data.List.Basic
import VersionStamp.Constant
import VersionStamp.Proofs.Splitting

namespace VersionStamp

/-! ## Quotes and pieces

A text is cut at its first quote in one way only, so two readings of a text can be compared from
there.  Pieces that hold no quote are the pieces of the text that they make. -/

theorem Pieces.first_quote {x x' y y' : List Char} (free : '"' ∉ x) (free' : '"' ∉ x')
    (same : x ++ '"' :: y = x' ++ '"' :: y') : x = x' ∧ y = y' :=
  Text.eq_of_append_cons_eq free free' same

theorem Pieces.exists_first_quote {cs : List Char} (quoted : '"' ∈ cs) :
    ∃ x y, cs = x ++ '"' :: y ∧ '"' ∉ x := by
  obtain ⟨x, y, rfl, free⟩ := List.eq_append_cons_of_mem quoted
  exact ⟨x, y, rfl, free⟩

/-- No piece holds a quote: these can be the pieces of a text. -/
def Pieces.QuoteFree (pieces : Pieces) : Prop := ∀ piece ∈ pieces, '"' ∉ piece

theorem Pieces.quoteFree_cons {p : List Char} {rest : Pieces} :
    QuoteFree (p :: rest) ↔ '"' ∉ p ∧ QuoteFree rest := List.forall_mem_cons

theorem Pieces.QuoteFree.head {p : List Char} {rest : Pieces} (free : QuoteFree (p :: rest)) :
    '"' ∉ p := (quoteFree_cons.mp free).1

theorem Pieces.QuoteFree.tail {p : List Char} {rest : Pieces} (free : QuoteFree (p :: rest)) :
    QuoteFree rest := (quoteFree_cons.mp free).2

theorem Pieces.join_cons_cons {p q : List Char} {rest : Pieces} :
    Pieces.join (p :: q :: rest) = p ++ '"' :: Pieces.join (q :: rest) := by
  simp [Pieces.join, List.intercalate_cons_cons]

namespace Constant

/-! ## Assignments as places in a text

`AssignsAt` names all parts of an assignment in its text: what stands before it, the lead with the
name, the literal, and what stands after the second quote.  That an assignment is there is said of
the text alone, with no scan and no piece in sight. -/

/-- What an assignment of the name begins with: the name, white space, `=` and white space. -/
inductive Opens (name : List Char) : List Char → Prop
  | intro {gap₁ gap₂ : List Char} (blank₁ : ∀ c ∈ gap₁, Text.isBlank c = true)
      (blank₂ : ∀ c ∈ gap₂, Text.isBlank c = true) : Opens name (name ++ gap₁ ++ '=' :: gap₂)

/-- The text does not end inside a word. -/
def EndsWord (before : List Char) : Prop := ∀ c ∈ before.getLast?, Text.isWord c = false

/-- Behind `before`, the text assigns the literal to the name. -/
structure AssignsAt (name before lead literal after cs : List Char) : Prop where
  text_eq : cs = before ++ lead ++ '"' :: (literal ++ '"' :: after)
  ends_word : EndsWord before
  opens : Opens name lead
  quote_free : '"' ∉ literal

/-- Somewhere, the text assigns the literal to the name. -/
def Assigns (name literal cs : List Char) : Prop :=
  ∃ before lead after, AssignsAt name before lead literal after cs

/-- The name can be told from what follows it: it ends in ink, and it holds no quote. -/
structure IsName (name : List Char) : Prop where
  ends_in_ink : ∃ front c, name = front ++ [c] ∧ Text.isBlank c = false
  quote_free : '"' ∉ name

theorem isName_name (c : Constant) : IsName c.name.toList := by
  cases c with
  | releaseVersion => exact ⟨⟨"ReleaseVersio".toList, 'n', by decide, by decide⟩, by decide⟩
  | manifestDate => exact ⟨⟨"ManifestDat".toList, 'e', by decide, by decide⟩, by decide⟩
  | manifestIsoDate => exact ⟨⟨"ManifestISODat".toList, 'e', by decide, by decide⟩, by decide⟩

/-! ## The beginning of an assignment

In a piece that ends where a quote stood, a lead can only stand at the end.  Read from behind it is
blanks, the sign, blanks and the name, and each of these parts ends where it has to, because the
name ends in ink.  So the program's reading finds the lead if there is one, and finds where it
begins. -/

theorem Opens.quote_free {name lead : List Char} (named : IsName name) (opens : Opens name lead) :
    '"' ∉ lead := by
  have ink : Text.isBlank '"' = false := by decide
  obtain ⟨blank₁, blank₂⟩ := opens
  intro h
  simp only [List.mem_append, List.mem_cons] at h
  rcases h with (h | h) | h | h
  · exact named.quote_free h
  · simp [blank₁ _ h] at ink
  · exact absurd h (by decide)
  · simp [blank₂ _ h] at ink

theorem endsWord_append_quote {x y : List Char} :
    EndsWord (x ++ '"' :: y) ↔ EndsWord y := by
  have apart : Text.isWord '"' = false := by decide
  cases y with
  | nil => simp [EndsWord, apart]
  | cons c y => simp [EndsWord, List.getLast?_append, List.getLast?_cons]

theorem exists_gap (cs : List Char) :
    ∃ gap, (∀ c ∈ gap, Text.isBlank c = true) ∧ cs = gap ++ cs.dropWhile Text.isBlank :=
  ⟨cs.takeWhile Text.isBlank, List.all_eq_true.mp List.all_takeWhile,
    List.takeWhile_append_dropWhile.symm⟩

theorem beforeLead?_eq_some {name piece before : List Char}
    (h : beforeLead? name piece = some before) :
    ∃ lead, piece = before ++ lead ∧ Opens name lead := by
  obtain ⟨gap₂, blank₂, outer⟩ := exists_gap piece.reverse
  unfold beforeLead? at h
  split at h
  · next rest sign =>
    obtain ⟨gap₁, blank₁, inner⟩ := exists_gap rest
    obtain ⟨r, hr, rfl⟩ := Option.map_eq_some_iff.mp h
    rw [List.isPrefixOf?_eq_some_iff_append_eq] at hr
    rw [sign, inner, ← hr] at outer
    refine ⟨name ++ gap₁.reverse ++ '=' :: gap₂.reverse, ?_, .intro ?_ ?_⟩
    · apply List.reverse_injective
      rw [outer]
      simp
    · exact fun c hc => blank₁ c (List.mem_reverse.mp hc)
    · exact fun c hc => blank₂ c (List.mem_reverse.mp hc)
  · simp at h

theorem beforeLead?_append {name lead : List Char} (named : IsName name)
    (opens : Opens name lead) (before : List Char) :
    beforeLead? name (before ++ lead) = some before := by
  obtain ⟨blank₁, blank₂⟩ := opens
  rename_i gap₁ gap₂
  obtain ⟨front, c, rfl, ink⟩ := named.ends_in_ink
  have sign : Text.isBlank '=' = false := by decide
  have outer : (before ++ (front ++ [c] ++ gap₁ ++ '=' :: gap₂)).reverse.dropWhile Text.isBlank =
      '=' :: (gap₁.reverse ++ c :: (front.reverse ++ before.reverse)) := by
    simp only [List.reverse_append, List.reverse_cons, List.append_assoc]
    rw [List.dropWhile_append_of_pos (fun x hx => blank₂ x (List.mem_reverse.mp hx))]
    simp [sign]
  have inner : (gap₁.reverse ++ c :: (front.reverse ++ before.reverse)).dropWhile Text.isBlank =
      c :: (front.reverse ++ before.reverse) := by
    rw [List.dropWhile_append_of_pos (fun x hx => blank₁ x (List.mem_reverse.mp hx))]
    simp [ink]
  unfold beforeLead?
  rw [outer]
  simp only [inner]
  rw [Option.map_eq_some_iff]
  exact ⟨before.reverse, by simp [List.isPrefixOf?_eq_some_iff_append_eq], by simp⟩

/-- A piece is a lead if an assignment begins in it and the piece ends with its first quote. -/
theorem isLead_iff {name piece : List Char} (named : IsName name) :
    isLead name piece = true ↔ ∃ before lead, piece = before ++ lead ∧ EndsWord before ∧
      Opens name lead := by
  constructor
  · intro h
    unfold isLead at h
    split at h
    · exact absurd h Bool.false_ne_true
    · next before found =>
      obtain ⟨lead, rfl, opens⟩ := beforeLead?_eq_some found
      exact ⟨before, lead, rfl, by simpa [EndsWord, Option.all_eq_true] using h, opens⟩
  · rintro ⟨before, lead, rfl, ends, opens⟩
    simpa [isLead, beforeLead?_append named opens, Option.all_eq_true, EndsWord] using ends

theorem Opens.unique {name before before' lead lead' : List Char} (named : IsName name)
    (opens : Opens name lead) (opens' : Opens name lead')
    (same : before ++ lead = before' ++ lead') : before = before' ∧ lead = lead' := by
  have here := beforeLead?_append named opens before
  rw [same, beforeLead?_append named opens', Option.some.injEq] at here
  subst here
  exact ⟨rfl, List.append_cancel_left same⟩

/-! ## The assignments of a text, piece by piece

A lead and a literal hold no quote, so an assignment is one piece's end and the whole next piece.
Taking the pieces off a text one by one, every assignment begins in the first piece or lies behind
it, and the equivalence is an induction on the pieces. -/

theorem not_assigns_of_quote_free {name literal cs : List Char} (free : '"' ∉ cs) :
    ¬ Assigns name literal cs := by
  rintro ⟨before, lead, after, here⟩
  exact free (here.text_eq ▸ by simp)

theorem AssignsAt.behind_quote {name before lead literal after rest : List Char}
    (here : AssignsAt name before lead literal after rest) (piece : List Char) :
    AssignsAt name (piece ++ '"' :: before) lead literal after (piece ++ '"' :: rest) :=
  ⟨by simp [here.text_eq], endsWord_append_quote.mpr here.ends_word, here.opens, here.quote_free⟩

/-- An assignment begins in the piece before the first quote of the text and has its literal behind
that quote, or all of it lies behind that quote. -/
theorem assignsAt_quote_iff {name before lead literal after piece rest : List Char}
    (named : IsName name) (free : '"' ∉ piece) :
    AssignsAt name before lead literal after (piece ++ '"' :: rest) ↔
      (piece = before ++ lead ∧ rest = literal ++ '"' :: after ∧ EndsWord before ∧
        Opens name lead ∧ '"' ∉ literal) ∨
      ∃ between, before = piece ++ '"' :: between ∧
        AssignsAt name between lead literal after rest := by
  constructor
  · rintro ⟨text_eq, ends, opens, literal_free⟩
    by_cases quoted : '"' ∈ before
    · obtain ⟨x, between, rfl, x_free⟩ := Pieces.exists_first_quote quoted
      simp only [List.append_assoc, List.cons_append] at text_eq
      obtain ⟨rfl, rfl⟩ := Pieces.first_quote free x_free text_eq
      exact .inr ⟨between, rfl, by simp, endsWord_append_quote.mp ends, opens, literal_free⟩
    · have lead_free : '"' ∉ before ++ lead := by
        simp [quoted, opens.quote_free named]
      obtain ⟨rfl, rfl⟩ := Pieces.first_quote free lead_free text_eq
      exact .inl ⟨rfl, rfl, ends, opens, literal_free⟩
  · rintro (⟨rfl, rfl, ends, opens, literal_free⟩ | ⟨between, rfl, here⟩)
    · exact ⟨rfl, ends, opens, literal_free⟩
    · exact here.behind_quote piece

/-- `Assigns`, for a text that is given by its pieces. -/
def AssignsIn (name literal : List Char) : Pieces → Prop
  | lead :: here :: next :: rest =>
    (isLead name lead = true ∧ here = literal) ∨ AssignsIn name literal (here :: next :: rest)
  | _ => False

theorem assignsAt_join {name before lead literal : List Char} (ends : EndsWord before)
    (opens : Opens name lead) (literal_free : '"' ∉ literal) (next : List Char) (rest : Pieces) :
    AssignsAt name before lead literal (Pieces.join (next :: rest))
      (Pieces.join ((before ++ lead) :: literal :: next :: rest)) :=
  ⟨by simp [Pieces.join_cons_cons], ends, opens, literal_free⟩

/-- A text has the assignments that its pieces have. -/
theorem assigns_join {name : List Char} (named : IsName name) (literal : List Char) :
    ∀ {pieces : Pieces}, pieces.QuoteFree →
      (Assigns name literal (Pieces.join pieces) ↔ AssignsIn name literal pieces)
  | [], _ => iff_of_false (not_assigns_of_quote_free (by simp [Pieces.join])) id
  | [p], free =>
      iff_of_false (not_assigns_of_quote_free (by simpa [Pieces.join] using free.head)) id
  | [p, q], free => by
      refine iff_of_false ?_ id
      rintro ⟨before, lead, after, here⟩
      rw [Pieces.join_cons_cons, assignsAt_quote_iff named free.head] at here
      have q_free : '"' ∉ Pieces.join [q] := by simpa [Pieces.join] using free.tail.head
      rcases here with ⟨-, q_eq, -⟩ | ⟨between, -, here⟩
      · exact q_free (q_eq ▸ by simp)
      · exact not_assigns_of_quote_free q_free ⟨_, _, _, here⟩
  | p :: q :: r :: rest, free => by
      have ih := assigns_join named literal free.tail
      rw [AssignsIn, ← ih, Pieces.join_cons_cons, isLead_iff named]
      have p_free := free.head
      have q_free := free.tail.head
      constructor
      · rintro ⟨before, lead, after, here⟩
        rcases (assignsAt_quote_iff named p_free).mp here with
          ⟨p_eq, rest_eq, ends, opens, literal_free⟩ | ⟨between, -, here⟩
        · rw [Pieces.join_cons_cons] at rest_eq
          obtain ⟨rfl, -⟩ := Pieces.first_quote q_free literal_free rest_eq
          exact .inl ⟨⟨before, lead, p_eq, ends, opens⟩, rfl⟩
        · exact .inr ⟨between, lead, after, here⟩
      · rintro (⟨⟨before, lead, p_eq, ends, opens⟩, rfl⟩ | ⟨between, lead, after, here⟩)
        · have here := assignsAt_join ends opens q_free r rest
          rw [← p_eq, Pieces.join_cons_cons] at here
          exact ⟨before, lead, _, here⟩
        · exact ⟨_, lead, after, here.behind_quote p⟩

end Constant

end VersionStamp
