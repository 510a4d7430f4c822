/-
# VersionStamp.Proofs.Filling — what one pass does to the pieces

A pass gives one name its value: `Constant.fill` writes into the literals that a scan meets, and
leaves every other piece where it is.  Three facts about it are used wherever passes follow each
other:

  * a pass writes only behind a lead of its own name, and never into that lead
    (`getElem?_fill`);
  * a pass with a value that is no lead leaves its name with that value alone
    (`eq_of_assignsIn_fill`);
  * such a pass makes no assignment of another name and changes none (`assignsIn_of_fill`), though
    it can overwrite one.
-/
import VersionStamp.Proofs.Scan

namespace VersionStamp.Constant

variable {name other value value' : List Char}

/-! ## One step of a pass

With three pieces or more a pass takes two steps at a lead and one step elsewhere; with fewer it
stops.  All inductions below have these cases.  The first piece is always left, and none is added
or taken away. -/

theorem fill_of_isLead {lead literal next : List Char} {rest : Pieces}
    (is_lead : isLead name lead = true) :
    fill name value (lead :: literal :: next :: rest) =
      (lead :: value :: (fill name value (next :: rest)).1,
        (fill name value (next :: rest)).2 + 1) := by
  rw [fill, if_pos is_lead]

theorem fill_of_not_isLead {lead literal next : List Char} {rest : Pieces}
    (not_lead : ¬ isLead name lead = true) :
    fill name value (lead :: literal :: next :: rest) =
      (lead :: (fill name value (literal :: next :: rest)).1,
        (fill name value (literal :: next :: rest)).2) := by
  rw [fill, if_neg not_lead]

theorem exists_fill_cons (name value p : List Char) (rest : Pieces) :
    ∃ filled, (fill name value (p :: rest)).1 = p :: filled ∧ filled.length = rest.length := by
  match rest with
  | [] => exact ⟨[], rfl, rfl⟩
  | [q] => exact ⟨[q], rfl, rfl⟩
  | q :: r :: rest =>
      by_cases is_lead : isLead name p = true
      · obtain ⟨filled, filled_eq, length⟩ := exists_fill_cons name value r rest
        rw [fill_of_isLead is_lead, filled_eq]
        exact ⟨value :: r :: filled, rfl, by simp [length]⟩
      · obtain ⟨filled, filled_eq, length⟩ := exists_fill_cons name value q (r :: rest)
        rw [fill_of_not_isLead is_lead, filled_eq]
        exact ⟨q :: filled, rfl, by simp [length]⟩
  termination_by rest.length

theorem fill_ne_nil {pieces : Pieces} (some_piece : pieces ≠ []) :
    (fill name value pieces).1 ≠ [] := by
  obtain ⟨p, rest, rfl⟩ := List.exists_cons_of_ne_nil some_piece
  obtain ⟨filled, filled_eq, -⟩ := exists_fill_cons name value p rest
  simp [filled_eq]

theorem quote_free_fill (value_free : '"' ∉ value) :
    ∀ {pieces : Pieces}, pieces.QuoteFree → (fill name value pieces).1.QuoteFree
  | [], free => free
  | [p], free => free
  | [p, q], free => free
  | p :: q :: r :: rest, free => by
      by_cases is_lead : isLead name p = true
      · have ih := quote_free_fill value_free free.tail.tail
        rw [fill_of_isLead is_lead, Pieces.quoteFree_cons, Pieces.quoteFree_cons]
        exact ⟨free.head, value_free, ih⟩
      · have ih := quote_free_fill value_free free.tail
        rw [fill_of_not_isLead is_lead, Pieces.quoteFree_cons]
        exact ⟨free.head, ih⟩

/-! ## What is counted

A pass counts what a scan meets, so a count of zero tells that the name is not assigned, and a pass
is idle exactly if all that is met has the value already. -/

theorem count_fill : ∀ (pieces : Pieces),
    (fill name value pieces).2 = (found name pieces).length
  | [] => rfl
  | [_] => rfl
  | [_, _] => rfl
  | p :: q :: r :: rest => by
      by_cases is_lead : isLead name p = true
      · rw [fill_of_isLead is_lead, found, if_pos is_lead, count_fill (r :: rest),
          List.length_cons]
      · rw [fill_of_not_isLead is_lead, found, if_neg is_lead, count_fill (q :: r :: rest)]

theorem found_eq_nil_iff : ∀ {pieces : Pieces},
    found name pieces = [] ↔ ∀ literal, ¬ AssignsIn name literal pieces
  | [] => iff_of_true rfl fun _ => id
  | [_] => iff_of_true rfl fun _ => id
  | [_, _] => iff_of_true rfl fun _ => id
  | p :: q :: r :: rest => by
      by_cases is_lead : isLead name p = true
      · rw [found, if_pos is_lead]
        exact iff_of_false (List.cons_ne_nil _ _) fun none_left =>
          none_left q (.inl ⟨is_lead, rfl⟩)
      · rw [found, if_neg is_lead, found_eq_nil_iff]
        simp [AssignsIn, is_lead]

/-- A pass changes nothing exactly if every assignment that it meets has the value already. -/
theorem fill_eq_self_iff : ∀ {pieces : Pieces},
    (fill name value pieces).1 = pieces ↔ ∀ f ∈ found name pieces, f.literal = value
  | [] => by simp [fill, found]
  | [_] => by simp [fill, found]
  | [_, _] => by simp [fill, found]
  | p :: q :: r :: rest => by
      by_cases is_lead : isLead name p = true
      · rw [fill_of_isLead is_lead, found, if_pos is_lead, List.forall_mem_cons,
          ← fill_eq_self_iff]
        simp [eq_comm]
      · rw [fill_of_not_isLead is_lead, found, if_neg is_lead]
        simp [fill_eq_self_iff]

/-! ## Where a pass writes

Read by positions: a piece that a pass has changed is not the first, it holds the value now, and
the piece before it is a lead and was not changed.  This is what one pass tells the next one about
the text. -/

theorem head?_fill (name value : List Char) (pieces : Pieces) :
    (fill name value pieces).1[0]? = pieces[0]? := by
  cases pieces with
  | nil => rfl
  | cons p rest =>
      obtain ⟨filled, filled_eq, -⟩ := exists_fill_cons name value p rest
      rw [filled_eq]
      rfl

/-- Behind the first piece, each piece is as before, or has the value and stands behind a lead that
the pass has left as it was. -/
theorem getElem?_fill (name value : List Char) : ∀ (pieces : Pieces) (i : Nat),
    (fill name value pieces).1[i + 1]? = pieces[i + 1]? ∨
      ∃ lead, isLead name lead = true ∧ pieces[i]? = some lead ∧
        (fill name value pieces).1[i]? = some lead ∧
        (fill name value pieces).1[i + 1]? = some value
  | [], _ => .inl rfl
  | [_], _ => .inl rfl
  | [_, _], _ => .inl rfl
  | p :: q :: r :: rest, i => by
      by_cases is_lead : isLead name p = true
      · rw [fill_of_isLead is_lead]
        match i with
        | 0 => exact .inr ⟨p, is_lead, rfl, rfl, rfl⟩
        | 1 => exact .inl (head?_fill name value (r :: rest))
        | i + 2 => exact getElem?_fill name value (r :: rest) i
      · rw [fill_of_not_isLead is_lead]
        match i with
        | 0 => exact .inl (head?_fill name value (q :: r :: rest))
        | i + 1 => exact getElem?_fill name value (q :: r :: rest) i

/-! ## What is assigned after a pass

A literal that was written can be a lead itself only if the value is one.  Where it is not, the
leads after the pass are leads from before it, so no assignment is made; those of the pass's own
name have got the value. -/

/-- No piece is a lead of both names. -/
def Apart (name other : List Char) : Prop :=
  ∀ piece, isLead name piece = true → ¬ isLead other piece = true

theorem eq_of_assignsIn_fill (no_lead : ¬ isLead name value = true) :
    ∀ {pieces : Pieces} {literal : List Char},
      AssignsIn name literal (fill name value pieces).1 → literal = value
  | [], _, h => h.elim
  | [_], _, h => h.elim
  | [_, _], _, h => h.elim
  | p :: q :: r :: rest, literal, h => by
      by_cases is_lead : isLead name p = true
      · have ih := @eq_of_assignsIn_fill no_lead (r :: rest) literal
        obtain ⟨filled, filled_eq, -⟩ := exists_fill_cons name value r rest
        rw [fill_of_isLead is_lead, filled_eq] at h
        rw [filled_eq] at ih
        rcases h with ⟨-, rfl⟩ | h
        · rfl
        · match filled, h, ih with
          | [], h, _ => exact h.elim
          | s :: filled, h, ih => exact ih (h.resolve_left fun h => no_lead h.1)
      · have ih := @eq_of_assignsIn_fill no_lead (q :: r :: rest) literal
        obtain ⟨filled, filled_eq, length⟩ := exists_fill_cons name value q (r :: rest)
        rw [fill_of_not_isLead is_lead, filled_eq] at h
        rw [filled_eq] at ih
        obtain ⟨s, filled, rfl⟩ := List.exists_cons_of_length_eq_add_one length
        exact ih (h.resolve_left fun h => is_lead h.1)

/-- A pass with a value that is no lead of another name makes no assignment of that name. -/
theorem assignsIn_of_fill (apart : Apart name other) (no_lead : ¬ isLead other value = true) :
    ∀ {pieces : Pieces} {literal : List Char},
      AssignsIn other literal (fill name value pieces).1 → AssignsIn other literal pieces
  | [], _, h => h
  | [_], _, h => h
  | [_, _], _, h => h
  | p :: q :: r :: rest, literal, h => by
      by_cases is_lead : isLead name p = true
      · have ih := @assignsIn_of_fill apart no_lead (r :: rest) literal
        obtain ⟨filled, filled_eq, -⟩ := exists_fill_cons name value r rest
        rw [fill_of_isLead is_lead, filled_eq] at h
        rw [filled_eq] at ih
        have behind := h.resolve_left fun h => apart p is_lead h.1
        match filled, rest, behind, ih with
        | [], _, behind, _ => exact behind.elim
        | s :: filled, [], behind, ih =>
            exact (ih (behind.resolve_left fun h => no_lead h.1)).elim
        | s :: filled, t :: rest, behind, ih =>
            exact .inr (.inr (ih (behind.resolve_left fun h => no_lead h.1)))
      · have ih := @assignsIn_of_fill apart no_lead (q :: r :: rest) literal
        obtain ⟨filled, filled_eq, length⟩ := exists_fill_cons name value q (r :: rest)
        rw [fill_of_not_isLead is_lead, filled_eq] at h
        rw [filled_eq] at ih
        obtain ⟨s, filled, rfl⟩ := List.exists_cons_of_length_eq_add_one length
        rcases h with here | behind
        · exact .inl here
        · exact .inr (ih behind)

end VersionStamp.Constant
