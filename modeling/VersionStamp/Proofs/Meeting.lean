/-
# VersionStamp.Proofs.Meeting — which pieces a scan meets, and what a pass leaves to be met

Of the pieces of a text, a scan for a name meets those that are leads and are not themselves the
literal of one that it has just met.  `isMet` tells which they are.  A pass writes behind these
pieces and nowhere else (`getElem?_fill_succ`), so `isMet` and the value tell all that it does.

The lemma that carries everything built on this is `isMet_congr`: a scan goes through two texts
alike if what it meets in the first is a lead in the second, and the second has no new leads.  A
pass with a value that is no lead makes none, and it takes none away that is met, unless it writes
into one (`isMet_fill`).
-/
import VersionStamp.Proofs.Passes

namespace VersionStamp.Constant

variable {name other value : List Char}

/-! ## Which pieces are met

`isMet` has the recursion of `fill` with an index to go down.  Two facts about what is met are used
everywhere: it is a lead, and the piece behind it is its literal and is passed over. -/

/-- The piece at this index is the lead of an assignment that a scan meets. -/
def isMet (name : List Char) : Pieces → Nat → Bool
  | lead :: literal :: next :: rest, i =>
    if isLead name lead then
      match i with
      | 0 => true
      | 1 => false
      | i + 2 => isMet name (next :: rest) i
    else
      match i with
      | 0 => false
      | i + 1 => isMet name (literal :: next :: rest) i
  | _, _ => false

section Steps

variable {p q r : List Char} {rest : Pieces}

theorem isMet_zero : isMet name (p :: q :: r :: rest) 0 = isLead name p := by
  by_cases is_lead : isLead name p = true
  · simp [isMet, is_lead]
  · simp [isMet, is_lead]

theorem isMet_one (is_lead : isLead name p = true) :
    isMet name (p :: q :: r :: rest) 1 = false := by
  simp [isMet, is_lead]

theorem isMet_add_two (is_lead : isLead name p = true) (i : Nat) :
    isMet name (p :: q :: r :: rest) (i + 2) = isMet name (r :: rest) i := by
  simp [isMet, is_lead]

theorem isMet_succ (not_lead : ¬ isLead name p = true) (i : Nat) :
    isMet name (p :: q :: r :: rest) (i + 1) = isMet name (q :: r :: rest) i := by
  simp [isMet, not_lead]

end Steps

theorem lead_of_isMet : ∀ {pieces : Pieces} {i : Nat}, isMet name pieces i = true →
    ∃ lead, pieces[i]? = some lead ∧ isLead name lead = true ∧ i + 2 < pieces.length
  | p :: q :: r :: rest, i, met => by
      by_cases is_lead : isLead name p = true
      · match i, met with
        | 0, _ => exact ⟨p, rfl, is_lead, by simp⟩
        | 1, met => exact absurd met (by simp [isMet_one is_lead])
        | i + 2, met =>
            rw [isMet_add_two is_lead] at met
            obtain ⟨lead, at_lead, lead_is_lead, closed⟩ := lead_of_isMet met
            exact ⟨lead, at_lead, lead_is_lead, by simpa using closed⟩
      · match i, met with
        | 0, met => exact absurd (isMet_zero ▸ met) is_lead
        | i + 1, met =>
            rw [isMet_succ is_lead] at met
            obtain ⟨lead, at_lead, lead_is_lead, closed⟩ := lead_of_isMet met
            exact ⟨lead, at_lead, lead_is_lead, by simpa using closed⟩

theorem isMet_succ_of_isMet : ∀ {pieces : Pieces} {i : Nat}, isMet name pieces i = true →
    isMet name pieces (i + 1) = false
  | p :: q :: r :: rest, i, met => by
      by_cases is_lead : isLead name p = true
      · match i, met with
        | 0, _ => exact isMet_one is_lead
        | 1, met => exact absurd met (by simp [isMet_one is_lead])
        | i + 2, met =>
            rw [isMet_add_two is_lead] at met
            rw [isMet_add_two is_lead]
            exact isMet_succ_of_isMet met
      · match i, met with
        | 0, met => exact absurd (isMet_zero ▸ met) is_lead
        | i + 1, met =>
            rw [isMet_succ is_lead] at met
            rw [isMet_succ is_lead]
            exact isMet_succ_of_isMet met

/-- A scan goes through two texts alike if what it meets in the first is a lead in the second too,
and the second has no further leads. -/
theorem isMet_congr : ∀ {pieces pieces' : Pieces}, pieces'.length = pieces.length →
    (∀ (i : Nat) p', pieces'[i]? = some p' → isMet name pieces i = true →
      isLead name p' = true) →
    (∀ (i : Nat) p p', pieces[i]? = some p → pieces'[i]? = some p' → isLead name p' = true →
      isLead name p = true) →
    ∀ i, isMet name pieces' i = isMet name pieces i
  | [], [], _, _, _, _ => rfl
  | [_], [_], _, _, _, _ => rfl
  | [_, _], [_, _], _, _, _, _ => rfl
  | p :: q :: r :: rest, p' :: q' :: r' :: rest', length, kept, none_new, i => by
      by_cases is_lead : isLead name p = true
      · have is_lead' : isLead name p' = true := kept 0 p' rfl (isMet_zero.trans is_lead)
        -- Both scans take two steps here, so the rests are compared without the literals.
        match i with
        | 0 => rw [isMet_zero, isMet_zero, is_lead, is_lead']
        | 1 => rw [isMet_one is_lead, isMet_one is_lead']
        | i + 2 =>
            rw [isMet_add_two is_lead, isMet_add_two is_lead']
            refine isMet_congr (by simpa using length) (fun k x at_x met => ?_) (fun k => ?_) i
            · exact kept (k + 2) x at_x ((isMet_add_two is_lead k).trans met)
            · exact none_new (k + 2)
      · have not_lead' : ¬ isLead name p' = true := fun h => is_lead (none_new 0 p p' rfl rfl h)
        match i with
        | 0 =>
            rw [isMet_zero, isMet_zero, Bool.not_eq_true _ |>.mp is_lead,
              Bool.not_eq_true _ |>.mp not_lead']
        | i + 1 =>
            rw [isMet_succ is_lead, isMet_succ not_lead']
            refine isMet_congr (by simpa using length) (fun k x at_x met => ?_) (fun k => ?_) i
            · exact kept (k + 1) x at_x ((isMet_succ is_lead k).trans met)
            · exact none_new (k + 1)

/-! ## What a pass does to what is met

By indices, a pass is a function of what it meets and its value.  What is met of another name
afterwards can then be read off the leads: with a value that is no lead, none has been made, and
none is lost where it has not been written over. -/

/-- A pass writes behind what is met, and nowhere else. -/
theorem getElem?_fill_succ : ∀ (pieces : Pieces) (i : Nat),
    (fill name value pieces).1[i + 1]? =
      if isMet name pieces i then some value else pieces[i + 1]?
  | [], _ => rfl
  | [_], _ => rfl
  | [_, _], _ => rfl
  | p :: q :: r :: rest, i => by
      by_cases is_lead : isLead name p = true
      · rw [fill_of_isLead is_lead]
        match i with
        | 0 => rw [isMet_zero, is_lead]; rfl
        | 1 => rw [isMet_one is_lead]; exact head?_fill name value (r :: rest)
        | i + 2 => rw [isMet_add_two is_lead]; exact getElem?_fill_succ (r :: rest) i
      · rw [fill_of_not_isLead is_lead]
        match i with
        | 0 =>
            rw [isMet_zero, if_neg is_lead]
            exact head?_fill name value (q :: r :: rest)
        | i + 1 => rw [isMet_succ is_lead]; exact getElem?_fill_succ (q :: r :: rest) i

theorem length_found_congr : ∀ {pieces pieces' : Pieces}, pieces'.length = pieces.length →
    (∀ i, isMet name pieces' i = isMet name pieces i) →
    (found name pieces').length = (found name pieces).length
  | [], [], _, _ => rfl
  | [_], [_], _, _ => rfl
  | [_, _], [_, _], _, _ => rfl
  | p :: q :: r :: rest, p' :: q' :: r' :: rest', length, same => by
      have heads : isLead name p' = isLead name p := by
        rw [← isMet_zero, same 0, isMet_zero]
      by_cases is_lead : isLead name p = true
      · have is_lead' := heads.trans is_lead
        have behind : ∀ i, isMet name (r' :: rest') i = isMet name (r :: rest) i := by
          intro i
          rw [← isMet_add_two is_lead', same, isMet_add_two is_lead]
        rw [found, found, if_pos is_lead, if_pos is_lead', List.length_cons, List.length_cons,
          length_found_congr (by simpa using length) behind]
      · have not_lead' : ¬ isLead name p' = true := heads ▸ is_lead
        have behind : ∀ i, isMet name (q' :: r' :: rest') i = isMet name (q :: r :: rest) i := by
          intro i
          rw [← isMet_succ not_lead', same, isMet_succ is_lead]
        rw [found, found, if_neg is_lead, if_neg not_lead',
          length_found_congr (by simpa using length) behind]

theorem length_fill (name value : List Char) (pieces : Pieces) :
    (fill name value pieces).1.length = pieces.length := by
  cases pieces with
  | nil => rfl
  | cons p rest =>
      obtain ⟨filled, filled_eq, length⟩ := exists_fill_cons name value p rest
      rw [filled_eq, List.length_cons, List.length_cons, length]

/-- After a pass with a value that is no lead, the same is met, of any name that had no lead where
the pass has written. -/
theorem isMet_fill {pieces : Pieces} (no_lead : ¬ isLead other value = true)
    (spaced : ∀ i, isMet name pieces i = true → isMet other pieces (i + 1) = false) (i : Nat) :
    isMet other (fill name value pieces).1 i = isMet other pieces i := by
  refine isMet_congr (length_fill name value pieces) (fun k p' at_p' met => ?_)
    (fun k p p' at_p at_p' is_lead => ?_) i
  · obtain ⟨lead, at_lead, is_lead, -⟩ := lead_of_isMet met
    cases k with
    | zero =>
        rw [head?_fill, at_lead, Option.some.injEq] at at_p'
        exact at_p' ▸ is_lead
    | succ k =>
        rw [getElem?_fill_succ] at at_p'
        split at at_p'
        · next written => exact absurd met (by simp [spaced k written])
        · rw [at_lead, Option.some.injEq] at at_p'
          exact at_p' ▸ is_lead
  · cases k with
    | zero =>
        rw [head?_fill, at_p, Option.some.injEq] at at_p'
        exact at_p' ▸ is_lead
    | succ k =>
        rw [getElem?_fill_succ] at at_p'
        split at at_p'
        · rw [Option.some.injEq] at at_p'
          exact absurd (at_p' ▸ is_lead) no_lead
        · rw [at_p, Option.some.injEq] at at_p'
          exact at_p' ▸ is_lead

end VersionStamp.Constant
