/-
# VersionStamp.Proofs.Frame — what a substitution leaves of any text

The quotes of a text are a frame that no substitution moves.  `Framed` says what is kept of a text
when it is cut at its quotes: the number of pieces, the first and the last of them, and every piece
that has not become a value; and it says how many pieces have changed at most.  Nothing is asked of
the text or of the values, so this also holds where quotes are left open, where assignments overlap,
and where a value reads as an assignment itself.

One pass frames a text (`framed_fill`), frames can be put together (`Framed.trans`), and so the
passes for all constants frame it too.
-/
import VersionStamp.Proofs.Meeting
import VersionStamp.Proofs.Substitution

namespace VersionStamp

namespace Pieces

/-- In how many places two texts have different pieces. -/
def differing (before after : Pieces) : Nat := (before.zip after).countP fun p => p.1 ≠ p.2

theorem differing_self (pieces : Pieces) : differing pieces pieces = 0 := by
  induction pieces with
  | nil => rfl
  | cons p rest ih => simpa [differing] using ih

theorem differing_cons (p q : List Char) (before after : Pieces) :
    differing (p :: before) (q :: after) =
      differing before after + if p ≠ q then 1 else 0 := by
  simp [differing, List.countP_cons]

theorem differing_le_add : ∀ {before between after : Pieces},
    between.length = before.length → after.length = between.length →
    differing before after ≤ differing before between + differing between after
  | [], [], [], _, _ => Nat.le_refl 0
  | p :: before, q :: between, r :: after, length, length' => by
      have rest : differing before after ≤ differing before between + differing between after :=
        differing_le_add (Nat.succ.inj length) (Nat.succ.inj length')
      rw [differing_cons, differing_cons, differing_cons]
      by_cases first : p = q
      · subst first
        simp only [ne_eq, not_true_eq_false, if_false]
        omega
      · have here : (if p ≠ r then 1 else 0) ≤ 1 := by split <;> omega
        rw [if_pos first]
        omega

/-- The text after a change has the quotes of the text before it.  Its first and last pieces are the
same, every other piece is the same or a value, and `n` pieces differ at most. -/
structure Framed (isValue : List Char → Prop) (n : Nat) (before after : Pieces) : Prop where
  length_eq : after.length = before.length
  first_eq : after.head? = before.head?
  last_eq : after.getLast? = before.getLast?
  same_or_value : ∀ (i : Nat) p, after[i]? = some p → before[i]? = some p ∨ isValue p
  few_differ : differing before after ≤ n

variable {isValue : List Char → Prop} {m n : Nat} {before between after : Pieces}

theorem Framed.refl (isValue : List Char → Prop) (pieces : Pieces) :
    Framed isValue 0 pieces pieces where
  length_eq := rfl
  first_eq := rfl
  last_eq := rfl
  same_or_value := fun _ _ => .inl
  few_differ := Nat.le_of_eq (differing_self pieces)

theorem Framed.trans (first : Framed isValue m before between)
    (second : Framed isValue n between after) : Framed isValue (m + n) before after where
  length_eq := second.length_eq.trans first.length_eq
  first_eq := second.first_eq.trans first.first_eq
  last_eq := second.last_eq.trans first.last_eq
  same_or_value := by
    intro i p at_p
    rcases second.same_or_value i p at_p with kept | value
    · exact first.same_or_value i p kept
    · exact .inr value
  few_differ :=
    calc differing before after
      _ ≤ differing before between + differing between after :=
        differing_le_add first.length_eq second.length_eq
      _ ≤ m + n := Nat.add_le_add first.few_differ second.few_differ

end Pieces

namespace Constant

open Pieces

variable {name value : List Char} {isValue : List Char → Prop}

/-! ## One pass

What `Filling` says by positions, together with the two things that are said of the whole text: the
last piece stays, since a literal is closed by a quote, and each piece that a pass has changed was
counted. -/

/-- A literal is closed by a quote, so the last piece is none. -/
theorem getLast?_fill (name value : List Char) : ∀ (pieces : Pieces),
    (fill name value pieces).1.getLast? = pieces.getLast?
  | [] => rfl
  | [_] => rfl
  | [_, _] => rfl
  | p :: q :: r :: rest => by
      by_cases is_lead : isLead name p = true
      · have ih := getLast?_fill name value (r :: rest)
        obtain ⟨filled, filled_eq, -⟩ := exists_fill_cons name value r rest
        rw [filled_eq] at ih
        rw [fill_of_isLead is_lead, filled_eq, List.getLast?_cons_cons, List.getLast?_cons_cons,
          List.getLast?_cons_cons, List.getLast?_cons_cons, ih]
      · have ih := getLast?_fill name value (q :: r :: rest)
        obtain ⟨filled, filled_eq, -⟩ := exists_fill_cons name value q (r :: rest)
        rw [filled_eq] at ih
        rw [fill_of_not_isLead is_lead, filled_eq, List.getLast?_cons_cons,
          List.getLast?_cons_cons, ih]

theorem differing_fill_le (name value : List Char) : ∀ (pieces : Pieces),
    differing pieces (fill name value pieces).1 ≤ (fill name value pieces).2
  | [] => Nat.le_refl 0
  | [p] => Nat.le_of_eq (differing_self [p])
  | [p, q] => Nat.le_of_eq (differing_self [p, q])
  | p :: q :: r :: rest => by
      by_cases is_lead : isLead name p = true
      · have ih := differing_fill_le name value (r :: rest)
        have here : (if q ≠ value then 1 else 0) ≤ 1 := by split <;> omega
        rw [fill_of_isLead is_lead, differing_cons, differing_cons, if_neg (not_not.mpr rfl)]
        dsimp only
        omega
      · have ih := differing_fill_le name value (q :: r :: rest)
        rw [fill_of_not_isLead is_lead, differing_cons, if_neg (not_not.mpr rfl)]
        exact ih

theorem framed_fill (is_value : isValue value) (pieces : Pieces) :
    Framed isValue (fill name value pieces).2 pieces (fill name value pieces).1 where
  length_eq := length_fill name value pieces
  first_eq := by
    rw [List.head?_eq_getElem?, List.head?_eq_getElem?]
    exact head?_fill name value pieces
  last_eq := getLast?_fill name value pieces
  same_or_value := by
    intro i p at_p
    cases i with
    | zero => exact .inl ((head?_fill name value pieces).symm.trans at_p)
    | succ i =>
        rcases getElem?_fill name value pieces i with kept | ⟨-, -, -, -, written⟩
        · exact .inl (kept.symm.trans at_p)
        · exact .inr (Option.some.inj (written.symm.trans at_p) ▸ is_value)
  few_differ := differing_fill_le name value pieces

end Constant

/-! ## All passes

Frames are put together with the numbers of the changed pieces added, and so the total of all
counts bounds the pieces that differ in the end.  A piece that two passes write is counted twice. -/

/-- How many replacements are counted together. -/
def totalReplacements (counts : List Substitution) : Nat :=
  counts.foldr (fun count total => count.replacements + total) 0

/-- The text is one of the values of a stamp. -/
def Stamp.HasValue (s : Stamp) (value : List Char) : Prop :=
  ∃ c : Constant, value = (c.value s).toList

/-- Passes for any constants, in any order, frame a text. -/
theorem framed_substituteEach (s : Stamp) (constants : List Constant) (cs : List Char) :
    Pieces.Framed s.HasValue (totalReplacements (substituteEach s constants cs).2)
      (Pieces.cut cs) (Pieces.cut (substituteEach s constants cs).1) := by
  induction constants generalizing cs with
  | nil => exact .refl s.HasValue (Pieces.cut cs)
  | cons c constants ih =>
      have pass : Pieces.Framed s.HasValue (Constant.assign c.name.toList (c.value s).toList cs).2
          (Pieces.cut cs) (Pieces.cut (Constant.assign c.name.toList (c.value s).toList cs).1) := by
        rw [Constant.cut_assign]
        exact Constant.framed_fill ⟨c, rfl⟩ (Pieces.cut cs)
      exact pass.trans (ih (Constant.assign c.name.toList (c.value s).toList cs).1)

/-- Whatever the text and the stamp, a substitution changes nothing but whole pieces between quotes,
each of them to a value of the stamp, and no more of them than it counts. -/
theorem quote_frame (text : String) (s : Stamp) :
    Pieces.Framed s.HasValue (totalReplacements (substitute text s).2)
      (Pieces.cut text.toList) (Pieces.cut (substitute text s).1.toList) := by
  simp only [substitute_eq, String.toList_ofList]
  exact framed_substituteEach s Constant.all text.toList

end VersionStamp
