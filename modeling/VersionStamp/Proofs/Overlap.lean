/-
# VersionStamp.Proofs.Overlap — assignments that keep apart

The passes get into each other's way only where an assignment of one constant shares characters
with an assignment of another: then one of the two begins inside the literal of the other, and is
lost when that literal is replaced.  In a text where this does not happen (`Separate`), no constant
is lost, however many assignments it has and however those of one constant overlap among
themselves (`isAssigned_substituteEach`).

The one that is certain to stay is the first one of its constant: no lead, of whatever constant,
stands right before its piece, so no pass writes there.
-/
import VersionStamp.Proofs.Substitution

namespace VersionStamp

namespace Constant

/-- Assignments of different constants share no character: one ends before the other begins. -/
def Separate (cs : List Char) : Prop :=
  ∀ ⦃c d : Constant⦄ ⦃before lead literal after before' lead' literal' after' : List Char⦄,
    c ≠ d → AssignsAt c.name.toList before lead literal after cs →
    AssignsAt d.name.toList before' lead' literal' after' cs →
    (before ++ lead ++ '"' :: literal ++ ['"']).length ≤ before'.length ∨
      (before' ++ lead' ++ '"' :: literal' ++ ['"']).length ≤ before.length

theorem Separate.behind_quote {piece rest : List Char}
    (separate : Separate (piece ++ '"' :: rest)) : Separate rest := by
  intro c d before lead literal after before' lead' literal' after' different here here'
  have apart := separate different (here.behind_quote piece) (here'.behind_quote piece)
  simp only [List.length_append, List.length_cons, List.length_nil] at apart ⊢
  omega

variable {name literal : List Char} {pieces : Pieces} {s : Stamp} {constants : List Constant}

/-! ## Leads that stand side by side

Two leads in neighbouring pieces are two assignments, of which the first has the second lead for
its literal; they share characters.  So where assignments keep apart such leads are of one
constant, and going back over them comes to a first one. -/

theorem Separate.eq_of_leads (separate : Separate (Pieces.join pieces)) (free : pieces.QuoteFree)
    {i : Nat} {p q : List Char} (here : pieces[i]? = some p) (behind : pieces[i + 1]? = some q)
    (closed : i + 3 < pieces.length) {c d : Constant} (is_lead : isLead c.name.toList p = true)
    (is_lead' : isLead d.name.toList q = true) : c = d := by
  induction i generalizing pieces with
  | zero =>
      match pieces, here, behind, closed with
      | _ :: _ :: r :: t :: rest, rfl, rfl, _ =>
          by_contra different
          obtain ⟨before, lead, rfl, ends, opens⟩ := (isLead_iff (isName_name c)).mp is_lead
          obtain ⟨before', lead', rfl, ends', opens'⟩ := (isLead_iff (isName_name d)).mp is_lead'
          have first := assignsAt_join ends opens free.tail.head r (t :: rest)
          have second := (assignsAt_join ends' opens' free.tail.tail.head t rest).behind_quote
            (before ++ lead)
          rw [← Pieces.join_cons_cons] at second
          have apart := separate different first second
          simp only [List.length_append, List.length_cons, List.length_nil] at apart
          omega
  | succ i ih =>
      match pieces, here, behind, closed with
      | x :: y :: rest, here, behind, closed =>
          rw [Pieces.join_cons_cons] at separate
          exact ih separate.behind_quote free.tail here behind (Nat.lt_of_succ_lt_succ closed)

theorem exists_first_lead : ∀ {pieces : Pieces}, AssignsIn name literal pieces →
    ∃ i lead, pieces[i]? = some lead ∧ isLead name lead = true ∧ i + 2 < pieces.length ∧
      ∀ k p, k + 1 = i → pieces[k]? = some p → ¬ isLead name p = true
  | [], h => h.elim
  | [_], h => h.elim
  | [_, _], h => h.elim
  | p :: q :: r :: rest, h => by
      by_cases is_lead : isLead name p = true
      · exact ⟨0, p, rfl, is_lead, by simp, fun k p first => absurd first (Nat.succ_ne_zero k)⟩
      · obtain ⟨i, lead, here, lead_is_lead, closed, first⟩ :=
          exists_first_lead (h.resolve_left fun h => is_lead h.1)
        refine ⟨i + 1, lead, here, lead_is_lead, Nat.succ_lt_succ closed, ?_⟩
        intro k p' next before
        cases k with
        | zero =>
            obtain rfl := Option.some.inj before
            exact is_lead
        | succ k => exact first k p' (Nat.succ.inj next) before

theorem exists_assignsIn : ∀ {pieces : Pieces} {i : Nat} {lead : List Char},
    pieces[i]? = some lead → isLead name lead = true → i + 2 < pieces.length →
      ∃ literal, AssignsIn name literal pieces
  | p :: q :: r :: rest, 0, lead, here, is_lead, _ => by
      obtain rfl := Option.some.inj here
      exact ⟨q, .inl ⟨is_lead, rfl⟩⟩
  | p :: q :: r :: rest, i + 1, lead, here, is_lead, closed => by
      have behind : (q :: r :: rest)[i]? = some lead := here
      obtain ⟨literal, assigns⟩ :=
        exists_assignsIn behind is_lead (Nat.lt_of_succ_lt_succ closed)
      exact ⟨literal, .inr assigns⟩

/-! ## Leads that stay

Right before the first lead of a constant there stands no lead of any constant, and as long as no
value is one, no pass brings one there.  So that lead is there after any passes, with some literal
behind it. -/

theorem length_fillEach : ∀ (constants : List Constant) (pieces : Pieces),
    (fillEach s constants pieces).length = pieces.length
  | [], _ => rfl
  | c :: constants, [] => length_fillEach constants []
  | c :: constants, p :: rest => by
      obtain ⟨filled, filled_eq, length⟩ :=
        exists_fill_cons c.name.toList (c.value s).toList p rest
      rw [fillEach, filled_eq, length_fillEach constants, List.length_cons, List.length_cons,
        length]

theorem head?_fillEach : ∀ (constants : List Constant) (pieces : Pieces),
    (fillEach s constants pieces)[0]? = pieces[0]?
  | [], _ => rfl
  | c :: constants, pieces =>
      (head?_fillEach constants _).trans (head?_fill c.name.toList (c.value s).toList pieces)

/-- If no value is a lead and assignments keep apart, passes lose no constant. -/
theorem exists_assignsIn_fillEach
    (plain : ∀ c d : Constant, ¬ isLead d.name.toList (c.value s).toList = true)
    (free : pieces.QuoteFree) (separate : Separate (Pieces.join pieces)) {d : Constant}
    (assigns : AssignsIn d.name.toList literal pieces) (constants : List Constant) :
    ∃ literal', AssignsIn d.name.toList literal' (fillEach s constants pieces) := by
  obtain ⟨i, lead, here, is_lead, closed, first⟩ := exists_first_lead assigns
  have stays : (fillEach s constants pieces)[i]? = some lead := by
    cases i with
    | zero => exact (head?_fillEach constants pieces).trans here
    | succ k =>
        obtain ⟨p, before⟩ : ∃ p, pieces[k]? = some p :=
          ⟨_, List.getElem?_eq_getElem (by omega)⟩
        rw [← here]
        refine getElem?_fillEach (fun c _ => plain c) before fun c _ lead_before => ?_
        -- The piece before is a lead of no constant: not of `d`, and so not of another.
        obtain rfl := separate.eq_of_leads free before here closed lead_before is_lead
        exact first k p rfl before lead_before
  exact exists_assignsIn stays is_lead (by rwa [length_fillEach])

end Constant

/-- If the release version does not end in `=` and assignments of different constants keep apart, a
substitution loses no constant. -/
theorem isAssigned_substituteEach {record : CommitRecord} {s : Stamp} {cs : List Char}
    (accepted : Stamp.ofCommit record = .ok s) (no_sign : s.release.toList.getLast? ≠ some '=')
    (separate : Constant.Separate cs) {d : Constant} (present : d.IsAssigned cs)
    (constants : List Constant) : d.IsAssigned (substituteEach s constants cs).1 := by
  obtain ⟨literal, assigns⟩ := present
  rw [Constant.assigns_iff] at assigns
  rw [← Pieces.join_cut cs] at separate
  obtain ⟨literal', stays⟩ := Constant.exists_assignsIn_fillEach
    (Constant.not_isLead_value accepted no_sign) (Pieces.quote_free_cut cs) separate assigns
    constants
  rw [← cut_substituteEach, ← Constant.assigns_iff] at stays
  exact ⟨literal', stays⟩

end VersionStamp
