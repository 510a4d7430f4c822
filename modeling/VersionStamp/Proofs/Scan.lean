/-
# VersionStamp.Proofs.Scan — the assignments met from left to right

Assignments of one name can overlap: the literal of one may end in what the next begins with.  A
scan takes the one that begins first, and goes on behind its second quote.  `Scan` says this of the
uncut text, and says which literals are met; `scan_found` and `Scan.unique` tell that these are the
ones that `Constant.fill` meets among the pieces, no others and in the same order.
-/
import VersionStamp.Proofs.Assignment

namespace VersionStamp.Constant

/-! ## Scans

The assignment that begins first in a text is settled by the text, with its literal and with what
stands behind it, and so is the next one from there on.  A text has one scan, and all that it meets
is assigned. -/

/-- An assignment as it is met: what stands before its first quote, and between its quotes. -/
structure Found where
  lead : List Char
  literal : List Char
  deriving DecidableEq

/-- No assignment of the name begins before this place. -/
def BeginsFirst (name before cs : List Char) : Prop :=
  ∀ {before' lead' literal' after' : List Char},
    AssignsAt name before' lead' literal' after' cs → before <+: before'

theorem AssignsAt.eq_of_first {name before lead literal after cs : List Char}
    {before' lead' literal' after' : List Char} (named : IsName name)
    (here : AssignsAt name before lead literal after cs) (first : BeginsFirst name before cs)
    (here' : AssignsAt name before' lead' literal' after' cs)
    (first' : BeginsFirst name before' cs) :
    before = before' ∧ lead = lead' ∧ literal = literal' ∧ after = after' := by
  obtain rfl := (first here').eq_of_length
    (Nat.le_antisymm (first here').length_le (first' here).length_le)
  have same := here.text_eq.symm.trans here'.text_eq
  rw [List.append_assoc, List.append_assoc, List.append_cancel_left_eq] at same
  obtain ⟨rfl, behind⟩ := Pieces.first_quote (here.opens.quote_free named)
    (here'.opens.quote_free named) same
  obtain ⟨rfl, rfl⟩ := Pieces.first_quote here.quote_free here'.quote_free behind
  exact ⟨rfl, rfl, rfl, rfl⟩

/-- The assignments of the name that are met from left to right.  The next one is the one that
begins first, and the search goes on behind it. -/
inductive Scan (name : List Char) : List Char → List Found → Prop
  | stop {cs : List Char} (none_left : ∀ literal, ¬ Assigns name literal cs) : Scan name cs []
  | next {before lead literal after cs : List Char} {found : List Found}
      (here : AssignsAt name before lead literal after cs)
      (first : BeginsFirst name before cs)
      (rest : Scan name after found) : Scan name cs (⟨lead, literal⟩ :: found)

theorem Scan.unique {name cs : List Char} {found found' : List Found} (named : IsName name)
    (scan : Scan name cs found) (scan' : Scan name cs found') : found = found' := by
  induction scan generalizing found' with
  | stop none_left =>
      cases scan' with
      | stop _ => rfl
      | next here _ _ => exact absurd ⟨_, _, _, here⟩ (none_left _)
  | next here first _ ih =>
      cases scan' with
      | stop none_left => exact absurd ⟨_, _, _, here⟩ (none_left _)
      | next here' first' rest' =>
          obtain ⟨-, rfl, rfl, rfl⟩ := here.eq_of_first named first here' first'
          rw [ih rest']

theorem Scan.assigns {name cs : List Char} {found : List Found} (scan : Scan name cs found) :
    ∀ f ∈ found, Assigns name f.literal cs := by
  induction scan with
  | stop _ => exact fun _ mem => absurd mem List.not_mem_nil
  | @next before lead literal after _ _ here _ _ ih =>
      intro f mem
      rcases List.mem_cons.mp mem with rfl | later
      · exact ⟨_, _, _, here⟩
      · obtain ⟨between, lead', after', behind⟩ := ih f later
        have text_eq := here.text_eq
        rw [← List.cons_append, ← List.append_assoc] at text_eq
        exact ⟨_, lead', after', text_eq ▸ behind.behind_quote _⟩

/-! ## The scan of a text, piece by piece

`found` follows the recursion of `fill`.  That it is the scan of the joined text goes by the piece
before the first quote.  If it is a lead, the assignment in it begins first, since no lead of a
name can begin before another in one piece.  If it is none, every assignment lies behind the quote,
and nothing about what is met changes with the piece before it. -/

/-- The part of a lead that belongs to the assignment. -/
def leadOf (name piece : List Char) : List Char :=
  match beforeLead? name piece with
  | some before => piece.drop before.length
  | none => []

theorem leadOf_append {name before lead : List Char} (named : IsName name)
    (opens : Opens name lead) : leadOf name (before ++ lead) = lead := by
  simp [leadOf, beforeLead?_append named opens]

/-- The assignments that `fill` meets. -/
def found (name : List Char) : Pieces → List Found
  | lead :: literal :: next :: rest =>
    if isLead name lead then ⟨leadOf name lead, literal⟩ :: found name (next :: rest)
    else found name (literal :: next :: rest)
  | _ => []

/-- An assignment that does not begin in the piece before the first quote lies behind that quote. -/
theorem AssignsAt.exists_behind {name before lead literal after piece rest : List Char}
    (here : AssignsAt name before lead literal after (piece ++ '"' :: rest)) (named : IsName name)
    (free : '"' ∉ piece) (other : ¬ isLead name piece = true) :
    ∃ between, before = piece ++ '"' :: between ∧
      AssignsAt name between lead literal after rest := by
  rcases (assignsAt_quote_iff named free).mp here with ⟨piece_eq, -, ends, opens, -⟩ | behind
  · exact absurd ((isLead_iff named).mpr ⟨_, _, piece_eq, ends, opens⟩) other
  · exact behind

theorem assigns_quote_iff {name literal piece rest : List Char} (named : IsName name)
    (free : '"' ∉ piece) (other : ¬ isLead name piece = true) :
    Assigns name literal (piece ++ '"' :: rest) ↔ Assigns name literal rest := by
  constructor
  · rintro ⟨before, lead, after, here⟩
    obtain ⟨between, -, inside⟩ := here.exists_behind named free other
    exact ⟨between, lead, after, inside⟩
  · rintro ⟨between, lead, after, inside⟩
    exact ⟨_, lead, after, inside.behind_quote piece⟩

theorem AssignsAt.prefix_of_lead {name before lead literal after front opening rest : List Char}
    (here : AssignsAt name before lead literal after (front ++ opening ++ '"' :: rest))
    (named : IsName name) (free : '"' ∉ front ++ opening) (opens : Opens name opening) :
    front <+: before := by
  rcases (assignsAt_quote_iff named free).mp here with ⟨same, -, -, opens', -⟩ | ⟨between, rfl, -⟩
  · obtain ⟨rfl, -⟩ := Opens.unique named opens opens' same
    exact List.prefix_rfl
  · exact ⟨opening ++ '"' :: between, by simp⟩

theorem beginsFirst_quote_iff {name piece between rest : List Char} (named : IsName name)
    (free : '"' ∉ piece) (other : ¬ isLead name piece = true) :
    BeginsFirst name (piece ++ '"' :: between) (piece ++ '"' :: rest) ↔
      BeginsFirst name between rest := by
  constructor
  · intro first before' lead' literal' after' here'
    have := first (here'.behind_quote piece)
    rwa [List.prefix_append_right_inj, List.cons_prefix_cons, and_iff_right rfl] at this
  · intro first before' lead' literal' after' here'
    obtain ⟨between', rfl, inside⟩ := here'.exists_behind named free other
    rw [List.prefix_append_right_inj, List.cons_prefix_cons]
    exact ⟨rfl, first inside⟩

theorem Scan.behind {name piece rest : List Char} {found : List Found} (named : IsName name)
    (free : '"' ∉ piece) (other : ¬ isLead name piece = true) (scan : Scan name rest found) :
    Scan name (piece ++ '"' :: rest) found := by
  cases scan with
  | stop none_left =>
      exact .stop fun literal => (assigns_quote_iff named free other).not.mpr (none_left literal)
  | next here first scan =>
      exact .next (here.behind_quote piece)
        ((beginsFirst_quote_iff named free other).mpr first) scan

/-- `fill` meets what a scan of the text meets. -/
theorem scan_found {name : List Char} (named : IsName name) :
    ∀ {pieces : Pieces}, pieces.QuoteFree →
      Scan name (Pieces.join pieces) (found name pieces)
  | [], free => .stop fun _ => (assigns_join named _ free).not.mpr id
  | [p], free => .stop fun _ => (assigns_join named _ free).not.mpr id
  | [p, q], free => .stop fun _ => (assigns_join named _ free).not.mpr id
  | p :: q :: r :: rest, free => by
      have p_free := free.head
      have q_free := free.tail.head
      rw [found, Pieces.join_cons_cons]
      split
      · next is_lead =>
        obtain ⟨before, lead, rfl, ends, opens⟩ := (isLead_iff named).mp is_lead
        rw [leadOf_append named opens]
        have scan := scan_found named free.tail.tail
        have here := assignsAt_join ends opens q_free r rest
        rw [Pieces.join_cons_cons] at here
        exact .next here (fun here' => here'.prefix_of_lead named p_free opens) scan
      · next not_lead => exact .behind named p_free not_lead (scan_found named free.tail)

end VersionStamp.Constant
