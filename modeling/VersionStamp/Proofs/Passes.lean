/-
# VersionStamp.Proofs.Passes — passes that follow each other

The constants get their values one after the other, each in the text that the one before left.  On
pieces this is `fillEach`.  Two passes meet only where one overwrites a lead of the other: leads of
different constants are different pieces (`apart_of_ne`), so no place is written twice.  From this
follow, by induction on the constants,

  * `eq_of_assignsIn_fillEach`: if no value is a lead, every assignment that is left has its value;
  * `assignsIn_of_fillEach`: passes for other constants make no assignment of a constant;
  * `fillEach_eq_self_iff`: if all passes together change nothing, then none of them does.
-/
import VersionStamp.Proofs.Filling
import VersionStamp.Proofs.Values

namespace VersionStamp

namespace Pieces

theorem quote_free_cut (cs : List Char) : (cut cs).QuoteFree := by
  intro piece mem
  exact Text.not_mem_of_mem_splitOn mem

theorem cut_ne_nil (cs : List Char) : cut cs ≠ [] := List.splitOn_ne_nil '"' cs

end Pieces

namespace Constant

/-! ## Leads of different constants

A lead ends in the name of its constant, but for the sign and the blanks.  No name of a constant
ends in another one, so a piece leads to one constant at most. -/

theorem reversed_name_of_isLead {name piece : List Char} (is_lead : isLead name piece = true) :
    name.reverse <+: (piece.reverse.dropWhile Text.isBlank).tail.dropWhile Text.isBlank := by
  unfold isLead at is_lead
  split at is_lead
  · exact absurd is_lead Bool.false_ne_true
  · next before found =>
    unfold beforeLead? at found
    split at found
    · next rest sign =>
      obtain ⟨r, hr, -⟩ := Option.map_eq_some_iff.mp found
      rw [List.isPrefixOf?_eq_some_iff_append_eq] at hr
      rw [sign, List.tail_cons]
      exact ⟨r, hr⟩
    · exact absurd found (by simp)

/-- A piece is a lead of one constant at most. -/
theorem apart_of_ne {c d : Constant} (different : c ≠ d) :
    Apart c.name.toList d.name.toList := by
  intro piece is_lead is_lead'
  rcases List.prefix_or_prefix_of_prefix (reversed_name_of_isLead is_lead)
    (reversed_name_of_isLead is_lead') with h | h <;> revert different h <;>
    cases c <;> cases d <;> decide

/-! ## Passes on pieces

Each lemma about several passes takes the first pass from `Filling` and the rest by induction on
the constants.  The values for which a lemma asks that they are no leads are those of the passes
that could interfere, and no others. -/

/-- Gives the constants their values one after the other, among the pieces of a text. -/
def fillEach (s : Stamp) : List Constant → Pieces → Pieces
  | [], pieces => pieces
  | c :: constants, pieces =>
    fillEach s constants (fill c.name.toList (c.value s).toList pieces).1

variable {s : Stamp} {constants : List Constant} {c : Constant} {literal : List Char}

theorem assignsIn_of_fillEach (absent : c ∉ constants)
    (plain : ∀ d ∈ constants, ¬ isLead c.name.toList (d.value s).toList = true) {pieces : Pieces}
    (assigns : AssignsIn c.name.toList literal (fillEach s constants pieces)) :
    AssignsIn c.name.toList literal pieces := by
  induction constants generalizing pieces with
  | nil => exact assigns
  | cons d constants ih =>
      rw [List.mem_cons, not_or] at absent
      rw [List.forall_mem_cons] at plain
      exact assignsIn_of_fill (apart_of_ne (Ne.symm absent.1)) plain.1
        (ih absent.2 plain.2 assigns)

theorem eq_of_assignsIn_fillEach (nodup : constants.Nodup)
    (plain : ∀ c ∈ constants, ∀ d ∈ constants,
      ¬ isLead c.name.toList (d.value s).toList = true)
    (mem : c ∈ constants) {pieces : Pieces}
    (assigns : AssignsIn c.name.toList literal (fillEach s constants pieces)) :
    literal = (c.value s).toList := by
  induction constants generalizing pieces with
  | nil => exact absurd mem List.not_mem_nil
  | cons d constants ih =>
      rw [List.nodup_cons] at nodup
      rcases List.mem_cons.mp mem with rfl | later
      · have behind := assignsIn_of_fillEach nodup.1
          (fun e e_mem => plain _ mem e (List.mem_cons_of_mem _ e_mem)) assigns
        exact eq_of_assignsIn_fill (plain _ mem _ mem) behind
      · exact ih nodup.2 (fun e e_mem f f_mem => plain e (List.mem_cons_of_mem _ e_mem) f
          (List.mem_cons_of_mem _ f_mem)) later assigns

theorem getElem?_fillEach
    (plain : ∀ c ∈ constants, ∀ d : Constant, ¬ isLead d.name.toList (c.value s).toList = true)
    {pieces : Pieces} {lead : List Char} {i : Nat} (at_lead : pieces[i]? = some lead)
    (other : ∀ c ∈ constants, ¬ isLead c.name.toList lead = true) :
    (fillEach s constants pieces)[i + 1]? = pieces[i + 1]? := by
  induction constants generalizing pieces lead with
  | nil => rfl
  | cons c constants ih =>
      rw [List.forall_mem_cons] at plain other
      have kept : (fill c.name.toList (c.value s).toList pieces).1[i + 1]? = pieces[i + 1]? := by
        rcases getElem?_fill c.name.toList (c.value s).toList pieces i with
          kept | ⟨lead', is_lead, at_lead', -⟩
        · exact kept
        · rw [at_lead, Option.some.injEq] at at_lead'
          exact absurd (at_lead' ▸ is_lead) other.1
      rw [fillEach, ← kept]
      -- The piece before is still there, or is the value of `c`; neither is a lead.
      cases i with
      | zero => exact ih plain.2 ((head?_fill _ _ pieces).trans at_lead) other.2
      | succ i =>
          rcases getElem?_fill c.name.toList (c.value s).toList pieces i with
            same | ⟨-, -, -, -, written⟩
          · exact ih plain.2 (same.trans at_lead) other.2
          · exact ih plain.2 written fun d _ => plain.1 d

/-- No pass takes back what an earlier one wrote: if all together change nothing, none of them
does.  Only the first value may be a lead. -/
theorem fillEach_eq_self_iff (nodup : constants.Nodup)
    (plain : ∀ c ∈ constants.tail, ∀ d : Constant,
      ¬ isLead d.name.toList (c.value s).toList = true) {pieces : Pieces} :
    fillEach s constants pieces = pieces ↔
      ∀ c ∈ constants, (fill c.name.toList (c.value s).toList pieces).1 = pieces := by
  induction constants with
  | nil => simp [fillEach]
  | cons c constants ih =>
      rw [List.nodup_cons] at nodup
      rw [List.tail_cons] at plain
      have rest := ih nodup.2 fun d mem => plain d (List.mem_of_mem_tail mem)
      rw [List.forall_mem_cons, ← rest, fillEach]
      constructor
      · intro whole
        have first : (fill c.name.toList (c.value s).toList pieces).1 = pieces := by
          apply List.ext_getElem?
          intro i
          cases i with
          | zero => exact head?_fill _ _ pieces
          | succ i =>
              rcases getElem?_fill c.name.toList (c.value s).toList
                pieces i with kept | ⟨lead, is_lead, -, at_lead, -⟩
              · exact kept
              · have other : ∀ d ∈ constants, ¬ isLead d.name.toList lead = true := by
                  intro d mem
                  have different : c ≠ d := fun h => nodup.1 (h ▸ mem)
                  exact apart_of_ne different lead is_lead
                rw [← getElem?_fillEach plain at_lead other, whole]
        rw [first] at whole
        exact ⟨first, whole⟩
      · rintro ⟨first, whole⟩
        rw [first, whole]

end Constant

end VersionStamp
