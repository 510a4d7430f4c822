/-
# VersionStamp.Proofs.Refilling — filling a text that was filled before

Where assignments of different constants keep apart, no pass writes where another one looks: before
and after every pass the same pieces are met (`isMet_fillEach`).  So each piece behind one that is
met ends up with the value of the one constant for which it is met, and every other piece stays
(`getElem?_fillEach_of_isMet`, `getElem?_fillEach_of_not_isMet`).  What the literals held does
not matter, and a second filling leaves no trace of the first (`substitute_of_substitute`).

This needs values that are not read as the beginning of an assignment (`Stamp.IsInert`).
-/
import VersionStamp.Proofs.Places

namespace VersionStamp

/-- The stamp of a commit whose release version does not end in `=`. -/
structure Stamp.IsInert (s : Stamp) : Prop where
  accepted : ∃ record, Stamp.ofCommit record = .ok s
  no_sign : s.release.toList.getLast? ≠ some '='

theorem Stamp.IsInert.not_isLead {s : Stamp} (inert : s.IsInert) (c d : Constant) :
    ¬ Constant.isLead d.name.toList (c.value s).toList = true := by
  obtain ⟨record, accepted⟩ := inert.accepted
  exact Constant.not_isLead_value accepted inert.no_sign c d

namespace Constant

variable {s s' : Stamp} {constants : List Constant} {pieces : Pieces} {c d : Constant} {i : Nat}

/-! ## Passes over assignments that keep apart

One pass meets what it met, keeps the pieces spaced and writes only behind what is met for its own
constant.  So do any number of passes, by induction on the constants.  Where these are listed once
each (`Nodup`), the pass for the constant that is met is the only one to write behind a piece. -/

theorem isMet_fill_of_spaced (inert : s.IsInert) (spaced : Spaced pieces) (c d : Constant)
    (i : Nat) : isMet d.name.toList (fill c.name.toList (c.value s).toList pieces).1 i =
      isMet d.name.toList pieces i := by
  refine isMet_fill (inert.not_isLead c d) (fun k met => ?_) i
  by_cases same : c = d
  · subst same
    exact isMet_succ_of_isMet met
  · exact spaced same met

theorem Spaced.fill (spaced : Spaced pieces) (inert : s.IsInert) (c : Constant) :
    Spaced (fill c.name.toList (c.value s).toList pieces).1 := by
  intro d e i different met
  rw [isMet_fill_of_spaced inert spaced] at met ⊢
  exact spaced different met

theorem isMet_fillEach (inert : s.IsInert) (spaced : Spaced pieces) (d : Constant) (i : Nat) :
    isMet d.name.toList (fillEach s constants pieces) i = isMet d.name.toList pieces i := by
  induction constants generalizing pieces with
  | nil => rfl
  | cons c constants ih =>
      rw [fillEach, ih (spaced.fill inert c), isMet_fill_of_spaced inert spaced]

theorem Spaced.fillEach (spaced : Spaced pieces) (inert : s.IsInert) (constants : List Constant) :
    Spaced (fillEach s constants pieces) := by
  intro d e i different met
  rw [isMet_fillEach inert spaced] at met ⊢
  exact spaced different met

theorem length_found_fillEach (inert : s.IsInert) (spaced : Spaced pieces) (d : Constant) :
    (found d.name.toList (fillEach s constants pieces)).length =
      (found d.name.toList pieces).length :=
  length_found_congr (length_fillEach constants pieces) (isMet_fillEach inert spaced d)

theorem getElem?_fillEach_of_not_isMet (inert : s.IsInert) (spaced : Spaced pieces)
    (none_met : ∀ c ∈ constants, isMet c.name.toList pieces i = false) :
    (fillEach s constants pieces)[i + 1]? = pieces[i + 1]? := by
  induction constants generalizing pieces with
  | nil => rfl
  | cons c constants ih =>
      rw [List.forall_mem_cons] at none_met
      have kept : (fill c.name.toList (c.value s).toList pieces).1[i + 1]? = pieces[i + 1]? := by
        rw [getElem?_fill_succ, none_met.1]
        rfl
      rw [fillEach, ih (spaced.fill inert c), kept]
      intro d mem
      rw [isMet_fill_of_spaced inert spaced]
      exact none_met.2 d mem

/-- Behind what is met for a constant, the passes leave its value. -/
theorem getElem?_fillEach_of_isMet (inert : s.IsInert) (spaced : Spaced pieces)
    (nodup : constants.Nodup) (mem : c ∈ constants)
    (met : isMet c.name.toList pieces i = true) :
    (fillEach s constants pieces)[i + 1]? = some (c.value s).toList := by
  induction constants generalizing pieces with
  | nil => exact absurd mem List.not_mem_nil
  | cons d constants ih =>
      rw [List.nodup_cons] at nodup
      have spaced' := spaced.fill inert d
      have met' := (isMet_fill_of_spaced inert spaced d c i).trans met
      rw [fillEach]
      rcases List.mem_cons.mp mem with rfl | later
      · -- No later pass is for `c`, and the piece is met for no other constant.
        rw [getElem?_fillEach_of_not_isMet inert spaced', getElem?_fill_succ, met]
        · rfl
        · intro e e_mem
          by_contra met_too
          rw [Bool.not_eq_false] at met_too
          exact nodup.1 (eq_of_isMet met' met_too ▸ e_mem)
      · exact ih spaced' nodup.2 later met'

/-- Filling a second time is filling once, with the later values. -/
theorem fillEach_fillEach (inert : s.IsInert) (inert' : s'.IsInert) (spaced : Spaced pieces)
    (nodup : constants.Nodup) :
    fillEach s' constants (fillEach s constants pieces) = fillEach s' constants pieces := by
  have spaced' := spaced.fillEach inert constants
  apply List.ext_getElem?
  intro k
  cases k with
  | zero => rw [head?_fillEach, head?_fillEach, head?_fillEach]
  | succ i =>
      by_cases some_met : ∃ c ∈ constants, isMet c.name.toList pieces i = true
      · obtain ⟨c, mem, met⟩ := some_met
        have met' : isMet c.name.toList (fillEach s constants pieces) i = true := by
          rw [isMet_fillEach inert spaced, met]
        rw [getElem?_fillEach_of_isMet inert' spaced' nodup mem met',
          getElem?_fillEach_of_isMet inert' spaced nodup mem met]
      · have none_met : ∀ c ∈ constants, isMet c.name.toList pieces i = false := by
          simpa using some_met
        have none_met' : ∀ c ∈ constants,
            isMet c.name.toList (fillEach s constants pieces) i = false := by
          intro c mem
          rw [isMet_fillEach inert spaced]
          exact none_met c mem
        rw [getElem?_fillEach_of_not_isMet inert' spaced' none_met',
          getElem?_fillEach_of_not_isMet inert spaced none_met,
          getElem?_fillEach_of_not_isMet inert' spaced none_met]

end Constant

/-! ## Substitutions that follow each other

The same for texts.  Cutting a text and joining it again is the identity where no value holds a
quote, so what holds of the pieces holds of the substitution, its counts included. -/

variable {s s' : Stamp} {cs : List Char} {text : String}

theorem Constant.KeepApart.substituteEach (apart : KeepApart cs) (inert : s.IsInert)
    (constants : List Constant) : KeepApart (substituteEach s constants cs).1 := by
  rw [keepApart_iff, cut_substituteEach]
  exact ((keepApart_iff cs).mp apart).fillEach inert constants

theorem length_found_substituteEach (inert : s.IsInert) (apart : Constant.KeepApart cs)
    (constants : List Constant) (d : Constant) :
    (Constant.found d.name.toList (Pieces.cut (substituteEach s constants cs).1)).length =
      (Constant.found d.name.toList (Pieces.cut cs)).length := by
  rw [cut_substituteEach]
  exact Constant.length_found_fillEach inert ((Constant.keepApart_iff cs).mp apart) d

theorem counts_substituteEach (inert : s.IsInert) (apart : Constant.KeepApart cs)
    (constants : List Constant) : (substituteEach s constants cs).2 =
      constants.map fun c => ⟨c, (Constant.found c.name.toList (Pieces.cut cs)).length⟩ := by
  induction constants generalizing cs with
  | nil => rfl
  | cons c constants ih =>
      have counted := Constant.count_assign s c cs
      have rest := ih (apart.substituteEach inert [c])
      simp only [length_found_substituteEach inert apart] at rest
      rw [List.map_cons, ← counted, ← rest]
      rfl

/-- What was substituted before does not show in what is substituted now, nor in the counts. -/
theorem substitute_of_substitute (apart : Constant.KeepApart text.toList) (inert : s.IsInert)
    (inert' : s'.IsInert) : substitute (substitute text s).1 s' = substitute text s' := by
  have spaced := (Constant.keepApart_iff _).mp apart
  have apart' := apart.substituteEach inert Constant.all
  rw [substitute_eq text s, substitute_eq text s', substitute_eq, String.toList_ofList]
  refine Prod.ext ?_ ?_
  · dsimp only
    rw [← Pieces.join_cut (substituteEach s' Constant.all text.toList).1, cut_substituteEach,
      ← Constant.fillEach_fillEach inert inert' spaced Constant.nodup_all, ← cut_substituteEach,
      ← cut_substituteEach, Pieces.join_cut]
  · dsimp only
    simp only [counts_substituteEach inert' apart', counts_substituteEach inert' apart,
      length_found_substituteEach inert apart]

end VersionStamp
