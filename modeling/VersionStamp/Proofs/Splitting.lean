/-
# VersionStamp.Proofs.Splitting — a text between its separators

Grammars are cut at their quotes, headers at their line feeds and paths at their slashes.  In each
case no piece holds the separator, and the place of the first separator is settled by the text.
-/
import Mathlib.Data.List.Basic

namespace VersionStamp.Text

variable {c : Char} {cs front front' rest rest' piece : List Char}

theorem not_mem_of_mem_splitOn (mem : piece ∈ cs.splitOn c) : c ∉ piece := by
  induction cs generalizing piece with
  | nil =>
      rw [List.splitOn_nil, List.mem_singleton] at mem
      exact mem ▸ List.not_mem_nil
  | cons d cs ih =>
      obtain ⟨p, pieces, split⟩ := List.exists_cons_of_ne_nil (List.splitOn_ne_nil c cs)
      rw [split] at ih
      rw [List.splitOn_cons_eq_if_modifyHead, split] at mem
      split at mem
      · rcases List.mem_cons.mp mem with rfl | mem
        · exact List.not_mem_nil
        · exact ih mem
      · next other =>
        rw [List.modifyHead_cons] at mem
        rcases List.mem_cons.mp mem with rfl | mem
        · intro here
          rcases List.mem_cons.mp here with rfl | here
          · exact other (beq_self_eq_true c)
          · exact ih List.mem_cons_self here
        · exact ih (List.mem_cons_of_mem p mem)

theorem splitOn_append_cons (free : c ∉ front) (rest : List Char) :
    (front ++ c :: rest).splitOn c = front :: rest.splitOn c := by
  rw [List.splitOn_append_cons_self, List.splitOn_eq_singleton free, List.singleton_append]

theorem eq_of_append_cons_eq (free : c ∉ front) (free' : c ∉ front')
    (same : front ++ c :: rest = front' ++ c :: rest') : front = front' ∧ rest = rest' := by
  have split := congrArg (List.splitOn c) same
  rw [splitOn_append_cons free, splitOn_append_cons free'] at split
  obtain ⟨fronts, rests⟩ := List.cons.inj split
  have joined := congrArg [c].intercalate rests
  rw [List.intercalate_splitOn, List.intercalate_splitOn] at joined
  exact ⟨fronts, joined⟩

end VersionStamp.Text
