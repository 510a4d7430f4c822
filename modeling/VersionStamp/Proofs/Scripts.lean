/-
# VersionStamp.Proofs.Scripts — a script is an account of the change, however it was found

A script between two lists keeps and deletes the lines of the first and keeps and inserts those of
the second (`Tells`).  The search makes one, because it only cuts both lists at the same time and
accounts for what is left by deleting and inserting it (`tells_script`).

Of the two numbers of a run only those are claimed that say where its own lines stand: a deletion
has its number in the old list right, an insertion its number in the new list, and a kept run both
(`Numbered`).  The other number of an edit is the place at which the search came upon it.
-/
import Mathlib.Data.List.Basic
import VersionStamp.Diff.Search
import VersionStamp.Diff.Shift

namespace VersionStamp.Diff

/-! ## What two lists share

Counting the lines that two lists share at their start cuts both lists into an equal front and the
rest.  From the end it is the same with the lists reversed. -/

theorem take_sharedStart (as bs : List Line) :
    as.take (sharedStart as bs) = bs.take (sharedStart as bs) := by
  fun_induction sharedStart as bs with
  | case1 a as bs ih => rw [List.take_succ_cons, List.take_succ_cons, ih]
  | case2 a as b bs differ => rfl
  | case3 as bs no_two => rfl

theorem sharedStart_le (as bs : List Line) :
    sharedStart as bs ≤ as.length ∧ sharedStart as bs ≤ bs.length := by
  fun_induction sharedStart as bs with
  | case1 a as bs ih =>
      exact ⟨Nat.succ_le_succ ih.1, Nat.succ_le_succ ih.2⟩
  | case2 a as b bs differ => exact ⟨Nat.zero_le _, Nat.zero_le _⟩
  | case3 as bs no_two => exact ⟨Nat.zero_le _, Nat.zero_le _⟩

theorem sharedStart_self (as : List Line) : sharedStart as as = as.length := by
  induction as with
  | nil => rfl
  | cons a as ih => rw [sharedStart, if_pos rfl, ih, List.length_cons]

theorem sharedStart_nil (as : List Line) : sharedStart as [] = 0 := by
  cases as <;> rfl

theorem exists_sharedStart (as bs : List Line) :
    ∃ shared as' bs', as = shared ++ as' ∧ bs = shared ++ bs' ∧
      shared.length = sharedStart as bs := by
  refine ⟨as.take (sharedStart as bs), as.drop (sharedStart as bs), bs.drop (sharedStart as bs),
    (List.take_append_drop _ as).symm, ?_, ?_⟩
  · rw [take_sharedStart, List.take_append_drop]
  · exact List.length_take_of_le (sharedStart_le as bs).1

theorem exists_sharedEnd (as bs : List Line) :
    ∃ as' bs' shared, as = as' ++ shared ∧ bs = bs' ++ shared ∧
      shared.length = sharedEnd as bs := by
  obtain ⟨shared, as', bs', as_eq, bs_eq, length_eq⟩ := exists_sharedStart as.reverse bs.reverse
  refine ⟨as'.reverse, bs'.reverse, shared.reverse, ?_, ?_, by rw [List.length_reverse, length_eq,
    sharedEnd]⟩
  · rw [← List.reverse_append, ← as_eq, List.reverse_reverse]
  · rw [← List.reverse_append, ← bs_eq, List.reverse_reverse]

theorem drop_sharedEnd (as bs : List Line) :
    as.drop (as.length - sharedEnd as bs) = bs.drop (bs.length - sharedEnd as bs) := by
  obtain ⟨as', bs', shared, as_eq, bs_eq, length_eq⟩ := exists_sharedEnd as bs
  rw [← length_eq]
  simp [as_eq, bs_eq]

theorem sharedEnd_le (as bs : List Line) : sharedEnd as bs ≤ as.length := by
  rw [← List.length_reverse]
  exact (sharedStart_le as.reverse bs.reverse).1

theorem sharedEnd_nil (as : List Line) : sharedEnd as [] = 0 := sharedStart_nil as.reverse

/-! ## Scripts

A script gives two lists, the old one without its insertions and the new one without its deletions,
and it numbers its runs in both.  All three go along with appending, once the second script begins
to count where the first one ends (`Tells.append`). -/

namespace Script

@[simp] theorem old_nil : Script.old [] = [] := rfl

@[simp] theorem new_nil : Script.new [] = [] := rfl

@[simp] theorem old_cons (r : Run) (s : Script) : Script.old (r :: s) = r.oldLines ++ s.old := rfl

@[simp] theorem new_cons (r : Run) (s : Script) : Script.new (r :: s) = r.newLines ++ s.new := rfl

@[simp] theorem old_append (s t : Script) : Script.old (s ++ t) = s.old ++ Script.old t :=
  List.flatMap_append

@[simp] theorem new_append (s t : Script) : Script.new (s ++ t) = s.new ++ Script.new t :=
  List.flatMap_append

/-- Each run is numbered rightly on the sides on which it has lines, in a script that begins after
so many lines of the old list and so many of the new. -/
def Numbered (o n : Nat) : Script → Prop
  | [] => True
  | r :: rest =>
    (r.kind ≠ .insert → r.oldAt = o) ∧ (r.kind ≠ .delete → r.newAt = n) ∧
      Numbered (o + r.oldLines.length) (n + r.newLines.length) rest

theorem numbered_append {s t : Script} {o n : Nat} :
    Numbered o n (s ++ t) ↔ Numbered o n s ∧ Numbered (o + s.old.length) (n + s.new.length) t := by
  induction s generalizing o n with
  | nil => simp [Numbered]
  | cons r s ih =>
      simp only [List.cons_append, Numbered, ih, old_cons, new_cons, List.length_append,
        Nat.add_assoc, and_assoc]

/-- No run is without lines. -/
def Full (s : Script) : Prop := ∀ r ∈ s, r.lines ≠ []

theorem full_cons {r : Run} {s : Script} : Full (r :: s) ↔ r.lines ≠ [] ∧ Full s :=
  List.forall_mem_cons

theorem full_append {s t : Script} : Full (s ++ t) ↔ Full s ∧ Full t := List.forall_mem_append

theorem full_reverse {s : Script} : Full s.reverse ↔ Full s := by
  simp only [Full, List.mem_reverse]

/-- The script is an account of the change from one list to another, which begin after so many
lines. -/
structure Tells (o n : Nat) (old new : List Line) (s : Script) : Prop where
  old_eq : s.old = old
  new_eq : s.new = new
  numbered : Numbered o n s
  full : Full s

theorem Tells.append {o n : Nat} {old new old' new' : List Line} {s t : Script}
    (tells : Tells o n old new s)
    (tells' : Tells (o + old.length) (n + new.length) old' new' t) :
    Tells o n (old ++ old') (new ++ new') (s ++ t) := by
  obtain ⟨rfl, rfl, numbered, full⟩ := tells
  obtain ⟨rfl, rfl, numbered', full'⟩ := tells'
  exact ⟨old_append s t, new_append s t, numbered_append.mpr ⟨numbered, numbered'⟩,
    full_append.mpr ⟨full, full'⟩⟩

end Script

/-! ## The search

The search cuts off what both lists share and splits what is left at a point in both, or gives up
and replaces it.  Each of these makes an account from accounts of the parts.  Where the split comes
from, and so how short the script is, plays no part in it. -/

section Search

open Script

variable (o n : Nat) (ls : List Line)

theorem full_runOf (kind : Kind) : Full (runOf kind o n ls) := by
  cases ls with
  | nil => exact nofun
  | cons l ls => exact full_cons.mpr ⟨List.cons_ne_nil l ls, nofun⟩

theorem tells_keep : Tells o n ls ls (runOf .keep o n ls) := by
  refine ⟨?_, ?_, ?_, full_runOf o n ls .keep⟩ <;> cases ls <;>
    simp [runOf, Run.oldLines, Run.newLines, Numbered]

theorem tells_delete (newAt : Nat) : Tells o n ls [] (runOf .delete o newAt ls) := by
  refine ⟨?_, ?_, ?_, full_runOf o newAt ls .delete⟩ <;> cases ls <;>
    simp [runOf, Run.oldLines, Run.newLines, Numbered]

theorem tells_insert (oldAt : Nat) : Tells o n [] ls (runOf .insert oldAt n ls) := by
  refine ⟨?_, ?_, ?_, full_runOf oldAt n ls .insert⟩ <;> cases ls <;>
    simp [runOf, Run.oldLines, Run.newLines, Numbered]

theorem tells_replace (as bs : List Line) :
    Tells o n as bs (runOf .delete o n as ++ runOf .insert o n bs) := by
  have tells := (tells_delete o n as n).append (tells_insert (o + as.length) (n + 0) bs o)
  rwa [List.append_nil, List.nil_append] at tells

theorem Script.Tells.amid {o n : Nat} {as bs front : List Line} {changed : Script}
    (tells : Tells (o + front.length) (n + front.length) as bs changed) (back : List Line) :
    Tells o n (front ++ as ++ back) (front ++ bs ++ back)
      (runOf .keep o n front ++ changed ++
        runOf .keep (o + front.length + as.length) (n + front.length + bs.length) back) := by
  refine ((tells_keep o n front).append tells).append ?_
  rw [List.length_append, List.length_append, ← Nat.add_assoc, ← Nat.add_assoc]
  exact tells_keep _ _ back

/-- The search makes an account of the change. -/
theorem tells_scriptFrom (old new : List Line) :
    Tells o n old new (scriptFrom o n old new) := by
  induction o, n, old, new using scriptFrom.induct with
  | case1 o n old new start oldRest newRest finish a b oldFrom newFrom front_tells back_tells =>
      have front_length : (old.take start).length = start :=
        List.length_take_of_le (sharedStart_le old new).1
      have back_eq : newRest.drop b.length = oldRest.drop a.length := by
        rw [List.length_take_of_le (Nat.sub_le _ _), List.length_take_of_le (Nat.sub_le _ _)]
        exact (drop_sharedEnd oldRest newRest).symm
      have old_eq : old.take start ++ a ++ oldRest.drop a.length = old := by
        rw [List.append_assoc, List.length_take_of_le (Nat.sub_le _ _), List.take_append_drop,
          List.take_append_drop]
      have new_eq : old.take start ++ b ++ oldRest.drop a.length = new := by
        rw [← back_eq, List.append_assoc, List.length_take_of_le (Nat.sub_le _ _),
          List.take_append_drop, take_sharedStart, List.take_append_drop]
      -- However the lines between the shared ends are accounted for, the whole is accounted for.
      have amid : ∀ {changed}, Tells oldFrom newFrom a b changed →
          Tells o n old new (runOf .keep o n (old.take start) ++ changed ++
            runOf .keep (oldFrom + a.length) (newFrom + b.length) (oldRest.drop a.length)) := by
        intro changed tells
        have whole := @Tells.amid o n a b (old.take start) changed (by rwa [front_length])
          (oldRest.drop a.length)
        rwa [front_length, old_eq, new_eq] at whole
      rw [scriptFrom]
      refine amid ?_
      split_ifs with one_side
      · exact tells_replace oldFrom newFrom a b
      · split
        · exact tells_replace oldFrom newFrom a b
        · next x y _ =>
          split_ifs with inside
          · have whole := (front_tells x y inside).append <| by
              rw [List.length_take_of_le inside.1, List.length_take_of_le inside.2.1]
              exact back_tells x y inside
            rwa [List.take_append_drop, List.take_append_drop] at whole
          · exact tells_replace oldFrom newFrom a b

/-- The script between two lists is an account of the change. -/
theorem tells_script (old new : List Line) : Tells 0 0 old new (script old new) :=
  tells_scriptFrom 0 0 old new

theorem script_self : script ls ls = runOf .keep 0 0 ls := by
  rw [script, scriptFrom]
  simp [sharedStart_self, runOf]

end Search

end VersionStamp.Diff
