/-
# VersionStamp.Proofs.Gathering — gathering the edits of a script changes no line

The edits of a script are gathered by moving runs about.  Each single move changes a few
neighbouring runs, in such a way that they account for the same lines on both sides (`Rewrites`),
and so it may be made anywhere in a script.  What is left of a kept run that has given all its lines
away is taken out by the next move, so that no run without lines remains (`full_moveUp`,
`full_moveDown`).
-/
import VersionStamp.Proofs.Scripts

namespace VersionStamp.Diff

open Script

/-- The second script accounts for the same lines as the first, wherever in a script it stands. -/
structure Rewrites (s s' : Script) : Prop where
  old_eq : Script.old s' = s.old
  new_eq : Script.new s' = s.new
  numbered : ∀ {o n}, Numbered o n s → Numbered o n s'

namespace Rewrites

variable {s s' s'' : Script}

theorem refl (s : Script) : Rewrites s s := ⟨rfl, rfl, id⟩

theorem trans (rewrites : Rewrites s s') (rewrites' : Rewrites s' s'') : Rewrites s s'' :=
  ⟨rewrites'.old_eq.trans rewrites.old_eq, rewrites'.new_eq.trans rewrites.new_eq,
    rewrites'.numbered ∘ rewrites.numbered⟩

theorem append_left (front : Script) (rewrites : Rewrites s s') :
    Rewrites (front ++ s) (front ++ s') where
  old_eq := by rw [old_append, old_append, rewrites.old_eq]
  new_eq := by rw [new_append, new_append, rewrites.new_eq]
  numbered := fun numbered => by
    rw [numbered_append] at numbered ⊢
    exact numbered.imp_right rewrites.numbered

theorem append_right (rewrites : Rewrites s s') (back : Script) :
    Rewrites (s ++ back) (s' ++ back) where
  old_eq := by rw [old_append, old_append, rewrites.old_eq]
  new_eq := by rw [new_append, new_append, rewrites.new_eq]
  numbered := fun numbered => by
    rw [numbered_append] at numbered ⊢
    rw [rewrites.old_eq, rewrites.new_eq]
    exact numbered.imp_left rewrites.numbered

theorem amid (front : Script) (rewrites : Rewrites s s') (back : Script) :
    Rewrites (front ++ (s ++ back)) (front ++ (s' ++ back)) :=
  (rewrites.append_right back).append_left front

theorem tells {o n : Nat} {old new : List Line} (rewrites : Rewrites s s')
    (tells : Tells o n old new s) (full : Full s') : Tells o n old new s' :=
  ⟨rewrites.old_eq.trans tells.old_eq, rewrites.new_eq.trans tells.new_eq,
    rewrites.numbered tells.numbered, full⟩

end Rewrites

/-! ## Single moves

Five moves make up the gathering of edits: to leave out a run without lines, to join two runs of a
kind, to let a deletion and an insertion trade places, and to let an insertion slide up or down
past kept lines that look like its own.  Each accounts for the same lines as before. -/

variable {q t : Run} {ls : List Line}

theorem rewrites_nil (empty : q.lines = []) : Rewrites [q] [] := by
  constructor <;> simp [Run.oldLines, Run.newLines, Numbered, empty]

theorem rewrites_join (same : q.kind = t.kind) :
    Rewrites [q, t] [{ q with lines := q.lines ++ t.lines }] := by
  constructor
  · by_cases inserts : t.kind = .insert <;> simp [Run.oldLines, same, inserts]
  · by_cases deletes : t.kind = .delete <;> simp [Run.newLines, same, deletes]
  · intro o n numbered
    exact ⟨numbered.1, numbered.2.1, trivial⟩

theorem rewrites_swap (q_edits : q.kind ≠ .keep) (t_edits : t.kind ≠ .keep)
    (differ : q.kind ≠ t.kind) : Rewrites [q, t] [t, q] := by
  obtain ⟨kind, o, n, ls⟩ := q
  obtain ⟨kind', o', n', ls'⟩ := t
  constructor <;> cases kind <;> cases kind' <;>
    simp_all [Run.oldLines, Run.newLines, Numbered]

theorem rewrites_up {stay go pre : List Line} (keeps : q.kind = .keep) (inserts : t.kind = .insert)
    (q_lines : q.lines = stay ++ go) (t_lines : t.lines = pre ++ go) :
    Rewrites [q, t] [{ q with lines := stay },
      { t with oldAt := t.oldAt - go.length, newAt := t.newAt - go.length, lines := go ++ pre },
      ⟨.keep, q.oldAt + stay.length, t.newAt + t.lines.length - go.length, go⟩] := by
  constructor
  · simp [Run.oldLines, keeps, inserts, q_lines]
  · simp [Run.newLines, keeps, inserts, q_lines, t_lines]
  · intro o n numbered
    simp [Run.oldLines, Run.newLines, Numbered, keeps, inserts, q_lines, t_lines] at numbered ⊢
    omega

theorem rewrites_down {go stay post : List Line} (keeps : q.kind = .keep)
    (inserts : t.kind = .insert) (q_lines : q.lines = go ++ stay) (t_lines : t.lines = go ++ post) :
    Rewrites [t, q] [⟨.keep, q.oldAt, t.newAt, go⟩,
      { t with oldAt := t.oldAt + go.length, newAt := t.newAt + go.length, lines := post ++ go },
      { q with oldAt := q.oldAt + go.length, newAt := q.newAt + go.length, lines := stay }] := by
  constructor
  · simp [Run.oldLines, keeps, inserts, q_lines]
  · simp [Run.newLines, keeps, inserts, q_lines, t_lines]
  · intro o n numbered
    simp [Run.oldLines, Run.newLines, Numbered, keeps, inserts, t_lines] at numbered ⊢
    omega

theorem rewrites_keepInFront (o n : Nat) (ls : List Line) (runs : List Run) :
    Rewrites (⟨.keep, o, n, ls⟩ :: runs) (keepInFront ls o n runs) := by
  unfold keepInFront
  split
  · constructor
    · simp [Run.oldLines]
    · simp [Run.newLines]
    · intro o n numbered
      simp [Run.oldLines, Run.newLines, Numbered, ← Nat.add_assoc] at numbered ⊢
      obtain ⟨rfl, rfl, rfl, rfl, numbered⟩ := numbered
      simp [numbered]
  · exact .refl _

theorem rewrites_keepBehind (o n : Nat) (ls : List Line) (runs : List Run) :
    Rewrites (runs.reverse ++ [⟨.keep, o, n, ls⟩]) (keepBehind ls o n runs).reverse := by
  unfold keepBehind
  split
  · next o' n' ls' rest =>
    rw [List.reverse_cons, List.append_assoc, List.reverse_cons]
    exact (@rewrites_join ⟨.keep, o', n', ls'⟩ ⟨.keep, o, n, ls⟩ rfl).append_left rest.reverse
  · rw [List.reverse_cons]
    exact .refl _

/-! ## Moving a run

A run is moved by single moves until it meets one that it cannot pass.  The place that it has come
to is given as what is before it and what is after it, the former from behind; so the lemmas speak
of the script that such a place stands for. -/

theorem kind_eq_insert (edits : t.kind ≠ .keep) (some_line : t.newLines ≠ []) :
    t.kind = .insert := by
  cases kind : t.kind with
  | keep => exact absurd kind edits
  | insert => rfl
  | delete => exact absurd (by simp [Run.newLines, kind]) some_line

theorem rewrites_moveUp {before after : List Run} (edits : t.kind ≠ .keep) :
    Rewrites (before.reverse ++ t :: after) (moveUp before t after).script := by
  fun_induction moveUp before t after with
  | case1 t after => exact .refl _
  | case2 t after q before keeps empty ih =>
      have out := (rewrites_nil (List.isEmpty_iff.mp empty)).amid before.reverse (t :: after)
      simpa using out.trans (ih edits)
  | case3 t after q before keeps some_line shared none_shared => exact .refl _
  | case4 t after q before keeps some_line shared some_shared stay go t' after' ih =>
      -- A deletion has no new lines to share, so it is an insertion that slides up.
      have inserts : t.kind = .insert := kind_eq_insert edits fun no_line =>
        some_shared (by simp [shared, no_line, sharedEnd_nil])
      have t_new : t.newLines = t.lines := by simp [Run.newLines, inserts]
      obtain ⟨stay', pre, go', q_lines, t_lines, go_length⟩ := exists_sharedEnd q.lines t.newLines
      have stay_eq : stay = stay' := by simp [stay, shared, ← go_length, q_lines]
      have go_eq : go = go' := by simp [go, shared, ← go_length, q_lines]
      have pre_eq : t.lines.take (t.lines.length - shared) = pre := by
        simp [shared, ← go_length, ← t_new, t_lines]
      have up := (rewrites_up keeps inserts q_lines (t_new ▸ t_lines)).amid before.reverse after
      rw [go_length, ← stay_eq, ← go_eq, ← pre_eq] at up
      have join := (rewrites_keepInFront (q.oldAt + stay.length)
        (t.newAt + t.lines.length - shared) go after).append_left
          (before.reverse ++ [{ q with lines := stay }, t'])
      simp only [List.reverse_cons, List.append_assoc, List.cons_append, List.nil_append]
        at up join ih ⊢
      exact up.trans (join.trans (ih edits))
  | case5 t after q before q_edits same ih =>
      have join := (rewrites_join same).amid before.reverse after
      simpa using join.trans (ih q_edits)
  | case6 t after q before q_edits differ ih =>
      have swap := (rewrites_swap q_edits edits differ).amid before.reverse after
      simpa using swap.trans (ih edits)

theorem rewrites_moveDown {before after : List Run} (edits : t.kind ≠ .keep) :
    Rewrites (before.reverse ++ t :: after) (moveDown before t after).script := by
  fun_induction moveDown before t after with
  | case1 before t => exact .refl _
  | case2 before t q after keeps empty ih =>
      have out := (rewrites_nil (List.isEmpty_iff.mp empty)).amid (before.reverse ++ [t]) after
      simpa using out.trans (by simpa using ih edits)
  | case3 before t q after keeps some_line shared none_shared => exact .refl _
  | case4 before t q after keeps some_line shared some_shared go stay before' t' q' ih =>
      have inserts : t.kind = .insert := kind_eq_insert edits fun no_line =>
        some_shared (by simp [shared, no_line, sharedStart_nil])
      have t_new : t.newLines = t.lines := by simp [Run.newLines, inserts]
      obtain ⟨go', stay', post, q_lines, t_lines, go_length⟩ :=
        exists_sharedStart q.lines t.newLines
      have stay_eq : stay = stay' := by simp [stay, shared, ← go_length, q_lines]
      have go_eq : go = go' := by simp [go, shared, ← go_length, q_lines]
      have post_eq : t.lines.drop shared = post := by
        simp [shared, ← go_length, ← t_new, t_lines]
      have down :=
        (rewrites_down keeps inserts q_lines (t_new ▸ t_lines)).amid before.reverse after
      rw [go_length, ← stay_eq, ← go_eq, ← post_eq] at down
      have join := (rewrites_keepBehind q.oldAt t.newAt go before).append_right (t' :: q' :: after)
      simp only [List.append_assoc, List.cons_append, List.nil_append] at down join
      exact down.trans (join.trans (ih edits))
  | case5 before t q after q_edits same ih =>
      have join := (rewrites_join same.symm).amid before.reverse after
      simpa using join.trans (ih edits)
  | case6 before t q after q_edits differ ih =>
      have swap := (rewrites_swap edits q_edits (Ne.symm differ)).amid before.reverse after
      simpa using swap.trans (by simpa using ih edits)

theorem kind_moveUp (before : List Run) (t : Run) (after : List Run) :
    (moveUp before t after).run.kind = t.kind := by
  fun_induction moveUp before t after with
  | case1 t after => rfl
  | case2 t after q before keeps empty ih => exact ih
  | case3 t after q before keeps some_line shared none_shared => rfl
  | case4 t after q before keeps some_line shared some_shared stay go t' after' ih => exact ih
  | case5 t after q before q_edits same ih => exact ih.trans same
  | case6 t after q before q_edits differ ih => exact ih

/-! ## No run loses all its lines

Sliding past kept lines can leave a kept run empty, and it is the next move in the same direction
that takes it out.  While a run is moved, an empty run may therefore stand next to it on the side
to which it moves, and none once it has come to rest. -/

/-- All runs have lines, but for the first, if it keeps: the move may just have emptied it. -/
def FullBehindKept : List Run → Prop
  | [] => True
  | q :: runs => (q.kind = .keep ∨ q.lines ≠ []) ∧ Full runs

theorem fullBehindKept_of_full {runs : List Run} (full : Full runs) : FullBehindKept runs := by
  cases runs with
  | nil => trivial
  | cons q runs => exact (full_cons.mp full).imp_left .inr

theorem full_keepInFront {o n : Nat} {runs : List Run} (some_line : ls ≠ []) (full : Full runs) :
    Full (keepInFront ls o n runs) := by
  unfold keepInFront
  split
  · exact full_cons.mpr ⟨by simp [some_line], (full_cons.mp full).2⟩
  · exact full_cons.mpr ⟨some_line, full⟩

theorem full_keepBehind {o n : Nat} {runs : List Run} (some_line : ls ≠ []) (full : Full runs) :
    Full (keepBehind ls o n runs) := by
  unfold keepBehind
  split
  · exact full_cons.mpr ⟨by simp [some_line], (full_cons.mp full).2⟩
  · exact full_cons.mpr ⟨some_line, full⟩

/-- No run of the script around a place is without lines. -/
structure Place.Full (p : Place) : Prop where
  before : Script.Full p.before
  run : p.run.lines ≠ []
  after : Script.Full p.after

theorem full_moveUp {before after : List Run} (before_full : FullBehindKept before)
    (some_line : t.lines ≠ []) (after_full : Full after) : (moveUp before t after).Full := by
  fun_induction moveUp before t after with
  | case1 t after => exact ⟨nofun, some_line, after_full⟩
  | case2 t after q before keeps empty ih =>
      exact ih (fullBehindKept_of_full before_full.2) some_line after_full
  | case3 t after q before keeps some_kept shared none_shared =>
      exact ⟨full_cons.mpr ⟨some_kept ∘ List.isEmpty_iff.mpr, before_full.2⟩, some_line, after_full⟩
  | case4 t after q before keeps some_kept shared some_shared stay go t' after' ih =>
      have some_go : go ≠ [] := by
        have le : shared ≤ q.lines.length := sharedEnd_le q.lines t.newLines
        simp only [go, ne_eq, List.drop_eq_nil_iff]
        omega
      exact ih ⟨.inl keeps, before_full.2⟩ (by simp [t', some_go])
        (full_keepInFront some_go after_full)
  | case5 t after q before q_edits same ih =>
      exact ih (fullBehindKept_of_full before_full.2) (by simp [some_line]) after_full
  | case6 t after q before q_edits differ ih =>
      have some_edit := before_full.1.resolve_left q_edits
      exact ih (fullBehindKept_of_full before_full.2) some_line
        (full_cons.mpr ⟨some_edit, after_full⟩)

theorem full_moveDown {before after : List Run} (before_full : Full before)
    (some_line : t.lines ≠ []) (after_full : FullBehindKept after) :
    (moveDown before t after).Full := by
  fun_induction moveDown before t after with
  | case1 before t => exact ⟨before_full, some_line, nofun⟩
  | case2 before t q after keeps empty ih =>
      exact ih before_full some_line (fullBehindKept_of_full after_full.2)
  | case3 before t q after keeps some_kept shared none_shared =>
      exact ⟨before_full, some_line, full_cons.mpr ⟨some_kept ∘ List.isEmpty_iff.mpr, after_full.2⟩⟩
  | case4 before t q after keeps some_kept shared some_shared go stay before' t' q' ih =>
      have some_go : go ≠ [] := by
        have some_kept' : q.lines ≠ [] := some_kept ∘ List.isEmpty_iff.mpr
        simp [go, some_shared, some_kept']
      exact ih (full_keepBehind some_go before_full) (by simp [t', some_go])
        ⟨.inl keeps, after_full.2⟩
  | case5 before t q after q_edits same ih =>
      exact ih before_full (by simp [some_line]) (fullBehindKept_of_full after_full.2)
  | case6 before t q after q_edits differ ih =>
      have some_edit := after_full.1.resolve_left q_edits
      exact ih (full_cons.mpr ⟨some_edit, before_full⟩) some_line
        (fullBehindKept_of_full after_full.2)

/-! ## All runs of a kind

Settling goes through the script with fuel for every step.  Whether or not the fuel lasts, each
step is made of moves, so the account stays; that is all that is needed here. -/

theorem rewrites_settleFrom {kind : Kind} (edits : kind ≠ .keep) (done rest : List Run)
    (fuel : Nat) : Rewrites (done.reverse ++ rest) (settleFrom kind done rest fuel) := by
  fun_induction settleFrom kind done rest fuel with
  | case1 done rest => exact .refl _
  | case2 done fuel => rw [List.append_nil]; exact .refl _
  | case3 done fuel t after same up down ih =>
      have t_edits : t.kind ≠ .keep := same ▸ edits
      have up_edits : up.run.kind ≠ .keep := by rwa [kind_moveUp]
      have moved := (rewrites_moveUp t_edits).trans (rewrites_moveDown up_edits)
      refine moved.trans ?_
      simpa [Place.script] using ih
  | case4 done fuel t after differ ih => simpa using ih

theorem full_settleFrom (kind : Kind) {done rest : List Run} (fuel : Nat) (done_full : Full done)
    (rest_full : Full rest) : Full (settleFrom kind done rest fuel) := by
  fun_induction settleFrom kind done rest fuel with
  | case1 done rest => exact full_append.mpr ⟨full_reverse.mpr done_full, rest_full⟩
  | case2 done fuel => exact full_reverse.mpr done_full
  | case3 done fuel t after same up down ih =>
      have ⟨some_line, after_full⟩ := full_cons.mp rest_full
      have up_full : up.Full :=
        full_moveUp (fullBehindKept_of_full done_full) some_line after_full
      have down_full : down.Full :=
        full_moveDown up_full.before up_full.run (fullBehindKept_of_full up_full.after)
      exact ih (full_cons.mpr ⟨down_full.run, down_full.before⟩) down_full.after
  | case4 done fuel t after differ ih =>
      have ⟨some_line, after_full⟩ := full_cons.mp rest_full
      exact ih (full_cons.mpr ⟨some_line, done_full⟩) after_full

theorem settleFrom_of_ne {kind : Kind} {done rest : List Run} (fuel : Nat)
    (differs : ∀ r ∈ rest, r.kind ≠ kind) :
    settleFrom kind done rest fuel = done.reverse ++ rest := by
  induction fuel generalizing done rest with
  | zero => rfl
  | succ fuel ih =>
      cases rest with
      | nil => rw [settleFrom, List.append_nil]
      | cons r rest =>
          rw [List.forall_mem_cons] at differs
          rw [settleFrom, if_neg differs.1, ih differs.2, List.reverse_cons, List.append_assoc,
            List.singleton_append]

theorem settle_of_ne {kind : Kind} {script : Script} (differs : ∀ r ∈ script, r.kind ≠ kind) :
    settle kind script = script := settleFrom_of_ne (weight script) differs

variable {o n : Nat} {old new : List Line} {script : Script}

theorem Script.Tells.settle {kind : Kind} (tells : Tells o n old new script)
    (edits : kind ≠ .keep) : Tells o n old new (settle kind script) :=
  (rewrites_settleFrom edits [] script _).tells tells
    (full_settleFrom kind _ nofun tells.full)

/-- Gathering the edits of an account of a change makes another account of it. -/
theorem Script.Tells.gather (tells : Tells o n old new script) :
    Tells o n old new (gather script) :=
  (tells.settle (by decide)).settle (by decide)

end VersionStamp.Diff
