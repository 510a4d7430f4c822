/-
# VersionStamp.Diff.Shift — gathering the edits of a script

A short script is not unique.  An inserted run can trade places with kept lines beside it when the
lines that go round are equal, and a deleted run can trade places with an inserted one.  `settle`
uses this to gather edits: every run of a kind is moved towards the start as far as it goes and then
towards the end as far as it goes, and it joins the runs of its kind that it meets.

A run is moved inside a *place*: the runs before it, nearest first, the run, and the runs after it.
When an inserted run trades places with a deleted one, both keep the numbers at which they were
found.
-/
import VersionStamp.Diff.Script

namespace VersionStamp.Diff

/-- A run amid the runs around it; those before it stand nearest first. -/
structure Place where
  before : List Run
  run : Run
  after : List Run

/-- The script that a place is in. -/
def Place.script (p : Place) : Script := p.before.reverse ++ p.run :: p.after

/-- The work left in some runs: one for each, and one for each of their lines. -/
def weight : List Run → Nat
  | [] => 0
  | r :: rest => r.lines.length + 1 + weight rest

/-- Puts kept lines in front of some runs; a kept run there takes them in. -/
def keepInFront (lines : List Line) (oldAt newAt : Nat) : List Run → List Run
  | ⟨.keep, o, n, ls⟩ :: rest =>
    ⟨.keep, o - lines.length, n - lines.length, lines ++ ls⟩ :: rest
  | runs => ⟨.keep, oldAt, newAt, lines⟩ :: runs

/-- Puts kept lines after some runs, nearest first; a kept run there takes them in. -/
def keepBehind (lines : List Line) (oldAt newAt : Nat) : List Run → List Run
  | ⟨.keep, o, n, ls⟩ :: rest => ⟨.keep, o, n, ls ++ lines⟩ :: rest
  | runs => ⟨.keep, oldAt, newAt, lines⟩ :: runs

/-- Moves a run towards the start of the script. -/
def moveUp (before : List Run) (t : Run) (after : List Run) : Place :=
  match before with
  | [] => ⟨[], t, after⟩
  | q :: before =>
    if q.kind = .keep then
      if q.lines.isEmpty then moveUp before t after
      else
        let shared := sharedEnd q.lines t.newLines
        if shared = 0 then ⟨q :: before, t, after⟩
        else
          let stay := q.lines.take (q.lines.length - shared)
          let go := q.lines.drop (q.lines.length - shared)
          let t' : Run :=
            { t with
              oldAt := t.oldAt - shared
              newAt := t.newAt - shared
              lines := go ++ t.lines.take (t.lines.length - shared) }
          let after :=
            keepInFront go (q.oldAt + stay.length) (t.newAt + t.lines.length - shared) after
          moveUp ({ q with lines := stay } :: before) t' after
    else if q.kind = t.kind then moveUp before { q with lines := q.lines ++ t.lines } after
    else moveUp before t (q :: after)
termination_by weight before
decreasing_by
  all_goals simp_all [weight]
  have := List.length_pos_iff.mpr ‹¬q.lines = []›
  omega

/-- Moves a run towards the end of the script. -/
def moveDown (before : List Run) (t : Run) (after : List Run) : Place :=
  match after with
  | [] => ⟨before, t, []⟩
  | q :: after =>
    if q.kind = .keep then
      if q.lines.isEmpty then moveDown before t after
      else
        let shared := sharedStart q.lines t.newLines
        if shared = 0 then ⟨before, t, q :: after⟩
        else
          let go := q.lines.take shared
          let stay := q.lines.drop shared
          let before := keepBehind go q.oldAt t.newAt before
          let t' : Run :=
            { t with
              oldAt := t.oldAt + shared
              newAt := t.newAt + shared
              lines := t.lines.drop shared ++ go }
          let q' : Run :=
            { q with oldAt := q.oldAt + shared, newAt := q.newAt + shared, lines := stay }
          moveDown before t' (q' :: after)
    else if q.kind = t.kind then moveDown before { t with lines := t.lines ++ q.lines } after
    else moveDown (q :: before) t after
termination_by weight after
decreasing_by
  all_goals simp_all [weight]
  have := List.length_pos_iff.mpr ‹¬q.lines = []›
  omega

/-- Moves every run of a kind, from the first to the last; those of `done` have been moved and
stand nearest first.  `fuel` bounds the number of runs still to be looked at. -/
def settleFrom (kind : Kind) (done : List Run) (rest : List Run) : Nat → Script
  | 0 => done.reverse ++ rest
  | fuel + 1 =>
    match rest with
    | [] => done.reverse
    | t :: after =>
      if t.kind = kind then
        let up := moveUp done t after
        let down := moveDown up.before up.run up.after
        settleFrom kind (down.run :: down.before) down.after fuel
      else settleFrom kind (t :: done) after fuel

/-- Gathers the edits of a kind. -/
def settle (kind : Kind) (script : Script) : Script :=
  settleFrom kind [] script (weight script)

/-- Gathers the deletions of a script and then its insertions. -/
def gather (script : Script) : Script := settle .insert (settle .delete script)

end VersionStamp.Diff
