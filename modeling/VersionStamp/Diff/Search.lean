/-
# VersionStamp.Diff.Search — a short script between two lists of lines

The lines two lists share at their start and at their end are kept.  What is left is cut in two, at
a point through which a shortest change passes, and each half is treated in the same way.

The point is found by going from both ends at once.  After `d` single-line edits a change that
started at the front has come furthest on each *diagonal* (lines gone from the old list minus lines
gone from the new one); the list of these reaches, for the diagonals `d, d - 2, …, -d`, is a
*frontier*.  The frontier from the back is that of the reversed lists.  When the two meet on one
diagonal, a shortest change is known to pass where the last step began.

Nothing rests on the search being right: `script` cuts only at a point that makes both halves
smaller, and otherwise deletes one list and inserts the other, so every answer is a script between
the two lists.
-/
import VersionStamp.Diff.Script

namespace VersionStamp.Diff

/-! ## Frontiers

The search goes from both ends at once, by the number of edits.  A frontier holds, for each
diagonal, how far one can get with so many edits; when the frontiers from both ends overlap on a
diagonal, a short change passes there. -/

/-- How far equal lines go on from `x` in the old list and `y` in the new one. -/
def follow (old new : Array Line) (x y : Nat) : Nat → Nat
  | 0 => 0
  | fuel + 1 =>
    match old[x]?, new[y]? with
    | some a, some b => if a = b then follow old new (x + 1) (y + 1) fuel + 1 else 0
    | _, _ => 0

/-- A step of the search: where on the old list it began, and what it reached. -/
structure Step where
  start : Nat
  reach : Nat
  deriving DecidableEq, Repr

/-- The diagonal at a place of the frontier after `d` edits. -/
def diagonal (d place : Nat) : Int := d - 2 * place

/-- The place of a diagonal in the frontier after `d` edits. -/
def place (d : Nat) (k : Int) : Nat := ((d - k) / 2).toNat

/-- The steps that lead to the frontier after `d` edits, from the one after `d - 1`: an insertion
keeps the place in the old list and a deletion takes one line from it; of the two, the one that is
further ahead. -/
def advance (old new : Array Line) (d : Nat) (frontier : Array Nat) : List Step :=
  (List.range (d + 1)).map fun i =>
    let inserting := frontier[i - 1]?.getD 0
    let deleting := frontier[i]?.getD 0
    let start :=
      if i = d then (if d = 0 then 0 else inserting)
      else if i ≠ 0 ∧ deleting < inserting then inserting
      else deleting + 1
    let y := start - diagonal d i
    if start < old.size ∧ 0 ≤ y ∧ y < new.size then
      ⟨start, start + follow old new start y.toNat old.size⟩
    else ⟨start, start⟩

/-- Looks for the meeting point after `d`, `d + 1`, … edits from each end.  `front` and `back` are
the frontiers after `d - 1` edits; the back works on the reversed lists. -/
def meeting? (old new oldBack newBack : Array Line) (d : Nat) (front back : Array Nat) :
    Nat → Option (Nat × Nat)
  | 0 => none
  | fuel + 1 =>
    let n := old.size
    let m := new.size
    let delta : Int := n - m
    let frontSteps := advance old new d front
    let frontMeets := frontSteps.zipIdx.findSome? fun (step, i) =>
      let k := diagonal d i
      if delta % 2 ≠ 0 ∧ (k - delta).natAbs + 1 ≤ d ∧
          n ≤ step.reach + back[place (d - 1) (delta - k)]?.getD 0 then
        some (step.start, (step.start - k).toNat)
      else none
    match frontMeets with
    | some point => some point
    | none =>
      let front := (frontSteps.map Step.reach).toArray
      let backSteps := advance oldBack newBack d back
      let backMeets := backSteps.zipIdx.findSome? fun (step, i) =>
        let k := diagonal d i
        if delta % 2 = 0 ∧ (k - delta).natAbs ≤ d ∧
            n ≤ step.reach + front[place d (delta - k)]?.getD 0 then
          some (n - step.reach, (m - (step.reach - k)).toNat)
        else none
      match backMeets with
      | some point => some point
      | none =>
        meeting? old new oldBack newBack (d + 1) front (backSteps.map Step.reach).toArray fuel

/-- A point through which a short change between two lists passes. -/
def middle? (old new : List Line) : Option (Nat × Nat) :=
  meeting? old.toArray new.toArray old.reverse.toArray new.reverse.toArray 0 #[] #[]
    ((old.length + new.length + 1) / 2 + 1)

/-! ## Scripts

The lists are cut at such a point and searched on both sides of it.  What they share at their ends
is cut off first, and where no point is found, or one that leaves nothing smaller to search, all
that is left is replaced. -/

/-- A run, unless it has no lines. -/
def runOf (kind : Kind) (oldAt newAt : Nat) (lines : List Line) : Script :=
  if lines.isEmpty then [] else [⟨kind, oldAt, newAt, lines⟩]

/-- A script between two lists, the first of which begins after `oldAt` lines and the second after
`newAt`. -/
def scriptFrom (oldAt newAt : Nat) (old new : List Line) : Script :=
  let start := sharedStart old new
  let oldRest := old.drop start
  let newRest := new.drop start
  let finish := sharedEnd oldRest newRest
  let a := oldRest.take (oldRest.length - finish)
  let b := newRest.take (newRest.length - finish)
  let oldFrom := oldAt + start
  let newFrom := newAt + start
  let changed :=
    if a.isEmpty || b.isEmpty then
      runOf .delete oldFrom newFrom a ++ runOf .insert oldFrom newFrom b
    else
      match middle? a b with
      | none => runOf .delete oldFrom newFrom a ++ runOf .insert oldFrom newFrom b
      | some (x, y) =>
        if _inside : x ≤ a.length ∧ y ≤ b.length ∧ 0 < x + y ∧ x + y < a.length + b.length then
          scriptFrom oldFrom newFrom (a.take x) (b.take y) ++
            scriptFrom (oldFrom + x) (newFrom + y) (a.drop x) (b.drop y)
        else runOf .delete oldFrom newFrom a ++ runOf .insert oldFrom newFrom b
  runOf .keep oldAt newAt (old.take start) ++ changed ++
    runOf .keep (oldFrom + a.length) (newFrom + b.length) (oldRest.drop a.length)
termination_by old.length + new.length
decreasing_by
  all_goals
    have ha : a.length ≤ old.length := by simp [a, oldRest]; omega
    have hb : b.length ≤ new.length := by simp [b, newRest]; omega
    simp only [List.length_take, List.length_drop]
    omega

/-- A script between two lists of lines. -/
def script (old new : List Line) : Script := scriptFrom 0 0 old new

end VersionStamp.Diff
