/-
# VersionStamp.CommandLine.Similarity — which option was meant

Whoever mistypes the name of an option is told the one that is most like it.  Likeness is
measured: two characters match if they are equal and not too far from each other, and the
measure is the mean of three shares, the matches among the characters of either name and the matches
that stand in the same order.  Every step is rounded to 53 significant bits, so two names can be
equally like a third in exact numbers and not in these.  Of options equally like the name, the last
one counts.
-/
import VersionStamp.CommandLine.Option
import VersionStamp.Ratio

namespace VersionStamp.CommandLine

/-- The first place from `low` up to and not including `high` that holds `c` and is still free. -/
def freeMatch? (b : List Char) (taken : List Nat) (c : Char) (low high : Nat) : Option Nat :=
  b.zipIdx.findSome? fun (d, j) =>
    if low ≤ j ∧ j < high ∧ d = c ∧ !taken.contains j then some j else none

/-- The matches of two names, as places in each, in the order of the first; `i` characters of it
have been dealt with. -/
def matchesFrom (reach : Nat) (b : List Char) (i : Nat) (taken : List Nat) :
    List Char → List (Nat × Nat)
  | [] => []
  | c :: a =>
    match freeMatch? b taken c (i - reach) (i + reach + 1) with
    | some j => (i, j) :: matchesFrom reach b (i + 1) (j :: taken) a
    | none => matchesFrom reach b (i + 1) taken a

/-- The mean of three shares. -/
def mean (a b c : Ratio) : Ratio :=
  ((a.rounded + b.rounded).rounded + c.rounded).rounded * ⟨1, 3⟩ |>.rounded

/-- How much two names are alike. -/
def similarity (a b : List Char) : Ratio :=
  let pairs := matchesFrom (max a.length b.length / 2 - 1) b 0 [] a
  let m := pairs.length
  let inA := pairs.filterMap fun (i, _) => a[i]?
  let inB := (b.zipIdx.filter fun (_, j) => (pairs.map Prod.snd).contains j).map Prod.fst
  let swaps := ((inA.zip inB).filter fun (c, d) => c ≠ d).length / 2
  if m = 0 then .ofNat 0 else mean ⟨m, a.length⟩ ⟨m, b.length⟩ ⟨m - swaps, m⟩

/-- Names are taken for each other only if they are more alike than this. -/
def threshold : Ratio := Ratio.rounded ⟨7, 10⟩

/-- The option whose name is most like a mistyped one. -/
def meant? (name : List Char) : Option Opt :=
  let like := (Opt.all.map fun o => (o, similarity name o.long.toList)).filter
    (·.2.above threshold)
  (like.foldl (fun best next =>
    match best with
    | some b => if next.2.atLeast b.2 then some next else some b
    | none => some next) none).map Prod.fst

end VersionStamp.CommandLine
