/-
# VersionStamp.Ratio — fractions, and their rounding to 53 significant bits

Two decisions of the program are made with floating-point numbers: whether a number in a document is
too large, and which option a mistyped name is most like.  Such numbers have 53 significant bits,
and each step of a computation is exact first and rounded then.  Here the steps are taken with
fractions of natural numbers and `Ratio.rounded` is the rounding, so nothing depends on a machine.

A rounding goes to the closest number, and from the middle between two to the one whose last bit is
zero (`halfEven`).  It goes up by half a unit at most (`halfEven_le`).
-/

namespace VersionStamp

/-- A fraction of two natural numbers. -/
structure Ratio where
  num : Nat
  den : Nat
  deriving DecidableEq, Repr

/-- The natural number closest to `n / d`; of two equally close ones, the even one. -/
def halfEven (n d : Nat) : Nat :=
  let below := n / d
  let twice := 2 * (n % d)
  if d < twice ∨ (d = twice ∧ below % 2 = 1) then below + 1 else below

/-- A rounding goes up by half a unit at most. -/
theorem halfEven_le (n d : Nat) : 2 * (d * halfEven n d) ≤ 2 * n + d := by
  have hn := Nat.div_add_mod n d
  rw [halfEven]
  split
  · next h =>
    rw [Nat.mul_add]
    omega
  · omega

namespace Ratio

/-- A natural number as a fraction. -/
def ofNat (n : Nat) : Ratio := ⟨n, 1⟩

instance : Add Ratio := ⟨fun a b => ⟨a.num * b.den + b.num * a.den, a.den * b.den⟩⟩

instance : Mul Ratio := ⟨fun a b => ⟨a.num * b.num, a.den * b.den⟩⟩

/-- One fraction is at least as large as another. -/
def atLeast (a b : Ratio) : Bool := b.num * a.den ≤ a.num * b.den

/-- One fraction is larger than another. -/
def above (a b : Ratio) : Bool := b.num * a.den < a.num * b.den

/-- The closest number with 53 significant bits; of two equally close ones, that whose last bit is
zero.  The fraction is scaled by a power of two until its whole part has 53 or 54 bits. -/
def rounded (q : Ratio) : Ratio :=
  let up := 53 + q.den.log2 - q.num.log2
  let down := q.num.log2 - (53 + q.den.log2)
  let n := q.num <<< up
  let d := q.den <<< down
  if n < d <<< 53 then ⟨halfEven n d <<< down, 1 <<< up⟩
  else ⟨halfEven n (2 * d) <<< (down + 1), 1 <<< up⟩

end Ratio

end VersionStamp
