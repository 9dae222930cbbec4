import BranchChoice.Binary64.Basic

/-!
# Shortest decimals

The decimal with the fewest digits that rounds to a given magnitude, and of those the nearest.
The decimals that round to a magnitude lie between the midpoints to its two neighbours; a midpoint
itself belongs to the even rank.
-/

namespace BranchChoice

/-- The decimal number `coefficient * 10 ^ exponent`. -/
structure Decimal where
  coefficient : Nat
  exponent : Int
  deriving DecidableEq

namespace Decimal

/-- How many decimal digits a positive whole number has. -/
def digitCount (n : Nat) : Nat :=
  (Nat.toDigits 10 n).length

/-- The exponent of the first digit of `num / den` in scientific notation, for a quotient of at
least `10 ^ -400`. -/
def leadingExponent (num den : Nat) : Int :=
  (digitCount (num * Nat.pow 10 400 / den) : Int) - 401

/-- The quotient `num / den` as a whole number of steps `10 ^ k` above a divisor: `num` and `den`
scaled so that their quotient counts those steps. -/
def inSteps (num den : Nat) (k : Int) : Nat × Nat :=
  if 0 ≤ k then (num, den * Nat.pow 10 k.toNat) else (num * Nat.pow 10 (-k).toNat, den)

/-- Whether `coefficient * 10 ^ k` rounds to the magnitude of the rank. -/
def roundsTo (rank : Nat) (coefficient : Nat) (k : Int) : Bool :=
  let low := if rank = 0 then 0 else Binary64.units (rank - 1) + Binary64.units rank
  let high := Binary64.units rank + Binary64.units (rank + 1)
  -- the decimal in half units is `twice / den`
  let (twice, den) :=
    if 0 ≤ k then (2 * coefficient * Nat.pow 10 k.toNat * Binary64.unitsPerOne, 1)
    else (2 * coefficient * Binary64.unitsPerOne, Nat.pow 10 (-k).toNat)
  if rank % 2 = 0 then low * den ≤ twice && twice ≤ high * den
  else low * den < twice && twice < high * den

/-- The better of the two neighbours of a magnitude on the grid of multiples of `10 ^ k`: one that
rounds to the magnitude, the nearer if both do, the even one if they are equally near. -/
def onGrid? (rank : Nat) (k : Int) : Option Decimal :=
  let (num, den) := inSteps (Binary64.units rank) Binary64.unitsPerOne k
  let below := num / den
  let twiceRest := 2 * (num % den)
  match roundsTo rank below k, roundsTo rank (below + 1) k with
  | true, true =>
    some ⟨if twiceRest < den then below else if den < twiceRest then below + 1
      else below + below % 2, k⟩
  | true, false => some ⟨below, k⟩
  | false, true => some ⟨below + 1, k⟩
  | false, false => none

/-- The shortest decimal for a positive finite rank.  Seventeen digits always suffice. -/
def shortest (rank : Nat) : Decimal :=
  let lead := leadingExponent (Binary64.units rank) Binary64.unitsPerOne
  ((List.range 17).findSome? fun (n : Nat) => onGrid? rank (lead - n)).getD ⟨0, 0⟩

end Decimal

end BranchChoice
