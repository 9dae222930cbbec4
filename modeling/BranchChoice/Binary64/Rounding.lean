import BranchChoice.Binary64.Basic

/-!
# Rounding to binary64

Quotients of whole numbers rounded to the nearest binary64 number, ties to the even rank, and the
operations that are defined by an exact result rounded once.
-/

namespace BranchChoice

/-- The whole number nearest to `num / den`, the even one of two that are equally near. -/
def roundQuotient (num den : Nat) : Nat :=
  let q := num / den
  let r := num % den
  if 2 * r < den then q else if den < 2 * r then q + 1 else q + q % 2

namespace Binary64

/-- The rank nearest to `num / den` units.  In the binade whose magnitudes are `2 ^ e` units apart
the rank exceeds the multiple of `2 ^ e` by `e * 2 ^ 52`. -/
def nearestRank (num den : Nat) : Nat :=
  let e := (num / den).log2 - 52
  roundQuotient num (den * Nat.pow 2 e) + e * binadeSize

/-- The binary64 number nearest to `num / den`, with the given sign. -/
def ofQuotient (negative : Bool) (num den : Nat) : Binary64 :=
  ofRank negative (nearestRank (num * unitsPerOne) den)

/-- The binary64 number nearest to a whole number; infinite beyond the largest finite one. -/
def ofInt (n : Int) : Binary64 :=
  ofQuotient (n < 0) n.natAbs 1

/-- The fraction `part / whole` as a binary64 number, zero for an empty whole. -/
def fraction (part whole : Nat) : Binary64 :=
  if whole = 0 then zero else ofQuotient false part whole

/-- The sum, rounded once; a sum of exactly zero is negative only if both terms are. -/
def add (x y : Binary64) : Binary64 :=
  match x.extent?, y.extent? with
  | some (.finite a), some (.finite b) =>
    if a + b = 0 then ofRank (x.isNegative && y.isNegative) 0
    else ofRank (a + b < 0) (nearestRank (a + b).natAbs 1)
  | some (.infinite s), some (.finite _) => infinity s
  | some (.finite _), some (.infinite t) => infinity t
  | some (.infinite s), some (.infinite t) => if s = t then infinity s else nan
  | _, _ => nan

/-- The difference, rounded once. -/
def sub (x y : Binary64) : Binary64 :=
  x.add y.neg

/-- The product, rounded once. -/
def mul (x y : Binary64) : Binary64 :=
  let negative := x.isNegative != y.isNegative
  match x.extent?, y.extent? with
  | some (.finite a), some (.finite b) =>
    ofRank negative (nearestRank (a.natAbs * b.natAbs) unitsPerOne)
  | some (.infinite _), some (.finite b) => if b = 0 then nan else infinity negative
  | some (.finite a), some (.infinite _) => if a = 0 then nan else infinity negative
  | some (.infinite _), some (.infinite _) => infinity negative
  | _, _ => nan

end Binary64

end BranchChoice
