/-!
# Binary64 numbers

The numbers of the 64-bit binary interchange format.  Every magnitude is known by its *rank*, its
place when all magnitudes are listed in ascending order: zero has rank 0, the least subnormal rank
1, infinity the last.  Order and rounding are then matters of whole numbers, and the exact value
is a whole multiple of the least subnormal (`Binary64.units`).
-/

namespace BranchChoice

namespace Binary64

/-- How many magnitudes share an exponent: 2⁵². -/
def binadeSize : Nat := 4503599627370496

/-- The rank of infinity, above 2046 exponents with 2⁵² magnitudes each and the subnormals. -/
def infinityRank : Nat := 2047 * binadeSize

/-- How many units, that is least subnormals, make one. -/
def unitsPerOne : Nat := Nat.pow 2 1074

/-- The value of a rank in units: a rank below 2⁵² is its own value, and every further 2⁵² ranks
double the step from one magnitude to the next. -/
def units (rank : Nat) : Nat :=
  if rank < binadeSize then rank
  else (binadeSize + rank % binadeSize) * Nat.pow 2 (rank / binadeSize - 1)

end Binary64

/-- A number of the binary64 format: not a number, or a sign and the rank of a magnitude. -/
inductive Binary64 where
  | nan
  | signed (negative : Bool) (rank : Fin (Binary64.infinityRank + 1))
  deriving DecidableEq

namespace Binary64

/-- The number with a given sign and rank; ranks beyond infinity are infinity. -/
def ofRank (negative : Bool) (rank : Nat) : Binary64 :=
  .signed negative ⟨min rank infinityRank, by omega⟩

instance : Inhabited Binary64 := ⟨ofRank false 0⟩

/-- Infinity of either sign. -/
def infinity (negative : Bool) : Binary64 :=
  ofRank negative infinityRank

/-- Positive zero. -/
def zero : Binary64 :=
  ofRank false 0

/-- The number with its sign changed. -/
def neg : Binary64 → Binary64
  | nan => nan
  | signed negative rank => signed (!negative) rank

/-! ## Order -/

/-- The signed rank, in which both zeros are 0; `none` for what is not a number. -/
def key? : Binary64 → Option Int
  | nan => none
  | signed negative rank => some (if negative then -(rank.val : Int) else rank.val)

/-- Whether the first number is less than the second; never so if either is not a number. -/
def lt (x y : Binary64) : Bool :=
  match x.key?, y.key? with
  | some a, some b => a < b
  | _, _ => false

/-- Whether the first number is at most the second. -/
def le (x y : Binary64) : Bool :=
  match x.key?, y.key? with
  | some a, some b => a ≤ b
  | _, _ => false

/-! ## Exact values -/

/-- A number's value in units: finite, infinite with a sign, or none. -/
inductive Extent where
  | finite (units : Int)
  | infinite (negative : Bool)
  deriving DecidableEq

/-- The exact value, the same for both zeros; `none` for what is not a number. -/
def extent? : Binary64 → Option Extent
  | nan => none
  | signed negative rank =>
    if rank.val = infinityRank then some (.infinite negative)
    else some (.finite (if negative then -(units rank.val : Int) else units rank.val))

/-- Whether the number is neither infinite nor not a number. -/
def isFinite : Binary64 → Bool
  | nan => false
  | signed _ rank => rank.val < infinityRank

/-- The whole number of the same value, if the value is whole. -/
def toInt? (x : Binary64) : Option Int :=
  match x.extent? with
  | some (.finite u) => if u % unitsPerOne = 0 then some (u / unitsPerOne) else none
  | _ => none

/-- Whether the sign is negative; never so for what is not a number. -/
def isNegative : Binary64 → Bool
  | nan => false
  | signed negative _ => negative

end Binary64

end BranchChoice
