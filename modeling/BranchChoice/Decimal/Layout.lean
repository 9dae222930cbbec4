import BranchChoice.Binary64.Rounding
import BranchChoice.Decimal.Shortest

/-!
# Writing numbers

How a binary64 number is written: which digits, and how they are laid out.  A `NumberStyle` names
the choices that differ between the places where numbers are shown.
-/

namespace BranchChoice

/-- The choices in the layout of a number. -/
structure NumberStyle where
  /-- Exponents of the first digit from here on are written in scientific notation. -/
  limit : Int
  /-- Whether a whole number in positional notation ends in `.0`. -/
  keepPoint : Bool
  /-- The text of what is not a number. -/
  nan : String
  /-- The text of infinity without its sign. -/
  infinity : String

namespace Decimal

/-- The digits of the coefficient without trailing zeros. -/
def digits (d : Decimal) : List Char :=
  ((Nat.toDigits 10 d.coefficient).reverse.dropWhile (· == '0')).reverse

/-- The exponent of the first digit in scientific notation. -/
def scientificExponent (d : Decimal) : Int :=
  digitCount d.coefficient + d.exponent - 1

/-- Digits with the point after the first, and an exponent of at least two digits with its sign. -/
def scientific (ds : List Char) (e : Int) : List Char :=
  let mantissa := match ds with
    | [] => ['0']
    | [d] => [d]
    | d :: rest => d :: '.' :: rest
  let magnitude := Nat.toDigits 10 e.natAbs
  mantissa ++ ['e', if e < 0 then '-' else '+'] ++
    (if magnitude.length < 2 then '0' :: magnitude else magnitude)

/-- Digits with the point where the exponent of the first one puts it. -/
def positional (keepPoint : Bool) (ds : List Char) (e : Int) : List Char :=
  if e < 0 then
    '0' :: '.' :: List.replicate ((-e).toNat - 1) '0' ++ ds
  else
    let whole := e.toNat + 1
    if ds.length ≤ whole then
      ds ++ List.replicate (whole - ds.length) '0' ++ (if keepPoint then ['.', '0'] else [])
    else
      ds.take whole ++ '.' :: ds.drop whole

/-- A decimal laid out: positional if its first digit stands between `10 ^ -4` and the limit. -/
def layout (style : NumberStyle) (d : Decimal) : List Char :=
  match d.digits with
  | [] => if style.keepPoint then ['0', '.', '0'] else ['0']
  | ds =>
    let e := d.scientificExponent
    if -4 ≤ e && e < style.limit then positional style.keepPoint ds e else scientific ds e

/-- The decimal with `count` significant digits nearest to `num / den`, ties to even. -/
def significant (count : Nat) (num den : Nat) : Decimal :=
  let k := leadingExponent num den - count + 1
  let (n, d) := inSteps num den k
  ⟨roundQuotient n d, k⟩

end Decimal

namespace Binary64

/-- The number written with digits chosen by `choose` from its rank. -/
def write (style : NumberStyle) (choose : Nat → Decimal) : Binary64 → List Char
  | nan => style.nan.toList
  | signed negative rank =>
    let body :=
      if rank.val = infinityRank then style.infinity.toList
      else if rank.val = 0 then (Decimal.mk 0 0).layout style
      else (choose rank.val).layout style
    if negative then '-' :: body else body

/-- Plain text keeps the point of whole numbers, and writes exponents from 16 on. -/
def plainStyle : NumberStyle := ⟨16, true, "nan", "inf"⟩

/-- Documents write numbers as plain text does, but for the names of those that are not finite. -/
def documentStyle : NumberStyle := ⟨16, true, "NaN", "Infinity"⟩

/-- Tables drop the point of whole numbers, and write exponents from 6 on. -/
def tableStyle : NumberStyle := ⟨6, false, "nan", "inf"⟩

/-- The shortest text that reads back as the number. -/
def toText (x : Binary64) : String :=
  String.ofList (x.write plainStyle Decimal.shortest)

/-- The number to six significant digits. -/
def toSixDigits (x : Binary64) : String :=
  String.ofList (x.write tableStyle fun rank => Decimal.significant 6 (units rank) unitsPerOne)

/-- The number to two places after the point. -/
def toTwoPlaces (x : Binary64) : String :=
  match x with
  | nan => "nan"
  | signed negative rank =>
    let body :=
      if rank.val = infinityRank then ['i', 'n', 'f']
      else
        let hundredths := roundQuotient (units rank.val * 100) unitsPerOne
        let cents := Nat.toDigits 10 (hundredths % 100)
        Nat.toDigits 10 (hundredths / 100) ++ ['.'] ++
          (if cents.length < 2 then '0' :: cents else cents)
    String.ofList (if negative then '-' :: body else body)

end Binary64

end BranchChoice
