import BranchChoice.Binary64.Rounding
import BranchChoice.Decimal.Shortest
import BranchChoice.Text.Characters

/-!
# Reading numbers

Decimal numerals as texts, and the binary64 number nearest to one.  A numeral has a sign, digits
with an optional point, and an optional exponent; infinity and not-a-number are spelled out in any
case.
-/

namespace BranchChoice

/-! ## Digits -/

namespace Decimal

/-- The number that a list of plain digits stands for. -/
def ofDigits (ds : List Char) : Nat :=
  ds.foldl (fun n d => 10 * n + (d.toNat - 48)) 0

/-- A list of plain digits at the front, and what follows them. -/
def spanDigits (s : List Char) : List Char × List Char :=
  (s.takeWhile Char.isDigit, s.dropWhile Char.isDigit)

/-- The binary64 number nearest to a signed decimal.  Decimals far beyond either end of the range
are told by the exponent of their first digit, without computing the power. -/
def toBinary64 (negative : Bool) (d : Decimal) : Binary64 :=
  if d.coefficient = 0 then .ofRank negative 0
  else
    let lead : Int := digitCount d.coefficient + d.exponent
    if 310 < lead then .infinity negative
    else if lead < -330 then .ofRank negative 0
    else if 0 ≤ d.exponent then .ofQuotient negative (d.coefficient * Nat.pow 10 d.exponent.toNat) 1
    else .ofQuotient negative d.coefficient (Nat.pow 10 (-d.exponent).toNat)

/-- Whole and fractional digits with a power of ten as one decimal. -/
def ofParts (whole fractional : List Char) (exponent : Int) : Decimal :=
  ⟨ofDigits (whole ++ fractional), exponent - fractional.length⟩

end Decimal

/-! ## Numerals -/

namespace Numeral

/-- An optional sign at the front; `true` for minus. -/
def takeSign : List Char → Bool × List Char
  | '-' :: rest => (true, rest)
  | '+' :: rest => (false, rest)
  | s => (false, s)

/-- The exponent part up to the end of the text: nothing, or a letter, an optional sign and
digits. -/
def exponent? : List Char → Option Int
  | [] => some 0
  | c :: rest =>
    if c == 'e' || c == 'E' then
      let (negative, ds) := takeSign rest
      if ds.isEmpty || !ds.all Char.isDigit then none
      else some (if negative then -(Decimal.ofDigits ds : Int) else Decimal.ofDigits ds)
    else none

/-- A text without sign that is a decimal numeral as a whole: digits around an optional point, at
least one of them, then an optional exponent. -/
def decimal? (s : List Char) : Option Decimal :=
  let (whole, rest) := Decimal.spanDigits s
  let (fractional, tail) := match rest with
    | '.' :: more => Decimal.spanDigits more
    | other => ([], other)
  if whole.isEmpty && fractional.isEmpty then none
  else (exponent? tail).map (Decimal.ofParts whole fractional)

/-- A text that is a real numeral as a whole, without separators or blanks. -/
def real? (s : List Char) : Option Binary64 :=
  let (negative, body) := takeSign s
  let word := String.ofList (body.map Char.toLower)
  if word = "inf" || word = "infinity" then some (.infinity negative)
  else if word = "nan" then some .nan
  else (decimal? body).map (·.toBinary64 negative)

/-- The text with its low lines taken out, each of which must stand between two characters that
satisfy `p`. -/
def dropSeparators? (p : Char → Bool) : List Char → Option (List Char)
  | [] => some []
  | '_' :: _ => none
  | [c] => some [c]
  | c :: '_' :: d :: rest =>
    if p c && p d then (dropSeparators? p (d :: rest)).map (c :: ·) else none
  | c :: d :: rest => (dropSeparators? p (d :: rest)).map (c :: ·)

/-- The text with digits of every script turned into plain ones and blanks beyond ASCII into
spaces. -/
def plain (s : List Char) : List Char :=
  s.map fun c =>
    if c.toNat < 128 then c
    else if Text.isBlank c then ' '
    else match Text.digitValue? c with
      | some d => Text.hexDigit d
      | none => c

/-- The real number that a text spells, blanks around it and separators between digits allowed. -/
def read? (s : String) : Option Binary64 :=
  (dropSeparators? Char.isDigit (Text.trimBoth Text.isPlainBlank (plain s.toList))).bind real?

/-- The whole number that a text spells in digits of any script, with a sign, blanks around it and
separators between digits allowed. -/
def readInt? (s : List Char) : Option Int :=
  let (negative, body) := takeSign (Text.trimBoth Text.isPlainBlank (plain s))
  match dropSeparators? Char.isDigit body with
  | some ds =>
    if ds.isEmpty || !ds.all Char.isDigit then none
    else some (if negative then -(Decimal.ofDigits ds : Int) else Decimal.ofDigits ds)
  | none => none

end Numeral

end BranchChoice
