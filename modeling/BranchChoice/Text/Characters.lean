/-!
# Classes of characters

Classes given by ascending ranges of code points, blank characters, and the decimal digits of every
script.  Three classes of blanks are in use: every blank of the character set, the six blanks of
plain text, and the blanks that a field trims.  Each script has its ten digits in a row, so a digit
is told by the zero of its row.
-/

namespace BranchChoice.Text

/-! ## Ranges -/

/-- A class of code points: inclusive ranges, ascending and disjoint. -/
structure Ranges where
  bounds : Array (Nat × Nat)

namespace Ranges

/-- Whether some range with index in `[low, high)` holds the code; every step halves that interval,
so as many steps suffice as the number of ranges has binary digits. -/
def search (bounds : Array (Nat × Nat)) (code : Nat) : Nat → Nat → Nat → Bool
  | 0, _, _ => false
  | steps + 1, low, high =>
    if low < high then
      let middle := (low + high) / 2
      match bounds[middle]? with
      | none => false
      | some (first, last) =>
        if code < first then search bounds code steps low middle
        else if last < code then search bounds code steps (middle + 1) high
        else true
    else false

/-- Whether the code point belongs to the class. -/
def holds (r : Ranges) (code : Nat) : Bool :=
  search r.bounds code (r.bounds.size.log2 + 2) 0 r.bounds.size

end Ranges

/-! ## Blanks -/

/-- A blank of the character set: the controls from tab to carriage return and from file separator
to unit separator, the next-line control, and every space, line and paragraph separator. -/
def isBlank (c : Char) : Bool :=
  let n := c.toNat
  (9 ≤ n && n ≤ 13) || (28 ≤ n && n ≤ 32) || n == 133 || n == 160 || n == 5760 ||
    (8192 ≤ n && n ≤ 8202) || n == 8232 || n == 8233 || n == 8239 || n == 8287 || n == 12288

/-- A blank of plain text: a space, or a control from tab to carriage return. -/
def isPlainBlank (c : Char) : Bool :=
  let n := c.toNat
  n == 32 || (9 ≤ n && n ≤ 13)

/-- A blank that has the property of being white space: every blank but the four information
separators. -/
def isWhite (c : Char) : Bool :=
  isBlank c && !(28 ≤ c.toNat && c.toNat ≤ 31)

/-- The characters left after those that satisfy `p` are removed from both ends. -/
def trimBoth (p : Char → Bool) (s : List Char) : List Char :=
  ((s.dropWhile p).reverse.dropWhile p).reverse

/-! ## Digits -/

/-- The code points of the zeros of all scripts. -/
def digitZeros : List Nat := [
  48, 1632, 1776, 1984, 2406, 2534, 2662, 2790, 2918, 3046, 3174, 3302, 3430, 3558, 3664, 3792,
  3872, 4160, 4240, 6112, 6160, 6470, 6608, 6784, 6800, 6992, 7088, 7232, 7248, 42528, 43216, 43264,
  43472, 43504, 43600, 44016, 65296, 66720, 68912, 69734, 69872, 69942, 70096, 70384, 70736, 70864,
  71248, 71360, 71472, 71904, 72016, 72784, 73040, 73120, 92768, 92864, 93008, 120782, 120792,
  120802, 120812, 120822, 123200, 123632, 125264, 130032]

/-- The value of a decimal digit of any script. -/
def digitValue? (c : Char) : Option Nat :=
  (digitZeros.find? fun start => start ≤ c.toNat && c.toNat ≤ start + 9).map (c.toNat - ·)

/-- Whether the character is a decimal digit of some script. -/
def isDecimal (c : Char) : Bool :=
  (digitValue? c).isSome

/-- The value of a hexadecimal digit in either case. -/
def hexValue? (c : Char) : Option Nat :=
  let n := c.toNat
  if 48 ≤ n && n ≤ 57 then some (n - 48)
  else if 97 ≤ n && n ≤ 102 then some (n - 87)
  else if 65 ≤ n && n ≤ 70 then some (n - 55)
  else none

/-- The lower-case hexadecimal digit of a value below sixteen. -/
def hexDigit (n : Nat) : Char :=
  Char.ofNat (if n < 10 then 48 + n else 87 + n)

/-- The upper-case hexadecimal digit of a value below sixteen. -/
def upperHexDigit (n : Nat) : Char :=
  Char.ofNat (if n < 10 then 48 + n else 55 + n)

/-- The last `width` hexadecimal digits of a number, in lower case. -/
def hexDigits : Nat → Nat → List Char
  | 0, _ => []
  | width + 1, n => hexDigits width (n / 16) ++ [hexDigit (n % 16)]

end BranchChoice.Text
