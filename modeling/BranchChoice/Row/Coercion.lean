import BranchChoice.Decimal.Layout
import BranchChoice.Decimal.Reading
import BranchChoice.Json.Writer
import BranchChoice.Row.Checked
import BranchChoice.Text.Case

/-!
# Values of fields

What a field of each type makes of a value: some values of other types are taken for what they
spell.  A whole number, real number or truth value may be given as a text, a truth value also as 0
or 1, and the text fields of some rows also take numbers.
-/

namespace BranchChoice

namespace Coercion

/-! ## Texts, objects and lists -/

/-- A text. -/
def text (v : Json) : Checked String :=
  match v with
  | .text s => .accept s
  | _ => .reject .notText v

/-- A text, or a number as it is written. -/
def textOrNumber (v : Json) : Checked String :=
  match v with
  | .int n => .accept (String.ofList (Json.writeInt n))
  | .float x => .accept x.toText
  | _ => text v

/-- A text of at least one character, or a number. -/
def nonEmpty (v : Json) : Checked String :=
  (textOrNumber v).andThen fun s => if s.isEmpty then .reject .tooShort v else .accept s

/-- An object. -/
def object (v : Json) : Checked Fields :=
  match v with
  | .object fields => .accept fields
  | _ => .reject .notObject v

/-- A list whose items all pass a check. -/
def list {α : Type} (check : Json → Checked α) (v : Json) : Checked (List α) :=
  match v with
  | .list vs => Checked.items check 0 vs
  | _ => .reject .notList v

/-- Null, or what passes a check. -/
def orNull {α : Type} (check : Json → Checked α) (v : Json) : Checked (Option α) :=
  match v with
  | .null => .accept none
  | _ => (check v).map some

/-! ## Numbers -/

/-- The smallest whole number of 64 bits, -2⁶³. -/
def minWord : Int := -9223372036854775808

/-- The whole number that a binary64 number inside 64 bits equals. -/
def wholeFloat (v : Json) (x : Binary64) : Checked Int :=
  if !x.isFinite then .reject .notFinite v
  else
    match x.toInt? with
    | none => .reject .fractional v
    | some n => if minWord < n && n < -minWord then .accept n else .reject .integerTooLarge v

/-- The text after a zero, without further zeros and low lines before the digit that counts: the
first one that is not zero, or else the last character before a point or the end. -/
def afterZero? (last : Char) : List Char → Option (List Char)
  | [] => some [last]
  | c :: rest =>
    if c == '0' || c == '_' then afterZero? c rest
    else if c == '.' then some (last :: c :: rest)
    else if c.isDigit then some (c :: rest)
    else none

/-- A text that starts with a digit, without the zeros in front of the digit that counts. -/
def fromFirstDigit? : List Char → Option (List Char)
  | [] => none
  | c :: rest =>
    if c == '0' then afterZero? c rest else if c.isDigit then some (c :: rest) else none

/-- The text without a trailing point and zeros after it; at least one zero must be there. -/
def dropZeroFraction (s : List Char) : List Char :=
  match s.reverse.dropWhile (· == '0') with
  | '.' :: whole => if s.getLast? == some '0' then whole.reverse else s
  | _ => s

/-- Digits without a zero in front. -/
def isPlainNumeral (ds : List Char) : Bool :=
  ds == ['0'] || (!ds.isEmpty && ds.head? != some '0' && ds.all Char.isDigit)

/-- The sign and the digits of the whole number that a text spells.  Single low lines may separate
the digits, and at most zeros may follow a point.  Zeros in front are left out unless a minus sign
stands before them. -/
def signedDigits? (s : List Char) : Option (Bool × List Char) :=
  let unsigned? := match s with
    | '-' :: _ => some s
    | '+' :: rest => fromFirstDigit? rest
    | _ => fromFirstDigit? s
  match (unsigned?.map dropZeroFraction).bind (Numeral.dropSeparators? fun _ => true) with
  | some ('-' :: ds) => if isPlainNumeral ds then some (true, ds) else none
  | some ds => if isPlainNumeral ds then some (false, ds) else none
  | none => none

/-- The whole number that a text spells, blanks around it left out. -/
def wholeText (v : Json) (s : String) : Checked Int :=
  match signedDigits? (Text.trimBoth Text.isWhite s.toList) with
  | none => .reject .badInteger v
  | some (negative, digits) =>
    if 4300 < digits.length then .reject .integerTooLarge v
    else
      let n : Int := Decimal.ofDigits digits
      .accept (if negative then -n else n)

/-- A whole number. -/
def integer (v : Json) : Checked Int :=
  match v with
  | .int n => .accept n
  | .bool b => .accept (if b then 1 else 0)
  | .float x => wholeFloat v x
  | .text s => wholeText v s
  | _ => .reject .notInteger v

/-- The real number that a text spells, with single low lines inside it left out. -/
def realText (v : Json) (s : String) : Checked Binary64 :=
  let body := Text.trimBoth Text.isWhite s.toList
  match (Numeral.dropSeparators? (fun _ => true) body).bind Numeral.real? with
  | some x => .accept x
  | none => .reject .badNumber v

/-- A real number; a whole number must not lie beyond the finite ones. -/
def number (v : Json) : Checked Binary64 :=
  match v with
  | .float x => .accept x
  | .int n =>
    let x := Binary64.ofInt n
    if x.isFinite then .accept x else .reject .notNumber v
  | .bool b => .accept (Binary64.ofInt (if b then 1 else 0))
  | .text s => realText v s
  | _ => .reject .notNumber v

/-- A real number from 0 to 1. -/
def share (v : Json) : Checked Binary64 :=
  (number v).andThen fun x =>
    if !x.le (Binary64.ofInt 1) then .reject .aboveOne v
    else if !Binary64.zero.le x then .reject .negative v
    else .accept x

/-- A real number above 0. -/
def positive (v : Json) : Checked Binary64 :=
  (number v).andThen fun x =>
    if Binary64.zero.lt x then .accept x else .reject .notPositive v

/-! ## Truth values -/

/-- The truth value of 0 and 1. -/
def truthOfInt (v : Json) (n : Int) : Checked Bool :=
  if n = 0 then .accept false
  else if n = 1 then .accept true
  else if minWord ≤ n && n < -minWord then .reject .badTruth v
  else .reject .notTruth v

/-- A truth value. -/
def truth (v : Json) : Checked Bool :=
  match v with
  | .bool b => .accept b
  | .int n => truthOfInt v n
  | .float x =>
    match x.toInt? with
    | some n => truthOfInt v n
    | none => .reject .notTruth v
  | .text s =>
    let word := Text.plainLower s
    if ["true", "t", "yes", "y", "on", "1"].contains word then .accept true
    else if ["false", "f", "no", "n", "off", "0"].contains word then .accept false
    else .reject .badTruth v
  | _ => .reject .notTruth v

/-- One certain truth value, or the number that equals it. -/
def exactly (b : Bool) (v : Json) : Checked Unit :=
  let equal : Bool := match v with
    | .bool c => b == c
    | .int n => n == (if b then 1 else 0)
    | .float x => x.toInt? == some (if b then 1 else 0)
    | _ => false
  if equal then .accept () else .reject .wrongLiteral v

end Coercion

end BranchChoice
