import BranchChoice.Decimal.Reading
import BranchChoice.Json.Basic

/-!
# Reading JSON

A document as a value.  The three spellings of numbers that are not finite are accepted, a name that
comes twice has its last value, and what is wrong with a document is told with the place where it
shows.
-/

namespace BranchChoice.Json

/-- What can be wrong with a document at some place. -/
inductive Flaw where
  | byteOrderMark
  | expectedValue
  | expectedComma
  | expectedColon
  | expectedName
  | unterminatedText
  | controlCharacter
  | badEscape
  | badUnitEscape
  | extraData
  deriving DecidableEq

/-- The wording of a flaw, without its place. -/
def Flaw.message : Flaw → String
  | byteOrderMark => "Unexpected UTF-8 BOM (decode using utf-8-sig)"
  | expectedValue => "Expecting value"
  | expectedComma => "Expecting ',' delimiter"
  | expectedColon => "Expecting ':' delimiter"
  | expectedName => "Expecting property name enclosed in double quotes"
  | unterminatedText => "Unterminated string starting at"
  | controlCharacter => "Invalid control character at"
  | badEscape => "Invalid \\escape"
  | badUnitEscape => "Invalid \\uXXXX escape"
  | extraData => "Extra data"

/-- Why a document cannot be read.  A flaw is placed by the text that remains from there on. -/
inductive Failure where
  | flaw (kind : Flaw) (remaining : List Char)
  | integerTooLong (digits : Nat)

/-! ## Tokens -/

/-- The text after the blanks at its front. -/
def skipBlanks (s : List Char) : List Char :=
  s.dropWhile fun c => c == ' ' || c == '\t' || c == '\n' || c == '\r'

/-- The value of four hexadecimal digits. -/
def unit? (a b c d : Char) : Option Nat := do
  let a ← Text.hexValue? a
  let b ← Text.hexValue? b
  let c ← Text.hexValue? c
  let d ← Text.hexValue? d
  return ((a * 16 + b) * 16 + c) * 16 + d

/-- The character of a 16-bit unit; the replacement character for half of a pair. -/
def unitChar (n : Nat) : Char :=
  if 55296 ≤ n && n ≤ 57343 then Char.ofNat 65533 else Char.ofNat n

/-- The character that a one-letter escape stands for. -/
def escaped? : Char → Option Char
  | '"' => some '"'
  | '\\' => some '\\'
  | '/' => some '/'
  | 'b' => some (Char.ofNat 8)
  | 'f' => some (Char.ofNat 12)
  | 'n' => some '\n'
  | 'r' => some '\r'
  | 't' => some '\t'
  | _ => none

/-- Puts a character in front of what was read after it. -/
def consRead (c : Char) (r : Except Failure (List Char × List Char)) :
    Except Failure (List Char × List Char) :=
  r.map fun (cs, rest) => (c :: cs, rest)

/-- The characters up to the closing quote, and the text after it.  `start` is the text from the
opening quote on.  An escape of four digits must not end the document, and two of them that make a
pair are one character. -/
def readChars (start : List Char) : List Char → Except Failure (List Char × List Char)
  | [] => .error (.flaw .unterminatedText start)
  | '"' :: rest => .ok ([], rest)
  | '\\' :: [] => .error (.flaw .unterminatedText start)
  | '\\' :: 'u' :: a :: b :: c :: d :: '\\' :: 'u' :: e :: f :: g :: h :: next :: rest =>
    match unit? a b c d with
    | none => .error (.flaw .badUnitEscape
        ('u' :: a :: b :: c :: d :: '\\' :: 'u' :: e :: f :: g :: h :: next :: rest))
    | some high =>
      if 55296 ≤ high && high ≤ 56319 then
        match unit? e f g h with
        | none => .error (.flaw .badUnitEscape ('u' :: e :: f :: g :: h :: next :: rest))
        | some low =>
          if 56320 ≤ low && low ≤ 57343 then
            consRead (Char.ofNat (65536 + (high - 55296) * 1024 + (low - 56320)))
              (readChars start (next :: rest))
          else
            consRead (unitChar high)
              (readChars start ('\\' :: 'u' :: e :: f :: g :: h :: next :: rest))
      else
        consRead (unitChar high)
          (readChars start ('\\' :: 'u' :: e :: f :: g :: h :: next :: rest))
  | '\\' :: 'u' :: a :: b :: c :: d :: next :: rest =>
    match unit? a b c d with
    | none => .error (.flaw .badUnitEscape ('u' :: a :: b :: c :: d :: next :: rest))
    | some n => consRead (unitChar n) (readChars start (next :: rest))
  | '\\' :: 'u' :: rest => .error (.flaw .badUnitEscape ('u' :: rest))
  | '\\' :: c :: rest =>
    match escaped? c with
    | none => .error (.flaw .badEscape ('\\' :: c :: rest))
    | some e => consRead e (readChars start rest)
  | c :: rest =>
    if c.toNat < 32 then .error (.flaw .controlCharacter (c :: rest))
    else consRead c (readChars start rest)

/-- The most digits that a whole number may have. -/
def maxIntegerDigits : Nat := 4300

/-- The fraction of a number: a point and at least one digit. -/
def takeFraction (s : List Char) : Option (List Char × List Char) :=
  match s with
  | '.' :: rest =>
    match Decimal.spanDigits rest with
    | ([], _) => none
    | (ds, tail) => some (ds, tail)
  | _ => none

/-- The exponent of a number: its letter, an optional sign and at least one digit. -/
def takeExponent (s : List Char) : Option (Int × List Char) :=
  match s with
  | c :: rest =>
    if c == 'e' || c == 'E' then
      let (negative, more) := Numeral.takeSign rest
      match Decimal.spanDigits more with
      | ([], _) => none
      | (ds, tail) =>
        some (if negative then -(Decimal.ofDigits ds : Int) else Decimal.ofDigits ds, tail)
    else none
  | [] => none

/-- The whole part of a number: a single zero, or digits that start with another. -/
def takeWhole (s : List Char) : List Char × List Char :=
  match s with
  | '0' :: rest => (['0'], rest)
  | _ => Decimal.spanDigits s

/-- The number at the front, after its sign if it has one.  A fraction or an exponent makes it a
binary64 number.  `start` is the text from the sign on. -/
def readNumber (negative : Bool) (start s : List Char) : Except Failure (Json × List Char) :=
  match takeWhole s with
  | ([], _) => .error (.flaw .expectedValue start)
  | (whole, rest) =>
    match takeFraction rest, takeExponent rest with
    | some (fractional, more), _ =>
      let (exponent, tail) := (takeExponent more).getD (0, more)
      .ok (.float ((Decimal.ofParts whole fractional exponent).toBinary64 negative), tail)
    | none, some (exponent, tail) =>
      .ok (.float ((Decimal.ofParts whole [] exponent).toBinary64 negative), tail)
    | none, none =>
      if maxIntegerDigits < whole.length then .error (.integerTooLong whole.length)
      else
        let n : Int := Decimal.ofDigits whole
        .ok (.int (if negative then -n else n), rest)

/-! ## Values -/

mutual

/-- The value at the front of the text, and the text after it. -/
def readValue : Nat → List Char → Except Failure (Json × List Char)
  | 0, s => .error (.flaw .expectedValue s)
  | fuel + 1, s =>
    match s with
    | '"' :: rest =>
      match readChars s rest with
      | .error e => .error e
      | .ok (cs, tail) => .ok (.text (String.ofList cs), tail)
    | '[' :: rest =>
      match skipBlanks rest with
      | ']' :: tail => .ok (.list [], tail)
      | items =>
        match readItems fuel items with
        | .error e => .error e
        | .ok (vs, tail) => .ok (.list vs, tail)
    | '\x7b' :: rest =>
      match skipBlanks rest with
      | '\x7d' :: tail => .ok (.object [], tail)
      | members =>
        match readMembers fuel members with
        | .error e => .error e
        | .ok (ms, tail) => .ok (.object (Fields.ofList ms), tail)
    | 'n' :: 'u' :: 'l' :: 'l' :: rest => .ok (.null, rest)
    | 't' :: 'r' :: 'u' :: 'e' :: rest => .ok (.bool true, rest)
    | 'f' :: 'a' :: 'l' :: 's' :: 'e' :: rest => .ok (.bool false, rest)
    | 'N' :: 'a' :: 'N' :: rest => .ok (.float .nan, rest)
    | 'I' :: 'n' :: 'f' :: 'i' :: 'n' :: 'i' :: 't' :: 'y' :: rest =>
      .ok (.float (.infinity false), rest)
    | '-' :: 'I' :: 'n' :: 'f' :: 'i' :: 'n' :: 'i' :: 't' :: 'y' :: rest =>
      .ok (.float (.infinity true), rest)
    | '-' :: rest => readNumber true s rest
    | _ => readNumber false s s

/-- The items of a list up to its closing bracket. -/
def readItems : Nat → List Char → Except Failure (List Json × List Char)
  | 0, s => .error (.flaw .expectedValue s)
  | fuel + 1, s =>
    match readValue fuel s with
    | .error e => .error e
    | .ok (v, rest) =>
      match skipBlanks rest with
      | ']' :: tail => .ok ([v], tail)
      | ',' :: more =>
        match readItems fuel (skipBlanks more) with
        | .error e => .error e
        | .ok (vs, tail) => .ok (v :: vs, tail)
      | other => .error (.flaw .expectedComma other)

/-- The members of an object up to its closing brace. -/
def readMembers : Nat → List Char → Except Failure (List (String × Json) × List Char)
  | 0, s => .error (.flaw .expectedName s)
  | fuel + 1, s =>
    match s with
    | '"' :: rest =>
      match readChars s rest with
      | .error e => .error e
      | .ok (name, afterName) =>
        match skipBlanks afterName with
        | ':' :: beforeValue =>
          match readValue fuel (skipBlanks beforeValue) with
          | .error e => .error e
          | .ok (v, afterValue) =>
            match skipBlanks afterValue with
            | '\x7d' :: tail => .ok ([(String.ofList name, v)], tail)
            | ',' :: more =>
              match readMembers fuel (skipBlanks more) with
              | .error e => .error e
              | .ok (ms, tail) => .ok ((String.ofList name, v) :: ms, tail)
            | other => .error (.flaw .expectedComma other)
        | other => .error (.flaw .expectedColon other)
    | other => .error (.flaw .expectedName other)

end

/-- The value that the characters are the document of.  Of any two steps of the reading one takes a
character, so twice their number bounds the steps. -/
def parseChars (s : List Char) : Except Failure Json :=
  match readValue (2 * s.length + 2) (skipBlanks s) with
  | .error e => .error e
  | .ok (v, rest) =>
    match skipBlanks rest with
    | [] => .ok v
    | other => .error (.flaw .extraData other)

/-! ## Places -/

/-- Why a document cannot be read, with the place counted in characters from 0 and in lines and
columns from 1. -/
inductive ReadError where
  | malformed (kind : Flaw) (line column offset : Nat)
  | integerTooLong (digits : Nat)
  deriving DecidableEq

/-- The wording of an error. -/
def ReadError.message : ReadError → String
  | malformed kind line column offset =>
    s!"{kind.message}: line {line} column {column} (char {offset})"
  | integerTooLong digits =>
    s!"Exceeds the limit ({maxIntegerDigits}" ++ " digits) for integer string conversion: " ++
      s!"value has {digits} digits; use sys.set_int_max_str_digits() to increase the limit"

/-- The place where `remaining` starts in the document. -/
def Failure.locate (document : List Char) : Failure → ReadError
  | flaw kind remaining =>
    let before := document.take (document.length - remaining.length)
    let column := (before.reverse.takeWhile (· != '\n')).length + 1
    .malformed kind (before.count '\n' + 1) column before.length
  | integerTooLong digits => .integerTooLong digits

/-- The value of a document. -/
def parse (s : String) : Except ReadError Json :=
  match parseChars s.toList with
  | .ok v => .ok v
  | .error e => .error (e.locate s.toList)

/-- The value of a document that must not start with a byte order mark. -/
def parseUnmarked (s : String) : Except ReadError Json :=
  match s.toList with
  | c :: _ => if c.toNat == 65279 then .error (.malformed .byteOrderMark 1 1 0) else parse s
  | [] => parse s

end BranchChoice.Json
