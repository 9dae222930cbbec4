import BranchChoice.Decimal.Layout
import BranchChoice.Json.Basic
import BranchChoice.Text.Characters

/-!
# Writing JSON

A value as a document.  Three layouts are in use: one line with spaces in plain ASCII, one line
without spaces, and two columns more for every level.
-/

namespace BranchChoice.Json

/-- The choices in the layout of a document. -/
structure Layout where
  /-- Whether characters beyond ASCII are written as escapes. -/
  ascii : Bool
  /-- Whether a space follows a comma or a colon that ends no line. -/
  spaced : Bool
  /-- How many columns each level is indented, one line for everything if none. -/
  indent : Option Nat

/-- One line, spaced, in plain ASCII. -/
def Layout.plain : Layout := ⟨true, true, none⟩

/-- One line without spaces. -/
def Layout.compact : Layout := ⟨false, false, none⟩

/-- One line for each item, two columns for each level. -/
def Layout.indented : Layout := ⟨false, true, some 2⟩

/-! ## Texts -/

/-- An escape of one 16-bit unit. -/
def unitEscape (unit : Nat) : List Char :=
  '\\' :: 'u' :: Text.hexDigits 4 unit

/-- One character inside a quoted text. -/
def escapeChar (ascii : Bool) (c : Char) : List Char :=
  let n := c.toNat
  if c == '"' then ['\\', '"']
  else if c == '\\' then ['\\', '\\']
  else if n == 10 then ['\\', 'n']
  else if n == 13 then ['\\', 'r']
  else if n == 9 then ['\\', 't']
  else if n == 12 then ['\\', 'f']
  else if n == 8 then ['\\', 'b']
  else if n < 32 then unitEscape n
  else if ascii && 127 ≤ n then
    if n < 65536 then unitEscape n
    else unitEscape (55296 + (n - 65536) / 1024) ++ unitEscape (56320 + (n - 65536) % 1024)
  else [c]

/-- A text in double quotes. -/
def writeText (ascii : Bool) (s : String) : List Char :=
  '"' :: s.toList.flatMap (escapeChar ascii) ++ ['"']

/-! ## Values -/

/-- What ends a line, and the indentation of the next, in a layout that has lines. -/
def Layout.newline (layout : Layout) (depth : Nat) : List Char :=
  match layout.indent with
  | none => []
  | some width => '\n' :: List.replicate (width * depth) ' '

/-- What stands between two items at a depth. -/
def Layout.separator (layout : Layout) (depth : Nat) : List Char :=
  match layout.indent with
  | none => if layout.spaced then [',', ' '] else [',']
  | some _ => ',' :: layout.newline depth

/-- What stands between a name and its value. -/
def Layout.colon (layout : Layout) : List Char :=
  if layout.spaced then [':', ' '] else [':']

/-- A whole number in decimal. -/
def writeInt (n : Int) : List Char :=
  if n < 0 then '-' :: Nat.toDigits 10 n.natAbs else Nat.toDigits 10 n.natAbs

mutual

/-- The value as a document whose first line stands at the given depth. -/
def write (layout : Layout) : Nat → Json → List Char
  | _, null => ['n', 'u', 'l', 'l']
  | _, bool true => ['t', 'r', 'u', 'e']
  | _, bool false => ['f', 'a', 'l', 's', 'e']
  | _, int n => writeInt n
  | _, float x => x.write Binary64.documentStyle Decimal.shortest
  | _, text s => writeText layout.ascii s
  | _, list [] => ['[', ']']
  | depth, list (v :: rest) =>
    '[' :: layout.newline (depth + 1) ++ write layout (depth + 1) v ++
      writeItems layout depth rest ++ layout.newline depth ++ [']']
  | _, object [] => ['\x7b', '\x7d']
  | depth, object ((k, v) :: rest) =>
    '\x7b' :: layout.newline (depth + 1) ++ writeText layout.ascii k ++ layout.colon ++
      write layout (depth + 1) v ++ writeFields layout depth rest ++ layout.newline depth ++
      ['\x7d']

/-- The items after the first of a list at the given depth. -/
def writeItems (layout : Layout) : Nat → List Json → List Char
  | _, [] => []
  | depth, v :: rest =>
    layout.separator (depth + 1) ++ write layout (depth + 1) v ++ writeItems layout depth rest

/-- The members after the first of an object at the given depth. -/
def writeFields (layout : Layout) : Nat → List (String × Json) → List Char
  | _, [] => []
  | depth, (k, v) :: rest =>
    layout.separator (depth + 1) ++ writeText layout.ascii k ++ layout.colon ++
      write layout (depth + 1) v ++ writeFields layout depth rest

end

/-- The value as a document in the given layout. -/
def render (layout : Layout) (v : Json) : String :=
  String.ofList (write layout 0 v)

end BranchChoice.Json
