import BranchChoice.Decimal.Layout
import BranchChoice.Decision

/-!
# What is printed

The pieces that the program prints: plain and styled lines, panels, tables and answers.  A style is
written as a pair of tags around the text that has it.

The pieces are handed to a console, which reads all texts of lines, panels and tables for tags, and
so also those that came with a workflow or a request.  It may show such a text in another way, or
refuse it.
-/

namespace BranchChoice.CommandLine

/-- A text with the name of its style, if it has one. -/
structure Styled where
  text : String
  style : Option String
  deriving DecidableEq

/-- A text as it is. -/
def Styled.plain (text : String) : Styled := ⟨text, none⟩

/-- The text between the tags of its style. -/
def Styled.markup (s : Styled) : String :=
  match s.style with
  | some style => s!"[{style}]{s.text}[/{style}]"
  | none => s.text

/-- A table with named columns. -/
structure Table where
  title : String
  columns : List String
  rows : List (List Styled)

/-- A piece of output. -/
inductive Printed where
  | plain (text : String)
  | line (text : Styled)
  | panel (title text : String)
  | table (t : Table)
  | answer (envelope : Envelope)

/-! ## Consoles -/

/-- A console, given by what it shows for a text that may have tags in it, or why it refuses the
text. -/
structure Console where
  render : String → Except String String

namespace Console

/-- A styled text as it is shown, without the tags of its style. -/
def showStyled (c : Console) (s : Styled) : Except String Styled :=
  (c.render s.markup).map Styled.plain

/-- A table as it is shown. -/
def showTable (c : Console) (t : Table) : Except String Table := do
  let title ← c.render t.title
  let columns ← t.columns.mapM c.render
  let rows ← t.rows.mapM fun row => row.mapM c.showStyled
  return ⟨title, columns, rows⟩

/-- A piece of output as it is shown.  Plain lines and answers are not read for tags. -/
def showPiece (c : Console) : Printed → Except String Printed
  | .plain text => .ok (.plain text)
  | .line text => (c.showStyled text).map .line
  | .panel title text => do return .panel (← c.render title) (← c.render text)
  | .table t => (c.showTable t).map .table
  | .answer envelope => .ok (.answer envelope)

/-- The pieces that are shown, up to the first one that is refused, and why it is. -/
def showAll (c : Console) : List Printed → List Printed × Option String
  | [] => ([], none)
  | piece :: rest =>
    match c.showPiece piece with
    | .error message => ([], some message)
    | .ok shown =>
      let (others, refusal) := c.showAll rest
      (shown :: others, refusal)

end Console

/-! ## Plain layout -/

/-- Cells next to each other. -/
def layOutRow (cells : List String) : String :=
  "  ".intercalate cells

/-- A table as lines: the title, the columns, and the rows. -/
def Table.lines (t : Table) : List String :=
  t.title :: layOutRow t.columns :: t.rows.map fun row => layOutRow (row.map (·.text))

/-- The lines of a piece of output, without styles. -/
def Printed.lines : Printed → List String
  | plain text => [text]
  | line text => [text.text]
  | panel title text => [title ++ ": " ++ text]
  | table t => t.lines
  | answer envelope => [envelope.render]

end BranchChoice.CommandLine
