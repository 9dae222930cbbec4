import BranchChoice.CommandLine.Arguments

/-!
# Documents

The texts that the arguments name: files, or the standard input, of which nothing is left after its
first use.
-/

namespace BranchChoice.CommandLine

/-- Where a document comes from. -/
inductive Source where
  | standardInput
  | file (path : String)
  deriving DecidableEq

namespace Source

/-- The source that an argument names. -/
def ofArgument (arg : String) : Source :=
  if arg == "-" then standardInput else file arg

/-- The name of a source in messages. -/
def name : Source → String
  | standardInput => "<stdin>"
  | file path => path

end Source

/-- An opened document. -/
structure Document where
  source : Source
  text : String

/-- A text with every line end written as one line feed. -/
def unifyLineEnds : List Char → List Char
  | [] => []
  | '\r' :: '\n' :: rest => '\n' :: unifyLineEnds rest
  | c :: rest => (if c == '\r' then '\n' else c) :: unifyLineEnds rest

namespace Document

/-- A document with its text's line ends unified. -/
def ofText (source : Source) (text : String) : Document :=
  ⟨source, String.ofList (unifyLineEnds text.toList)⟩

/-- The name of a document in messages. -/
def name (d : Document) : String := d.source.name

/-- A document as it is read after another one, which uses up the standard input. -/
def readAfter (d : Document) (earlier : Document) : Document :=
  if d.source = .standardInput ∧ earlier.source = .standardInput then { d with text := "" } else d

end Document

/-- The files that can be opened, each by its path, and the standard input. -/
structure Files where
  /-- The text of a file, or why it cannot be opened. -/
  openFile : String → Except String String
  standardInput : String

namespace Files

/-- The document of a source. -/
def document (files : Files) : Source → Except String Document
  | .standardInput => .ok (.ofText .standardInput files.standardInput)
  | .file path => (files.openFile path).map (.ofText (.file path))

/-- Opens the document that the first of the arguments names, and leaves the others. -/
def takeDocument (files : Files) (argument : String) :
    List String → Except UsageError (Document × List String)
  | [] => .error (.missingArgument argument)
  | arg :: rest =>
    match files.document (.ofArgument arg) with
    | .ok document => .ok (document, rest)
    | .error reason => .error (.unreadable argument arg reason)

end Files

end BranchChoice.CommandLine
