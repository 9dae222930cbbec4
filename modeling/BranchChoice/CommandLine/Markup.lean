import BranchChoice.CommandLine.Printed
import BranchChoice.Text.Case
import BranchChoice.Text.Characters

/-!
# Tags in texts

How a console reads a text for tags.  A tag stands in square brackets and starts with a small plain
letter or one of three marks.  It opens a style, or closes the one that it names, or the latest one
if it names none.  A backslash before a tag makes it an ordinary part of the text.

Styles are told apart by their names alone here, and all tags are styles.  A console may know other
signs in a text, such as names of pictures between colons; they are left as they are.
-/

namespace BranchChoice.CommandLine

/-- A part of a text: characters that are shown, or a tag with the place of its bracket. -/
inductive MarkupPart where
  | shown (s : List Char)
  | tag (position : Nat) (s : List Char)
  deriving DecidableEq

namespace MarkupPart

/-- Whether a tag may start with the character. -/
def isTagStart (c : Char) : Bool :=
  c.isLower || c == '#' || c == '/' || c == '@'

/-- The tag that a text starts with, and the text after it.  No bracket opens inside a tag. -/
def takeTag? : List Char → Option (List Char × List Char)
  | '[' :: c :: s =>
    if isTagStart c then
      match s.span fun d => d != '[' && d != ']' with
      | (inside, ']' :: rest) => some (c :: inside, rest)
      | _ => none
    else none
  | _ => none

/-- The parts of a text whose first character stands at `position`.  Two backslashes before a tag
stand for one, and one before any other bracket is dropped.  Every step takes a character, so there
are no more steps than characters. -/
def split : Nat → Nat → List Char → List MarkupPart
  | 0, _, _ => []
  | steps + 1, position, s =>
    let (slashes, rest) := s.span (· == '\\')
    let place := position + slashes.length
    match takeTag? rest, rest with
    | some (inside, later), _ =>
      let literal := List.replicate (slashes.length / 2) '\\'
      let parts :=
        if slashes.length % 2 = 0 then [shown literal, tag place inside]
        else [shown (literal ++ '[' :: inside ++ [']'])]
      parts ++ split steps (place + inside.length + 2) later
    | none, '[' :: later => shown (slashes.dropLast ++ ['[']) :: split steps (place + 1) later
    | none, c :: later => shown (slashes ++ [c]) :: split steps (place + 1) later
    | none, [] => [shown slashes]

/-- The name of a style: what stands before an equals sign, in lower case and without blanks around
it. -/
def styleName (s : List Char) : String :=
  Text.lower (String.ofList (Text.trimBoth Text.isBlank (s.takeWhile (· != '='))))

/-- The text that parts show, given the names of the styles that are open, the latest first. -/
def join : List String → List MarkupPart → Except String (List Char)
  | _, [] => .ok []
  | opened, shown s :: rest => (join opened rest).map (s ++ ·)
  | opened, tag position ('/' :: s) :: rest =>
    let name := styleName s
    if name.isEmpty then
      match opened with
      | [] => .error s!"closing tag '[/]' at position {position} has nothing to close"
      | _ :: outer => join outer rest
    else if opened.contains name then join (opened.erase name) rest
    else
      .error ("closing tag '[/" ++ String.ofList s ++
        s!"]' at position {position} doesn't match any open tag")
  | opened, tag _ s :: rest => join (styleName s :: opened) rest

end MarkupPart

/-- A console that reads texts for tags. -/
def Console.tags : Console where
  render s :=
    (MarkupPart.join [] (MarkupPart.split s.length 0 s.toList)).map String.ofList

end BranchChoice.CommandLine
