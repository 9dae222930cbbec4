import BranchChoice.Text.Characters
import BranchChoice.Text.Case
import BranchChoice.Text.Word

/-!
# Patterns

Patterns as trees: tests of single characters, places in the text, and the ways to combine them.
All modes of a pattern are resolved in its tree, so the tree alone says what matches.
-/

namespace BranchChoice.Pattern

/-! ## Tests of a character -/

/-- What a character test takes for equal: the same characters, those that differ in the case of a
plain letter, or those that differ in case. -/
inductive CaseRule where
  | exact
  | plain
  | full
  deriving DecidableEq

/-- The code point that stands for all that the rule takes for equal, their variants apart. -/
def CaseRule.fold : CaseRule → Nat → Nat
  | exact, code => code
  | plain, code => Text.plainLowerCode code
  | full, code => Text.lowerCode code

/-- Whether two folded code points are equal under the rule. -/
def CaseRule.same (rule : CaseRule) (a b : Nat) : Bool :=
  a == b || (rule == .full && (Text.variants a).contains b)

/-- A class of characters with a name of its own. -/
inductive Category where
  | digit
  | blank
  | word
  deriving DecidableEq

/-- Whether a character is in the class; a plain class has ASCII characters only. -/
def Category.holds (plain : Bool) (c : Char) : Category → Bool
  | digit => if plain then c.isDigit else Text.isDecimal c
  | blank => if plain then Text.isPlainBlank c else Text.isBlank c
  | word => if plain then Text.isPlainWord c else Text.isWord c

/-- A member of a set of characters. -/
inductive Member where
  | code (n : Nat)
  | range (low high : Nat)
  | category (negated : Bool) (kind : Category)
  deriving DecidableEq

/-- The last code point of the basic plane. -/
def lastBasic : Nat := 65535

/-- Whether a folded character belongs to a member.  Members of the basic plane are compared folded;
beyond it a single character is compared as it is, and a range also with the other case. -/
def Member.holds (rule : CaseRule) (plain : Bool) (x : Nat) : Member → Bool
  | code n =>
    let folded := rule.fold n
    if folded ≤ lastBasic then rule.same folded x else n == x
  | range low high =>
    let inRange (n : Nat) : Bool := low ≤ n && n ≤ high
    match rule with
    | .exact => inRange x
    | .plain =>
      (x ≤ lastBasic && inRange x) || (97 ≤ x && x ≤ 122 && inRange (x - 32)) ||
        (lastBasic < high && (inRange x || (Text.unlowered x).any inRange))
    | .full =>
      (Text.fellows x).any (fun n => n ≤ lastBasic && inRange n) ||
        (lastBasic < high && (inRange x || (Text.unlowered x).any inRange))
  | category negated kind => kind.holds plain (Char.ofNat x) != negated

/-- A test of a single character. -/
inductive CharTest where
  /-- Any character; without `newlines` all but a line feed. -/
  | any (newlines : Bool)
  /-- One character, or all others. -/
  | code (negated : Bool) (n : Nat) (rule : CaseRule)
  /-- The characters of a set, or all others. -/
  | set (negated : Bool) (members : List Member) (rule : CaseRule) (plain : Bool)
  deriving DecidableEq

/-- Whether the character passes the test. -/
def CharTest.accepts (c : Char) : CharTest → Bool
  | any newlines => newlines || c != '\n'
  | code negated n rule => rule.same (rule.fold n) (rule.fold c.toNat) != negated
  | set negated members rule plain =>
    (members.any fun m => m.holds rule plain (rule.fold c.toNat)) != negated

/-! ## Places -/

/-- A condition on a place in the text. -/
inductive Anchor where
  | textStart
  | textEnd
  | lineStart
  | lineEnd
  /-- The end of the text, or before a line feed that ends it. -/
  | lastLineEnd
  /-- Between a character of a word and one that is none, or between two of one sort. -/
  | wordEdge (negated plain : Bool)
  deriving DecidableEq

/-- Whether the anchor holds at a place.  In an empty text there is neither an edge of a word nor a
place that is none. -/
def Anchor.holds (text : Array Char) (pos : Nat) : Anchor → Bool
  | textStart => pos == 0
  | textEnd => pos == text.size
  | lineStart => pos == 0 || text[pos - 1]? == some '\n'
  | lineEnd => pos == text.size || text[pos]? == some '\n'
  | lastLineEnd => pos == text.size || (pos + 1 == text.size && text[pos]? == some '\n')
  | wordEdge negated plain =>
    let isWord (c : Char) : Bool := Category.word.holds plain c
    let before := pos != 0 && (text[pos - 1]?).any isWord
    let after := (text[pos]?).any isWord
    text.size != 0 && (before != after) != negated

/-! ## Trees -/

/-- How many repetitions are preferred: many, few, or as many as there are, without coming back. -/
inductive Greed where
  | greedy
  | lazy
  | possessive
  deriving DecidableEq

/-- A pattern. -/
inductive Node where
  | empty
  | one (test : CharTest)
  | anchor (place : Anchor)
  | seq (first second : Node)
  | alt (first second : Node)
  /-- A part whose place in the text is kept under an index. -/
  | group (index : Nat) (body : Node)
  /-- A part that is matched in its first way only. -/
  | atomic (body : Node)
  | repetition (least : Nat) (most : Option Nat) (greed : Greed) (body : Node)
  /-- What must, or must not, match from here on. -/
  | ahead (negated : Bool) (body : Node)
  /-- What must, or must not, match from so many characters before here. -/
  | behind (negated : Bool) (width : Nat) (body : Node)
  /-- The text of a group again; the width is that of the group. -/
  | backref (index : Nat) (rule : CaseRule) (width : Nat × Nat)
  /-- One of two, by whether a group has matched. -/
  | conditional (index : Nat) (yes no : Node)

/-- The least and the greatest width that are told apart. -/
def maxWidth : Nat := Nat.pow 2 64

/-- The least and the greatest number of characters that a pattern takes. -/
def Node.width : Node → Nat × Nat
  | empty => (0, 0)
  | one _ => (1, 1)
  | anchor _ => (0, 0)
  | seq a b =>
    let (a₁, a₂) := a.width
    let (b₁, b₂) := b.width
    (min (a₁ + b₁) maxWidth, min (a₂ + b₂) maxWidth)
  | alt a b =>
    let (a₁, a₂) := a.width
    let (b₁, b₂) := b.width
    (min a₁ b₁, max a₂ b₂)
  | group _ body => body.width
  | atomic body => body.width
  | repetition least most _ body =>
    let (low, high) := body.width
    let top := match most with
      | some m => high * m
      | none => if high = 0 then 0 else maxWidth
    (min (low * least) maxWidth, min top maxWidth)
  | ahead _ _ => (0, 0)
  | behind _ _ _ => (0, 0)
  | backref _ _ width => width
  | conditional _ yes no =>
    let (a₁, a₂) := yes.width
    let (b₁, b₂) := no.width
    (min a₁ b₁, max a₂ b₂)

/-- The nodes one after the other. -/
def Node.seqOf : List Node → Node
  | [] => empty
  | [n] => n
  | n :: rest => seq n (seqOf rest)

/-- The nodes as alternatives, the first preferred. -/
def Node.altOf : List Node → Node
  | [] => empty
  | [n] => n
  | n :: rest => alt n (altOf rest)

end BranchChoice.Pattern
