import BranchChoice.Pattern.Parser

/-!
# Matching

Where a pattern matches a text.  Matching goes through the choices in order of preference and
comes back to the next one when the rest of the pattern fails; the rest is given as a function of
the place reached.  A repetition that takes no character is not tried again, which bounds every
loop by the characters that are left.
-/

namespace BranchChoice.Pattern

/-- A state of the matching: a place in the text, and the places where groups start (even indices)
and end (odd indices), the latest first. -/
structure Cursor where
  pos : Nat
  marks : List (Nat × Nat)

namespace Cursor

/-- The cursor with a mark set at its place. -/
def mark (s : Cursor) (index : Nat) : Cursor :=
  { s with marks := (index, s.pos) :: s.marks }

/-- The cursor moved on. -/
def advance (s : Cursor) (count : Nat) : Cursor :=
  { s with pos := s.pos + count }

/-- Where the group with the given index starts and ends, if it has matched. -/
def span? (s : Cursor) (index : Nat) : Option (Nat × Nat) :=
  match s.marks.lookup (2 * index), s.marks.lookup (2 * index + 1) with
  | some first, some last => if first ≤ last then some (first, last) else none
  | _, _ => none

end Cursor

/-- What remains to be matched from a place on. -/
abbrev Rest := Cursor → Option Cursor

/-! ## Repetitions -/

/-- A step so many times, then the rest. -/
def exactly (step : Cursor → Rest → Option Cursor) : Nat → Cursor → Rest → Option Cursor
  | 0, s, k => k s
  | n + 1, s, k => step s fun s' => exactly step n s' k

/-- A step at most `most` times, more rather than fewer, then the rest.  `last` is where the latest
step began: one that ends where it began is the last. -/
def greedily (step : Cursor → Rest → Option Cursor) :
    Nat → Option Nat → Option Nat → Cursor → Rest → Option Cursor
  | 0, _, _, s, k => k s
  | fuel + 1, most, last, s, k =>
    if most = some 0 || last = some s.pos then k s
    else
      match step s fun s' => greedily step fuel (most.map (· - 1)) (some s.pos) s' k with
      | some r => some r
      | none => k s

/-- A step at most `most` times, fewer rather than more, then the rest. -/
def lazily (step : Cursor → Rest → Option Cursor) :
    Nat → Option Nat → Option Nat → Cursor → Rest → Option Cursor
  | 0, _, _, s, k => k s
  | fuel + 1, most, last, s, k =>
    match k s with
    | some r => some r
    | none =>
      if most = some 0 || last = some s.pos then none
      else step s fun s' => lazily step fuel (most.map (· - 1)) (some s.pos) s' k

/-- A step so many times, each in its first way only. -/
def firmly (step : Cursor → Rest → Option Cursor) : Nat → Cursor → Option Cursor
  | 0, s => some s
  | n + 1, s => (step s some).bind (firmly step n)

/-- A step as often as it goes, at most `most` times, each in its first way only. -/
def exhaustively (step : Cursor → Rest → Option Cursor) :
    Nat → Option Nat → Option Nat → Cursor → Cursor
  | 0, _, _, s => s
  | fuel + 1, most, last, s =>
    if most = some 0 || last = some s.pos then s
    else
      match step s some with
      | some s' => exhaustively step fuel (most.map (· - 1)) (some s.pos) s'
      | none => s

/-! ## Repetitions of one character -/

/-- How many characters in a row from a place on pass the test, up to a limit. -/
def runLength (text : Array Char) (test : CharTest) : Nat → Nat → Nat
  | 0, _ => 0
  | limit + 1, pos =>
    match text[pos]? with
    | some c => if test.accepts c then runLength text test limit (pos + 1) + 1 else 0
    | none => 0

/-- The rest after `least + extra` characters, then after one fewer, down to `least`. -/
def fewer (least : Nat) (s : Cursor) (k : Rest) : Nat → Option Cursor
  | 0 => k (s.advance least)
  | extra + 1 =>
    match k (s.advance (least + (extra + 1))) with
    | some r => some r
    | none => fewer least s k extra

/-- The rest after `count` characters, then after one more, up to `extra` more. -/
def further (count : Nat) (s : Cursor) (k : Rest) : Nat → Option Cursor
  | 0 => k (s.advance count)
  | extra + 1 =>
    match k (s.advance count) with
    | some r => some r
    | none => further (count + 1) s k extra

/-- A repetition of one character: all that can be taken are counted first. -/
def repeatOne (text : Array Char) (test : CharTest) (least : Nat) (most : Option Nat)
    (greed : Greed) (s : Cursor) (k : Rest) : Option Cursor :=
  let left := text.size - s.pos
  let count := runLength text test (match most with | some m => min m left | none => left) s.pos
  if count < least then none
  else
    match greed with
    | .greedy => fewer least s k (count - least)
    | .lazy => further least s k (count - least)
    | .possessive => k (s.advance count)

/-! ## Patterns -/

/-- Whether the text between two places comes again at a third, under a case rule. -/
def comesAgain (text : Array Char) (rule : CaseRule) : Nat → Nat → Nat → Bool
  | 0, _, _ => true
  | count + 1, first, pos =>
    match text[first]?, text[pos]? with
    | some a, some b =>
      rule.fold a.toNat == rule.fold b.toNat && comesAgain text rule count (first + 1) (pos + 1)
    | _, _ => false

/-- The cursor after the pattern and the rest, in the preferred way. -/
def Node.run (text : Array Char) : Node → Cursor → Rest → Option Cursor
  | empty, s, k => k s
  | one test, s, k =>
    match text[s.pos]? with
    | some c => if test.accepts c then k (s.advance 1) else none
    | none => none
  | anchor place, s, k => if place.holds text s.pos then k s else none
  | seq a b, s, k => a.run text s fun s' => b.run text s' k
  | alt a b, s, k =>
    match a.run text s k with
    | some r => some r
    | none => b.run text s k
  | group index body, s, k =>
    body.run text (s.mark (2 * index)) fun s' => k (s'.mark (2 * index + 1))
  | atomic body, s, k => (body.run text s some).bind k
  | repetition least most greed (one test), s, k => repeatOne text test least most greed s k
  | repetition least most greed body, s, k =>
    let step (c : Cursor) (next : Rest) : Option Cursor := body.run text c next
    let left := most.map (· - least)
    let fuel := text.size + 2
    match greed with
    | .greedy => exactly step least s fun s' => greedily step fuel left none s' k
    | .lazy => exactly step least s fun s' => lazily step fuel left none s' k
    | .possessive =>
      (firmly step least s).bind fun s' => k (exhaustively step fuel left none s')
  | ahead negated body, s, k =>
    match body.run text s some with
    | some s' => if negated then none else k { s' with pos := s.pos }
    | none => if negated then k s else none
  | behind negated width body, s, k =>
    if s.pos < width then (if negated then k s else none)
    else
      match body.run text { s with pos := s.pos - width } some with
      | some s' => if negated then none else k { s' with pos := s.pos }
      | none => if negated then k s else none
  | backref index rule _, s, k =>
    match s.span? index with
    | some (first, last) =>
      if comesAgain text rule (last - first) first s.pos then k (s.advance (last - first))
      else none
    | none => none
  | conditional index yes no, s, k =>
    match s.span? index with
    | some _ => yes.run text s k
    | none => no.run text s k

/-- Whether the pattern, starting with a character that passes the test, matches somewhere. -/
def Node.foundIn (node : Node) (lead : Option CharTest) (text : String) : Bool :=
  let chars := text.toList.toArray
  (List.range (chars.size + 1)).any fun start =>
    (lead.all fun test => (chars[start]?).any test.accepts) &&
      (node.run chars ⟨start, []⟩ some).isSome

/-! ## Patterns given as texts -/

/-- Whether the pattern matches somewhere in the text. -/
def Compiled.foundIn (p : Compiled) (text : String) : Bool :=
  p.body.foundIn p.lead text

/-- Whether the pattern is found in the text.  A malformed pattern is found nowhere; the other
refusals stay errors. -/
def search (pattern text : String) : Except Refusal Bool :=
  match compile pattern with
  | .ok p => .ok (p.foundIn text)
  | .error .malformed => .ok false
  | .error other => .error other

end BranchChoice.Pattern
