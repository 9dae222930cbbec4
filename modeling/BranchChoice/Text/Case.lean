import BranchChoice.Text.CaseTable
import BranchChoice.Text.UpperTable

/-!
# Case

The lower and the upper case of characters and texts, and the characters that are alike when case is
ignored.  A text's lower case differs from its characters' in two places: a capital I with a dot
becomes two characters, and a capital sigma that ends a word becomes the final form.
-/

namespace BranchChoice.Text

/-- The other case of a code point by ascending runs, itself if it is in none of them. -/
def codeByRuns (runs : Array CaseRun) (code : Nat) : Nat :=
  match runs.find? fun r => code ≤ r.last with
  | some r =>
    if r.first ≤ code && (code - r.first) % r.step == 0 then ((code : Int) + r.offset).toNat
    else code
  | none => code

/-- The lower case of a code point, itself if it has no other. -/
def lowerCode (code : Nat) : Nat :=
  codeByRuns lowerRuns code

/-- The lower case of one character. -/
def lowerChar (c : Char) : Char :=
  Char.ofNat (lowerCode c.toNat)

/-! ## Characters alike up to case -/

/-- Letters that differ in lower case and yet share their upper case, each with the others. -/
def sharedUpper : List (Nat × List Nat) := [
  (105, [305]), (115, [383]), (181, [956]), (305, [105]), (383, [115]), (837, [953, 8126]),
  (912, [8147]), (944, [8163]), (946, [976]), (949, [1013]), (952, [977]), (953, [837, 8126]),
  (954, [1008]), (956, [181]), (960, [982]), (961, [1009]), (962, [963]), (963, [962]),
  (966, [981]), (976, [946]), (977, [952]), (981, [966]), (982, [960]), (1008, [954]),
  (1009, [961]), (1013, [949]), (1074, [7296]), (1076, [7297]), (1086, [7298]), (1089, [7299]),
  (1090, [7300, 7301]), (1098, [7302]), (1123, [7303]), (7296, [1074]), (7297, [1076]),
  (7298, [1086]), (7299, [1089]), (7300, [1090, 7301]), (7301, [1090, 7300]), (7302, [1098]),
  (7303, [1123]), (7304, [42571]), (7777, [7835]), (7835, [7777]), (8126, [837, 953]),
  (8147, [912]), (8163, [944]), (42571, [7304]), (64261, [64262]), (64262, [64261])]

/-- The other lower-case letters that share a lower-case letter's upper case. -/
def variants (code : Nat) : List Nat :=
  ((sharedUpper.find? (·.1 == code)).map (·.2)).getD []

/-- The code points whose lower case is the given one. -/
def unlowered (code : Nat) : List Nat :=
  let mapped := lowerRuns.toList.filterMap fun r =>
    let source := ((code : Int) - r.offset).toNat
    if r.first ≤ source && source ≤ r.last && lowerCode source == code then some source else none
  if lowerCode code == code then code :: mapped else mapped

/-- The code points that equal a lower-case letter when case is ignored. -/
def fellows (code : Nat) : List Nat :=
  (code :: variants code).flatMap unlowered

/-! ## Texts in lower case -/

/-- Whether the first character that is not looked through has case. -/
def meetsCased (s : List Char) : Bool :=
  match s.dropWhile fun c => caseIgnorableRanges.holds c.toNat with
  | [] => false
  | c :: _ => casedRanges.holds c.toNat

/-- The lower case of a text, given the reversed text before it.  A capital sigma takes its final
form when a cased letter stands before it and none after it. -/
def lowerAfter : List Char → List Char → List Char
  | _, [] => []
  | before, c :: rest =>
    let image :=
      if c.toNat == 931 then
        [Char.ofNat (if meetsCased before && !meetsCased rest then 962 else 963)]
      else if c.toNat == 304 then [Char.ofNat 105, Char.ofNat 775]
      else [lowerChar c]
    image ++ lowerAfter (c :: before) rest

/-- The lower case of a text. -/
def lower (s : String) : String :=
  String.ofList (lowerAfter [] s.toList)

/-! ## Texts in upper case -/

/-- The upper case of a character, which may be several. -/
def upperChar (c : Char) : List Char :=
  match upperExpansions.lookup c.toNat with
  | some codes => codes.map Char.ofNat
  | none => [Char.ofNat (codeByRuns upperRuns c.toNat)]

/-- The upper case of a text. -/
def upper (s : String) : String :=
  String.ofList (s.toList.flatMap upperChar)

/-! ## Plain letters only -/

/-- The lower case of a code point among the twenty-six plain letters. -/
def plainLowerCode (code : Nat) : Nat :=
  if 65 ≤ code && code ≤ 90 then code + 32 else code

/-- A text with its plain capital letters in lower case. -/
def plainLower (s : String) : String :=
  s.map fun c => Char.ofNat (plainLowerCode c.toNat)

end BranchChoice.Text
