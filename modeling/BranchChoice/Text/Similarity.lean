/-!
# Similarity of texts

How much two texts have in common: their longest common block, and then in the same way what is
left of it and what is right of it.  A misspelt name is close to the names that it shares enough
with.
-/

namespace BranchChoice.Text

/-- The length of the longest common start. -/
def commonStart : List Char → List Char → Nat
  | a :: as, b :: bs => if a == b then commonStart as bs + 1 else 0
  | _, _ => 0

/-- A common block: where it starts in either text, and its length. -/
structure Block where
  first : Nat
  second : Nat
  length : Nat
  deriving DecidableEq

/-- The longest common block, the leftmost of several in the first text and then in the second. -/
def longestBlock (a b : List Char) : Block :=
  let places := (List.range a.length).flatMap fun i => (List.range b.length).map fun j => (i, j)
  places.foldl
    (fun best (i, j) =>
      let n := commonStart (a.drop i) (b.drop j)
      if best.length < n then ⟨i, j, n⟩ else best)
    ⟨0, 0, 0⟩

/-- The characters in common blocks, up to `fuel` blocks deep. -/
def commonLengthWithin : Nat → List Char → List Char → Nat
  | 0, _, _ => 0
  | fuel + 1, a, b =>
    let block := longestBlock a b
    if block.length = 0 then 0
    else
      commonLengthWithin fuel (a.take block.first) (b.take block.second) + block.length +
        commonLengthWithin fuel (a.drop (block.first + block.length))
          (b.drop (block.second + block.length))

/-- The number of characters in common blocks.  Every block shortens the texts, so there are no more
of them than characters. -/
def commonLength (a b : List Char) : Nat :=
  commonLengthWithin a.length a b

/-- Whether at least three fifths of the characters of both texts are in common blocks. -/
def isClose (a b : List Char) : Bool :=
  3 * (a.length + b.length) ≤ 10 * commonLength a b

/-- The names that a misspelt one is close to. -/
def closeNames (names : List String) (name : String) : List String :=
  names.filter fun candidate => isClose candidate.toList name.toList

end BranchChoice.Text
