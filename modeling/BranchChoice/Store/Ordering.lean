/-!
# Ordering rows

A list in the order of a comparison.  Where the comparison relates any two items, this is the stable
order; where some items are related to no others, the order is that of insertion by halving: an
ascending or strictly descending start is taken as it is, and each further item goes to the place
that halving the sorted part finds.
-/

namespace BranchChoice.Ordering

/-- The place of an item in the part `[low, high)` of a list: after the middle item, unless it is
less than that.  Each step halves the part. -/
def place {α : Type} (less : α → α → Bool) (item : α) (sorted : List α) :
    Nat → Nat → Nat → Nat
  | 0, low, _ => low
  | steps + 1, low, high =>
    if low < high then
      let middle := (low + high) / 2
      match sorted[middle]? with
      | none => low
      | some other =>
        if less item other then place less item sorted steps low middle
        else place less item sorted steps (middle + 1) high
    else low

/-- The list with an item put in its place. -/
def insert {α : Type} (less : α → α → Bool) (sorted : List α) (item : α) : List α :=
  let n := place less item sorted (sorted.length + 1) 0 sorted.length
  sorted.take n ++ item :: sorted.drop n

/-- The items that follow `latest` one after the other while `goesOn` holds from each to the next,
and the rest. -/
def chain {α : Type} (goesOn : α → α → Bool) (latest : α) : List α → List α × List α
  | [] => ([], [])
  | next :: rest =>
    if goesOn latest next then
      let (more, others) := chain goesOn next rest
      (next :: more, others)
    else ([], next :: rest)

/-- The ordered start of a list, a descending one reversed, and the rest. -/
def start {α : Type} (less : α → α → Bool) : List α → List α × List α
  | a :: b :: rest =>
    if less b a then
      let (more, others) := chain (fun x y => less y x) b rest
      ((a :: b :: more).reverse, others)
    else
      let (more, others) := chain (fun x y => !less y x) b rest
      (a :: b :: more, others)
  | short => (short, [])

/-- The list ordered by insertion. -/
def byInsertion {α : Type} (less : α → α → Bool) (items : List α) : List α :=
  let (sorted, rest) := start less items
  rest.foldl (insert less) sorted

/-- The list ordered so that no item is less than an earlier one, by insertion. -/
def descendingByInsertion {α : Type} (less : α → α → Bool) (items : List α) : List α :=
  (byInsertion less items.reverse).reverse

end BranchChoice.Ordering
