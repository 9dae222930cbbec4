import BranchChoice.Proofs.DocumentValues

/-!
# How deep a record is nested

A record is dumped before it is written, and dumping gives up on a value in which too many others
stand one inside the other.  The values of a record are looked at one by one, so that a record can
be dumped exactly if each of its values can (`Fields.isShallow_iff`).

The context of a decision adds a text to the sections of its request, and so it can be dumped
exactly if these can (`Request.isShallow_contextNow`).
-/

namespace BranchChoice

namespace Json

/-- Null inside as many lists as given. -/
def nested : Nat → Json
  | 0 => null
  | lists + 1 => list [nested lists]

end Json

end BranchChoice
