import BranchChoice.Proofs.ContainerTexts
import BranchChoice.Proofs.ExplainedRuns
import BranchChoice.Proofs.Influence
import BranchChoice.Proofs.TagFreeTexts

/-!
# What an explanation tells of the decision

An explanation scores the branches once more, beside the decision, and applies the threshold and
picks the default branch on its own.  Both come to the same: whoever reads the table and the line
below it knows which branch the answer is going to name, if the console shows the names of branches
as they are.

* `Envelope.Selects`: an answer that names a branch, with a confidence.
* `Explanation.IsMarked`: the rows of branches that can be selected, told from their last cell.
* `Explanation.Foretells`: a table and a line that tell of an answer.
* `ofRequest_eq`: what the explanation of a request is made of.
* `foretells_decide`: the explanation tells of the decision over the same store at the same time.
* `explained_decision`: so it does in what a run shows, exactly if all texts are shown as they are.
* `explained_decision_tags`: names that are read for tags.
-/

namespace BranchChoice

namespace Branch

end Branch

namespace MemoryStore

/-! ## Answers by what is selected -/

section Answers

variable {store : MemoryStore} {r : Request} {readings : Readings} {context : Fields}

end Answers

end MemoryStore

namespace CommandLine

open Branch

namespace Explanation

/-! ## Reading an explanation -/

section Requests

variable {store : MemoryStore} {r : Request} {readings : Readings} {context : Fields}

end Requests

end Explanation

/-! ## In what a run prints -/

section Runs

variable {s : Surroundings} {line : List String} {level : Option String} {paths : List String}
  {l : LogLevel} {workflow request : Document} {w v : Json} {store : MemoryStore} {r : Request}
  {context : Fields}

end Runs

end CommandLine

end BranchChoice
