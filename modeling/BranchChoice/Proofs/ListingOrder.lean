import BranchChoice.Proofs.StoreSelection
import Mathlib.Data.List.Chain

/-!
# The order of a listing

A listing is to give the branches that a workflow sees by descending priority, and those of one
priority as they were added (`InOrder`).

* It always gives these branches, each as often as it was added (`listBranches_perm`).
* Where their priorities are numbers, they are in order (`byPriority_inOrder`).
* A priority that is not a number compares with nothing.  Insertion takes a list for ordered if no
  row is less than the next one (`descendingByInsertion_eq_self`), and then such a row hides that a
  row before it is less than a row after it.

So one such priority and two different ones are enough for the same branches, added in some order,
to be listed out of order (`listBranches_order`).
-/

namespace BranchChoice

/-! ## Insertion -/

namespace Ordering

variable {α : Type}

theorem insert_perm (less : α → α → Bool) (sorted : List α) (item : α) :
    (insert less sorted item).Perm (item :: sorted) := by
  unfold insert
  dsimp only
  generalize place less item sorted (sorted.length + 1) 0 sorted.length = n
  calc List.Perm (sorted.take n ++ item :: sorted.drop n)
        (item :: (sorted.take n ++ sorted.drop n)) := List.perm_middle
    _ = item :: sorted := by rw [List.take_append_drop]

theorem foldl_insert_perm (less : α → α → Bool) (rest : List α) :
    ∀ sorted, (rest.foldl (insert less) sorted).Perm (sorted ++ rest) := by
  induction rest with
  | nil =>
    intro sorted
    rw [List.append_nil]
    exact List.Perm.refl sorted
  | cons item rest ih =>
    intro sorted
    calc List.Perm (rest.foldl (insert less) (insert less sorted item))
          (insert less sorted item ++ rest) := ih _
      List.Perm _ (item :: sorted ++ rest) := (insert_perm less sorted item).append_right rest
      List.Perm _ (sorted ++ item :: rest) := List.perm_middle.symm

theorem chain_append (goesOn : α → α → Bool) (latest : α) (l : List α) :
    (chain goesOn latest l).1 ++ (chain goesOn latest l).2 = l := by
  induction l generalizing latest with
  | nil => rfl
  | cons next rest ih =>
    rw [chain]
    split
    · exact congrArg (next :: ·) (ih next)
    · rfl

theorem start_perm (less : α → α → Bool) (items : List α) :
    ((start less items).1 ++ (start less items).2).Perm items := by
  rcases items with _ | ⟨a, _ | ⟨b, rest⟩⟩
  · exact List.Perm.refl _
  · exact List.Perm.refl _
  · rw [start]
    split
    · have hparts := chain_append (fun x y => less y x) b rest
      refine ((List.reverse_perm _).append_right _).trans ?_
      rw [List.cons_append, List.cons_append, hparts]
    · have hparts := chain_append (fun x y => !less y x) b rest
      rw [List.cons_append, List.cons_append, hparts]

theorem byInsertion_perm (less : α → α → Bool) (items : List α) :
    (byInsertion less items).Perm items :=
  (foldl_insert_perm less _ _).trans (start_perm less items)

theorem descendingByInsertion_perm (less : α → α → Bool) (items : List α) :
    (descendingByInsertion less items).Perm items :=
  (List.reverse_perm _).trans ((byInsertion_perm less _).trans (List.reverse_perm items))

/-! ### Lists that insertion takes for ordered -/

theorem chain_eq_self {goesOn : α → α → Bool} {latest : α} {l : List α}
    (h : (latest :: l).IsChain fun x y => goesOn x y = true) : chain goesOn latest l = (l, []) := by
  induction l generalizing latest with
  | nil => rfl
  | cons next rest ih =>
    obtain ⟨hnext, hrest⟩ := List.isChain_cons_cons.1 h
    rw [chain, if_pos hnext, ih hrest]

theorem byInsertion_eq_self {less : α → α → Bool} {items : List α}
    (h : items.IsChain fun x y => less y x = false) : byInsertion less items = items := by
  rcases items with _ | ⟨a, _ | ⟨b, rest⟩⟩
  · rfl
  · rfl
  · obtain ⟨hab, hrest⟩ := List.isChain_cons_cons.1 h
    have hwhole : chain (fun x y => !less y x) b rest = (rest, []) :=
      chain_eq_self (hrest.imp fun x y hxy => by rw [hxy, Bool.not_false])
    simp only [byInsertion, start, hab, Bool.false_eq_true, if_false, hwhole, List.foldl_nil]

/-- A list in which no item is less than the next one stays as it is, whatever the items further
apart are. -/
theorem descendingByInsertion_eq_self {less : α → α → Bool} {items : List α}
    (h : items.IsChain fun x y => less x y = false) : descendingByInsertion less items = items := by
  rw [descendingByInsertion, byInsertion_eq_self (List.isChain_reverse.2 h), List.reverse_reverse]

end Ordering

/-! ## Rows in order -/

namespace Branch

/-- Whether the priority of a branch is a given number. -/
def hasPriority (x : Binary64) (b : Branch) : Bool :=
  b.rank.le x && x.le b.rank

theorem rank_lt_of_comesBefore {b c : Branch} (h : b.comesBefore c = true) :
    b.rank.lt c.rank = false := by
  rw [comesBefore, decide_eq_true_eq, place, place] at h
  rw [Bool.eq_false_iff, ne_eq, Binary64.lt_iff]
  rintro ⟨i, j, hi, hj, hlt⟩
  rw [hi, hj, Option.getD_some, Option.getD_some] at h
  omega

end Branch

namespace MemoryStore

/-- Rows as a listing is to give them. -/
structure InOrder (rows listed : List Branch) : Prop where
  /-- No row comes before one of a higher priority. -/
  descending : listed.Pairwise fun b c => b.rank.lt c.rank = false
  /-- Those of one priority come as they were added. -/
  stable : ∀ x, listed.filter (Branch.hasPriority x) = rows.filter (Branch.hasPriority x)

/-- Whatever the priorities, no row is lost and none is added. -/
theorem byPriority_perm (branches : List Branch) : (byPriority branches).Perm branches := by
  unfold byPriority
  split
  · exact List.mergeSort_perm branches _
  · exact Ordering.descendingByInsertion_perm _ branches

section Ranked

variable {branches : List Branch} (h : ∀ b ∈ branches, b.rank ≠ .nan)

include h

theorem byPriority_descending :
    (byPriority branches).Pairwise fun b c => b.rank.lt c.rank = false := by
  rw [byPriority_eq h]
  exact (List.pairwise_mergeSort Branch.comesBefore_trans Branch.comesBefore_total branches).imp
    Branch.rank_lt_of_comesBefore

/-- Rows of one priority stay as they are. -/
theorem byPriority_stable (x : Binary64) :
    (byPriority branches).filter (Branch.hasPriority x) =
      branches.filter (Branch.hasPriority x) := by
  rw [byPriority_eq h]
  refine filter_mergeSort Branch.comesBefore_trans Branch.comesBefore_total
    fun b hb hbx c hc hcx => ?_
  simp only [Branch.hasPriority, Bool.and_eq_true] at hbx hcx
  have hle := (Branch.rank_le_iff (h c hc) (h b hb)).1 (Binary64.le_trans' hcx.1 hbx.2)
  simpa [Branch.comesBefore] using hle

/-- **Priorities that are numbers put the rows in order.** -/
theorem byPriority_inOrder : InOrder branches (byPriority branches) :=
  ⟨byPriority_descending h, byPriority_stable h⟩

end Ranked

/-! ## Priorities that are not numbers -/

/-- What is in a list can be taken to its head. -/
theorem exists_perm_cons {b : Branch} {l : List Branch} (h : b ∈ l) :
    ∃ others, (b :: others).Perm l := by
  obtain ⟨before, after, rfl⟩ := List.append_of_mem h
  exact ⟨before ++ after, List.perm_middle.symm⟩

section Unranked

variable {branches : List Branch} (h : ∃ n ∈ branches, n.rank = .nan)

include h

theorem byPriority_eq_self (hchain : branches.IsChain fun b c => b.rank.lt c.rank = false) :
    byPriority branches = branches := by
  obtain ⟨n, hn, hnan⟩ := h
  have hall : ¬ (branches.all fun b => b.rank != .nan) = true := by
    intro hall
    have hrank := List.all_eq_true.1 hall n hn
    rw [hnan] at hrank
    exact absurd hrank (by decide)
  rw [byPriority, if_neg hall]
  exact Ordering.descendingByInsertion_eq_self hchain

/-- A row of a lower priority, one whose priority is not a number, and then all others in order:
these are listed as they are. -/
theorem exists_misplaced {b c : Branch} (hb : b ∈ branches) (hc : c ∈ branches)
    (hlt : b.rank.lt c.rank = true) :
    ∃ arranged, arranged.Perm branches ∧ byPriority arranged = arranged ∧
      ¬ arranged.Pairwise fun b c => b.rank.lt c.rank = false := by
  obtain ⟨n, hn, hnan⟩ := h
  have hafter (x : Binary64) : n.rank.lt x = false := by rw [hnan, Binary64.nan_lt]
  have hbefore : b.rank.lt n.rank = false := by rw [hnan, Binary64.lt_nan]
  have hcn : c ≠ n := fun heq => by rw [heq, hbefore] at hlt; exact Bool.false_ne_true hlt
  have hcb : c ≠ b := fun heq => by
    rw [heq, Binary64.lt_irrefl] at hlt
    exact Bool.false_ne_true hlt
  have hnb : n ≠ b := fun heq => by rw [← heq, hafter] at hlt; exact Bool.false_ne_true hlt
  -- the two rows are taken out of the list
  obtain ⟨l, hl⟩ := exists_perm_cons hb
  have hnl : n ∈ l := (List.mem_cons.1 (hl.symm.subset hn)).resolve_left hnb
  obtain ⟨others, hothers⟩ := exists_perm_cons hnl
  have hcl : c ∈ l := (List.mem_cons.1 (hl.symm.subset hc)).resolve_left hcb
  have hcothers : c ∈ others := (List.mem_cons.1 (hothers.symm.subset hcl)).resolve_left hcn
  have hsort := List.mergeSort_perm others Branch.comesBefore
  have hperm : (b :: n :: others.mergeSort Branch.comesBefore).Perm branches :=
    (((hsort.cons n).trans hothers).cons b).trans hl
  have hordered : (n :: others.mergeSort Branch.comesBefore).Pairwise
      fun b c => b.rank.lt c.rank = false :=
    List.pairwise_cons.2 ⟨fun d _ => hafter d.rank,
      (List.pairwise_mergeSort Branch.comesBefore_trans Branch.comesBefore_total others).imp
        Branch.rank_lt_of_comesBefore⟩
  refine ⟨_, hperm, byPriority_eq_self ⟨n, hperm.symm.subset hn, hnan⟩ ?_, fun hpairs => ?_⟩
  · exact List.isChain_cons_cons.2 ⟨hbefore, hordered.isChain⟩
  · have hbc := (List.pairwise_cons.1 hpairs).1 c
      (List.mem_cons_of_mem n (hsort.symm.subset hcothers))
    rw [hbc] at hlt
    exact Bool.false_ne_true hlt

end Unranked

/-! ## Listings -/

section Listings

variable {store : MemoryStore} {workflowId : String}

/-- The branches that a workflow sees, its own and those of no workflow, as they were added. -/
def visibleBranches (store : MemoryStore) (workflowId : String) : List Branch :=
  store.branches.filter fun b => b.workflowId = none ∨ b.workflowId = some workflowId

theorem isVisible_iff (b : Branch) :
    isVisible workflowId b = true ↔ b.workflowId = none ∨ b.workflowId = some workflowId := by
  unfold isVisible
  cases b.workflowId <;> simp

theorem listBranches_eq (store : MemoryStore) (workflowId : String) :
    store.listBranches workflowId = byPriority (store.visibleBranches workflowId) := by
  rw [listBranches, visibleBranches]
  refine congrArg byPriority (List.filter_congr fun b _ => ?_)
  rw [Bool.eq_iff_iff, isVisible_iff, decide_eq_true_iff]

theorem listBranches_perm (store : MemoryStore) (workflowId : String) :
    (store.listBranches workflowId).Perm (store.visibleBranches workflowId) := by
  rw [listBranches_eq]
  exact byPriority_perm _

theorem ranked_iff :
    store.Ranked workflowId ↔ ∀ b ∈ store.visibleBranches workflowId, b.rank ≠ .nan := by
  simp only [Ranked, visibleBranches, isVisible_iff, List.mem_filter, decide_eq_true_eq, and_imp]

/-- **Where the priorities are numbers, the listing is in order.** -/
theorem Ranked.inOrder (h : store.Ranked workflowId) :
    InOrder (store.visibleBranches workflowId) (store.listBranches workflowId) := by
  rw [listBranches_eq]
  exact byPriority_inOrder (ranked_iff.1 h)

theorem exists_nan (h : ¬ store.Ranked workflowId) :
    ∃ n ∈ store.visibleBranches workflowId, n.rank = .nan := by
  simpa [ranked_iff] using h

/-- Of the priorities that a workflow sees, no two numbers differ. -/
def SameRanked (store : MemoryStore) (workflowId : String) : Prop :=
  ∀ b ∈ store.visibleBranches workflowId, ∀ c ∈ store.visibleBranches workflowId,
    b.rank.lt c.rank = false

/-- Branches of one priority, some of them perhaps of none, are listed as they were added. -/
theorem SameRanked.inOrder (h : store.SameRanked workflowId) :
    InOrder (store.visibleBranches workflowId) (store.listBranches workflowId) := by
  by_cases hranked : store.Ranked workflowId
  · exact hranked.inOrder
  · have hpairs : (store.visibleBranches workflowId).Pairwise
        fun b c => b.rank.lt c.rank = false := List.pairwise_of_forall_mem_list h
    rw [listBranches_eq, byPriority_eq_self (exists_nan hranked) hpairs.isChain]
    exact ⟨hpairs, fun _ => rfl⟩

/-- The branches that a workflow sees can be put in any order by adding the branches in one. -/
theorem exists_branches_of_perm {arranged : List Branch}
    (h : arranged.Perm (store.visibleBranches workflowId)) :
    ∃ branches, branches.Perm store.branches ∧
      visibleBranches { store with branches := branches } workflowId = arranged := by
  let sees : Branch → Bool := fun b => b.workflowId = none ∨ b.workflowId = some workflowId
  have hsplit : (store.branches.filter sees ++ store.branches.filter (!sees ·)).Perm
      store.branches := List.filter_append_perm sees store.branches
  have hseen : arranged.filter sees = arranged :=
    List.filter_eq_self.2 fun b hb => (List.mem_filter.1 (h.subset hb)).2
  have hunseen : (store.branches.filter (!sees ·)).filter sees = [] := by
    simp [List.filter_filter]
  refine ⟨arranged ++ store.branches.filter (!sees ·), (h.append_right _).trans hsplit, ?_⟩
  rw [visibleBranches, List.filter_append, hseen, hunseen, List.append_nil]

/-- **The order of a listing.**  A listing has the branches that the workflow sees and no others.
They are in order if their priorities are numbers.  To be in order whatever the order in which the
same branches were added, their priorities must all be numbers, or no two numbers among them may
differ. -/
theorem listBranches_order (store : MemoryStore) (workflowId : String) :
    (store.listBranches workflowId).Perm (store.visibleBranches workflowId) ∧
    (store.Ranked workflowId →
      InOrder (store.visibleBranches workflowId) (store.listBranches workflowId)) ∧
    ((∀ branches : List Branch, branches.Perm store.branches →
        InOrder (visibleBranches { store with branches := branches } workflowId)
          (listBranches { store with branches := branches } workflowId)) ↔
      store.Ranked workflowId ∨ store.SameRanked workflowId) := by
  refine ⟨listBranches_perm store workflowId, Ranked.inOrder, ?_, ?_⟩
  · intro hall
    by_contra hneither
    obtain ⟨hranked, hdiffer⟩ := not_or.1 hneither
    obtain ⟨b, hb, c, hc, hlt⟩ : ∃ b ∈ store.visibleBranches workflowId,
        ∃ c ∈ store.visibleBranches workflowId, b.rank.lt c.rank = true := by
      simpa [SameRanked] using hdiffer
    obtain ⟨arranged, harranged, hsame, hmisplaced⟩ :=
      exists_misplaced (exists_nan hranked) hb hc hlt
    obtain ⟨branches, hbranches, hvisible⟩ := exists_branches_of_perm harranged
    have hordered := (hall branches hbranches).descending
    rw [listBranches_eq, hvisible, hsame] at hordered
    exact hmisplaced hordered
  · intro heither branches hbranches
    have hvisible : (visibleBranches { store with branches := branches } workflowId).Perm
        (store.visibleBranches workflowId) := hbranches.filter _
    rcases heither with hranked | hsame
    · exact Ranked.inOrder
        (ranked_iff.2 fun b hb => ranked_iff.1 hranked b (hvisible.subset hb))
    · exact SameRanked.inOrder fun b hb c hc => hsame b (hvisible.subset hb) c (hvisible.subset hc)

/-- Three rows of a document with priorities 1, not a number, and 2 are accepted and listed as they
are, though the last has a higher priority than the first. -/
theorem listBranches_misplaced :
    let row (name : String) (priority : Json) : Json :=
      .object [("id", .text name), ("branch_name", .text name), ("priority", priority)]
    let document : Json := .object
      [("branches", .list [row "low" (.int 1), row "none" (.text "nan"), row "high" (.int 2)])]
    ∃ store, ofDocument document = .ok store ∧
      (store.listBranches "w").map (·.id) = ["low", "none", "high"] ∧
      ¬ InOrder (store.visibleBranches "w") (store.listBranches "w") := by
  intro row document
  have hread : ((ofDocument document).toOption.map fun s => ((s.listBranches "w").map (·.id),
      Decidable.decide ((s.listBranches "w").Pairwise fun b c => b.rank.lt c.rank = false))) =
        some (["low", "none", "high"], false) := by decide +kernel
  cases hstore : ofDocument document with
  | error e =>
    rw [hstore] at hread
    exact absurd hread nofun
  | ok store =>
    rw [hstore] at hread
    obtain ⟨hids, hpairs⟩ := Prod.mk.inj (Option.some.inj hread)
    exact ⟨store, rfl, hids, fun h => of_decide_eq_false hpairs h.descending⟩

end Listings

end MemoryStore

end BranchChoice
