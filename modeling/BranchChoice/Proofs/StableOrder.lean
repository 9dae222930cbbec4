import BranchChoice.Proofs.Rounding
import BranchChoice.Store.Memory
import Mathlib.Data.List.Sort

/-!
# Rows in their order

Rows come out of the store ordered, rows that are equal in the order as they were added.

* `mergeSort_split` says what this means for one row: of the rows added before it, those that come
  after it are strictly less, and of the rows added after it, those that come after it are no more.
* `filter_mergeSort` says that rows that are equal in the order stay as they were.
* `byPriority_split` is this for branches whose priorities are numbers.
* `byPriority_eq_of_perm` says that branches of different priorities come in one order only.
-/

namespace BranchChoice

/-! ## Stable orders -/

/-- Of two rows with their places, the one that comes first is at most the other. -/
theorem le_of_zipIdxLE {α : Type} {le : α → α → Bool} {a c : α} {i j : Nat}
    (h : List.zipIdxLE le (a, i) (c, j) = true) : le a c = true := by
  by_contra hnot
  simp only [List.zipIdxLE, hnot] at h
  exact nomatch h

/-- Of two rows with their places, the one that comes first is less if its place is the later. -/
theorem lt_of_zipIdxLE {α : Type} {le : α → α → Bool} {a c : α} {i j : Nat}
    (h : List.zipIdxLE le (a, i) (c, j) = true) (hplace : j < i) : le c a = false := by
  by_contra hback
  simp only [Bool.not_eq_false] at hback
  simp only [List.zipIdxLE, le_of_zipIdxLE h, hback, if_true, decide_eq_true_eq] at h
  omega

/-- Where the rows around one row of an ordered list were before it was ordered. -/
theorem mergeSort_split {α : Type} {le : α → α → Bool}
    (htrans : ∀ a b c, le a b = true → le b c = true → le a c = true)
    (htotal : ∀ a b, (le a b || le b a) = true) {l before after : List α} {a : α}
    (h : l.mergeSort le = before ++ a :: after) :
    ∃ front back, l = front ++ a :: back ∧
      (∀ c ∈ front, c ∈ before ∨ c ∈ after ∧ le c a = false) ∧
      ∀ c ∈ back, c ∈ before ∨ c ∈ after ∧ le a c = true := by
  -- the same rows, each with its place in the list
  rw [← List.mergeSort_zipIdx] at h
  have hperm := List.mergeSort_perm l.zipIdx (List.zipIdxLE le)
  have hordered := List.pairwise_mergeSort (List.zipIdxLE_trans htrans)
    (List.zipIdxLE_total htotal) l.zipIdx
  obtain ⟨befores, others, hsorted, rfl, hothers⟩ := List.map_eq_append_iff.1 h
  obtain ⟨⟨a', i⟩, afters, rfl, rfl, rfl⟩ := List.map_eq_cons_iff.1 hothers
  rw [hsorted] at hperm hordered
  have hplace : l[i]? = some a' := by
    have hmem : (a', i) ∈ l.zipIdx := hperm.subset (by simp)
    exact List.mk_mem_zipIdx_iff_getElem?.1 hmem
  obtain ⟨hi, ha⟩ := List.getElem?_eq_some_iff.1 hplace
  have hlater : ∀ p ∈ afters, List.zipIdxLE le (a', i) p = true :=
    (List.pairwise_cons.1 (List.pairwise_append.1 hordered).2.1).1
  -- a row at another place stands before or after in the ordered list
  have hside : ∀ j c, l[j]? = some c → j ≠ i →
      c ∈ befores.map (·.1) ∨ c ∈ afters.map (·.1) ∧ List.zipIdxLE le (a', i) (c, j) = true := by
    intro j c hj hne
    have hmem : (c, j) ∈ befores ++ (a', i) :: afters :=
      hperm.symm.subset (List.mk_mem_zipIdx_iff_getElem?.2 hj)
    rcases List.mem_append.1 hmem with hmem | hmem
    · exact .inl (List.mem_map_of_mem hmem)
    · rcases List.mem_cons.1 hmem with heq | hmem
      · exact absurd (Prod.mk.inj heq).2 hne
      · exact .inr ⟨List.mem_map_of_mem hmem, hlater _ hmem⟩
  refine ⟨l.take i, l.drop (i + 1), ?_, ?_, ?_⟩
  · rw [← ha, ← List.drop_eq_getElem_cons hi, List.take_append_drop]
  · intro c hc
    obtain ⟨j, hj, rfl⟩ := List.mem_take_iff_getElem.1 hc
    have hlt : j < i := by omega
    rcases hside j _ (List.getElem?_eq_getElem (by omega)) (by omega) with hb | ⟨hmem, hle⟩
    · exact .inl hb
    · exact .inr ⟨hmem, lt_of_zipIdxLE hle hlt⟩
  · intro c hc
    obtain ⟨j, hj, rfl⟩ := List.mem_drop_iff_getElem.1 hc
    rcases hside (i + 1 + j) _ (List.getElem?_eq_getElem (by omega)) (by omega) with
      hb | ⟨hmem, hle⟩
    · exact .inl hb
    · exact .inr ⟨hmem, le_of_zipIdxLE hle⟩

/-- Rows that are equal in the order stay in the order in which they were. -/
theorem filter_mergeSort {α : Type} {le : α → α → Bool}
    (htrans : ∀ a b c, le a b = true → le b c = true → le a c = true)
    (htotal : ∀ a b, (le a b || le b a) = true) {l : List α} {p : α → Bool}
    (h : ∀ a ∈ l, p a = true → ∀ b ∈ l, p b = true → le a b = true) :
    (l.mergeSort le).filter p = l.filter p := by
  have hordered : (l.filter p).Pairwise fun a b => le a b = true := by
    refine List.pairwise_of_forall_mem_list fun a ha b hb => ?_
    obtain ⟨hal, hap⟩ := List.mem_filter.1 ha
    obtain ⟨hbl, hbp⟩ := List.mem_filter.1 hb
    exact h a hal hap b hbl hbp
  -- an ordered part of the list is a part of the ordered list
  have hpart := (List.sublist_mergeSort htrans htotal hordered List.filter_sublist).filter p
  rw [List.filter_filter] at hpart
  simp only [Bool.and_self] at hpart
  exact (hpart.eq_of_length ((List.mergeSort_perm l le).filter p).length_eq.symm).symm

/-! ## Branches by priority -/

namespace Branch

/-- The priority as a whole number, by which priorities that are numbers are ordered. -/
def place (b : Branch) : Int :=
  b.rank.key?.getD 0

theorem key?_rank {b : Branch} (h : b.rank ≠ .nan) : b.rank.key? = some b.place := by
  obtain ⟨key, hkey⟩ := Option.ne_none_iff_exists'.1 (mt Binary64.key?_eq_none_iff.1 h)
  simp [place, hkey]

theorem rank_le_iff {b c : Branch} (hb : b.rank ≠ .nan) (hc : c.rank ≠ .nan) :
    b.rank.le c.rank = true ↔ b.place ≤ c.place := by
  simp [Binary64.le, key?_rank hb, key?_rank hc]

theorem rank_lt_iff {b c : Branch} (hb : b.rank ≠ .nan) (hc : c.rank ≠ .nan) :
    b.rank.lt c.rank = true ↔ b.place < c.place := by
  simp [Binary64.lt, key?_rank hb, key?_rank hc]

/-- The order of branches by descending priority. -/
def comesBefore (b c : Branch) : Bool :=
  c.place ≤ b.place

theorem comesBefore_trans (a b c : Branch) (hab : a.comesBefore b = true)
    (hbc : b.comesBefore c = true) : a.comesBefore c = true := by
  simp only [comesBefore, decide_eq_true_eq] at *
  omega

theorem comesBefore_total (a b : Branch) : (a.comesBefore b || b.comesBefore a) = true := by
  simp only [comesBefore, Bool.or_eq_true, decide_eq_true_eq]
  omega

end Branch

namespace MemoryStore

/-- Priorities that are numbers order the branches stably. -/
theorem byPriority_eq {branches : List Branch} (h : ∀ b ∈ branches, b.rank ≠ .nan) :
    byPriority branches = branches.mergeSort Branch.comesBefore := by
  have hall : (branches.all fun b => b.rank != .nan) = true := by
    simpa [List.all_eq_true] using h
  have hsame : ∀ b ∈ branches, ∀ c ∈ branches, c.rank.le b.rank = b.comesBefore c := by
    intro b hb c hc
    rw [Bool.eq_iff_iff, Branch.rank_le_iff (h c hc) (h b hb)]
    simp [Branch.comesBefore]
  have hmap := List.map_mergeSort (f := id) hsame
  simp only [List.map_id_fun, id_eq] at hmap
  rw [byPriority, if_pos hall]
  exact hmap

theorem mem_byPriority {branches : List Branch} (h : ∀ b ∈ branches, b.rank ≠ .nan) {b : Branch} :
    b ∈ byPriority branches ↔ b ∈ branches := by
  rw [byPriority_eq h]
  exact (List.mergeSort_perm branches _).mem_iff

/-- Where the branches around one branch of an ordered list were added. -/
theorem byPriority_split {branches before after : List Branch} {b : Branch}
    (hranks : ∀ c ∈ branches, c.rank ≠ .nan) (h : byPriority branches = before ++ b :: after) :
    ∃ front back, branches = front ++ b :: back ∧
      (∀ c ∈ front, c ∈ before ∨ c ∈ after ∧ c.rank.lt b.rank = true) ∧
      ∀ c ∈ back, c ∈ before ∨ c ∈ after ∧ c.rank.le b.rank = true := by
  rw [byPriority_eq hranks] at h
  obtain ⟨front, back, rfl, hfront, hback⟩ :=
    mergeSort_split Branch.comesBefore_trans Branch.comesBefore_total h
  have hb : b.rank ≠ .nan := hranks b (by simp)
  refine ⟨front, back, rfl, ?_, ?_⟩
  · intro c hc
    have hrank : c.rank ≠ .nan := hranks c (by simp [hc])
    refine (hfront c hc).imp_right (And.imp_right fun hle => ?_)
    rw [Branch.rank_lt_iff hrank hb]
    simpa [Branch.comesBefore] using hle
  · intro c hc
    have hrank : c.rank ≠ .nan := hranks c (by simp [hc])
    refine (hback c hc).imp_right (And.imp_right fun hle => ?_)
    rw [Branch.rank_le_iff hrank hb]
    simpa [Branch.comesBefore] using hle

/-- Branches whose priorities are numbers, no two of them equal, come in one order. -/
theorem byPriority_eq_of_perm {branches others : List Branch}
    (hranks : ∀ b ∈ branches, b.rank ≠ .nan)
    (hdistinct : branches.Pairwise fun b c => b.rank.lt c.rank = true ∨ c.rank.lt b.rank = true)
    (h : others.Perm branches) : byPriority others = byPriority branches := by
  have hothers : ∀ b ∈ others, b.rank ≠ .nan := fun b hb => hranks b (h.subset hb)
  have hplaces : (branches.map Branch.place).Nodup := by
    rw [List.Nodup, List.pairwise_map]
    refine hdistinct.imp_of_mem fun {b c} hb hc hlt => ?_
    rw [Branch.rank_lt_iff (hranks b hb) (hranks c hc),
      Branch.rank_lt_iff (hranks c hc) (hranks b hb)] at hlt
    omega
  have hinj := List.inj_on_of_nodup_map hplaces
  rw [byPriority_eq hothers, byPriority_eq hranks]
  have hperm : (others.mergeSort Branch.comesBefore).Perm
      (branches.mergeSort Branch.comesBefore) :=
    (List.mergeSort_perm others _).trans (h.trans (List.mergeSort_perm branches _).symm)
  refine List.Perm.eq_of_pairwise ?_
    (List.pairwise_mergeSort Branch.comesBefore_trans Branch.comesBefore_total others)
    (List.pairwise_mergeSort Branch.comesBefore_trans Branch.comesBefore_total branches) hperm
  intro b c hb hc hbc hcb
  have hbmem : b ∈ branches := h.subset ((List.mergeSort_perm others _).subset hb)
  have hcmem : c ∈ branches := (List.mergeSort_perm branches _).subset hc
  simp only [Branch.comesBefore, decide_eq_true_eq] at hbc hcb
  exact hinj hbmem hcmem (by omega)

end MemoryStore

end BranchChoice
