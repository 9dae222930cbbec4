import BranchChoice.Proofs.SideEffects
import BranchChoice.Proofs.StableOrder

/-!
# What is selected from a store

From the rows of a store in memory to the answer: the rows that a workflow sees are ordered by
priority, and the first best one in this order is selected.  Said of the rows as they were added:

* `IsWinner`: a branch that is no default wins by its confidence, then by its priority, then by
  having been added first.
* `IsFallback`: where no branch reaches the threshold, a default one wins by its priority, then by
  having been added first.
* `decide_from_store`: the branch of an answer is one or the other; and where no two priorities are
  equal, the order in which the branches were added changes nothing.
-/

namespace BranchChoice

namespace MemoryStore

/-! ## Winning branches -/

/-- Of the branches with a property, one of the highest priority, and the first of these. -/
def IsFirstRanked (P : Branch → Prop) (branches : List Branch) (b : Branch) : Prop :=
  P b ∧ ∃ before after, branches = before ++ b :: after ∧
    (∀ c ∈ before, P c → c.rank.lt b.rank = true) ∧ ∀ c ∈ after, P c → c.rank.le b.rank = true

/-- A branch that a workflow sees, and that is no default. -/
def Competes (workflowId : String) (b : Branch) : Prop :=
  isVisible workflowId b = true ∧ b.isDefault = false

/-- A default branch that a workflow sees. -/
def FallsBack (workflowId : String) (b : Branch) : Prop :=
  isVisible workflowId b = true ∧ b.isDefault = true

/-- A branch that is selected for its confidence. -/
structure IsWinner (branches : List Branch) (workflowId : String) (context : Json) (b : Branch) :
    Prop where
  /-- Its confidence reaches the threshold. -/
  eligible : b.Eligible context
  /-- No other branch has a higher confidence. -/
  best : ∀ c ∈ branches, Competes workflowId c →
    (c.confidenceIn context).le (b.confidenceIn context) = true
  /-- Among those of the same confidence it is the first of the highest priority. -/
  first : IsFirstRanked
    (fun c => Competes workflowId c ∧ c.confidenceIn context = b.confidenceIn context) branches b

/-- A default branch that is selected because no other branch will do. -/
structure IsFallback (branches : List Branch) (workflowId : String) (context : Json) (b : Branch) :
    Prop where
  /-- No branch reaches the threshold. -/
  below : ∀ c ∈ branches, Competes workflowId c → ¬ c.Eligible context
  /-- Among the default branches it is the first of the highest priority. -/
  first : IsFirstRanked (FallsBack workflowId) branches b

/-! ## From the order of priorities to the order of adding -/

section Order

variable {store : MemoryStore} {workflowId : String} {context : Json} {b : Branch}

/-- All priorities that a workflow sees are numbers. -/
def Ranked (store : MemoryStore) (workflowId : String) : Prop :=
  ∀ b ∈ store.branches, isVisible workflowId b = true → b.rank ≠ .nan

theorem Ranked.filter (h : store.Ranked workflowId) :
    ∀ b ∈ store.branches.filter (isVisible workflowId), b.rank ≠ .nan := by
  intro b hb
  obtain ⟨hmem, hvisible⟩ := List.mem_filter.1 hb
  exact h b hmem hvisible

theorem mem_listBranches (h : store.Ranked workflowId) :
    b ∈ store.listBranches workflowId ↔
      b ∈ store.branches ∧ isVisible workflowId b = true := by
  rw [listBranches, mem_byPriority h.filter, List.mem_filter]

/-- Where the branches around one that is listed were added. -/
theorem listBranches_split (h : store.Ranked workflowId) {before after : List Branch}
    (hlist : store.listBranches workflowId = before ++ b :: after) :
    ∃ front back, store.branches = front ++ b :: back ∧
      (∀ c ∈ front, isVisible workflowId c = true →
        c ∈ before ∨ c ∈ after ∧ c.rank.lt b.rank = true) ∧
      ∀ c ∈ back, isVisible workflowId c = true →
        c ∈ before ∨ c ∈ after ∧ c.rank.le b.rank = true := by
  obtain ⟨front, back, heq, hfront, hback⟩ := byPriority_split h.filter hlist
  obtain ⟨front', others, hbranches, rfl, hothers⟩ := List.filter_eq_append_iff.1 heq
  obtain ⟨skipped, back', rfl, hskipped, -, rfl⟩ := List.filter_eq_cons_iff.1 hothers
  refine ⟨front' ++ skipped, back', by simp [hbranches], ?_, ?_⟩
  · intro c hc hvisible
    rcases List.mem_append.1 hc with hc | hc
    · exact hfront c (List.mem_filter.2 ⟨hc, hvisible⟩)
    · exact absurd hvisible (hskipped c hc)
  · intro c hc hvisible
    exact hback c (List.mem_filter.2 ⟨hc, hvisible⟩)

/-- A branch with a property that no branch listed before it has is the first of the highest
priority. -/
theorem isFirstRanked_of_listed (h : store.Ranked workflowId) {P : Branch → Prop}
    (hvisible : ∀ c, P c → isVisible workflowId c = true) (hb : P b) {before after : List Branch}
    (hlist : store.listBranches workflowId = before ++ b :: after)
    (hbefore : ∀ c ∈ before, ¬ P c) : IsFirstRanked P store.branches b := by
  obtain ⟨front, back, hbranches, hfront, hback⟩ := listBranches_split h hlist
  refine ⟨hb, front, back, hbranches, ?_, ?_⟩
  · intro c hc hP
    rcases hfront c hc (hvisible c hP) with hmem | ⟨-, hlt⟩
    · exact absurd hP (hbefore c hmem)
    · exact hlt
  · intro c hc hP
    rcases hback c hc (hvisible c hP) with hmem | ⟨-, hle⟩
    · exact absurd hP (hbefore c hmem)
    · exact hle

theorem isWinner_of_isFirstBest (h : store.Ranked workflowId)
    (hbest : Branch.IsFirstBest (store.listBranches workflowId) context b)
    (heligible : b.Eligible context) : IsWinner store.branches workflowId context b := by
  obtain ⟨before, after, hlist, hdefault, hbefore, hafter⟩ := hbest
  have hb : b ∈ store.listBranches workflowId := by simp [hlist]
  obtain ⟨-, hvisible⟩ := (mem_listBranches h).1 hb
  refine ⟨heligible, ?_, ?_⟩
  · intro c hc hcompetes
    have hmem : c ∈ before ++ b :: after := hlist ▸ (mem_listBranches h).2 ⟨hc, hcompetes.1⟩
    rcases List.mem_append.1 hmem with hmem | hmem
    · exact Binary64.le_of_lt (hbefore c hmem hcompetes.2)
    · rcases List.mem_cons.1 hmem with rfl | hmem
      · exact Binary64.le_refl (c.confidenceIn_ne_nan context)
      · exact hafter c hmem hcompetes.2
  · refine isFirstRanked_of_listed h (fun c hc => hc.1.1) ⟨⟨hvisible, hdefault⟩, rfl⟩ hlist ?_
    rintro c hc ⟨⟨-, hcdefault⟩, hsame⟩
    have hlt := hbefore c hc hcdefault
    rw [hsame] at hlt
    exact absurd hlt (by simp [Binary64.lt_irrefl])

theorem isFallback_of_isFirstDefault (h : store.Ranked workflowId)
    (hfirst : Branch.IsFirstDefault (store.listBranches workflowId) b)
    (hnone : ¬ ∃ c ∈ store.listBranches workflowId, c.Eligible context) :
    IsFallback store.branches workflowId context b := by
  obtain ⟨before, after, hlist, hdefault, hbefore⟩ := hfirst
  have hb : b ∈ store.listBranches workflowId := by simp [hlist]
  obtain ⟨-, hvisible⟩ := (mem_listBranches h).1 hb
  refine ⟨?_, ?_⟩
  · intro c hc hcompetes heligible
    exact hnone ⟨c, (mem_listBranches h).2 ⟨hc, hcompetes.1⟩, heligible⟩
  · refine isFirstRanked_of_listed h (fun c hc => hc.1) ⟨hvisible, hdefault⟩ hlist ?_
    rintro c hc ⟨-, hcdefault⟩
    simp [hbefore c hc] at hcdefault

/-- Whatever is selected among the branches listed wins, or is what there is to fall back to. -/
theorem selected_cases (h : store.Ranked workflowId) {selected : ScoredBranch}
    (hselect : selectBranch (store.listBranches workflowId) context = .ok selected) :
    IsWinner store.branches workflowId context selected.branch ∧
        selected.confidence = selected.branch.confidenceIn context ∨
      IsFallback store.branches workflowId context selected.branch ∧
        selected.confidence = ScoredBranch.defaultConfidence := by
  rcases selectBranch_cases hselect with ⟨b, hbest, hb, rfl⟩ | ⟨heligible, b, hfirst, rfl⟩
  · exact .inl ⟨isWinner_of_isFirstBest h hbest hb, rfl⟩
  · exact .inr ⟨isFallback_of_isFirstDefault h hfirst heligible, rfl⟩

end Order

/-! ## Decisions over a store in memory -/

section Decisions

variable {store : MemoryStore} {r : Request} {readings : Readings}

/-- A decision over a store in memory is a matter of the branches and the actions that it lists. -/
theorem decide_store (store : MemoryStore) (r : Request) (readings : Readings) :
    ((r.decide readings).run stores store).1 =
      match chooseBranch r readings (store.listBranches r.workflowId) with
      | .error e => .ofError e
      | .ok (_, selected) => .success {
          branchName := selected.branch.name
          branchId := selected.branch.id
          confidence := selected.confidence
          elapsed := readings.elapsed
          actions := (store.listActions selected.branch.id).map Action.toFields
          warnings := [] } := by
  rw [decide_sides]
  have hside : choiceFrom r readings (worded stores.wording
      (stores.listBranches r.workflowId store).1) =
        chooseBranch r readings (store.listBranches r.workflowId) := rfl
  rw [hside]
  cases chooseBranch r readings (store.listBranches r.workflowId) with
  | error e => rfl
  | ok choice =>
    obtain ⟨context, selected⟩ := choice
    simp only [conclude_answer]
    rfl

/-- **What is selected from a store.**  Where the priorities that the workflow sees are numbers, the
branch of an answer is the one that wins by confidence, priority and having been added first; or
else no branch reaches the threshold, and it is the default branch that wins by priority and having
been added first.  If no two of the priorities are equal, the branches may have been added in any
order. -/
theorem decide_from_store (store : MemoryStore) (submission : Submission) (r : Request)
    (readings : Readings) (hr : submission.request = .ok r) (h : store.Ranked r.workflowId) :
    (∀ response, ((submission.decide readings).run stores store).1 = .success response →
      ∃ context b, r.contextNow readings.clock = .ok context ∧
        response.branchId = b.id ∧ response.branchName = b.name ∧
        (IsWinner store.branches r.workflowId (.object context) b ∧
            response.confidence = b.confidenceIn (.object context) ∨
          IsFallback store.branches r.workflowId (.object context) b ∧
            response.confidence = ScoredBranch.defaultConfidence)) ∧
    ((store.branches.filter (isVisible r.workflowId)).Pairwise
        (fun b c => b.rank.lt c.rank = true ∨ c.rank.lt b.rank = true) →
      ∀ branches : List Branch, branches.Perm store.branches →
        ((submission.decide readings).run stores { store with branches := branches }).1 =
          ((submission.decide readings).run stores store).1) := by
  rw [Submission.decide_of_request hr, decide_store]
  refine ⟨?_, ?_⟩
  · intro response hresponse
    cases hchoose : chooseBranch r readings (store.listBranches r.workflowId) with
    | error e =>
      rw [hchoose] at hresponse
      simp [Envelope.ofError] at hresponse
    | ok choice =>
      obtain ⟨context, selected⟩ := choice
      rw [hchoose] at hresponse
      obtain ⟨-, hcontext, hselect⟩ := chooseBranch_eq_ok_iff.1 hchoose
      obtain rfl := Envelope.success.inj hresponse
      exact ⟨context, selected.branch, hcontext, rfl, rfl, selected_cases h hselect⟩
  · intro hdistinct branches hperm
    have hlist : byPriority (branches.filter (isVisible r.workflowId)) =
        byPriority (store.branches.filter (isVisible r.workflowId)) :=
      byPriority_eq_of_perm h.filter hdistinct (hperm.filter _)
    rw [decide_store]
    simp only [listBranches, hlist]
    rfl

/-- Of two branches with all conditions met, the one added later has the higher priority and is
selected, in whichever order they are added; a branch of another workflow has no number as its
priority. -/
theorem decide_from_store_later :
    let low : Branch := ⟨"low", "Low", [("form_data.n", .int 1)], none, false, none⟩
    let foreign : Branch := ⟨"foreign", "Foreign", [], some .nan, true, some "v"⟩
    let high : Branch :=
      ⟨"high", "High", [("form_data.n", .int 1)], some (.ofInt 2), false, some "w"⟩
    let store : MemoryStore := ⟨[low, foreign, high], [], []⟩
    let readings : Readings := ⟨.ok (.ofInstant 0), .zero, .zero⟩
    let r : Request := ⟨"w", "c", some [("n", .int 1)], none, none⟩
    let answer := fun store => (((Submission.accepted r).decide readings).run stores store).1
    store.Ranked "w" ∧
      answer { store with branches := [high, foreign, low] } = answer store ∧
      ∃ response, answer store = .success response ∧ ∃ context b,
        r.contextNow readings.clock = .ok context ∧
        response.branchId = b.id ∧ response.branchName = b.name ∧
        (IsWinner store.branches "w" (.object context) b ∧
            response.confidence = b.confidenceIn (.object context) ∨
          IsFallback store.branches "w" (.object context) b ∧
            response.confidence = ScoredBranch.defaultConfidence) := by
  intro low foreign high store readings r answer
  have hranked : store.Ranked "w" := by
    intro b hb hvisible
    simp only [store, List.mem_cons, List.not_mem_nil, or_false] at hb
    rcases hb with rfl | rfl | rfl
    · decide
    · exact absurd hvisible (by decide)
    · decide
  have hdistinct : (store.branches.filter (isVisible "w")).Pairwise
      fun b c => b.rank.lt c.rank = true ∨ c.rank.lt b.rank = true := by
    have hvisible : store.branches.filter (isVisible "w") = [low, high] := rfl
    have hlt : low.rank.lt high.rank = true := by decide +kernel
    simp [hvisible, hlt]
  have hperm : [high, foreign, low].Perm store.branches := by
    have hreverse : [high, foreign, low] = store.branches.reverse := rfl
    rw [hreverse]
    exact List.reverse_perm store.branches
  obtain ⟨hanswer, horder⟩ :=
    decide_from_store store (.accepted r) r readings rfl hranked
  have hlist : store.listBranches "w" = [high, low] := by
    have hpair : [high, low].Pairwise fun b c => b.comesBefore c = true := by decide +kernel
    have hvisible : ∀ b ∈ [high, low], b.rank ≠ .nan := by decide +kernel
    have hswap : byPriority (store.branches.filter (isVisible "w")) = byPriority [high, low] :=
      (byPriority_eq_of_perm hranked.filter hdistinct (List.Perm.swap low high [])).symm
    rw [listBranches, hswap, byPriority_eq hvisible, List.mergeSort_of_pairwise hpair]
  have hsuccess : (answer store).isSuccess = true := by
    simp only [answer, Submission.decide]
    rw [decide_store, hlist]
    decide +kernel
  obtain ⟨response, hresponse⟩ := Envelope.isSuccess_iff.1 hsuccess
  exact ⟨hranked, horder hdistinct _ hperm, response, hresponse, hanswer response hresponse⟩

end Decisions

end MemoryStore

end BranchChoice
