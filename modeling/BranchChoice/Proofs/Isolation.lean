import BranchChoice.Proofs.StoreSelection

/-!
# Workflows do not see each other

A store in memory drops the rows that are not asked for before it orders the others.  So a decision
owes nothing to the branches of other workflows, nor to the actions of branches that it does not
select: not even their places among the rows that it is made from, or a priority that compares with
nothing.

* `EditedIn` is what may become of a list whose items with some property are edited at will.
* `MemoryStore.listBranches_edited` and `MemoryStore.listActions_edited`: the rows that are asked
  for come as before.
* `MemoryStore.run_store` is a whole decision, its answer and what it leaves behind.
* `MemoryStore.decide_isolated`: both are as before.
-/

namespace BranchChoice

/-! ## Edits among items with a property -/

/-- A list edited among its items with a property: these are added and removed anywhere, while the
others are kept in their order.  An item that is changed or moved is removed and added. -/
inductive EditedIn {α : Type} (P : α → Prop) : List α → List α → Prop where
  | nil : EditedIn P [] []
  | keep (a : α) {l l' : List α} (h : EditedIn P l l') : EditedIn P (a :: l) (a :: l')
  | add {a : α} (ha : P a) {l l' : List α} (h : EditedIn P l l') : EditedIn P l (a :: l')
  | remove {a : α} (ha : P a) {l l' : List α} (h : EditedIn P l l') : EditedIn P (a :: l) l'

/-- A filter that drops the items with the property undoes the edits. -/
theorem EditedIn.filter_eq {α : Type} {P : α → Prop} {l l' : List α} (h : EditedIn P l l')
    {keeps : α → Bool} (hdrops : ∀ a, P a → keeps a = false) :
    l.filter keeps = l'.filter keeps := by
  induction h with
  | nil => rfl
  | keep a _ ih => rw [List.filter_cons, List.filter_cons, ih]
  | add ha _ ih => rw [List.filter_cons_of_neg (by simp [hdrops _ ha]), ih]
  | remove ha _ ih => rw [List.filter_cons_of_neg (by simp [hdrops _ ha]), ih]

namespace MemoryStore

/-! ## Rows of others -/

/-- A branch that belongs to another workflow. -/
def IsForeign (workflowId : String) (b : Branch) : Prop :=
  ∃ other, b.workflowId = some other ∧ other ≠ workflowId

/-- An action that is none of a branch's. -/
def IsUnrelated (branchId : String) (a : Action) : Prop :=
  a.branchId ≠ some branchId

section Rows

variable {store others : MemoryStore}

theorem isVisible_of_isForeign {workflowId : String} {b : Branch} (h : IsForeign workflowId b) :
    isVisible workflowId b = false := by
  obtain ⟨other, hother, hne⟩ := h
  rw [isVisible, hother]
  exact beq_false_of_ne hne

/-- The branches of a workflow come as before, whatever was done to those of others. -/
theorem listBranches_edited {workflowId : String}
    (h : EditedIn (IsForeign workflowId) store.branches others.branches) :
    store.listBranches workflowId = others.listBranches workflowId := by
  rw [listBranches, listBranches, h.filter_eq fun b hb => isVisible_of_isForeign hb]

/-- The actions of a branch come as before, whatever was done to those of others. -/
theorem listActions_edited {branchId : String}
    (h : EditedIn (IsUnrelated branchId) store.actions others.actions) :
    store.listActions branchId = others.listActions branchId := by
  rw [listActions, listActions, h.filter_eq fun a ha => beq_false_of_ne ha]

end Rows

/-! ## A whole decision -/

/-- The answer once a branch is chosen. -/
def answerFrom (store : MemoryStore) (readings : Readings) (selected : ScoredBranch) :
    Response where
  branchName := selected.branch.name
  branchId := selected.branch.id
  confidence := selected.confidence
  elapsed := readings.elapsed
  actions := (store.listActions selected.branch.id).map Action.toFields
  warnings := []

/-- A decision leaves the store as it was, or with one more entry in its log. -/
theorem run_store (store : MemoryStore) (r : Request) (readings : Readings) :
    (r.decide readings).run stores store =
      match chooseBranch r readings (store.listBranches r.workflowId) with
      | .error e => (.ofError e, store)
      | .ok (context, selected) => (.success (store.answerFrom readings selected),
          store.append (entryOf r readings context selected)) := by
  have hanswer := decide_store store r readings
  have hstate := congrArg Prod.snd (decide_sides stores store r readings)
  have hside : choiceFrom r readings (worded stores.wording
      (stores.listBranches r.workflowId store).1) =
        chooseBranch r readings (store.listBranches r.workflowId) := rfl
  rw [hside] at hstate
  cases hchoose : chooseBranch r readings (store.listBranches r.workflowId) with
  | error e =>
    rw [hchoose] at hanswer hstate
    exact Prod.ext hanswer hstate
  | ok choice =>
    obtain ⟨context, selected⟩ := choice
    rw [hchoose] at hanswer hstate
    exact Prod.ext hanswer hstate

/-- **Workflows do not see each other.**  Let the branches of other workflows be edited at will, and
also, if a branch is selected, the actions of all but this one.  Then the answer to a request is the
same, and so is the entry that is added to the log, which is none if no branch is selected. -/
theorem decide_isolated (store others : MemoryStore) (submission : Submission) (r : Request)
    (readings : Readings) (hr : submission.request = .ok r)
    (hbranches : EditedIn (IsForeign r.workflowId) store.branches others.branches)
    (hactions : ∀ response,
      ((submission.decide readings).run stores store).1 = .success response →
        EditedIn (IsUnrelated response.branchId) store.actions others.actions) :
    let before := (submission.decide readings).run stores store
    let after := (submission.decide readings).run stores others
    after.1 = before.1 ∧
      ∃ entry : Option LogEntry, entry.isSome = before.1.isSuccess ∧
        before.2.logs = store.logs ++ entry.toList ∧
        after.2.logs = others.logs ++ entry.toList := by
  intro before after
  have hbefore : before = (r.decide readings).run stores store :=
    congrArg (fun d => Dialogue.run stores d store) (Submission.decide_of_request hr readings)
  have hafter : after = (r.decide readings).run stores others :=
    congrArg (fun d => Dialogue.run stores d others) (Submission.decide_of_request hr readings)
  rw [run_store] at hbefore
  rw [run_store, ← listBranches_edited hbranches] at hafter
  cases hchoose : chooseBranch r readings (store.listBranches r.workflowId) with
  | error e =>
    simp only [hchoose] at hbefore hafter
    rw [hbefore, hafter]
    exact ⟨rfl, none, rfl, (List.append_nil _).symm, (List.append_nil _).symm⟩
  | ok choice =>
    obtain ⟨context, selected⟩ := choice
    simp only [hchoose] at hbefore hafter
    have hlist : store.listActions selected.branch.id = others.listActions selected.branch.id :=
      listActions_edited (hactions (store.answerFrom readings selected) (congrArg Prod.fst hbefore))
    have hsame : others.answerFrom readings selected = store.answerFrom readings selected := by
      rw [answerFrom, answerFrom, hlist]
    rw [hbefore, hafter, hsame]
    exact ⟨rfl, some (entryOf r readings context selected), rfl, rfl, rfl⟩

/-- Around two branches that a workflow sees, of which one has a priority that is not a number, a
foreign branch is moved, and another one added; the actions of the default branch are dropped.  The
other branch is selected before and after. -/
theorem decide_isolated_not_a_number :
    let own : Branch := ⟨"a", "Own", [("form_data.n", .int 1)], some .nan, false, some "w"⟩
    let common : Branch := ⟨"d", "Common", [], none, true, none⟩
    let foreign : Branch := ⟨"f", "Foreign", [], some (.ofInt 9), true, some "v"⟩
    let added : Branch := ⟨"g", "Added", [("form_data.n", .int 1)], some .nan, false, some ""⟩
    let act : Action := ⟨some "1", some "a", 1, []⟩
    let dropped : Action := ⟨some "0", some "d", 0, []⟩
    let store : MemoryStore := ⟨[foreign, own, common], [dropped, act], []⟩
    let others : MemoryStore := ⟨[own, added, common, foreign], [act], []⟩
    let readings : Readings := ⟨.ok (.ofInstant 0), .zero, .zero⟩
    let r : Request := ⟨"w", "c", some [("n", .int 1)], none, none⟩
    let submission := Submission.accepted r
    let before := (submission.decide readings).run stores store
    let after := (submission.decide readings).run stores others
    submission.request = .ok r ∧
      EditedIn (IsForeign r.workflowId) store.branches others.branches ∧
      (∀ response, before.1 = .success response →
        EditedIn (IsUnrelated response.branchId) store.actions others.actions) ∧
      before.1.isSuccess = true ∧ after.1 = before.1 ∧
      ∃ entry : Option LogEntry, entry.isSome = before.1.isSuccess ∧
        before.2.logs = store.logs ++ entry.toList ∧
        after.2.logs = others.logs ++ entry.toList := by
  intro own common foreign added act dropped store others readings r submission before after
  have hr : submission.request = .ok r := rfl
  have hforeign : IsForeign "w" foreign := ⟨"v", rfl, by decide⟩
  have hadded : IsForeign "w" added := ⟨"", rfl, by decide⟩
  have hbranches : EditedIn (IsForeign "w") store.branches others.branches :=
    .remove hforeign (.keep own (.add hadded (.keep common (.add hforeign .nil))))
  have hid : (before.1.toFields.lookup "branch_id").any (·.strictEquals (.text "a")) = true := by
    decide +kernel
  have hactions : ∀ response, before.1 = .success response →
      EditedIn (IsUnrelated response.branchId) store.actions others.actions := by
    intro response hresponse
    rw [hresponse] at hid
    have hselected : response.branchId = "a" := eq_of_beq hid
    have hdropped : IsUnrelated response.branchId dropped := by
      rw [hselected]
      simp [IsUnrelated, dropped]
    exact .remove hdropped (.keep act .nil)
  have hsuccess : before.1.isSuccess = true := by decide +kernel
  exact ⟨hr, hbranches, hactions, hsuccess,
    decide_isolated store others submission r readings hr hbranches hactions⟩

end MemoryStore

end BranchChoice
