import BranchChoice.Proofs.Calls
import BranchChoice.Proofs.Isolation
import Mathlib.Logic.Function.Basic

/-!
# Decisions side by side

Several dialogues are under way over the same stores, and their calls follow one another in any
order.  Between two calls of one dialogue the others may have made any number of theirs.

* `Interleaved` is a run of several dialogues, one call of one of them at a time, and
  `Running.exists_interleaved_inTurn` says that running them one after the other is such a run.
* Over a store in memory a dialogue depends on the rows alone (`MemoryStore.run_of_sameRows`), and
  only adds to the log.  So what is left of each dialogue comes to the same whatever the others do:
  this is the invariant of a step (`MemoryStore.step_keeps`) and of a run
  (`MemoryStore.interleaved_keeps`).
* `MemoryStore.decide_undisturbed`: decisions do not interfere.
-/

namespace BranchChoice

/-! ## Several dialogues -/

/-- Dialogues under way: what is left of each of them, and the state of the stores. -/
structure Running (ι σ : Type) where
  left : ι → Dialogue
  state : σ

/-- Calls of several dialogues in their order, each with the one that made it. -/
abbrev Trace (ι : Type) := List (ι × Call)

section Interleaved

variable {ι σ ε : Type} [DecidableEq ι] {stores : Stores σ ε} {r r' r'' : Running ι σ}
  {trace trace' : Trace ι}

/-- A run of several dialogues: in each step one of them, whichever it is, makes its next call. -/
inductive Interleaved (stores : Stores σ ε) : Running ι σ → Trace ι → Running ι σ → Prop where
  | refl (r : Running ι σ) : Interleaved stores r [] r
  | step {r r' : Running ι σ} {i : ι} {c : Call} {d : Dialogue} {s : σ} {trace : Trace ι}
      (call : (r.left i).next? stores r.state = some (c, d, s))
      (rest : Interleaved stores ⟨Function.update r.left i d, s⟩ trace r') :
      Interleaved stores r ((i, c) :: trace) r'

theorem Interleaved.trans (h : Interleaved stores r trace r')
    (h' : Interleaved stores r' trace' r'') : Interleaved stores r (trace ++ trace') r'' := by
  induction h with
  | refl r => exact h'
  | step call _ ih => exact .step call (ih h')

namespace Running

/-- All dialogues have come to their answers. -/
def Finished (r : Running ι σ) : Prop :=
  ∀ i, ∃ envelope, r.left i = .answer envelope

/-- One dialogue is run to its answer, while the others wait. -/
def finish (stores : Stores σ ε) (r : Running ι σ) (i : ι) : Running ι σ where
  left := Function.update r.left i (.answer ((r.left i).run stores r.state).1)
  state := ((r.left i).run stores r.state).2

/-- One dialogue after the other is run to its answer. -/
def inTurn (stores : Stores σ ε) (r : Running ι σ) (order : List ι) : Running ι σ :=
  order.foldl (finish stores) r

theorem finish_of_answer {i : ι} {envelope : Envelope} (h : r.left i = .answer envelope) :
    r.finish stores i = r := by
  simp only [finish, h, Dialogue.run]
  rw [← h, Function.update_eq_self]

/-- The next call is made before a dialogue is run to its answer, or as a part of that. -/
theorem finish_of_next? {i : ι} {c : Call} {d : Dialogue} {s : σ}
    (h : (r.left i).next? stores r.state = some (c, d, s)) :
    finish stores ⟨Function.update r.left i d, s⟩ i = r.finish stores i := by
  simp only [finish, Function.update_self, Dialogue.run_of_next? h, Function.update_idem]

theorem finish_interleaved (stores : Stores σ ε) (i : ι) (d : Dialogue) (s : σ)
    (left : ι → Dialogue) (h : left i = d) :
    ∃ trace, Interleaved stores ⟨left, s⟩ trace (finish stores ⟨left, s⟩ i) := by
  induction d, s using Dialogue.next?_induction stores generalizing left with
  | answer envelope s =>
    refine ⟨[], ?_⟩
    rw [finish_of_answer h]
    exact .refl _
  | call d s c d' s' hnext ih =>
    subst h
    obtain ⟨trace, htrace⟩ := ih (Function.update left i d') (Function.update_self ..)
    refine ⟨(i, c) :: trace, .step hnext ?_⟩
    rw [← finish_of_next? (r := ⟨left, s⟩) hnext]
    exact htrace

theorem inTurn_interleaved (stores : Stores σ ε) (order : List ι) :
    ∀ r : Running ι σ, ∃ trace, Interleaved stores r trace (r.inTurn stores order) := by
  induction order with
  | nil => intro r; exact ⟨[], .refl r⟩
  | cons i order ih =>
    intro r
    obtain ⟨trace, htrace⟩ := finish_interleaved stores i (r.left i) r.state r.left rfl
    obtain ⟨trace', htrace'⟩ := ih (r.finish stores i)
    exact ⟨trace ++ trace', htrace.trans htrace'⟩

/-- An answer stays, and a dialogue whose turn comes has one. -/
theorem inTurn_answered (stores : Stores σ ε) {i : ι} (order : List ι) :
    ∀ r : Running ι σ, (i ∈ order ∨ ∃ envelope, r.left i = .answer envelope) →
      ∃ envelope, (r.inTurn stores order).left i = .answer envelope := by
  induction order with
  | nil => intro r h; exact h.resolve_left (List.not_mem_nil)
  | cons j order ih =>
    intro r h
    refine ih (r.finish stores j) ?_
    by_cases hij : i = j
    · subst hij
      exact .inr ⟨_, Function.update_self ..⟩
    · have hkept : (r.finish stores j).left i = r.left i := Function.update_of_ne hij ..
      rw [hkept]
      exact h.imp_left fun hmem => (List.mem_cons.1 hmem).resolve_left hij

/-- **Running dialogues one after the other is one way to interleave them**, in any order in which
each has its turn. -/
theorem exists_interleaved_inTurn (stores : Stores σ ε) (r : Running ι σ) (order : List ι)
    (h : ∀ i, i ∈ order) :
    ∃ trace, Interleaved stores r trace (r.inTurn stores order) ∧
      (r.inTurn stores order).Finished := by
  obtain ⟨trace, htrace⟩ := inTurn_interleaved stores order r
  exact ⟨trace, htrace, fun i => inTurn_answered stores order r (.inl (h i))⟩

end Running

end Interleaved

/-! ## Whose calls they are -/

/-- The entry that a call hands to the log. -/
def Call.entry? : Call → Option LogEntry
  | append entry => some entry
  | _ => none

namespace Trace

variable {ι : Type} [DecidableEq ι] {i j : ι} {c : Call} {trace : Trace ι} {e : LogEntry}

/-- The calls of one dialogue. -/
def own (i : ι) (trace : Trace ι) : List Call :=
  trace.filterMap fun (j, c) => if j = i then some c else none

/-- The entries that were handed to the log, each with the dialogue it came from. -/
def entries (trace : Trace ι) : List (ι × LogEntry) :=
  trace.filterMap fun (j, c) => c.entry?.map (j, ·)

theorem own_append (i : ι) (trace trace' : Trace ι) :
    own i (trace ++ trace') = own i trace ++ own i trace' :=
  List.filterMap_append ..

theorem own_cons_self : own i ((i, c) :: trace) = c :: own i trace := by
  simp [own]

theorem own_cons_of_ne (h : i ≠ j) : own j ((i, c) :: trace) = own j trace := by
  simp [own, h]

omit [DecidableEq ι] in
theorem entries_cons :
    entries ((i, c) :: trace) = (c.entry?.map (i, ·)).toList ++ entries trace := by
  simp only [entries, List.filterMap_cons]
  cases c.entry? <;> rfl

theorem mem_entries : (i, e) ∈ entries trace ↔ e ∈ (own i trace).filterMap Call.entry? := by
  simp only [entries, own, List.mem_filterMap, List.filterMap_filterMap]
  constructor
  · rintro ⟨⟨j, c⟩, hmem, hentry⟩
    obtain ⟨e', he', heq⟩ := Option.map_eq_some_iff.1 hentry
    obtain ⟨rfl, rfl⟩ := Prod.mk.inj heq
    exact ⟨(j, c), hmem, by simp [he']⟩
  · rintro ⟨⟨j, c⟩, hmem, hentry⟩
    by_cases hj : j = i
    · subst hj
      exact ⟨(j, c), hmem, by simpa using hentry⟩
    · simp [hj] at hentry

/-- How many entries came from a dialogue. -/
theorem count_entries : ((entries trace).map Prod.fst).count i =
    ((own i trace).filterMap Call.entry?).length := by
  induction trace with
  | nil => rfl
  | cons head trace ih =>
    obtain ⟨j, c⟩ := head
    rw [entries_cons, List.map_append, List.count_append, ih]
    by_cases hj : j = i
    · subst hj
      rw [own_cons_self]
      cases hc : c.entry? <;> simp [hc, Nat.add_comm]
    · rw [own_cons_of_ne hj]
      cases hc : c.entry? <;> simp [hj]

end Trace

namespace MemoryStore

/-! ## Dialogues with a store in memory -/

/-- Two stores have the same branches and actions; their logs may differ. -/
structure SameRows (s s' : MemoryStore) : Prop where
  branches : s.branches = s'.branches
  actions : s.actions = s'.actions

namespace SameRows

variable {s s' s'' : MemoryStore}

theorem refl (s : MemoryStore) : SameRows s s :=
  ⟨rfl, rfl⟩

theorem trans (h : SameRows s s') (h' : SameRows s' s'') : SameRows s s'' :=
  ⟨h.branches.trans h'.branches, h.actions.trans h'.actions⟩

end SameRows

/-- The store after a call. -/
def after (s : MemoryStore) : Call → MemoryStore
  | .append entry => s.append entry
  | _ => s

variable {s s' t : MemoryStore} {d d' : Dialogue} {c : Call}

theorem sameRows_after (s : MemoryStore) (c : Call) : SameRows s (s.after c) := by
  cases c <;> exact ⟨rfl, rfl⟩

theorem logs_after (s : MemoryStore) (c : Call) :
    (s.after c).logs = s.logs ++ c.entry?.toList := by
  cases c with
  | append entry => rfl
  | listBranches workflowId => exact (List.append_nil _).symm
  | listActions branchId => exact (List.append_nil _).symm

theorem SameRows.listBranches_eq (h : SameRows s s') (workflowId : String) :
    s.listBranches workflowId = s'.listBranches workflowId := by
  rw [listBranches, listBranches, h.branches]

theorem SameRows.listActions_eq (h : SameRows s s') (branchId : String) :
    s.listActions branchId = s'.listActions branchId := by
  rw [listActions, listActions, h.actions]

/-- The next call of a dialogue, and how it goes on, depend on the rows alone. -/
theorem next?_of_sameRows (h : SameRows s s') (hnext : d.next? stores s = some (c, d', t)) :
    t = s.after c ∧ d.next? stores s' = some (c, d', s'.after c) := by
  cases d with
  | answer envelope => simp [Dialogue.next?] at hnext
  | listBranches workflowId resume =>
    cases hnext
    simp [Dialogue.next?, stores, after, h.listBranches_eq]
  | append entry resume =>
    cases hnext
    simp [Dialogue.next?, stores, after]
  | listActions branchId resume =>
    cases hnext
    simp [Dialogue.next?, stores, after, h.listActions_eq]

theorem next?_state (hnext : d.next? stores s = some (c, d', t)) : t = s.after c :=
  (next?_of_sameRows (.refl s) hnext).1

/-- What a dialogue comes to depends on the rows alone. -/
theorem run_of_sameRows (d : Dialogue) (s s' : MemoryStore) (h : SameRows s s') :
    (d.run stores s).1 = (d.run stores s').1 ∧ d.calls stores s = d.calls stores s' := by
  induction d, s using Dialogue.next?_induction stores generalizing s' with
  | answer envelope s => exact ⟨rfl, rfl⟩
  | call d s c d' t hnext ih =>
    obtain ⟨rfl, hnext'⟩ := next?_of_sameRows h hnext
    have hafter : SameRows (s.after c) (s'.after c) := by
      cases c <;> exact ⟨h.branches, h.actions⟩
    obtain ⟨hanswer, hcalls⟩ := ih _ hafter
    rw [Dialogue.run_of_next? hnext, Dialogue.run_of_next? hnext', Dialogue.calls_of_next? hnext,
      Dialogue.calls_of_next? hnext', hcalls]
    exact ⟨hanswer, rfl⟩

/-- A dialogue adds to the log what it hands to it, and nothing else. -/
theorem run_logs (d : Dialogue) (s : MemoryStore) :
    (d.run stores s).2.logs = s.logs ++ (d.calls stores s).filterMap Call.entry? := by
  induction d, s using Dialogue.next?_induction stores with
  | answer envelope s => simp [Dialogue.run]
  | call d s c d' t hnext ih =>
    obtain rfl := next?_state hnext
    rw [Dialogue.run_of_next? hnext, Dialogue.calls_of_next? hnext, ih, logs_after]
    cases hc : c.entry? <;> simp [hc]

/-! ## Interleaved dialogues -/

section Interleaved

variable {ι : Type} [DecidableEq ι] {r r' : Running ι MemoryStore} {trace : Trace ι} {i : ι}

/-- A call of one dialogue leaves to each what it would have come to: the same answer, after the
same calls. -/
theorem step_keeps (hnext : (r.left i).next? stores r.state = some (c, d, s)) (j : ι) :
    ((r.left j).run stores r.state).1 = ((Function.update r.left i d j).run stores s).1 ∧
      (r.left j).calls stores r.state =
        Trace.own j [(i, c)] ++ (Function.update r.left i d j).calls stores s := by
  by_cases hij : i = j
  · subst hij
    rw [Function.update_self, Dialogue.run_of_next? hnext, Dialogue.calls_of_next? hnext,
      Trace.own_cons_self]
    exact ⟨rfl, rfl⟩
  · rw [Function.update_of_ne (Ne.symm hij), Trace.own_cons_of_ne hij]
    obtain rfl := next?_state hnext
    exact run_of_sameRows _ _ _ (sameRows_after r.state c)

/-- A run of interleaved dialogues leaves to each what it would have come to, and adds to the log
what they hand to it. -/
theorem interleaved_keeps (h : Interleaved stores r trace r') :
    SameRows r.state r'.state ∧
      r'.state.logs = r.state.logs ++ (Trace.entries trace).map Prod.snd ∧
      ∀ j, ((r.left j).run stores r.state).1 = ((r'.left j).run stores r'.state).1 ∧
        (r.left j).calls stores r.state =
          Trace.own j trace ++ (r'.left j).calls stores r'.state := by
  induction h with
  | refl r => exact ⟨.refl _, (List.append_nil _).symm, fun j => ⟨rfl, rfl⟩⟩
  | @step r r' i c d s trace hnext _ ih =>
    obtain ⟨hrows, hlogs, hleft⟩ := ih
    have hkept := step_keeps hnext
    obtain rfl := next?_state hnext
    refine ⟨(sameRows_after r.state c).trans hrows, ?_, ?_⟩
    · rw [hlogs, logs_after, Trace.entries_cons, List.map_append, List.append_assoc]
      cases c.entry? <;> rfl
    · intro j
      obtain ⟨hanswer, hcalls⟩ := hkept j
      obtain ⟨hanswer', hcalls'⟩ := hleft j
      refine ⟨hanswer.trans hanswer', ?_⟩
      show _ = Trace.own j ([(i, c)] ++ trace) ++ _
      rw [hcalls, hcalls', Trace.own_append, List.append_assoc]

/-! ## Decisions -/

/-- How a decision goes on after its first call, if a branch is chosen. -/
theorem decide_next? {request : Request} {readings : Readings} {context : Fields}
    {selected : ScoredBranch}
    (h : chooseBranch request readings (s.listBranches request.workflowId) =
      .ok (context, selected)) :
    (request.decide readings).next? stores s =
      some (.listBranches request.workflowId, .conclude request readings context selected, s) := by
  rw [decide_eq]
  simp [Dialogue.next?, stores, worded, h]

/-- A decision hands one entry to the log if it selects a branch, and none otherwise. -/
theorem exists_entry (store : MemoryStore) (submission : Submission) (readings : Readings) :
    ∃ entry : Option LogEntry,
      entry.isSome = ((submission.decide readings).run stores store).1.isSuccess ∧
      ((submission.decide readings).calls stores store).filterMap Call.entry? = entry.toList := by
  cases hr : submission.request with
  | error flaw =>
    rw [Submission.decide_of_flaw hr]
    exact ⟨none, rfl, rfl⟩
  | ok r =>
    rw [Submission.decide_of_request hr]
    have hlogs := run_logs (r.decide readings) store
    rw [run_store] at hlogs ⊢
    cases hchoose : chooseBranch r readings (store.listBranches r.workflowId) with
    | error e =>
      refine ⟨none, rfl, ?_⟩
      simpa [hchoose] using hlogs
    | ok choice =>
      obtain ⟨context, selected⟩ := choice
      refine ⟨some (entryOf r readings context selected), rfl, ?_⟩
      simpa [hchoose, append] using hlogs.symm

/-- What has become of dialogues that were interleaved over a store: no more and no less than if
each had had the store for itself. -/
structure Undisturbed (store : MemoryStore) (dialogues : ι → Dialogue) (trace : Trace ι)
    (final : Running ι MemoryStore) : Prop where
  /-- Each has the answer that it has alone. -/
  answers : ∀ i, final.left i = .answer ((dialogues i).run stores store).1
  /-- Each has made the calls that it makes alone. -/
  calls : ∀ i, trace.own i = (dialogues i).calls stores store
  /-- The branches and the actions are as before. -/
  rows : SameRows store final.state
  /-- The log has the entries that were handed to it, in the order of the calls. -/
  logs : final.state.logs = store.logs ++ trace.entries.map Prod.snd
  /-- No two entries came from one dialogue. -/
  once : (trace.entries.map Prod.fst).Nodup
  /-- One came from each dialogue that selects a branch, and none from another one. -/
  successes : ∀ i, i ∈ trace.entries.map Prod.fst ↔
    ((dialogues i).run stores store).1.isSuccess = true
  /-- Each is the entry that its dialogue adds to the log alone. -/
  entries : ∀ i e, (i, e) ∈ trace.entries →
    ((dialogues i).run stores store).2.logs = store.logs ++ [e]

/-- **Decisions do not interfere.**  However the calls of decisions over one store in memory are
interleaved, each comes to the answer that it comes to alone, and the log gets one entry from each
that selects a branch, in the order in which they are handed over.  Decisions that are made one
after the other, in any order, are a special case. -/
theorem decide_undisturbed (store : MemoryStore) (submissions : ι → Submission)
    (readings : ι → Readings) :
    let dialogues := fun i => (submissions i).decide (readings i)
    (∀ trace final, Interleaved stores ⟨dialogues, store⟩ trace final → final.Finished →
      Undisturbed store dialogues trace final) ∧
    ∀ order : List ι, (∀ i, i ∈ order) →
      let final := Running.inTurn stores ⟨dialogues, store⟩ order
      ∃ trace, Interleaved stores ⟨dialogues, store⟩ trace final ∧ final.Finished := by
  intro dialogues
  refine ⟨?_, fun order h => Running.exists_interleaved_inTurn stores _ order h⟩
  intro trace final hrun hfinished
  obtain ⟨hrows, hlogs, hkept⟩ := interleaved_keeps hrun
  have hanswers (i : ι) : final.left i = .answer ((dialogues i).run stores store).1 := by
    obtain ⟨envelope, henvelope⟩ := hfinished i
    rw [(hkept i).1, henvelope]
    rfl
  have hcalls (i : ι) : trace.own i = (dialogues i).calls stores store := by
    rw [(hkept i).2, hanswers i, Dialogue.calls_answer, List.append_nil]
  have hentry (i : ι) := exists_entry store (submissions i) (readings i)
  refine ⟨hanswers, hcalls, hrows, hlogs, ?_, fun i => ?_, fun i e he => ?_⟩
  · refine List.nodup_iff_count_le_one.2 fun i => ?_
    obtain ⟨entry, -, hentries⟩ := hentry i
    rw [Trace.count_entries, hcalls i, hentries]
    cases entry <;> simp
  · obtain ⟨entry, hsome, hentries⟩ := hentry i
    rw [← List.count_pos_iff, Trace.count_entries, hcalls i, hentries, ← hsome]
    cases entry <;> simp
  · obtain ⟨entry, -, hentries⟩ := hentry i
    rw [Trace.mem_entries, hcalls i, hentries] at he
    rw [run_logs, hentries, Option.mem_toList.1 he]
    rfl

/-- Two decisions about the same workflow that alternate: the one that began later is the first to
write to the log. -/
theorem decide_undisturbed_alternating :
    let b : Branch := ⟨"b", "Branch", [], none, true, none⟩
    let store : MemoryStore := ⟨[b], [⟨none, some "b", 0, []⟩], []⟩
    let requests : Bool → Request := fun i => ⟨"w", if i then "late" else "early", none, none, none⟩
    let readings : Bool → Readings := fun _ => ⟨.ok (.ofInstant 0), .zero, .zero⟩
    let dialogues := fun i => (Submission.accepted (requests i)).decide (readings i)
    ∃ trace final, Interleaved stores ⟨dialogues, store⟩ trace final ∧ final.Finished ∧
      Undisturbed store dialogues trace final ∧
      trace.map Prod.fst = [false, true, true, false, true, false] ∧
      final.state.logs.map (·.contactId) = ["late", "early"] := by
  intro b store requests readings dialogues
  have hlist : store.listBranches "w" = [b] := by
    have hvisible : store.branches.filter (isVisible "w") = [b] := rfl
    have hranked : ∀ b' ∈ [b], b'.rank ≠ .nan := by decide
    rw [listBranches, hvisible, byPriority_eq hranked, List.mergeSort_singleton]
  have hchosen (i : Bool) : ∃ context selected,
      chooseBranch (requests i) (readings i) (store.listBranches "w") =
        .ok (context, selected) := by
    have hok : (chooseBranch (requests i) (readings i) [b]).isOk = true := by
      cases i <;> decide +kernel
    rw [hlist]
    cases hchoose : chooseBranch (requests i) (readings i) [b] with
    | error e =>
      rw [hchoose] at hok
      exact Bool.noConfusion hok
    | ok choice => exact ⟨choice.1, choice.2, rfl⟩
  obtain ⟨context, selected, hearly⟩ := hchosen false
  obtain ⟨context', selected', hlate⟩ := hchosen true
  have hrun : ∃ trace final, Interleaved stores ⟨dialogues, store⟩ trace final ∧ final.Finished ∧
      trace.map Prod.fst = [false, true, true, false, true, false] ∧
      final.state.logs.map (·.contactId) = ["late", "early"] := by
    refine ⟨_, _, .step (i := false) (decide_next? hearly) (.step (i := true) (decide_next? hlate)
      (.step (i := true) rfl (.step (i := false) rfl (.step (i := true) rfl
        (.step (i := false) rfl (.refl _)))))), ?_, rfl, rfl⟩
    rintro (_ | _) <;> exact ⟨_, rfl⟩
  obtain ⟨trace, final, hinterleaved, hfinished, horder, hcontacts⟩ := hrun
  have hundisturbed := (decide_undisturbed store (fun i => .accepted (requests i)) readings).1
    trace final hinterleaved hfinished
  exact ⟨trace, final, hinterleaved, hfinished, hundisturbed, horder, hcontacts⟩

end Interleaved

end MemoryStore

end BranchChoice
