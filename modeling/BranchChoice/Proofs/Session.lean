import BranchChoice.Proofs.Decision
import BranchChoice.Store.Session

/-!
# What the log holds

The log of a session only grows.  A decision adds one entry to it, if it selects a branch and the
log can be written, and none otherwise; the entry says what the answer says.

* `run_logs_grow` and `run_frame`: a dialogue with the stores of a session appends to the log and
  changes nothing else.
* `Session.decide_cases`: a decision ends where it started, or goes on with a branch chosen.
* `Session.run_log`: both together, for any step of any run.
-/

namespace BranchChoice

/-! ## Stores in their roles -/

/-- What a change of stores keeps, it keeps in every role. -/
theorem RoleStores.get_modify {α : Type} (part : MemoryStore → α) {f : MemoryStore → MemoryStore}
    (h : ∀ store, part (f store) = part store) (stores : RoleStores) (role role' : Role) :
    part ((stores.modify f role).get role') = part (stores.get role') := by
  cases stores with
  | shared store => exact h store
  | separate branches log actions =>
    cases role <;> cases role' <;> first | rfl | exact h _

theorem RoleStores.logs_append (stores : RoleStores) (entry : LogEntry) :
    ((stores.modify (·.append entry) .log).get .log).logs =
      (stores.get .log).logs ++ [entry] := by
  cases stores <;> rfl

namespace Session

/-! ## Calls -/

theorem append_of_outage {s : Session} {outage : Outage} (h : s.outages.lookup .log = some outage)
    (entry : LogEntry) : s.append entry = (.error ⟨.log, outage⟩, s) := by
  rw [append, guarded, h]

theorem append_of_healthy {s : Session} (h : s.outages.lookup .log = none) (entry : LogEntry) :
    s.append entry = (.ok (), { s with stores := s.stores.modify (·.append entry) .log }) := by
  rw [append, guarded, h]

/-- All but the log is as before. -/
structure Frame (s s' : Session) : Prop where
  branches : ∀ role, (s'.stores.get role).branches = (s.stores.get role).branches
  actions : ∀ role, (s'.stores.get role).actions = (s.stores.get role).actions
  outages : s'.outages = s.outages
  closes : s'.closes = s.closes

theorem Frame.refl (s : Session) : Frame s s :=
  ⟨fun _ => rfl, fun _ => rfl, rfl, rfl⟩

theorem Frame.trans {s₁ s₂ s₃ : Session} (h : Frame s₁ s₂) (h' : Frame s₂ s₃) : Frame s₁ s₃ where
  branches role := (h'.branches role).trans (h.branches role)
  actions role := (h'.actions role).trans (h.actions role)
  outages := h'.outages.trans h.outages
  closes := h'.closes.trans h.closes

theorem append_frame (entry : LogEntry) (s : Session) : Frame s (s.append entry).2 := by
  cases h : s.outages.lookup .log with
  | some outage =>
    rw [append_of_outage h]
    exact .refl s
  | none =>
    rw [append_of_healthy h]
    refine ⟨fun role => ?_, fun role => ?_, rfl, rfl⟩
    · exact RoleStores.get_modify (·.branches) (f := (·.append entry)) (fun _ => rfl) ..
    · exact RoleStores.get_modify (·.actions) (f := (·.append entry)) (fun _ => rfl) ..

theorem append_logs_grow (entry : LogEntry) (s : Session) :
    s.logs <+: (s.append entry).2.logs := by
  cases h : s.outages.lookup .log with
  | some outage =>
    have hlogs : (s.append entry).2.logs = s.logs := by rw [append_of_outage h]
    exact hlogs ▸ List.prefix_rfl
  | none =>
    rw [append_of_healthy h, logs, logs, RoleStores.logs_append]
    exact List.prefix_append ..

/-! ## Dialogues -/

/-- A dialogue changes nothing but the log. -/
theorem run_frame (d : Dialogue) : ∀ s, Frame s (d.run asStores s).2 := by
  induction d with
  | answer envelope => intro s; exact .refl s
  | listBranches workflowId resume ih => intro s; exact ih _ s
  | append entry resume ih => intro s; exact (append_frame entry s).trans (ih _ _)
  | listActions branchId resume ih => intro s; exact ih _ s

/-- A dialogue leaves what is in the log where it is. -/
theorem run_logs_grow (d : Dialogue) : ∀ s, s.logs <+: (d.run asStores s).2.logs := by
  induction d with
  | answer envelope => intro s; exact List.prefix_rfl
  | listBranches workflowId resume ih => intro s; exact ih _ s
  | append entry resume ih => intro s; exact (append_logs_grow entry s).trans (ih _ _)
  | listActions branchId resume ih => intro s; exact ih _ s

/-- **A decision ends where it started, or goes on with a branch chosen.** -/
theorem decide_cases (s : Session) (submission : Submission) (readings : Readings) :
    (∃ error, (submission.decide readings).run asStores s = (.ofError error, s)) ∨
      ∃ r context selected, submission.request = .ok r ∧
        r.contextNow readings.clock = .ok context ∧
        (submission.decide readings).run asStores s =
          (Dialogue.conclude r readings context selected).run asStores s := by
  cases hr : submission.request with
  | error flaw =>
    rw [Submission.decide_of_flaw hr]
    exact .inl ⟨_, rfl⟩
  | ok r =>
    rw [Submission.decide_of_request hr]
    have hfetch : asStores.listBranches r.workflowId s =
      (s.guarded .branches ((s.stores.get .branches).listBranches r.workflowId), s) := rfl
    cases hguarded : s.guarded .branches ((s.stores.get .branches).listBranches r.workflowId) with
    | error e =>
      rw [hguarded] at hfetch
      exact .inl ⟨_, run_of_unfetched hfetch⟩
    | ok branches =>
      rw [hguarded] at hfetch
      cases hchoose : chooseBranch r readings branches with
      | error error => exact .inl ⟨_, run_of_unchosen hfetch hchoose⟩
      | ok choice =>
        obtain ⟨context, selected⟩ := choice
        have hcontext := (chooseBranch_eq_ok_iff.1 hchoose).2.1
        exact .inr ⟨r, context, selected, rfl, hcontext, run_of_chosen hfetch hchoose⟩

/-! ## The entry of a decision -/

/-- The log after a decision, by its answer: one more entry after a decision that was made while the
log could be written, which says what the answer says, and none otherwise. -/
structure Logged (s : Session) (submission : Submission) (readings : Readings)
    (envelope : Envelope) (s' : Session) : Prop where
  /-- Nothing is logged about a decision that was not made. -/
  failure : ∀ response, envelope = .failure response → s'.logs = s.logs
  /-- Nothing is logged while the log cannot be written. -/
  outage : s.outages.lookup .log ≠ none → s'.logs = s.logs
  /-- The entry of a decision that was made. -/
  success : ∀ response, envelope = .success response → s.outages.lookup .log = none →
    ∃ r context, submission.request = .ok r ∧ r.contextNow readings.clock = .ok context ∧
      s'.logs = s.logs ++ [{
        workflowId := r.workflowId
        contactId := r.contactId
        branchId := response.branchId
        context := context
        confidence := response.confidence
        elapsed := response.elapsed }]
  /-- Branches and actions stay as they are. -/
  frame : Frame s s'

theorem decide_logged (s : Session) (submission : Submission) (readings : Readings) :
    Logged s submission readings ((submission.decide readings).run asStores s).1
      ((submission.decide readings).run asStores s).2 := by
  have hframe := run_frame (submission.decide readings) s
  rcases decide_cases s submission readings with
    ⟨error, hrun⟩ | ⟨r, context, selected, hr, hcontext, hrun⟩
  · rw [hrun] at hframe ⊢
    refine ⟨fun _ _ => rfl, fun _ => rfl, ?_, hframe⟩
    intro response h
    exact absurd h (by simp [Envelope.ofError])
  · rw [hrun] at hframe ⊢
    rw [run_conclude] at hframe ⊢
    refine ⟨?_, ?_, ?_, hframe⟩
    · intro response h
      exact absurd h (by simp)
    · intro houtage
      obtain ⟨outage, h⟩ := Option.ne_none_iff_exists'.1 houtage
      exact congrArg (fun outcome => outcome.2.logs) (append_of_outage h _)
    · intro response h hhealthy
      obtain rfl := Envelope.success.inj h
      refine ⟨r, context, hr, hcontext, ?_⟩
      have happend := append_of_healthy hhealthy (entryOf r readings context selected)
      exact (congrArg (fun outcome => outcome.2.logs) happend).trans
        (RoleStores.logs_append s.stores _)

/-! ## Steps and runs -/

/-- The step that decides a submission. -/
def Step.ofSubmission : Submission → Readings → Step
  | .value v, readings => .decide v readings
  | .accepted r, readings => .decideAccepted r readings

theorem step_ofSubmission (s : Session) (submission : Submission) (readings : Readings) :
    s.step (.ofSubmission submission readings) =
      (.decided ((submission.decide readings).run asStores s).1,
        ((submission.decide readings).run asStores s).2) := by
  cases submission <;> rfl

theorem step_logs_grow (s : Session) (step : Step) : s.logs <+: (s.step step).2.logs := by
  cases step with
  | decide v readings => exact run_logs_grow (BranchChoice.decide v readings) s
  | decideAccepted r readings => exact run_logs_grow (r.decide readings) s
  | append entry => exact append_logs_grow entry s
  | addBranch b =>
    have hlogs : (s.step (.addBranch b)).2.logs = s.logs :=
      RoleStores.get_modify (·.logs) (f := (·.addBranch b)) (fun _ => rfl) ..
    exact hlogs ▸ List.prefix_rfl
  | addAction a =>
    have hlogs : (s.step (.addAction a)).2.logs = s.logs :=
      RoleStores.get_modify (·.logs) (f := (·.addAction a)) (fun _ => rfl) ..
    exact hlogs ▸ List.prefix_rfl
  | listBranches _ | listActions _ | readLog | fail _ | close => exact List.prefix_rfl

theorem run_cons (s : Session) (first : Step) (rest : List Step) :
    s.run (first :: rest) =
      ((s.step first).1 :: ((s.step first).2.run rest).1, ((s.step first).2.run rest).2) :=
  rfl

theorem run_append (earlier later : List Step) :
    ∀ s : Session, s.run (earlier ++ later) =
      ((s.run earlier).1 ++ ((s.run earlier).2.run later).1, ((s.run earlier).2.run later).2) := by
  induction earlier with
  | nil => intro s; rfl
  | cons first rest ih =>
    intro s
    rw [List.cons_append, run_cons, run_cons, ih]
    rfl

theorem run_steps_grow (steps : List Step) : ∀ s : Session, s.logs <+: (s.run steps).2.logs := by
  induction steps with
  | nil => intro s; exact List.prefix_rfl
  | cons first rest ih =>
    intro s
    exact (step_logs_grow s first).trans (ih (s.step first).2)

/-- **What the log holds.**  However a session has gone so far, the log that it has now is the start
of every later log; and a decision for whatever is submitted next returns an answer, leaves branches
and actions as they are, and adds an entry to the log exactly if it was made while the log could be
written, one that says what the answer says. -/
theorem run_log (s₀ : Session) (earlier : List Step) :
    (∀ later, (s₀.run earlier).2.logs <+: (s₀.run (earlier ++ later)).2.logs) ∧
    ∀ submission readings, ∃ envelope,
      (s₀.run (earlier ++ [.ofSubmission submission readings])).1 =
        (s₀.run earlier).1 ++ [.decided envelope] ∧
      Logged (s₀.run earlier).2 submission readings envelope
        (s₀.run (earlier ++ [.ofSubmission submission readings])).2 := by
  refine ⟨fun later => ?_, fun submission readings => ?_⟩
  · rw [run_append]
    exact run_steps_grow later _
  · rw [run_append, run_cons, step_ofSubmission]
    exact ⟨_, rfl, decide_logged (s₀.run earlier).2 submission readings⟩

end Session

end BranchChoice
