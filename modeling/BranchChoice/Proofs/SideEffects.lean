import BranchChoice.Proofs.Decision

/-!
# Side effects do not decide

A decision hands its entry to the log and asks for actions only after a branch is selected, and goes
on in the same way whatever becomes of either call.

* `Envelope.SameDecision` is the part of two answers that side effects must not touch.
* `decide_sides` tells the two ways in which a decision can go apart by its branches alone.
* `decide_same_selection` puts two runs beside each other whose logs and action stores have nothing
  in common, and says what a run does owe to them: the actions, and one warning for each failed
  call.
-/

namespace BranchChoice

/-! ## What two runs have in common -/

/-- Two answers make the same decision: they fail alike, or select the same branch with the same
confidence after the same time. -/
inductive Envelope.SameDecision : Envelope → Envelope → Prop where
  | failure (response : FailureResponse) : SameDecision (.failure response) (.failure response)
  | success {r r' : Response} (branchName : r.branchName = r'.branchName)
      (branchId : r.branchId = r'.branchId) (confidence : r.confidence = r'.confidence)
      (elapsed : r.elapsed = r'.elapsed) : SameDecision (.success r) (.success r')

theorem Envelope.isSuccess_iff {envelope : Envelope} :
    envelope.isSuccess = true ↔ ∃ response, envelope = .success response := by
  cases envelope <;> simp [isSuccess]

section Runs

variable {σ τ ε δ : Type}

/-- Two stores in some states answer alike when they are asked for branches. -/
def Stores.SameBranches (stores : Stores σ ε) (s : σ) (others : Stores τ δ) (t : τ) : Prop :=
  ∀ workflowId, worded stores.wording (stores.listBranches workflowId s).1 =
    worded others.wording (others.listBranches workflowId t).1

/-- The warning about a call, if it failed: some words and the text of the failure. -/
def warningOf {α : Type} (words : String) (wording : ε → String) : Except ε α → List String
  | .ok _ => []
  | .error e => [words ++ wording e]

/-- The actions that were found, as rows; none if the call failed. -/
def rowsFound : Except ε (List Action) → List Fields
  | .ok actions => actions.map Action.toFields
  | .error _ => []

/-! ## One run -/

/-- What the branches are worth to a decision: the error that they end it with, or the selection. -/
def choiceFrom (r : Request) (readings : Readings) :
    Except String (List Branch) → Except DecisionError (Fields × ScoredBranch)
  | .error cause => .error (.branchFetch cause)
  | .ok branches => chooseBranch r readings branches

/-- What a decision comes to is settled by the branches alone. -/
theorem decide_sides (stores : Stores σ ε) (s : σ) (r : Request) (readings : Readings) :
    (r.decide readings).run stores s =
      match choiceFrom r readings
        (worded stores.wording (stores.listBranches r.workflowId s).1) with
      | .error e => (.ofError e, (stores.listBranches r.workflowId s).2)
      | .ok (context, selected) => (Dialogue.conclude r readings context selected).run stores
          (stores.listBranches r.workflowId s).2 := by
  have hcall : stores.listBranches r.workflowId s =
      ((stores.listBranches r.workflowId s).1, (stores.listBranches r.workflowId s).2) := rfl
  cases hfetch : (stores.listBranches r.workflowId s).1 with
  | error e =>
    rw [hfetch] at hcall
    rw [run_of_unfetched hcall]
    rfl
  | ok branches =>
    rw [hfetch] at hcall
    simp only [worded, choiceFrom]
    cases hchoose : chooseBranch r readings branches with
    | error e => rw [run_of_unchosen hcall hchoose]
    | ok choice =>
      obtain ⟨context, selected⟩ := choice
      rw [run_of_chosen hcall hchoose]

/-- The warning of an effect is told by the outcome of its call. -/
theorem warning?_effectOf {α : Type} (name words : String) (error : String → DecisionError)
    (wording : ε → String) (outcome : Except ε α)
    (hwords : ∀ cause, (error cause).kind.code ++ ": " ++ (error cause).message = words ++ cause) :
    (effectOf name error (worded wording outcome)).warning?.toList =
      warningOf words wording outcome := by
  cases outcome with
  | ok a => rfl
  | error e =>
    have htext := hwords (wording e)
    simp [worded, effectOf, EffectOutcome.warning?, warningOf, htext]

theorem logWrite_words (cause : String) :
    (DecisionError.logWrite cause).kind.code ++ ": " ++ (DecisionError.logWrite cause).message =
      "log_write_failed: Failed to log decision: " ++ cause := by
  have hcode : (DecisionError.logWrite cause).kind.code = "log_write_failed" := rfl
  have hmessage : (DecisionError.logWrite cause).message = "Failed to log decision: " ++ cause :=
    rfl
  have hhead : "log_write_failed" ++ ": " ++ "Failed to log decision: " =
      "log_write_failed: Failed to log decision: " := by simp
  rw [hcode, hmessage, ← String.append_assoc, hhead]

theorem actionFetch_words (cause : String) :
    (DecisionError.actionFetch cause).kind.code ++ ": " ++
        (DecisionError.actionFetch cause).message =
      "action_fetch_failed: Failed to fetch actions: " ++ cause := by
  have hcode : (DecisionError.actionFetch cause).kind.code = "action_fetch_failed" := rfl
  have hmessage : (DecisionError.actionFetch cause).message =
      "Failed to fetch actions: " ++ cause := rfl
  have hhead : "action_fetch_failed" ++ ": " ++ "Failed to fetch actions: " =
      "action_fetch_failed: Failed to fetch actions: " := by simp
  rw [hcode, hmessage, ← String.append_assoc, hhead]

theorem rowsFound_eq (wording : ε → String) (outcome : Except ε (List Action)) :
    ((worded wording outcome).toOption.getD []).map Action.toFields = rowsFound outcome := by
  cases outcome <;> rfl

/-- The answer once a branch is chosen: the side effects add the actions and the warnings. -/
theorem conclude_answer (stores : Stores σ ε) (s : σ) (r : Request) (readings : Readings)
    (context : Fields) (selected : ScoredBranch) :
    let logged := stores.append (entryOf r readings context selected) s
    let found := stores.listActions selected.branch.id logged.2
    ((Dialogue.conclude r readings context selected).run stores s).1 = .success {
      branchName := selected.branch.name
      branchId := selected.branch.id
      confidence := selected.confidence
      elapsed := readings.elapsed
      actions := rowsFound found.1
      warnings :=
        warningOf "log_write_failed: Failed to log decision: " stores.wording logged.1 ++
          warningOf "action_fetch_failed: Failed to fetch actions: " stores.wording found.1 } := by
  intro logged found
  have hwarnings (a b : EffectOutcome) :
      [a, b].filterMap (·.warning?) = a.warning?.toList ++ b.warning?.toList := by
    cases ha : a.warning? <;> cases hb : b.warning? <;> simp [ha, hb]
  rw [run_conclude]
  simp only [responseOf, hwarnings, warning?_effectOf _ _ _ _ _ logWrite_words,
    warning?_effectOf _ _ _ _ _ actionFetch_words, rowsFound_eq]
  rfl

/-! ## Two runs -/

/-- Decisions on branches that are worth the same are the same, whatever the side effects do. -/
theorem sameDecision_of_request (stores : Stores σ ε) (s : σ) (others : Stores τ δ) (t : τ)
    (h : stores.SameBranches s others t) (r : Request) (readings : Readings) :
    Envelope.SameDecision ((r.decide readings).run stores s).1
      ((r.decide readings).run others t).1 := by
  rw [decide_sides, decide_sides, h r.workflowId]
  cases choiceFrom r readings (worded others.wording (others.listBranches r.workflowId t).1) with
  | error e => exact .failure _
  | ok choice =>
    obtain ⟨context, selected⟩ := choice
    simp only [conclude_answer]
    exact .success rfl rfl rfl rfl

/-- A run that succeeds has made each call once, and owes its actions and warnings to the outcomes
of the last two. -/
theorem success_effects (stores : Stores σ ε) (s : σ) (submission : Submission)
    (readings : Readings) (response : Response)
    (h : ((submission.decide readings).run stores s).1 = .success response) :
    ∃ r entry, submission.request = .ok r ∧
      let logged := stores.append entry (stores.listBranches r.workflowId s).2
      let found := stores.listActions response.branchId logged.2
      (submission.decide readings).calls stores s =
          [.listBranches r.workflowId, .append entry, .listActions response.branchId] ∧
        response.actions = rowsFound found.1 ∧
        response.warnings =
          warningOf "log_write_failed: Failed to log decision: " stores.wording logged.1 ++
            warningOf "action_fetch_failed: Failed to fetch actions: " stores.wording found.1 := by
  cases hr : submission.request with
  | error flaw =>
    rw [Submission.decide_of_flaw hr] at h
    simp [Dialogue.run, Envelope.ofError] at h
  | ok r =>
    rw [Submission.decide_of_request hr] at h ⊢
    rw [decide_sides] at h
    have hchoice := decide_sides stores.recording (s, []) r readings
    have hfetched : worded stores.recording.wording
        (stores.recording.listBranches r.workflowId (s, [])).1 =
          worded stores.wording (stores.listBranches r.workflowId s).1 := rfl
    rw [hfetched] at hchoice
    cases hside : choiceFrom r readings
        (worded stores.wording (stores.listBranches r.workflowId s).1) with
    | error e =>
      rw [hside] at h
      simp [Envelope.ofError] at h
    | ok choice =>
      obtain ⟨context, selected⟩ := choice
      rw [hside] at h hchoice
      simp only [conclude_answer, Envelope.success.injEq] at h
      subst h
      refine ⟨r, entryOf r readings context selected, rfl, ?_, rfl, rfl⟩
      rw [Dialogue.calls, hchoice]
      rfl

/-- **Side effects do not decide.**  Two runs for the same submission and readings, over stores that
answer alike when asked for branches, make the same decision, whatever their logs and action stores
do.  What a run that succeeds owes to these is the actions, as they were found for the selected
branch, and a warning for each of the two calls that failed: no more, and in this order. -/
theorem decide_same_selection (stores : Stores σ ε) (s : σ) (others : Stores τ δ) (t : τ)
    (h : stores.SameBranches s others t) (submission : Submission) (readings : Readings) :
    Envelope.SameDecision ((submission.decide readings).run stores s).1
        ((submission.decide readings).run others t).1 ∧
      ∀ response, ((submission.decide readings).run stores s).1 = .success response →
        ∃ r entry, submission.request = .ok r ∧
          let logged := stores.append entry (stores.listBranches r.workflowId s).2
          let found := stores.listActions response.branchId logged.2
          (submission.decide readings).calls stores s =
              [.listBranches r.workflowId, .append entry, .listActions response.branchId] ∧
            response.actions = rowsFound found.1 ∧
            response.warnings =
              warningOf "log_write_failed: Failed to log decision: " stores.wording logged.1 ++
                warningOf "action_fetch_failed: Failed to fetch actions: " stores.wording
                  found.1 := by
  refine ⟨?_, success_effects stores s submission readings⟩
  cases hr : submission.request with
  | error flaw =>
    rw [Submission.decide_of_flaw hr]
    exact .failure _
  | ok r =>
    rw [Submission.decide_of_request hr]
    exact sameDecision_of_request stores s others t h r readings

/-- A store whose log is full, and one that keeps its log but has lost its actions: the same branch
is selected, and each run has its own warning. -/
theorem decide_same_selection_outages :
    let b : Branch := ⟨"b", "Branch", [], none, true, none⟩
    let mute : Stores Unit String :=
      ⟨fun _ s => (.ok [b], s), fun _ s => (.error "full", s),
        fun _ s => (.ok [⟨none, some "b", 0, []⟩], s), id⟩
    let bare : Stores Nat String :=
      ⟨fun _ n => (.ok [b], n), fun _ n => (.ok (), n + 1), fun _ n => (.error "lost", n), id⟩
    let readings : Readings := ⟨.ok (.ofInstant 0), .zero, .zero⟩
    let submission := Submission.value
      (.object [("workflow_id", .text "w"), ("contact_id", .text "c")])
    mute.SameBranches () bare 0 ∧
      Envelope.SameDecision ((submission.decide readings).run mute ()).1
        ((submission.decide readings).run bare 0).1 ∧
      (∃ response, ((submission.decide readings).run mute ()).1 = .success response ∧
        response.warnings = ["log_write_failed: Failed to log decision: " ++ "full"]) ∧
      ∃ response, ((submission.decide readings).run bare 0).1 = .success response ∧
        response.warnings = ["action_fetch_failed: Failed to fetch actions: " ++ "lost"] := by
  intro b mute bare readings submission
  have h : mute.SameBranches () bare 0 := fun _ => rfl
  have h' : bare.SameBranches 0 mute () := fun _ => rfl
  have hmute : ∃ response, ((submission.decide readings).run mute ()).1 = .success response :=
    Envelope.isSuccess_iff.1 (by decide +kernel)
  have hbare : ∃ response, ((submission.decide readings).run bare 0).1 = .success response :=
    Envelope.isSuccess_iff.1 (by decide +kernel)
  obtain ⟨hsame, hmuteEffects⟩ := decide_same_selection mute () bare 0 h submission readings
  obtain ⟨-, hbareEffects⟩ := decide_same_selection bare 0 mute () h' submission readings
  refine ⟨h, hsame, ?_, ?_⟩
  · obtain ⟨response, hresponse⟩ := hmute
    obtain ⟨r, entry, -, -, -, hwarnings⟩ := hmuteEffects response hresponse
    exact ⟨response, hresponse, hwarnings⟩
  · obtain ⟨response, hresponse⟩ := hbare
    obtain ⟨r, entry, -, -, -, hwarnings⟩ := hbareEffects response hresponse
    exact ⟨response, hresponse, hwarnings⟩

end Runs

end BranchChoice
