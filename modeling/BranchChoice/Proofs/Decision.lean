import BranchChoice.Decision
import BranchChoice.Proofs.Selection

/-!
# How a decision goes

A decision checks its request, asks for the branches, builds the context, selects, and only then
logs and asks for actions.  This file follows it through all its ways to fail.

* Every record made after the selection is accepted (`LogEntry.build_eq`, `EffectOutcome.build_eq`,
  `Response.build_eq`), because a selected confidence lies between zero and one
  (`selectBranch_isShare`).  So nothing fails any more once a branch is chosen: `decide_eq`.
* `run_of_chosen`, `run_of_failed` and `run_of_unfetched` are a decision with any stores.
* `Stores.recording` writes down the calls of stores without changing what they do
  (`run_recording`).
* `FirstFailure` lists the stages in their order, and `decide_first_failure` says that the first one
  that fails is what the answer and the calls tell of.
-/

namespace BranchChoice

/-! ## Records are accepted -/

@[simp] theorem LogEntry.build_eq (e : LogEntry) : e.build = .ok e := rfl

@[simp] theorem EffectOutcome.build_eq {α : Type} (name : String) (error : String → DecisionError)
    (outcome : Except String α) :
    (effectOf name error outcome).build = .ok (effectOf name error outcome) := by
  cases outcome <;> rfl

@[simp] theorem FailureResponse.read_toFields (r : FailureResponse) :
    FailureResponse.read (.object r.toFields) = .ok r := rfl

theorem Checked.items_map {α : Type} {check : Json → Checked α} {toJson : α → Json}
    (h : ∀ a, check (toJson a) = .accept a) (l : List α) :
    ∀ index, Checked.items check index (l.map toJson) = .accept l := by
  induction l with
  | nil => intro index; rfl
  | cons a rest ih =>
    intro index
    rw [List.map_cons, Checked.items, h a, ih (index + 1)]
    rfl

theorem Coercion.list_objects (l : List Fields) :
    list object (.list (l.map .object)) = .accept l := by
  have hobject (fields : Fields) : object (.object fields) = .accept fields := rfl
  exact Checked.items_map hobject l 0

theorem Coercion.list_texts (l : List String) : list text (.list (l.map .text)) = .accept l := by
  have htext (s : String) : text (.text s) = .accept s := rfl
  exact Checked.items_map htext l 0

theorem Fields.required_eq {α : Type} {row : Fields} {name : String} {check : Json → Checked α}
    {v : Json} {a : α} (hv : row.lookup name = some v) (ha : check v = .accept a) :
    row.required name check = .accept a := by
  simp only [required, hv, ha]
  rfl

theorem Fields.optional_eq {α : Type} {row : Fields} {name : String} {check : Json → Checked α}
    {default : α} {v : Json} {a : α} (hv : row.lookup name = some v) (ha : check v = .accept a) :
    row.optional name default check = .accept a := by
  simp only [optional, hv, ha]
  rfl

theorem Checked.of_inside {α : Type} {c : Checked α} {step : Step} {a : α}
    (h : c.inside step = .accept a) : c = .accept a := by
  cases c with
  | ok b => exact congrArg Except.ok (Except.ok.inj h)
  | error issues => cases h

theorem Fields.of_required {α : Type} {row : Fields} {name : String} {check : Json → Checked α}
    {a : α} (h : row.required name check = .accept a) :
    ∃ v, row.lookup name = some v ∧ check v = .accept a := by
  unfold required at h
  cases hv : row.lookup name with
  | none =>
    rw [hv] at h
    cases h
  | some v =>
    rw [hv] at h
    exact ⟨v, rfl, Checked.of_inside h⟩

theorem Fields.of_optional {α : Type} {row : Fields} {name : String} {check : Json → Checked α}
    {default a : α} (h : row.optional name default check = .accept a) :
    row.lookup name = none ∧ a = default ∨ ∃ v, row.lookup name = some v ∧ check v = .accept a := by
  unfold optional at h
  cases hv : row.lookup name with
  | none =>
    rw [hv] at h
    exact .inl ⟨rfl, (Except.ok.inj h).symm⟩
  | some v =>
    rw [hv] at h
    exact .inr ⟨v, rfl, Checked.of_inside h⟩

/-- An answer whose confidence is a share is accepted. -/
theorem Response.build_eq {r : Response} (h : r.confidence.IsShare) : r.build = .ok r := by
  have hconfidence : r.parts.required "confidence_score" Coercion.share = .accept r.confidence :=
    Fields.required_eq (by rfl) (Coercion.share_eq h)
  have hactions : r.parts.optional "actions_to_execute" [] (Coercion.list Coercion.object) =
      .accept r.actions := Fields.optional_eq (by rfl) (Coercion.list_objects r.actions)
  have hwarnings : r.parts.optional "warnings" [] (Coercion.list Coercion.text) =
      .accept r.warnings := Fields.optional_eq (by rfl) (Coercion.list_texts r.warnings)
  have hchecked : check (.object r.parts) = .accept r := by
    rw [check, Json.checkRow]
    rw [hconfidence, hactions, hwarnings]
    rfl
  rw [build, read, hchecked]
  rfl

/-! ## After the selection -/

/-- What is left of a decision once a branch is chosen: both side effects, and the answer. -/
def Dialogue.conclude (request : Request) (readings : Readings) (context : Fields)
    (selected : ScoredBranch) : Dialogue :=
  .append (entryOf request readings context selected) fun logged =>
    .listActions selected.branch.id fun found =>
      .answer (.success (responseOf readings selected
        [effectOf "log_decision" .logWrite logged, effectOf "fetch_actions" .actionFetch found]
        (found.toOption.getD [])))

section Choice

variable {request : Request} {readings : Readings} {branches : List Branch} {context : Fields}
  {selected : ScoredBranch}

theorem chooseBranch_eq_ok_iff :
    chooseBranch request readings branches = .ok (context, selected) ↔
      branches ≠ [] ∧ request.contextNow readings.clock = .ok context ∧
        selectBranch branches (.object context) = .ok selected := by
  unfold chooseBranch
  cases branches with
  | nil => simp
  | cons b rest =>
    cases hcontext : request.contextNow readings.clock with
    | error e => simp
    | ok c =>
      have hne : b :: rest ≠ [] := List.cons_ne_nil b rest
      dsimp only
      constructor
      · intro h
        cases hselect : selectBranch (b :: rest) (.object c) with
        | error e => cases e <;> simp [hselect] at h
        | ok s =>
          simp only [hselect, List.isEmpty_cons, Bool.false_eq_true, if_false, Except.ok.injEq,
            Prod.mk.injEq] at h
          obtain ⟨rfl, rfl⟩ := h
          exact ⟨hne, rfl, hselect⟩
      · rintro ⟨-, hc, hselect⟩
        obtain rfl := Except.ok.inj hc
        simp [hselect]

theorem chooseBranch_isShare
    (h : chooseBranch request readings branches = .ok (context, selected)) :
    selected.confidence.IsShare :=
  selectBranch_isShare (chooseBranch_eq_ok_iff.1 h).2.2

theorem chooseBranch_of_clock {e : ClockError} (hne : branches ≠ [])
    (h : request.contextNow readings.clock = .error e) :
    chooseBranch request readings branches = .error (.unexpected e.message) := by
  have hempty : branches.isEmpty = false := List.isEmpty_eq_false_iff.2 hne
  simp [chooseBranch, hempty, h]

theorem chooseBranch_of_select {error : SelectionError} (hne : branches ≠ [])
    (hcontext : request.contextNow readings.clock = .ok context)
    (h : selectBranch branches (.object context) = .error error) :
    chooseBranch request readings branches =
      .error (match error with
        | .unscored e => .unexpected e.message
        | .noSuitable => .noSuitableBranch) := by
  have hempty : branches.isEmpty = false := List.isEmpty_eq_false_iff.2 hne
  simp only [chooseBranch, hempty, hcontext, h]
  cases error <;> rfl

end Choice

/-- **Nothing fails once a branch is chosen.**  The records that are made from then on are all
accepted. -/
theorem decide_eq (request : Request) (readings : Readings) :
    request.decide readings = .listBranches request.workflowId fun fetched =>
      match fetched with
      | .error cause => .answer (.ofError (.branchFetch cause))
      | .ok branches =>
        match chooseBranch request readings branches with
        | .error e => .answer (.ofError e)
        | .ok (context, selected) => .conclude request readings context selected := by
  unfold Request.decide
  congr 1
  funext fetched
  cases fetched with
  | error cause => rfl
  | ok branches =>
    cases hchoose : chooseBranch request readings branches with
    | error e => simp only [hchoose]
    | ok choice =>
      obtain ⟨context, selected⟩ := choice
      simp only [hchoose, LogEntry.build_eq, EffectOutcome.build_eq, Dialogue.withRecord]
      rw [Dialogue.conclude]
      congr 1
      funext logged
      congr 1
      funext found
      rw [Response.build_eq (chooseBranch_isShare hchoose)]

/-! ## With stores -/

section Run

variable {σ ε : Type} {stores : Stores σ ε} {s s' : σ} {request : Request} {readings : Readings}
  {branches : List Branch}

theorem run_of_unfetched {e : ε} (h : stores.listBranches request.workflowId s = (.error e, s')) :
    (request.decide readings).run stores s =
      (.ofError (.branchFetch (stores.wording e)), s') := by
  rw [decide_eq, Dialogue.run, h]
  rfl

theorem run_of_unchosen {error : DecisionError}
    (h : stores.listBranches request.workflowId s = (.ok branches, s'))
    (hchoose : chooseBranch request readings branches = .error error) :
    (request.decide readings).run stores s = (.ofError error, s') := by
  rw [decide_eq, Dialogue.run, h]
  simp only [worded, hchoose, Dialogue.run]

theorem run_of_chosen {context : Fields} {selected : ScoredBranch}
    (h : stores.listBranches request.workflowId s = (.ok branches, s'))
    (hchoose : chooseBranch request readings branches = .ok (context, selected)) :
    (request.decide readings).run stores s =
      (Dialogue.conclude request readings context selected).run stores s' := by
  rw [decide_eq, Dialogue.run, h]
  simp only [worded, hchoose]

end Run

/-! ## Calls -/

/-- A call of a store. -/
inductive Call where
  | listBranches (workflowId : String)
  | append (entry : LogEntry)
  | listActions (branchId : String)

/-- Stores that write down, beside their state, how they are called. -/
def Stores.recording {σ ε : Type} (stores : Stores σ ε) : Stores (σ × List Call) ε where
  listBranches workflowId s :=
    let (outcome, s') := stores.listBranches workflowId s.1
    (outcome, s', s.2 ++ [.listBranches workflowId])
  append entry s :=
    let (outcome, s') := stores.append entry s.1
    (outcome, s', s.2 ++ [.append entry])
  listActions branchId s :=
    let (outcome, s') := stores.listActions branchId s.1
    (outcome, s', s.2 ++ [.listActions branchId])
  wording := stores.wording

/-- The calls that a dialogue makes of some stores, in their order. -/
def Dialogue.calls {σ ε : Type} (stores : Stores σ ε) (d : Dialogue) (s : σ) : List Call :=
  (d.run stores.recording (s, [])).2.2

/-- Writing down the calls changes neither the answer nor the state after it. -/
theorem run_recording {σ ε : Type} (stores : Stores σ ε) (d : Dialogue) :
    ∀ (s : σ) (calls : List Call),
      (d.run stores.recording (s, calls)).1 = (d.run stores s).1 ∧
        (d.run stores.recording (s, calls)).2.1 = (d.run stores s).2 := by
  induction d with
  | answer envelope => intro s calls; exact ⟨rfl, rfl⟩
  | listBranches workflowId resume ih => intro s calls; exact ih _ _ _
  | append entry resume ih => intro s calls; exact ih _ _ _
  | listActions branchId resume ih => intro s calls; exact ih _ _ _

/-! ## The first stage that fails -/

/-- What a decision is asked for: any value, or a request that has been accepted. -/
inductive Submission where
  | value (v : Json)
  | accepted (request : Request)

namespace Submission

/-- The request, or what is wrong with it. -/
def request : Submission → Except RequestFlaw Request
  | value v => Request.ofJson v
  | accepted request => .ok request

/-- The decision for a submission. -/
def decide (submission : Submission) (readings : Readings) : Dialogue :=
  match submission with
  | value v => BranchChoice.decide v readings
  | accepted request => request.decide readings

theorem decide_of_flaw {submission : Submission} {flaw : RequestFlaw}
    (h : submission.request = .error flaw) (readings : Readings) :
    submission.decide readings = .answer (.ofError (.invalidRequest flaw)) := by
  cases submission with
  | value v => rw [request] at h; rw [decide, BranchChoice.decide, h]
  | accepted r => simp [request] at h

theorem decide_of_request {submission : Submission} {r : Request}
    (h : submission.request = .ok r) (readings : Readings) :
    submission.decide readings = r.decide readings := by
  cases submission with
  | value v => rw [request] at h; rw [decide, BranchChoice.decide, h]
  | accepted r' => rw [decide, Except.ok.inj h]

end Submission

section Stages

variable {σ ε : Type}

/-- The first stage of a decision that fails, known by its error.  Each stage is one that is only
reached if those above it did not fail. -/
inductive FirstFailure (stores : Stores σ ε) (s : σ) (submission : Submission)
    (readings : Readings) : DecisionError → Prop
  /-- The request is not accepted. -/
  | request {flaw : RequestFlaw} (h : submission.request = .error flaw) :
      FirstFailure stores s submission readings (.invalidRequest flaw)
  /-- The branches cannot be fetched. -/
  | fetch {r : Request} {e : ε} (hr : submission.request = .ok r)
      (h : (stores.listBranches r.workflowId s).1 = .error e) :
      FirstFailure stores s submission readings (.branchFetch (stores.wording e))
  /-- There are no branches. -/
  | empty {r : Request} (hr : submission.request = .ok r)
      (h : (stores.listBranches r.workflowId s).1 = .ok []) :
      FirstFailure stores s submission readings .noBranches
  /-- The clock shows nothing, or nothing that can be written as a time. -/
  | clock {r : Request} {branches : List Branch} {e : ClockError}
      (hr : submission.request = .ok r)
      (hfetch : (stores.listBranches r.workflowId s).1 = .ok branches) (hne : branches ≠ [])
      (h : r.contextNow readings.clock = .error e) :
      FirstFailure stores s submission readings (.unexpected e.message)
  /-- Some condition of a branch that is no default has no truth value. -/
  | condition {r : Request} {branches : List Branch} {context : Fields} {e : Pattern.Refusal}
      (hr : submission.request = .ok r)
      (hfetch : (stores.listBranches r.workflowId s).1 = .ok branches) (hne : branches ≠ [])
      (hcontext : r.contextNow readings.clock = .ok context)
      (h : (Branch.allRefusals branches (.object context)).head? = some e) :
      FirstFailure stores s submission readings (.unexpected e.message)
  /-- No branch reaches the threshold, and none is a default. -/
  | selection {r : Request} {branches : List Branch} {context : Fields}
      (hr : submission.request = .ok r)
      (hfetch : (stores.listBranches r.workflowId s).1 = .ok branches) (hne : branches ≠ [])
      (hcontext : r.contextNow readings.clock = .ok context)
      (hall : Branch.AllEvaluate branches (.object context))
      (hnone : ¬ ∃ b ∈ branches, b.Eligible (.object context))
      (hdefault : ¬ ∃ b ∈ branches, b.isDefault = true) :
      FirstFailure stores s submission readings .noSuitableBranch

variable {stores : Stores σ ε} {s : σ} {submission : Submission} {readings : Readings}
  {r : Request}

theorem recording_listBranches {workflowId : String} {outcome : Except ε (List Branch)}
    (h : (stores.listBranches workflowId s).1 = outcome) (calls : List Call) :
    stores.recording.listBranches workflowId (s, calls) =
      (outcome, (stores.listBranches workflowId s).2, calls ++ [.listBranches workflowId]) := by
  rw [← h]
  rfl

theorem recorded_of_unfetched {e : ε} (hr : submission.request = .ok r)
    (h : (stores.listBranches r.workflowId s).1 = .error e) :
    (submission.decide readings).run stores.recording (s, []) =
      (.ofError (.branchFetch (stores.wording e)), (stores.listBranches r.workflowId s).2,
        [.listBranches r.workflowId]) := by
  rw [Submission.decide_of_request hr]
  exact run_of_unfetched (recording_listBranches h [])

theorem recorded_of_unchosen {branches : List Branch} {error : DecisionError}
    (hr : submission.request = .ok r)
    (hfetch : (stores.listBranches r.workflowId s).1 = .ok branches)
    (h : chooseBranch r readings branches = .error error) :
    (submission.decide readings).run stores.recording (s, []) =
      (.ofError error, (stores.listBranches r.workflowId s).2, [.listBranches r.workflowId]) := by
  rw [Submission.decide_of_request hr]
  exact run_of_unchosen (recording_listBranches hfetch []) h

/-- The calls of a decision for a submission that goes no further than the branches. -/
def Submission.fetches (submission : Submission) : List Call :=
  match submission.request with
  | .error _ => []
  | .ok r => [.listBranches r.workflowId]

theorem FirstFailure.recorded {error : DecisionError}
    (h : FirstFailure stores s submission readings error) :
    ∃ s', (submission.decide readings).run stores.recording (s, []) =
      (.ofError error, s', submission.fetches) := by
  cases h with
  | request hflaw =>
    refine ⟨s, ?_⟩
    rw [Submission.decide_of_flaw hflaw, Submission.fetches, hflaw]
    rfl
  | fetch hr h =>
    rw [Submission.fetches, hr]
    exact ⟨_, recorded_of_unfetched hr h⟩
  | empty hr h =>
    rw [Submission.fetches, hr]
    exact ⟨_, recorded_of_unchosen hr h rfl⟩
  | clock hr hfetch hne h =>
    rw [Submission.fetches, hr]
    exact ⟨_, recorded_of_unchosen hr hfetch (chooseBranch_of_clock hne h)⟩
  | condition hr hfetch hne hcontext h =>
    rw [Submission.fetches, hr]
    have hselect := selectBranch_stops h
    exact ⟨_, recorded_of_unchosen hr hfetch (chooseBranch_of_select hne hcontext hselect)⟩
  | selection hr hfetch hne hcontext hall hnone hdefault =>
    rw [Submission.fetches, hr]
    have hselect := selectBranch_of_none hall hnone hdefault
    exact ⟨_, recorded_of_unchosen hr hfetch (chooseBranch_of_select hne hcontext hselect)⟩

/-- If no stage fails, a branch is chosen. -/
theorem chosen_of_no_failure
    (h : ∀ error, ¬ FirstFailure stores s submission readings error) :
    ∃ r branches context selected, submission.request = .ok r ∧
      (stores.listBranches r.workflowId s).1 = .ok branches ∧
        chooseBranch r readings branches = .ok (context, selected) := by
  cases hr : submission.request with
  | error flaw => exact absurd (.request hr) (h _)
  | ok r =>
    cases hfetch : (stores.listBranches r.workflowId s).1 with
    | error e => exact absurd (.fetch hr hfetch) (h _)
    | ok branches =>
      by_cases hne : branches = []
      · subst hne
        exact absurd (.empty hr hfetch) (h _)
      · cases hcontext : r.contextNow readings.clock with
        | error e => exact absurd (.clock hr hfetch hne hcontext) (h _)
        | ok context =>
          have hall : Branch.AllEvaluate branches (.object context) := by
            by_contra hstop
            obtain ⟨e, he⟩ := Branch.not_allEvaluate_iff.1 hstop
            exact h _ (.condition hr hfetch hne hcontext he)
          have hsome : (∃ b ∈ branches, b.Eligible (.object context)) ∨
              ∃ b ∈ branches, b.isDefault = true := by
            by_contra hneither
            obtain ⟨hnone, hdefault⟩ := not_or.1 hneither
            exact h _ (.selection hr hfetch hne hcontext hall hnone hdefault)
          obtain ⟨selected, hselected⟩ := exists_selected hall hsome
          exact ⟨r, branches, context, selected, rfl, hfetch,
            chooseBranch_eq_ok_iff.2 ⟨hne, hcontext, hselected⟩⟩

/-- Both side effects are asked for, one after the other, whatever becomes of them. -/
theorem run_conclude (stores : Stores σ ε) (s : σ) (r : Request) (readings : Readings)
    (context : Fields) (selected : ScoredBranch) :
    (Dialogue.conclude r readings context selected).run stores s =
      let logged := stores.append (entryOf r readings context selected) s
      let found := stores.listActions selected.branch.id logged.2
      (.success (responseOf readings selected
        [effectOf "log_decision" .logWrite (worded stores.wording logged.1),
          effectOf "fetch_actions" .actionFetch (worded stores.wording found.1)]
        ((worded stores.wording found.1).toOption.getD [])), found.2) :=
  rfl

theorem recorded_of_chosen {branches : List Branch} {context : Fields} {selected : ScoredBranch}
    (hr : submission.request = .ok r)
    (hfetch : (stores.listBranches r.workflowId s).1 = .ok branches)
    (h : chooseBranch r readings branches = .ok (context, selected)) :
    ∃ effects actions s', (submission.decide readings).run stores.recording (s, []) =
      (.success (responseOf readings selected effects actions), s',
        [.listBranches r.workflowId, .append (entryOf r readings context selected),
          .listActions selected.branch.id]) := by
  have hrun := (run_of_chosen (recording_listBranches hfetch []) h).trans (run_conclude ..)
  rw [Submission.decide_of_request hr, hrun]
  exact ⟨_, _, _, rfl⟩

/-- The answer is accepted as a row of its own kind. -/
def Envelope.Accepted : Envelope → Prop
  | success response => response.build = .ok response
  | failure response => FailureResponse.read (.object response.toFields) = .ok response

/-- **The first stage that fails decides.**  With any stores and clocks, a decision answers.  If a
stage fails, the answer tells of the first one that does, and no store has been called unless the
request was accepted, then only for the branches, once.  If none fails, a branch is selected, and
each store has been called once: for the branches, for the log, and for the actions.  The answer is
always one that is accepted as such. -/
theorem decide_first_failure (stores : Stores σ ε) (s : σ) (submission : Submission)
    (readings : Readings) :
    (∀ error, FirstFailure stores s submission readings error →
      ((submission.decide readings).run stores s).1 = .ofError error ∧
        (submission.decide readings).calls stores s = submission.fetches) ∧
    ((∀ error, ¬ FirstFailure stores s submission readings error) →
      ∃ r entry response, submission.request = .ok r ∧
        ((submission.decide readings).run stores s).1 = .success response ∧
        (submission.decide readings).calls stores s =
          [.listBranches r.workflowId, .append entry, .listActions response.branchId]) ∧
    ((submission.decide readings).run stores s).1.Accepted := by
  have hanswer := (run_recording stores (submission.decide readings) s []).1
  have hfailed (error : DecisionError) (h : FirstFailure stores s submission readings error) :
      ((submission.decide readings).run stores s).1 = .ofError error ∧
        (submission.decide readings).calls stores s = submission.fetches := by
    obtain ⟨s', hrun⟩ := h.recorded
    rw [← hanswer, Dialogue.calls, hrun]
    exact ⟨rfl, rfl⟩
  by_cases hfailure : ∃ error, FirstFailure stores s submission readings error
  · obtain ⟨error, herror⟩ := hfailure
    refine ⟨hfailed, fun hnone => absurd herror (hnone error), ?_⟩
    rw [(hfailed error herror).1]
    exact FailureResponse.read_toFields _
  · have hnone : ∀ error, ¬ FirstFailure stores s submission readings error :=
      fun error h => hfailure ⟨error, h⟩
    obtain ⟨r, branches, context, selected, hr, hfetch, hchoose⟩ := chosen_of_no_failure hnone
    obtain ⟨effects, actions, s', hrun⟩ := recorded_of_chosen hr hfetch hchoose
    have hsuccess : ((submission.decide readings).run stores s).1 =
        .success (responseOf readings selected effects actions) := by
      rw [← hanswer, hrun]
    have hcalls : (submission.decide readings).calls stores s = [.listBranches r.workflowId,
        .append (entryOf r readings context selected), .listActions selected.branch.id] := by
      rw [Dialogue.calls, hrun]
    refine ⟨hfailed, fun _ => ⟨r, _, _, hr, hsuccess, hcalls⟩, ?_⟩
    rw [hsuccess]
    exact Response.build_eq (chooseBranch_isShare hchoose)

/-- If there are branches but the clock fails, the branches have been asked for and nothing else,
although no branch could have been selected either. -/
theorem decide_first_failure_clock :
    let b : Branch := ⟨"b", "Branch", [], none, false, none⟩
    let stores : Stores Unit Empty :=
      ⟨fun _ s => (.ok [b], s), fun _ s => (.ok (), s), fun _ s => (.ok [], s), nofun⟩
    let readings : Readings := ⟨.error (.failed "no clock"), .zero, .zero⟩
    let submission := Submission.value
      (.object [("workflow_id", .text "w"), ("contact_id", .text "c")])
    ((submission.decide readings).run stores ()).1 =
        .failure ⟨"Unexpected error: no clock", "internal_error"⟩ ∧
      (submission.decide readings).calls stores () = [.listBranches "w"] := by
  intro b stores readings submission
  have hrequest : submission.request = .ok ⟨"w", "c", none, none, none⟩ := by rfl
  have hfailure : FirstFailure stores () submission readings
      (.unexpected (ClockError.failed "no clock").message) :=
    .clock hrequest rfl (List.cons_ne_nil b []) rfl
  exact (decide_first_failure stores () submission readings).1 _ hfailure

end Stages

end BranchChoice
