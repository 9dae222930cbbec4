import BranchChoice.CommandLine.Markup
import BranchChoice.Proofs.Refusals
import BranchChoice.Proofs.RunEndings

/-!
# What an explanation changes

An explanation is meant to add to what is printed, and to change nothing else.  It looks at the
clock and at the conditions before the decision does, though, and where the decision makes an answer
of what goes wrong there, the explanation ends the run.  And it has texts of the workflow and the
request in it, which a console may refuse.

* `Unexplained`: the requests that a store cannot explain, and why.
* `explain_eq_error_iff`: there is no explanation for these and no others.
* `Document.IsRefused`: the requests whose explanation is refused.
* `Outcome.Extends`: a run that prints more than another before its answer, and is the same else.
* `explained_run`: the two runs beside each other, as a console shows them.
* `explained_run_refused`: a refused pattern, which the decision answers.
-/

namespace BranchChoice

/-! ## Scores that cannot be had -/

theorem scoreAll_eq_error_iff {branches : List Branch} {context : Json} {e : ScoreError} :
    Branch.scoreAll branches context = .error e ↔
      ∃ refusal, (Branch.allRefusals branches context).head? = some refusal ∧
        e = .refused refusal := by
  constructor
  · intro h
    have hstop : ¬ Branch.AllEvaluate branches context := by
      intro hall
      rw [Branch.scoreAll_eq hall] at h
      exact nomatch h
    obtain ⟨refusal, hrefusal⟩ := Branch.not_allEvaluate_iff.1 hstop
    rw [Branch.scoreAll_stops hrefusal] at h
    exact ⟨refusal, hrefusal, (Except.error.inj h).symm⟩
  · rintro ⟨refusal, hrefusal, rfl⟩
    exact Branch.scoreAll_stops hrefusal

namespace CommandLine

/-! ## Requests that are not explained -/

/-- A request that a store cannot explain, with the error that tells of it: the clock fails, or a
condition of a branch that is listed has no truth value in the context. -/
inductive Unexplained (store : MemoryStore) (clock : Clock) (r : Request) :
    ExplanationError → Prop where
  | clock {e : ClockError} (h : r.contextNow clock = .error e) :
      Unexplained store clock r (.clock e)
  | refused {context : Fields} {refusal : Pattern.Refusal}
      (hcontext : r.contextNow clock = .ok context)
      (h : (Branch.allRefusals (store.listBranches r.workflowId) (.object context)).head? =
        some refusal) :
      Unexplained store clock r (.unscored (.refused refusal))

theorem ofRequest_eq_error_iff {store : MemoryStore} {clock : Clock} {r : Request}
    {e : ExplanationError} :
    Explanation.ofRequest store r clock = .error e ↔ Unexplained store clock r e := by
  unfold Explanation.ofRequest
  dsimp only
  constructor
  · intro h
    cases hcontext : r.contextNow clock with
    | error e' =>
      rw [hcontext] at h
      obtain rfl := Except.error.inj h
      exact .clock hcontext
    | ok context =>
      rw [hcontext] at h
      dsimp only at h
      cases hscores : Branch.scoreAll (store.listBranches r.workflowId) (.object context) with
      | error e' =>
        rw [hscores] at h
        obtain rfl := Except.error.inj h
        obtain ⟨refusal, hrefusal, rfl⟩ := scoreAll_eq_error_iff.1 hscores
        exact .refused hcontext hrefusal
      | ok scores =>
        rw [hscores] at h
        exact nomatch h
  · intro h
    cases h with
    | clock h => rw [h]
    | refused hcontext h =>
      rw [hcontext]
      dsimp only
      rw [Branch.scoreAll_stops h]

/-- There is no explanation for a request that the store cannot explain, and for no other. -/
theorem explain_eq_error_iff {s : Surroundings} {store : MemoryStore} {v : Json}
    {e : ExplanationError} :
    explain s store v = .error e ↔
      ∃ r, Request.ofJson v = .ok r ∧ Unexplained store s.readings.clock r e := by
  unfold explain
  cases hr : Request.ofJson v with
  | error flaw => simp
  | ok r =>
    simp only [Except.ok.injEq, exists_eq_left', ← ofRequest_eq_error_iff]
    cases Explanation.ofRequest store r s.readings.clock <;> simp [Except.map]

/-- An explanation is no answer. -/
theorem explain_no_answer {s : Surroundings} {store : MemoryStore} {v : Json}
    {pieces : List Printed} (h : explain s store v = .ok pieces) :
    ∀ piece ∈ pieces, piece.answer? = none := by
  unfold explain at h
  cases hr : Request.ofJson v with
  | error flaw =>
    rw [hr] at h
    obtain rfl := Except.ok.inj h
    exact fun piece hpiece => nomatch hpiece
  | ok r =>
    rw [hr] at h
    dsimp only at h
    cases hexplanation : Explanation.ofRequest store r s.readings.clock with
    | error e =>
      rw [hexplanation] at h
      exact nomatch h
    | ok explanation =>
      rw [hexplanation] at h
      obtain rfl := Except.ok.inj h
      simp [Explanation.print, Printed.answer?]

/-! ## Two runs -/

/-- The first run prints pieces that are no answers before what the second one prints, and is the
same else. -/
def Outcome.Extends (o' o : Outcome) : Prop :=
  ∃ before, (∀ piece ∈ before, piece.answer? = none) ∧
    o' = { o with printed := before ++ o.printed }

theorem Outcome.Extends.refl (o : Outcome) : o.Extends o :=
  ⟨[], by simp, rfl⟩

theorem Outcome.Extends.ending_eq {o' o : Outcome} (h : o'.Extends o) : o'.ending = o.ending := by
  obtain ⟨before, -, rfl⟩ := h
  rfl

theorem Outcome.answer_extends {before : List Printed}
    (h : ∀ piece ∈ before, piece.answer? = none) (e : Envelope) (sent : List Rest.HttpRequest) :
    (Outcome.answer before e sent).Extends (.answer [] e sent) := by
  cases hshallow : e.isShallow with
  | true =>
    rw [answer_of_isShallow hshallow, answer_of_isShallow hshallow]
    exact ⟨before, h, rfl⟩
  | false =>
    rw [answer_of_tooDeep hshallow, answer_of_tooDeep hshallow]
    exact ⟨before, h, by rw [List.append_nil]⟩

/-- A run that prints no more than an answer is not refused. -/
theorem Outcome.answer_ending_ne (e : Envelope) (sent : List Rest.HttpRequest) (message : String) :
    (Outcome.answer [] e sent).ending ≠ .crashed (.markup message) := by
  cases hshallow : e.isShallow with
  | true =>
    rw [answer_of_isShallow hshallow]
    cases e <;> exact nofun
  | false =>
    rw [answer_of_tooDeep hshallow]
    exact nofun

section Simulating

variable {s : Surroundings} {workflow request : Document} {store : MemoryStore} {v : Json}

theorem simulate_explained {before : List Printed} (hworkflow : workflow.readStore = .ok store)
    (hv : request.read = .ok v) (h : explain s store v = .ok before) :
    simulate s workflow request true =
      .answer before ((BranchChoice.decide v s.readings).run MemoryStore.stores store).1 [] := by
  rw [simulate, hworkflow]
  simp only [hv, if_true, h]

theorem simulate_unexplained {e : ExplanationError} (hworkflow : workflow.readStore = .ok store)
    (hv : request.read = .ok v) (h : explain s store v = .error e) :
    simulate s workflow request true = .crash (.explanation e) := by
  rw [simulate, hworkflow]
  simp only [hv, if_true, h]

end Simulating

/-- The decision for a request that a store cannot explain fails, with the same wording unless there
are no branches. -/
theorem decide_of_unexplained {store : MemoryStore} {r : Request} {readings : Readings}
    {e : ExplanationError} (h : Unexplained store readings.clock r e) :
    ∃ error, ((r.decide readings).run MemoryStore.stores store).1 = .ofError error ∧
      (error = .unexpected (Crash.explanation e).message ∨ error = .noBranches) := by
  rw [MemoryStore.decide_store]
  by_cases hne : store.listBranches r.workflowId = []
  · refine ⟨.noBranches, ?_, .inr rfl⟩
    rw [hne]
    rfl
  · cases h with
    | clock hclock =>
      rw [chooseBranch_of_clock hne hclock]
      exact ⟨_, rfl, .inl rfl⟩
    | refused hcontext hrefusal =>
      rw [chooseBranch_of_select hne hcontext (selectBranch_stops hrefusal)]
      exact ⟨_, rfl, .inl rfl⟩

/-- A document with a request that a store cannot explain. -/
def Document.IsUnexplained (d : Document) (store : MemoryStore) (clock : Clock)
    (e : ExplanationError) : Prop :=
  ∃ v r, d.parsed = .ok v ∧ Request.ofJson v = .ok r ∧ Unexplained store clock r e

theorem isUnexplained_iff {s : Surroundings} {store : MemoryStore} {d : Document} {v : Json}
    {e : ExplanationError} (hv : d.parsed = .ok v) :
    d.IsUnexplained store s.readings.clock e ↔ explain s store v = .error e := by
  rw [explain_eq_error_iff]
  constructor
  · rintro ⟨v', r, hv', hr, h⟩
    obtain rfl := Except.ok.inj (hv'.symm.trans hv)
    exact ⟨r, hr, h⟩
  · rintro ⟨r, hr, h⟩
    exact ⟨v, r, hv, hr, h⟩

/-- A document with a request whose explanation has a text that a console refuses. -/
def Document.IsRefused (d : Document) (c : Console) (store : MemoryStore) (clock : Clock)
    (message : String) : Prop :=
  ∃ v r e, d.parsed = .ok v ∧ Request.ofJson v = .ok r ∧
    Explanation.ofRequest store r clock = .ok e ∧ (c.showAll e.print).2 = some message

theorem isRefused_iff {s : Surroundings} {c : Console} {store : MemoryStore} {d : Document}
    {v : Json} {message : String} (hv : d.parsed = .ok v) :
    d.IsRefused c store s.readings.clock message ↔
      ∃ before, explain s store v = .ok before ∧ (c.showAll before).2 = some message := by
  constructor
  · rintro ⟨v', r, e, hv', hr, he, hrefused⟩
    obtain rfl := Except.ok.inj (hv'.symm.trans hv)
    exact ⟨e.print, by simp [explain, hr, he, Except.map], hrefused⟩
  · rintro ⟨before, h, hrefused⟩
    unfold explain at h
    cases hr : Request.ofJson v with
    | error flaw =>
      rw [hr] at h
      obtain rfl := Except.ok.inj h
      exact nomatch hrefused
    | ok r =>
      rw [hr] at h
      dsimp only at h
      cases he : Explanation.ofRequest store r s.readings.clock with
      | error e =>
        rw [he] at h
        exact nomatch h
      | ok e =>
        rw [he] at h
        obtain rfl := Except.ok.inj h
        exact ⟨v, r, e, hv, hr, he, hrefused⟩

/-- A document that has no value is not read. -/
theorem exists_read_error {d : Document} {e : Json.ReadError} (h : d.parsed = .error e) :
    ∃ o, d.read = .error o := by
  cases e with
  | malformed flaw line column offset => exact ⟨_, read_of_malformed h⟩
  | integerTooLong digits => exact ⟨_, read_of_integerTooLong h⟩

section Runs

variable {s : Surroundings} {plain explained : List String} {level : Option String}
  {paths : List String} {l : LogLevel} {workflow request : Document} {w : Json}
  {store : MemoryStore}

/-- A request that can be explained is decided in the same way with the explanation, if the console
shows this. -/
theorem run_extends (c : Console) (hplain : Invokes plain .simulate level false paths)
    (hexplained : Invokes explained .simulate level true paths)
    (hlevel : logLevel s level = .ok l)
    (hgiven : Supplies s .simulate paths (some workflow) request)
    (hread : workflow.readStore = .ok store)
    (h : ∀ e, ¬ request.IsUnexplained store s.readings.clock e)
    (hshown : ∀ message, ¬ request.IsRefused c store s.readings.clock message) :
    ((run s explained).on c).Extends ((run s plain).on c) := by
  cases hgiven with
  | simulate hopened hrequest =>
    rw [run_simulate hplain hlevel hopened hrequest,
      run_simulate hexplained hlevel hopened hrequest]
    cases hparsed : (Document.readAfter _ workflow).parsed with
    | error e =>
      obtain ⟨o, ho⟩ := exists_read_error hparsed
      rw [simulate_of_request hread ho, simulate_of_request hread ho]
      exact .refl _
    | ok v =>
      have hv := read_of_parsed hparsed
      cases hexplain : explain s store v with
      | error e => exact absurd ((isUnexplained_iff hparsed).2 hexplain) (h e)
      | ok before =>
        rw [simulate_explained hread hv hexplain, simulate_plain hread hv]
        rcases hall : c.showAll before with ⟨shown, _ | message⟩
        · rw [Outcome.on_answer hall, Outcome.on_answer rfl]
          have hnone := Console.no_answer_showAll (c := c) (explain_no_answer hexplain)
          rw [hall] at hnone
          exact Outcome.answer_extends hnone _ _
        · exact absurd ((isRefused_iff hparsed).2 ⟨before, hexplain, by rw [hall]⟩)
            (hshown message)

/-- A request whose explanation is refused ends the run with the explanation, and is decided without
it. -/
theorem run_of_isRefused {c : Console} {message : String}
    (hplain : Invokes plain .simulate level false paths)
    (hexplained : Invokes explained .simulate level true paths)
    (hlevel : logLevel s level = .ok l)
    (hgiven : Supplies s .simulate paths (some workflow) request)
    (hworkflow : workflow.parsed = .ok w) (hstore : MemoryStore.ofDocument w = .ok store)
    (h : request.IsRefused c store s.readings.clock message) :
    (∃ shown, (∀ piece ∈ shown, piece.answer? = none) ∧
      (run s explained).on c = ⟨shown, .crashed (.markup message), []⟩) ∧
      ∃ e, Decides s (some workflow) request e ∧ run s plain = .answer [] e [] := by
  have hread := readStore_of_ofDocument hworkflow hstore
  cases hgiven with
  | simulate hopened hrequest =>
    rw [run_simulate hplain hlevel hopened hrequest,
      run_simulate hexplained hlevel hopened hrequest]
    obtain ⟨v, hparsed⟩ : ∃ v, (Document.readAfter _ workflow).parsed = .ok v :=
      ⟨h.choose, h.choose_spec.choose_spec.choose_spec.1⟩
    obtain ⟨before, hexplain, hrefused⟩ := (isRefused_iff hparsed).1 h
    have hv := read_of_parsed hparsed
    have hall : c.showAll before = ((c.showAll before).1, some message) := Prod.ext rfl hrefused
    rw [simulate_explained hread hv hexplain, simulate_plain hread hv,
      Outcome.on_answer_refused hall]
    exact ⟨⟨_, Console.no_answer_showAll (explain_no_answer hexplain), rfl⟩, _,
      .stored hworkflow hstore hparsed, rfl⟩

/-- A request that cannot be explained ends the run with the explanation, and is answered without
it. -/
theorem run_of_isUnexplained {e : ExplanationError}
    (hplain : Invokes plain .simulate level false paths)
    (hexplained : Invokes explained .simulate level true paths)
    (hlevel : logLevel s level = .ok l)
    (hgiven : Supplies s .simulate paths (some workflow) request)
    (hread : workflow.readStore = .ok store)
    (h : request.IsUnexplained store s.readings.clock e) :
    run s explained = .crash (.explanation e) ∧
      ∃ error, run s plain = .answer [] (.ofError error) [] ∧
        (error = .unexpected (Crash.explanation e).message ∨ error = .noBranches) := by
  cases hgiven with
  | simulate hopened hrequest =>
    rw [run_simulate hplain hlevel hopened hrequest,
      run_simulate hexplained hlevel hopened hrequest]
    obtain ⟨v, r, hparsed, hr, hunexplained⟩ := h
    have hv := read_of_parsed hparsed
    have hexplain := explain_eq_error_iff.2 ⟨r, hr, hunexplained⟩
    obtain ⟨error, herror, hwording⟩ := decide_of_unexplained hunexplained
    refine ⟨simulate_unexplained hread hv hexplain, error, ?_, hwording⟩
    have hsubmission : (Submission.value v).request = .ok r := hr
    have hdecide : BranchChoice.decide v s.readings = r.decide s.readings :=
      Submission.decide_of_request hsubmission s.readings
    rw [simulate_plain hread hv, hdecide, herror]

/-- **What an explanation changes.**  Two lines that call `simulate` on the same documents, the
second one with the switch for an explanation, end in the same way for a workflow that can be used,
and the second shows no more than pieces that are no answers before what the first one shows,
exactly if the request can be explained and the console refuses no text of the explanation.  If it
cannot be explained, on account of the clock or of a pattern that is refused, then the second run
ends with an error, prints nothing, and has no exit code, while the first one answers with a failure.
If a text is refused, then the second run ends with an error and shows no answer, while the first one
shows the answer of the decision. -/
theorem explained_run (c : Console) (hplain : Invokes plain .simulate level false paths)
    (hexplained : Invokes explained .simulate level true paths)
    (hlevel : logLevel s level = .ok l)
    (hgiven : Supplies s .simulate paths (some workflow) request)
    (hintact : IntactInputs s (some workflow) request)
    (hworkflow : workflow.parsed = .ok w) (hstore : MemoryStore.ofDocument w = .ok store) :
    (((run s explained).on c).Extends ((run s plain).on c) ↔
        (∀ e, ¬ request.IsUnexplained store s.readings.clock e) ∧
          ∀ message, ¬ request.IsRefused c store s.readings.clock message) ∧
      (∀ e, request.IsUnexplained store s.readings.clock e →
        ((run s explained).on c).Crashes (.explanation e) ∧
          ∃ error, ((run s plain).on c).Answers s.readings (.ofError error) ∧
            (error = .unexpected (Crash.explanation e).message ∨ error = .noBranches)) ∧
      ∀ message, request.IsRefused c store s.readings.clock message →
        ((run s explained).on c).ending = .crashed (.markup message) ∧
          (∀ piece ∈ ((run s explained).on c).printed, piece.answer? = none) ∧
          ∃ e, Decides s (some workflow) request e ∧
            (e.isShallow = true → ((run s plain).on c).Answers s.readings e) := by
  have hread := readStore_of_ofDocument hworkflow hstore
  have hends {e : ExplanationError} (h : request.IsUnexplained store s.readings.clock e) :
      ((run s explained).on c).Crashes (.explanation e) ∧
        ∃ error, ((run s plain).on c).Answers s.readings (.ofError error) ∧
          (error = .unexpected (Crash.explanation e).message ∨ error = .noBranches) := by
    obtain ⟨hcrash, error, hanswer, hwording⟩ :=
      run_of_isUnexplained hplain hexplained hlevel hgiven hread h
    have hwhole : (Envelope.ofError error).IsIntact := trivial
    have hwritable : (Envelope.ofError error).IsWritable s.readings := trivial
    rw [hcrash, hanswer, Outcome.on_of_printed_nil rfl, Outcome.on_answer rfl]
    exact ⟨Outcome.crash_crashes _, error, Outcome.answer_answers rfl hwhole hwritable [], hwording⟩
  refine ⟨⟨fun hextends => ⟨fun e h => ?_, fun message h => ?_⟩, fun ⟨hexplain, hshown⟩ =>
    run_extends c hplain hexplained hlevel hgiven hread hexplain hshown⟩, fun e h => hends h,
    fun message h => ?_⟩
  · obtain ⟨hcrash, error, hanswer, -⟩ := hends h
    have hcode := hanswer.code
    rw [← hextends.ending_eq, hcrash.code] at hcode
    exact nomatch hcode
  · obtain ⟨⟨shown, -, hshown⟩, e, -, hanswer⟩ :=
      run_of_isRefused hplain hexplained hlevel hgiven hworkflow hstore h
    have hending := hextends.ending_eq
    rw [hshown, hanswer, Outcome.on_answer rfl] at hending
    exact Outcome.answer_ending_ne e [] message hending.symm
  · obtain ⟨⟨shown, hnone, hshown⟩, e, he, hanswer⟩ :=
      run_of_isRefused hplain hexplained hlevel hgiven hworkflow hstore h
    rw [hshown, hanswer, Outcome.on_answer rfl]
    obtain ⟨hwritable, hwhole⟩ := answer_of_decides hintact he
    exact ⟨rfl, hnone, e, he, fun hshallow => Outcome.answer_answers hshallow hwhole hwritable []⟩

end Runs

theorem eq_ok_of_toOption {α ε : Type} {outcome : Except ε α} {a : α}
    (h : outcome.toOption = some a) : outcome = .ok a := by
  cases outcome with
  | ok b => exact congrArg Except.ok (Option.some.inj h)
  | error e => exact nomatch h

theorem exists_error_of_toBool {α ε : Type} {outcome : Except ε α} (h : outcome.toBool = false) :
    ∃ e, outcome = .error e := by
  cases outcome with
  | ok a => exact nomatch h
  | error e => exact ⟨e, rfl⟩

/-- A workflow with one branch, which is the default, and a request for it: the explanation stands
before the same answer, wherever the switch stands. -/
theorem explained_run_default :
    let workflow :=
      "\x7b\"branches\": [\x7b\"id\": 1, \"branch_name\": 2, \"is_default\": true\x7d]\x7d"
    let request := "\x7b\"workflow_id\": 3, \"contact_id\": 4\x7d"
    let files : Files := ⟨fun path => .ok (if path == "w" then workflow else request), ""⟩
    let s : Surroundings := ⟨[], files, [], ⟨.ok (.ofInstant 0), .zero, .zero⟩⟩
    let plain := ["--log-level", "info", "simulate", "w", "r"]
    let explained := ["--log-level", "info", "simulate", "w", "--explain", "r"]
    ((run s explained).on .tags).Extends ((run s plain).on .tags) ∧
      ((run s explained).on .tags).ending.code? = some 0 := by
  intro workflow request files s plain explained
  have hplain : Invokes plain .simulate (some "info") false ["w", "r"] :=
    invokes_files (some "info") .simulate (by decide)
  have hexplained : Invokes explained .simulate (some "info") true ["w", "r"] :=
    invokes_explained (some "info") (List.forall_mem_singleton.2 (by decide))
      (List.forall_mem_singleton.2 (by decide))
  have hlevel : logLevel s (some "info") = .ok .info :=
    logLevel_of_ofName (by decide) (by decide +kernel)
  have hgiven : Supplies s .simulate ["w", "r"] (some (.ofText (.file "w") workflow))
      (.ofText (.file "r") request) :=
    supplies_files (by decide) (by decide) (by simp [s, files]) (by simp [s, files])
  have hread : (Document.ofText (.file "w") workflow).readStore.toBool = true := by
    decide +kernel
  obtain ⟨store, hstore⟩ := exists_of_toBool hread
  obtain ⟨w, store', hw, hstore'⟩ := isWorkflow_of_readStore hstore
  have hintact : IntactInputs s (some (.ofText (.file "w") workflow))
      (.ofText (.file "r") request) := by
    refine ⟨fun d hd => ?_, isIntact_of_all (by decide +kernel), fun _ => List.forall_mem_nil _⟩
    obtain rfl := Option.some.inj hd
    exact isIntact_of_all (by decide +kernel)
  obtain ⟨hextends, hcrashes, hrefused⟩ :=
    explained_run .tags hplain hexplained hlevel hgiven hintact hw hstore'
  have hcode : ((run s explained).on .tags).ending.code? = some 0 := by decide +kernel
  refine ⟨hextends.2 ⟨fun e h => ?_, fun message h => ?_⟩, hcode⟩
  · have hnone := (hcrashes e h).1.code
    rw [hcode] at hnone
    exact nomatch hnone
  · rw [(hrefused message h).1] at hcode
    exact nomatch hcode

/-- A pattern that is refused: the decision answers with a failure, and with an explanation there is
no answer and no exit code. -/
theorem explained_run_refused :
    let workflow := "\x7b\"branches\":[\x7b\"id\":1,\"branch_name\":2,\"conditions\":" ++
      "\x7b\"current_date\":\x7b\"operator\":\"regex\",\"value\":\"x\x7b4294967295\x7d\"\x7d\x7d\x7d]\x7d"
    let request := "\x7b\"workflow_id\":3,\"contact_id\":4\x7d"
    let files : Files := ⟨fun path => .ok (if path == "w" then workflow else request), ""⟩
    let s : Surroundings := ⟨[], files, [], ⟨.ok (.ofInstant 0), .zero, .zero⟩⟩
    let plain := ["--log-level", "info", "simulate", "w", "r"]
    let explained := ["--log-level", "info", "simulate", "--explain", "w", "r"]
    (Document.ofText (.file "w") workflow).IsWorkflow ∧
      ((run s plain).on .tags).ending.code? = some 1 ∧
      ((run s explained).on .tags).ending.code? = none ∧
      ¬ ((run s explained).on .tags).Extends ((run s plain).on .tags) := by
  intro workflow request files s plain explained
  have hplain : Invokes plain .simulate (some "info") false ["w", "r"] :=
    invokes_files (some "info") .simulate (by decide)
  have hexplained : Invokes explained .simulate (some "info") true ["w", "r"] :=
    invokes_explained (some "info") (List.forall_mem_nil _) (by decide)
  have hlevel : logLevel s (some "info") = .ok .info :=
    logLevel_of_ofName (by decide) (by decide +kernel)
  let w : Document := .ofText (.file "w") workflow
  let r : Document := .ofText (.file "r") request
  have hgiven : Supplies s .simulate ["w", "r"] (some w) r :=
    supplies_files (by decide) (by decide) (by simp [s, files]) (by simp [s, files])
  -- One evaluation reads both documents and tries the explanation.
  have hrefused : (w.readStore.toOption.bind fun store => r.parsed.toOption.map fun v =>
      (explain s store v).toBool) = some false := by
    decide +kernel
  obtain ⟨store, hstore, hrest⟩ := Option.bind_eq_some_iff.1 hrefused
  obtain ⟨v, hv, hexplain⟩ := Option.map_eq_some_iff.1 hrest
  have hread := eq_ok_of_toOption hstore
  obtain ⟨e, he⟩ := exists_error_of_toBool hexplain
  have hunexplained := (isUnexplained_iff (eq_ok_of_toOption hv)).2 he
  obtain ⟨hcrash, error, hanswer, -⟩ :=
    run_of_isUnexplained hplain hexplained hlevel hgiven hread hunexplained
  have hended : ((run s plain).on .tags).ending.code? = some 1 := by rw [hanswer]; rfl
  have hlost : ((run s explained).on .tags).ending.code? = none := by rw [hcrash]; rfl
  refine ⟨isWorkflow_of_readStore hread, hended, hlost, fun hextends => ?_⟩
  rw [hextends.ending_eq, hended] at hlost
  exact nomatch hlost

end CommandLine

end BranchChoice
