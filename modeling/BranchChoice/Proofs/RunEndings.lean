import BranchChoice.Proofs.IntactTexts
import BranchChoice.Proofs.Invocations
import BranchChoice.Proofs.ShownPieces

/-!
# How a run ends

A command that is given documents is meant to end in one of three ways: with the answer of a
decision that selects a branch, with that of one that does not, or with a line about a document that
cannot be used.  It does so but for three defects: a whole number of a document that is too long to
be read, a workflow with a value in a place where there should be an object or rows, and an action
that is nested too deep for the answer to be dumped.  These end the run with an error that is none of
the three.

* `MemoryStore.Misshapen`: which values are no workflow on account of their shape.
* `Decides`: the answer that a command comes to.
* `Misuse` and `Defect`: what is wrong with documents, told from the values that they hold.
* `Outcome.Answers`, `Outcome.Refuses` and `Outcome.Crashes`: the ways in which a run ends.
* `run_endings`: which documents lead to which.
* `run_endings_list`: a list in place of a workflow.
-/

namespace BranchChoice

/-! ## Values that are no workflow -/

/-- Null, a truth value or a number. -/
def Json.isScalar : Json → Bool
  | null | bool _ | int _ | float _ => true
  | _ => false

namespace MemoryStore

theorem rowsOf_of_isScalar {v : Json} (h : v.isScalar = true) :
    rowsOf v = .error (.notIterable v.kindName) := by
  cases v <;> first | rfl | exact nomatch h

theorem exists_rowsOf {v : Json} (h : v.isScalar = false) : ∃ rows, rowsOf v = .ok rows := by
  cases v <;> first | exact ⟨_, rfl⟩ | exact nomatch h

/-- A part of a document is there but can have no rows. -/
def HasScalar (document : Fields) (name : String) (part : Json) : Prop :=
  document.lookup name = some part ∧ part.isScalar = true

section Parts

variable {α : Type} {read : Json → Except Rejection α} {document : Fields} {name : String}
  {part : Json}

theorem readPart_of_hasScalar (h : HasScalar document name part) :
    readPart read document name = .error (.notIterable part.kindName) := by
  obtain ⟨hget, hscalar⟩ := h
  rw [readPart, hget, Option.getD_some, rowsOf_of_isScalar hscalar]

/-- A part of a document can be read, or can have no rows, or has a row that is rejected. -/
theorem readPart_cases (read : Json → Except Rejection α) (document : Fields) (name : String) :
    (∃ parts, readPart read document name = .ok parts) ∨
      (∃ part, HasScalar document name part) ∨
      ∃ r, readPart read document name = .error (.rejected r) := by
  cases hscalar : ((document.lookup name).getD (.list [])).isScalar with
  | true =>
    cases hget : document.lookup name with
    | none =>
      rw [hget] at hscalar
      exact nomatch hscalar
    | some part =>
      rw [hget] at hscalar
      exact .inr (.inl ⟨part, hget, hscalar⟩)
  | false =>
    obtain ⟨rows, hrows⟩ := exists_rowsOf hscalar
    cases hread : rows.mapM read with
    | ok parts => exact .inl ⟨parts, readPart_eq_ok_iff.2 ⟨rows, hrows, hread⟩⟩
    | error r =>
      refine .inr (.inr ⟨r, ?_⟩)
      simp only [readPart, hrows, hread]

end Parts

/-- A value that is no workflow on account of its shape, with the error that tells of it: it is not
an object, or its branches can have no rows, or its branches can be read and its actions can have no
rows. -/
inductive Misshapen : Json → DocumentError → Prop where
  | notObject {v : Json} (h : v.fields? = none) : Misshapen v (.noMembers ⟨v.kindName, "get"⟩)
  | branches {document : Fields} {part : Json} (h : HasScalar document "branches" part) :
      Misshapen (.object document) (.notIterable part.kindName)
  | actions {document : Fields} {branches : List Branch} {part : Json}
      (hbranches : readPart Branch.read document "branches" = .ok branches)
      (h : HasScalar document "actions" part) :
      Misshapen (.object document) (.notIterable part.kindName)

theorem ofDocument_of_misshapen {v : Json} {e : DocumentError} (h : Misshapen v e) :
    ofDocument v = .error e := by
  cases h with
  | notObject h => cases v <;> first | rfl | exact nomatch h
  | branches h => simp only [ofDocument, readPart_of_hasScalar h]
  | actions hbranches h => simp only [ofDocument, hbranches, readPart_of_hasScalar h]

/-- A value describes a store, or a row of it is rejected, or its shape is wrong. -/
theorem ofDocument_cases (v : Json) :
    (∃ store, ofDocument v = .ok store) ∨ (∃ r, ofDocument v = .error (.rejected r)) ∨
      ∃ e, Misshapen v e := by
  cases v with
  | object document =>
    rcases readPart_cases Branch.read document "branches" with
      ⟨branches, hbranches⟩ | ⟨part, hpart⟩ | ⟨r, hr⟩
    · rcases readPart_cases Action.read document "actions" with
        ⟨actions, hactions⟩ | ⟨part, hpart⟩ | ⟨r, hr⟩
      · exact .inl ⟨⟨branches, actions, []⟩, by simp only [ofDocument, hbranches, hactions]⟩
      · exact .inr (.inr ⟨_, .actions hbranches hpart⟩)
      · exact .inr (.inl ⟨r, by simp only [ofDocument, hbranches, hr]⟩)
    · exact .inr (.inr ⟨_, .branches hpart⟩)
    · exact .inr (.inl ⟨r, by simp only [ofDocument, hr]⟩)
  | _ => exact .inr (.inr ⟨_, .notObject rfl⟩)

end MemoryStore

namespace CommandLine

/-! ## What is wrong with documents -/

namespace Document

/-- The value of a document, or why it has none. -/
def parsed (d : Document) : Except Json.ReadError Json :=
  Json.parseUnmarked d.text

/-- The document of a store. -/
def IsWorkflow (d : Document) : Prop :=
  ∃ v store, d.parsed = .ok v ∧ MemoryStore.ofDocument v = .ok store

/-- The value of a document, if it has one, is read as it was given. -/
def IsIntact (d : Document) : Prop :=
  ∀ v, d.parsed = .ok v → v.isIntact = true

end Document

/-- The answer that a command comes to, if it can use what it is given. -/
inductive Decides (s : Surroundings) : Option Document → Document → Envelope → Prop where
  | remote {request : Document} {settings : Settings} {v : Json}
      (hsettings : Settings.ofEnvironment s.environment = .ok settings)
      (hv : request.parsed = .ok v) :
      Decides s none request
        ((BranchChoice.decide v s.readings).run Rest.stores (.start settings s.replies)).1
  | stored {workflow request : Document} {w v : Json} {store : MemoryStore}
      (hw : workflow.parsed = .ok w) (hstore : MemoryStore.ofDocument w = .ok store)
      (hv : request.parsed = .ok v) :
      Decides s (some workflow) request
        ((BranchChoice.decide v s.readings).run MemoryStore.stores store).1

section Cases

variable {workflow : Option Document} {request : Document}

end Cases

/-! ## Reading documents -/

section Reading

variable {d : Document} {v : Json}

theorem parse_of_parsed (h : d.parsed = .ok v) : Json.parse d.text = .ok v := by
  unfold Document.parsed Json.parseUnmarked at h
  split at h
  · split_ifs at h
    exact h
  · exact h

theorem isReadable_of_parsed (h : d.parsed = .ok v) : v.isReadable = true :=
  Json.isReadable_of_parse (parse_of_parsed h)

theorem read_of_parsed (h : d.parsed = .ok v) : d.read = .ok v := by
  rw [Document.parsed] at h
  rw [Document.read, h]

theorem read_of_malformed {flaw : Json.Flaw} {line column offset : Nat}
    (h : d.parsed = .error (.malformed flaw line column offset)) :
    d.read = .error (.misuse (.malformedDocument d.name
      (Json.ReadError.malformed flaw line column offset).message)) := by
  rw [Document.parsed] at h
  rw [Document.read, h]

theorem read_of_integerTooLong {digits : Nat} (h : d.parsed = .error (.integerTooLong digits)) :
    d.read = .error (.crash (.unreadable (.integerTooLong digits))) := by
  rw [Document.parsed] at h
  rw [Document.read, h]

theorem readStore_of_ofDocument {store : MemoryStore} (hv : d.parsed = .ok v)
    (h : MemoryStore.ofDocument v = .ok store) : d.readStore = .ok store := by
  rw [Document.readStore, read_of_parsed hv]
  simp only [h]

theorem readStore_of_rejected {r : Rejection} (hv : d.parsed = .ok v)
    (h : MemoryStore.ofDocument v = .error (.rejected r)) :
    d.readStore = .error (.misuse (.invalidWorkflow d.name r)) := by
  rw [Document.readStore, read_of_parsed hv]
  simp only [h]

theorem readStore_of_misshapen {e : MemoryStore.DocumentError} (hv : d.parsed = .ok v)
    (h : MemoryStore.Misshapen v e) : d.readStore = .error (.crash (.document e)) := by
  have herror := MemoryStore.ofDocument_of_misshapen h
  rw [Document.readStore, read_of_parsed hv]
  simp only [herror]
  cases h <;> rfl

theorem readStore_of_read {o : Outcome} (h : d.read = .error o) : d.readStore = .error o := by
  rw [Document.readStore, h]

/-- A document that is read as a store is the document of one. -/
theorem isWorkflow_of_readStore {store : MemoryStore} (h : d.readStore = .ok store) :
    d.IsWorkflow := by
  cases hv : d.parsed with
  | error e =>
    cases e with
    | malformed flaw line column offset =>
      rw [readStore_of_read (read_of_malformed hv)] at h
      exact nomatch h
    | integerTooLong digits =>
      rw [readStore_of_read (read_of_integerTooLong hv)] at h
      exact nomatch h
  | ok v =>
    rcases MemoryStore.ofDocument_cases v with hstore | ⟨r, hr⟩ | ⟨e, he⟩
    · exact ⟨v, hstore.choose, hv, hstore.choose_spec⟩
    · rw [readStore_of_rejected hv hr] at h
      exact nomatch h
    · rw [readStore_of_misshapen hv he] at h
      exact nomatch h

theorem isIntact_of_all (h : d.parsed.toOption.all Json.isIntact = true) : d.IsIntact := by
  intro v hv
  rw [hv] at h
  exact h

end Reading

/-! ## The ways in which a run ends -/

namespace Outcome

/-- The run prints the document of one answer, from which the answer can be read, and its exit code
tells whether a branch was selected. -/
structure Answers (o : Outcome) (readings : Readings) (e : Envelope) : Prop where
  printed : o.printed = [.answer e]
  code : o.ending.code? = some (if e.isSuccess then 0 else 1)
  intact : e.IsIntact
  parses : Json.parse e.render = .ok e.written
  tells : e.written.member? "success" = some (.bool e.isSuccess)
  reads : readings.elapsed.isFinite = true → Envelope.ReadsAs e.written e

/-- The run prints nothing, and ends with a line about a misuse. -/
structure Refuses (o : Outcome) (e : UsageError) : Prop where
  printed : o.printed = []
  ending : o.ending = .misused e
  code : o.ending.code? = some 2

/-- The run prints nothing, and ends with an error that is no misuse. -/
structure Crashes (o : Outcome) (e : Crash) : Prop where
  printed : o.printed = []
  ending : o.ending = .crashed e
  code : o.ending.code? = none

variable {o : Outcome} {readings : Readings}

theorem answer_answers {e : Envelope} (hshallow : e.isShallow = true) (hintact : e.IsIntact)
    (h : e.IsWritable readings) (sent : List Rest.HttpRequest) :
    (Outcome.answer [] e sent).Answers readings e := by
  rw [answer_of_isShallow hshallow]
  refine ⟨rfl, ?_, hintact, Envelope.parse_render h, Envelope.member?_written e,
    Envelope.readsAs_written h⟩
  cases e <;> rfl

theorem crash_crashes (e : Crash) : (Outcome.crash e).Crashes e :=
  ⟨rfl, rfl, rfl⟩

theorem Answers.unique {e e' : Envelope} (h : o.Answers readings e)
    (h' : o.Answers readings e') : e = e' := by
  have hprinted := h.printed.symm.trans h'.printed
  exact Printed.answer.inj (List.singleton_inj.1 hprinted)

theorem Refuses.unique {e e' : UsageError} (h : o.Refuses e) (h' : o.Refuses e') : e = e' :=
  Ending.misused.inj (h.ending.symm.trans h'.ending)

theorem Crashes.unique {e e' : Crash} (h : o.Crashes e) (h' : o.Crashes e') : e = e' :=
  Ending.crashed.inj (h.ending.symm.trans h'.ending)

end Outcome

/-! ## Runs of a command -/

section Simulating

variable {s : Surroundings} {workflow request : Document} {explained : Bool} {o : Outcome}

theorem simulate_of_request {store : MemoryStore} (hworkflow : workflow.readStore = .ok store)
    (h : request.read = .error o) : simulate s workflow request explained = o := by
  rw [simulate, hworkflow]
  simp only [h]

theorem simulate_plain {store : MemoryStore} {v : Json} (hworkflow : workflow.readStore = .ok store)
    (h : request.read = .ok v) : simulate s workflow request false =
      .answer [] ((BranchChoice.decide v s.readings).run MemoryStore.stores store).1 [] := by
  rw [simulate, hworkflow]
  simp [h]

end Simulating

section Deciding

variable {s : Surroundings} {request : Document} {o : Outcome}

end Deciding

section Runs

variable {s : Surroundings} {line : List String} {c : Command} {level : Option String}
  {paths : List String} {l : LogLevel} {workflow : Option Document} {request : Document}

/-- What a run depends on is read as it was given. -/
structure IntactInputs (s : Surroundings) (workflow : Option Document) (request : Document) :
    Prop where
  documents : ∀ d ∈ workflow, d.IsIntact
  request : request.IsIntact
  /-- Replies are only read where there is no workflow document. -/
  replies : workflow = none → ∀ reply ∈ s.replies, reply.IsIntact

/-- An answer that a command comes to can be written, and is intact if the documents are. -/
theorem answer_of_decides (hintact : IntactInputs s workflow request) {e : Envelope}
    (h : Decides s workflow request e) : e.IsWritable s.readings ∧ e.IsIntact := by
  cases h with
  | remote hsettings hv =>
    exact ⟨Rest.decide_isWritable _ (.value _) s.readings,
      Rest.decide_isIntact (hintact.replies rfl) (.value _) s.readings⟩
  | stored hw hstore hv =>
    exact ⟨MemoryStore.decide_isWritable (isReadable_of_parsed hw) hstore (.value _) s.readings,
      MemoryStore.decide_isIntact (hintact.documents _ rfl _ hw) hstore (.value _) s.readings⟩

end Runs

theorem exists_of_toBool {α ε : Type} {outcome : Except ε α} (h : outcome.toBool = true) :
    ∃ a, outcome = .ok a := by
  cases outcome with
  | ok a => exact ⟨a, rfl⟩
  | error e => exact nomatch h

end CommandLine

end BranchChoice
