import BranchChoice.Proofs.SideEffects
import BranchChoice.Proofs.StoreFailures

/-!
# Answers as documents

An answer is printed as a document, and whoever reads that document gets the answer back, but for
numbers that are not finite, and warnings, which are not written.  All that an answer holds beside
texts are numbers and the rows of actions, and the stores have these from documents themselves.

* `Coercion.digitCount_of_integer`: no whole number of a row grows beyond what a document holds.
* `Action.isReadable_toFields`: an action from a document can be written in one.
* `Envelope.parse_render`: the document of an answer holds what was written.
* `Envelope.readsAs_written`: what was written is read as the answer.
* `MemoryStore.decide_isWritable` and `Rest.decide_isWritable`: the answers over both kinds of store.
-/

namespace BranchChoice

/-! ## Whole numbers of rows -/

namespace Coercion

theorem allDigits_of_isPlainNumeral {ds : List Char} (h : isPlainNumeral ds = true) :
    AllDigits ds ∧ ds ≠ [] := by
  rw [isPlainNumeral, Bool.or_eq_true] at h
  rcases h with hzero | hplain
  · obtain rfl := eq_of_beq hzero
    exact ⟨allDigits_zeros 1, List.cons_ne_nil _ _⟩
  · simp only [Bool.and_eq_true, Bool.not_eq_true', List.isEmpty_eq_false_iff,
      List.all_eq_true] at hplain
    exact ⟨hplain.2, hplain.1.1⟩

theorem isPlainNumeral_of_signedDigits? {s digits : List Char} {negative : Bool}
    (h : signedDigits? s = some (negative, digits)) : isPlainNumeral digits = true := by
  unfold signedDigits? at h
  dsimp only at h
  split at h
  · split_ifs at h with hplain
    obtain ⟨-, rfl⟩ := Prod.mk.inj (Option.some.inj h)
    exact hplain
  · split_ifs at h with hplain
    obtain ⟨-, rfl⟩ := Prod.mk.inj (Option.some.inj h)
    exact hplain
  · exact nomatch h

theorem digitCount_of_wholeText {v : Json} {s : String} {n : Int}
    (h : wholeText v s = .accept n) : Decimal.digitCount n.natAbs ≤ Json.maxIntegerDigits := by
  unfold wholeText at h
  cases hdigits : signedDigits? (Text.trimBoth Text.isWhite s.toList) with
  | none =>
    rw [hdigits] at h
    exact nomatch h
  | some signed =>
    obtain ⟨negative, digits⟩ := signed
    rw [hdigits] at h
    dsimp only at h
    split at h
    · exact nomatch h
    · next hlong =>
      obtain ⟨hall, hne⟩ := allDigits_of_isPlainNumeral (isPlainNumeral_of_signedDigits? hdigits)
      have hcount := Json.digitCount_ofDigits_le hall hne (Nat.le_of_not_lt hlong)
      obtain rfl := Except.ok.inj h
      cases negative <;> simpa using hcount

theorem digitCount_of_wholeFloat {v : Json} {x : Binary64} {n : Int}
    (h : wholeFloat v x = .accept n) : Decimal.digitCount n.natAbs ≤ Json.maxIntegerDigits := by
  unfold wholeFloat at h
  split at h
  · exact nomatch h
  · split at h
    · exact nomatch h
    · split at h
      · next hword =>
        rw [Except.ok.inj h, Bool.and_eq_true, decide_eq_true_eq, decide_eq_true_eq, minWord]
          at hword
        have hlt : n.natAbs < 10 ^ 19 := by omega
        have hcount : Decimal.digitCount n.natAbs ≤ 19 :=
          (Decimal.digitCount_le_iff (by decide)).2 hlt
        exact hcount.trans (by decide)
      · exact nomatch h

/-- A whole number that is read from a value of a document is not too long for a document. -/
theorem digitCount_of_integer {v : Json} {n : Int} (hv : v.isReadable = true)
    (h : integer v = .accept n) : Decimal.digitCount n.natAbs ≤ Json.maxIntegerDigits := by
  cases v with
  | int m =>
    obtain rfl := Except.ok.inj h
    simpa [Json.isReadable] using hv
  | bool b =>
    obtain rfl := Except.ok.inj h
    cases b <;> decide
  | float x => exact digitCount_of_wholeFloat h
  | text s => exact digitCount_of_wholeText h
  | null => exact nomatch h
  | list items => exact nomatch h
  | object fields => exact nomatch h

end Coercion

/-! ## Actions -/

namespace Checked

variable {α : Type} {a : α}

theorem of_orReject {c : Checked α} {kind : String} (h : c.orReject kind = .ok a) :
    c = .accept a := by
  cases c with
  | ok b => exact congrArg Except.ok (Except.ok.inj h)
  | error issues => exact nomatch h

theorem orReject_of_accept {c : Checked α} (h : c = .accept a) (kind : String) :
    c.orReject kind = .ok a := by
  rw [h]
  rfl

end Checked

namespace Json

theorem of_checkRow {α : Type} {v : Json} {check : Fields → Checked α} {a : α}
    (h : v.checkRow check = .accept a) : ∃ row, v = .object row ∧ check row = .accept a := by
  cases v with
  | object row => exact ⟨row, rfl, h⟩
  | _ => cases h

theorem isReadableFields_iff {fields : Fields} :
    isReadableFields fields = true ↔ ∀ member ∈ fields, member.2.isReadable = true := by
  induction fields with
  | nil => simp [isReadableFields]
  | cons member rest ih =>
    obtain ⟨k, v⟩ := member
    simp [isReadableFields, ih]

theorem isReadableItems_iff {items : List Json} :
    isReadableItems items = true ↔ ∀ v ∈ items, v.isReadable = true := by
  induction items with
  | nil => simp [isReadableItems]
  | cons v rest ih => simp [isReadableItems, ih]

end Json

namespace Action

theorem check_eq_accept_iff {row : Fields} {a : Action} :
    check (.object row) = .accept a ↔
      row.optional "id" none (Coercion.orNull Coercion.textOrNumber) = .accept a.id ∧
        row.optional "branch_id" none (Coercion.orNull Coercion.textOrNumber) =
          .accept a.branchId ∧
        row.optional "execution_order" 0 Coercion.integer = .accept a.order ∧
        row.without ownNames = a.extra := by
  rw [check, Json.checkRow]
  constructor
  · intro h
    obtain ⟨_, extra, hthree, hextra, rfl⟩ := Checked.seq_eq_accept h
    obtain ⟨_, order, htwo, horder, rfl⟩ := Checked.seq_eq_accept hthree
    obtain ⟨_, branchId, hone, hbranch, rfl⟩ := Checked.seq_eq_accept htwo
    obtain ⟨id, hid, rfl⟩ := Checked.map_eq_accept hone
    exact ⟨hid, hbranch, horder, Except.ok.inj hextra⟩
  · rintro ⟨hid, hbranch, horder, hextra⟩
    rw [hid, hbranch, horder, hextra]
    rfl

/-- Actions whose rows a document can hold. -/
def AllReadable (actions : List Action) : Prop :=
  ∀ a ∈ actions, (Json.object a.toFields).isReadable = true

theorem isReadableFields_without {row : Fields} (h : Json.isReadableFields row = true)
    (names : List String) : Json.isReadableFields (row.without names) = true := by
  rw [Json.isReadableFields_iff] at h ⊢
  exact fun member hmember => h member (List.mem_filter.1 hmember).1

theorem nodup_names_toFields {row : Fields} (h : (row.map (·.1)).Nodup) {a : Action}
    (ha : a.extra = row.without ownNames) : (a.toFields.map (·.1)).Nodup := by
  have hnames : a.toFields.map (·.1) = ownNames ++ (row.without ownNames).map (·.1) := by
    rw [toFields, ha, List.map_append]
    rfl
  rw [hnames, List.nodup_append]
  refine ⟨by decide, (h.sublist ?_), ?_⟩
  · exact List.filter_sublist.map _
  · rintro name hown other hother rfl
    obtain ⟨member, hmember, rfl⟩ := List.mem_map.1 hother
    have hkept := (List.mem_filter.1 hmember).2
    simp [hown] at hkept

/-- The order of an action is one that a document can hold. -/
theorem isReadable_order {row : Fields} {order : Int} (h : Json.isReadableFields row = true)
    (horder : row.optional "execution_order" 0 Coercion.integer = .accept order) :
    (Json.int order).isReadable = true := by
  rw [Json.isReadable, decide_eq_true_eq]
  rcases Fields.of_optional horder with ⟨-, rfl⟩ | ⟨v, hv, hinteger⟩
  · decide
  · exact Coercion.digitCount_of_integer (Json.isReadable_of_lookup h hv) hinteger

/-- The row of an action that is described by a row of a document can be held by one. -/
theorem isReadable_toFields {row : Json} {a : Action} (hrow : row.isReadable = true)
    (h : read row = .ok a) : (Json.object a.toFields).isReadable = true := by
  have hcheck := Checked.of_orReject h
  obtain ⟨fields, rfl, -⟩ := Json.of_checkRow hcheck
  obtain ⟨-, -, horder, hextra⟩ := check_eq_accept_iff.1 hcheck
  obtain ⟨hnodup, hvalues⟩ := Json.isReadable_object.1 hrow
  refine Json.isReadable_object.2 ⟨nodup_names_toFields hnodup hextra.symm, ?_⟩
  rw [toFields, ← hextra, Json.isReadableFields_append, isReadableFields_without hvalues]
  have hnumber := isReadable_order hvalues horder
  cases a.id <;> cases a.branchId <;> simpa [Json.isReadableFields, Json.isReadable] using hnumber

end Action

/-! ## Answers -/

/-- The answer without its warnings, and with null for every number in its actions that a document
cannot hold. -/
def Response.writable (r : Response) : Response :=
  { r with actions := r.actions.map Json.withoutNonFiniteFields, warnings := [] }

namespace Envelope

/-- The value that the document of an answer holds. -/
def written (e : Envelope) : Json :=
  (Json.object e.toFields).withoutNonFinite

/-- A value is read as the answer that was written. -/
def ReadsAs (v : Json) : Envelope → Prop
  | success r => Response.read v = .ok r.writable
  | failure f => FailureResponse.read v = .ok f

/-- An answer at some readings that a document can hold: its confidence is a share, and its actions
are rows that a document can hold. -/
def IsWritable (readings : Readings) : Envelope → Prop
  | success r => r.confidence.IsShare ∧ r.elapsed = readings.elapsed ∧
      ∀ row ∈ r.actions, (Json.object row).isReadable = true
  | failure _ => True

variable {e : Envelope} {readings : Readings}

theorem isReadable_toFields (h : e.IsWritable readings) :
    (Json.object e.toFields).isReadable = true := by
  cases e with
  | failure f => exact Json.isReadable_object.2 ⟨by simp [toFields, FailureResponse.toFields], rfl⟩
  | success r =>
    obtain ⟨-, -, hactions⟩ := h
    have hitems : Json.isReadableItems (r.actions.map .object) = true := by
      rw [Json.isReadableItems_iff]
      intro v hv
      obtain ⟨row, hrow, rfl⟩ := List.mem_map.1 hv
      exact hactions row hrow
    refine Json.isReadable_object.2 ⟨by simp [toFields, Response.toFields], ?_⟩
    simp only [toFields, Response.toFields, Json.isReadableFields, Json.isReadable, hitems,
      Bool.and_self]

/-- **The document of an answer holds what was written.** -/
theorem parse_render (h : e.IsWritable readings) : Json.parse e.render = .ok e.written :=
  Json.parse_render _ (Json.isReadable_withoutNonFinite (isReadable_toFields h))

/-- What was written tells of success or failure. -/
theorem member?_written (e : Envelope) : e.written.member? "success" = some (.bool e.isSuccess) := by
  cases e <;> rfl

theorem withoutNonFiniteItems_objects (rows : List Fields) :
    Json.withoutNonFiniteItems (rows.map .object) =
      (rows.map Json.withoutNonFiniteFields).map .object := by
  induction rows with
  | nil => rfl
  | cons row rest ih =>
    rw [List.map_cons, List.map_cons, List.map_cons, Json.withoutNonFiniteItems, ih,
      Json.withoutNonFinite]

theorem written_success {r : Response} (hconfidence : r.confidence.isFinite = true)
    (helapsed : r.elapsed.isFinite = true) :
    (success r).written = .object r.writable.toFields := by
  simp [written, toFields, Response.toFields, Response.writable, Json.withoutNonFinite,
    Json.withoutNonFiniteFields, hconfidence, helapsed, withoutNonFiniteItems_objects]

theorem read_toFields {r : Response} (h : r.confidence.IsShare) (hwarnings : r.warnings = []) :
    Response.read (.object r.toFields) = .ok r := by
  have hconfidence : r.toFields.required "confidence_score" Coercion.share =
      .accept r.confidence := Fields.required_eq (by rfl) (Coercion.share_eq h)
  have hactions : r.toFields.optional "actions_to_execute" [] (Coercion.list Coercion.object) =
      .accept r.actions := Fields.optional_eq (by rfl) (Coercion.list_objects r.actions)
  have hchecked : Response.check (.object r.toFields) = .accept { r with warnings := [] } := by
    rw [Response.check, Json.checkRow]
    rw [hconfidence, hactions]
    rfl
  rw [Response.read, hchecked, ← hwarnings]
  rfl

/-- **What was written is read as the answer**, if its time is finite. -/
theorem readsAs_written (h : e.IsWritable readings) (helapsed : readings.elapsed.isFinite = true) :
    ReadsAs e.written e := by
  cases e with
  | failure f => exact FailureResponse.read_toFields f
  | success r =>
    obtain ⟨hshare, htime, -⟩ := h
    rw [← htime] at helapsed
    rw [ReadsAs, written_success hshare.isFinite helapsed]
    exact read_toFields hshare rfl

end Envelope

/-! ## The answers of decisions -/

section Decisions

variable {σ ε : Type}

theorem rowsFound_isReadable {outcome : Except ε (List Action)}
    (h : ∀ actions, outcome = .ok actions → Action.AllReadable actions) :
    ∀ row ∈ rowsFound outcome, (Json.object row).isReadable = true := by
  cases outcome with
  | error e => exact fun row hrow => nomatch hrow
  | ok actions =>
    intro row hrow
    obtain ⟨a, ha, rfl⟩ := List.mem_map.1 hrow
    exact h actions rfl a ha

theorem choiceFrom_isShare {r : Request} {readings : Readings}
    {fetched : Except String (List Branch)} {context : Fields} {selected : ScoredBranch}
    (h : choiceFrom r readings fetched = .ok (context, selected)) :
    selected.confidence.IsShare := by
  cases fetched with
  | error cause => exact nomatch h
  | ok branches => exact chooseBranch_isShare h

/-- A document can hold the answer of a decision if it can hold the actions that the store finds. -/
theorem decide_writable (stores : Stores σ ε) (s : σ) (submission : Submission)
    (readings : Readings)
    (h : ∀ workflowId entry branchId actions,
      (stores.listActions branchId
        (stores.append entry (stores.listBranches workflowId s).2).2).1 = .ok actions →
      Action.AllReadable actions) :
    ((submission.decide readings).run stores s).1.IsWritable readings := by
  cases hr : submission.request with
  | error flaw =>
    rw [Submission.decide_of_flaw hr]
    trivial
  | ok r =>
    rw [Submission.decide_of_request hr, decide_sides]
    cases hside : choiceFrom r readings
        (worded stores.wording (stores.listBranches r.workflowId s).1) with
    | error e => trivial
    | ok choice =>
      obtain ⟨context, selected⟩ := choice
      simp only [conclude_answer]
      exact ⟨choiceFrom_isShare hside, rfl, rowsFound_isReadable (h _ _ _)⟩

end Decisions

/-! ## Actions of the stores -/

theorem Action.allReadable_of_mapM {rows : List Json} {actions : List Action}
    (hrows : Json.isReadableItems rows = true) (h : rows.mapM Action.read = .ok actions) :
    Action.AllReadable actions := by
  intro a ha
  obtain ⟨row, hmem, hread⟩ := MemoryStore.exists_row_of_mapM h a ha
  exact isReadable_toFields (Json.isReadableItems_iff.1 hrows row hmem) hread

namespace MemoryStore

theorem rowsOf_isReadable {v : Json} {rows : List Json} (hv : v.isReadable = true)
    (h : rowsOf v = .ok rows) : Json.isReadableItems rows = true := by
  rw [Json.isReadableItems_iff]
  cases v with
  | list items =>
    obtain rfl := Except.ok.inj h
    exact Json.isReadableItems_iff.1 hv
  | text s =>
    obtain rfl := Except.ok.inj h
    intro row hrow
    obtain ⟨c, -, rfl⟩ := List.mem_map.1 hrow
    rfl
  | object fields =>
    obtain rfl := Except.ok.inj h
    intro row hrow
    obtain ⟨member, -, rfl⟩ := List.mem_map.1 hrow
    rfl
  | null => exact nomatch h
  | bool b => exact nomatch h
  | int n => exact nomatch h
  | float x => exact nomatch h

theorem readPart_eq_ok_iff {α : Type} {read : Json → Except Rejection α} {document : Fields}
    {name : String} {parts : List α} :
    readPart read document name = .ok parts ↔
      ∃ rows, rowsOf ((document.lookup name).getD (.list [])) = .ok rows ∧
        rows.mapM read = .ok parts := by
  unfold readPart
  cases rowsOf ((document.lookup name).getD (.list [])) with
  | error e => simp
  | ok rows => cases hparts : rows.mapM read <;> simp [hparts]

/-- A document can hold the actions of a store that a document describes. -/
theorem actions_isReadable {v : Json} {store : MemoryStore} (hv : v.isReadable = true)
    (h : ofDocument v = .ok store) : Action.AllReadable store.actions := by
  cases v with
  | object document =>
    obtain ⟨rows, hrows, hread⟩ := readPart_eq_ok_iff.1 (ofDocument_eq_ok h).2.1
    have hpart : ((List.lookup "actions" document).getD (.list [])).isReadable = true := by
      cases hget : List.lookup "actions" document with
      | none => rfl
      | some part => exact Json.isReadable_of_lookup (Json.isReadable_object.1 hv).2 hget
    exact Action.allReadable_of_mapM (rowsOf_isReadable hpart hrows) hread
  | _ => exact nomatch h

/-- **A document can hold the answer over a store that a document describes.** -/
theorem decide_isWritable {v : Json} {store : MemoryStore} (hv : v.isReadable = true)
    (h : ofDocument v = .ok store) (submission : Submission) (readings : Readings) :
    ((submission.decide readings).run stores store).1.IsWritable readings := by
  refine decide_writable stores store submission readings ?_
  intro workflowId entry branchId actions hfound a ha
  obtain rfl := Except.ok.inj hfound
  have hmem : a ∈ store.actions := (List.mem_filter.1 (List.mem_mergeSort.1 ha)).1
  exact actions_isReadable hv h a hmem

end MemoryStore

namespace Rest

theorem readBody_isReadable {bytes : List UInt8} {v : Json} (h : readBody bytes = .ok v) :
    v.isReadable = true := by
  unfold readBody at h
  cases hchars : Text.decodeDocument bytes with
  | error e =>
    rw [hchars] at h
    exact nomatch h
  | ok chars =>
    rw [hchars] at h
    dsimp only at h
    cases hparse : Json.parse (String.ofList chars) with
    | error e =>
      rw [hparse] at h
      exact nomatch h
    | ok w =>
      rw [hparse] at h
      obtain rfl := Except.ok.inj h
      exact Json.isReadable_of_parse hparse

/-- A document can hold the actions that a remote store finds. -/
theorem listActions_isReadable {branchId : String} {s : RestState} {actions : List Action}
    (h : (listActions branchId s).1 = .ok actions) : Action.AllReadable actions := by
  obtain ⟨-, reply, later, rows, -, ⟨status, body, -, -, -, hbody⟩, hread⟩ := select_eq_ok_iff.1 h
  exact Action.allReadable_of_mapM (readBody_isReadable hbody) hread

/-- **A document can hold the answer over remote stores.** -/
theorem decide_isWritable (s : RestState) (submission : Submission) (readings : Readings) :
    ((submission.decide readings).run stores s).1.IsWritable readings :=
  decide_writable stores s submission readings
    fun _ _ _ _ hfound => listActions_isReadable hfound

end Rest

end BranchChoice
