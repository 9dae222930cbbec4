import BranchChoice.Proofs.ListedActions
import BranchChoice.Proofs.RequestFlaws

/-!
# Rows that are read again

Reading takes many a value for what it spells: a number for its text, a text for its number or
truth value, null for an empty object.  What comes out is written with values of the columns' own
types, which every check takes as they are.  What remains to be shown of each kind of row is that
the bounds of its columns, and the names that an action keeps, hold of everything that is read.

* `Rereads`: rows of a kind are read as the same when they are written and read again.
* `read_toJson`, for each kind of row: within its bounds, what is written is read as it is.  A
  branch without a priority gets the one that this counts as (`Branch.settled`).
* `Request.hasIds_of_read`, `ScoredBranch.isShare_of_read`, `Action.isApart_of_read`: what is read
  is within the bounds.
* `Rereads.of_settles`: the first from the other two.
* `reread_rows`: this holds of branches, actions, scored branches, log entries and requests.
-/

namespace BranchChoice

/-! ## Reading again -/

/-- Rows of a kind are read again as what they are. -/
structure Rereads {α : Type} (read : Json → Except Rejection α) (toJson : α → Json)
    (bounds : α → Prop) (same : α → α → Prop) : Prop where
  /-- What is read from a value is written as a row that is read as the same, and from then on as
  exactly what was written. -/
  again : ∀ ⦃v : Json⦄ ⦃a : α⦄, read v = .ok a →
    ∃ b, read (toJson a) = .ok b ∧ same b a ∧ read (toJson b) = .ok b
  /-- What is read from a value keeps within the bounds. -/
  within : ∀ ⦃v : Json⦄ ⦃a : α⦄, read v = .ok a → bounds a
  /-- Whatever keeps within the bounds is read as the same from what is written for it, so that
  nothing is lost in a row. -/
  faithful : ∀ ⦃a : α⦄, bounds a → ∃ b, read (toJson a) = .ok b ∧ same b a

/-- Reading again from two facts: what is read is within the bounds, and within the bounds reading
undoes writing, up to a value that is settled after one time. -/
theorem Rereads.of_settles {α : Type} {read : Json → Except Rejection α} {toJson : α → Json}
    {bounds : α → Prop} {same : α → α → Prop} {settle : α → α}
    (hwithin : ∀ ⦃v a⦄, read v = .ok a → bounds a)
    (hread : ∀ ⦃a⦄, bounds a → read (toJson a) = .ok (settle a))
    (hsame : ∀ a, same (settle a) a) (hsettled : ∀ a, settle (settle a) = settle a) :
    Rereads read toJson bounds same where
  again v a h := by
    have hagain := hread (hwithin h)
    have hthen := hread (hwithin hagain)
    rw [hsettled] at hthen
    exact ⟨settle a, hagain, hsame a, hthen⟩
  within := hwithin
  faithful a h := ⟨settle a, hread h, hsame a⟩

/-! ## Checks -/

theorem Checked.of_andThen {α β : Type} {c : Checked α} {check : α → Checked β} {b : β}
    (h : c.andThen check = .accept b) : ∃ a, c = .accept a ∧ check a = .accept b := by
  cases c with
  | ok a => exact ⟨a, rfl, h⟩
  | error issues => exact nomatch h

namespace Coercion

theorem of_share {v : Json} {x : Binary64} (h : share v = .accept x) : x.IsShare := by
  obtain ⟨y, -, hy⟩ := Checked.of_andThen h
  split_ifs at hy with habove hbelow
  · exact nomatch hy
  · exact nomatch hy
  · obtain rfl := Except.ok.inj hy
    exact ⟨by simpa using hbelow, by simpa using habove⟩

theorem textOrNull_ofText? (given : Option String) :
    orNull textOrNumber (.ofText? given) = .accept given := by
  cases given <;> rfl

end Coercion

/-! ## Branches -/

namespace Branch

/-- The branch with its priority said, zero if it has none. -/
def settled (b : Branch) : Branch :=
  { b with priority := some b.rank }

/-- What is written for a priority: a whole number if it is not given. -/
def priorityJson : Option Binary64 → Json
  | some x => .float x
  | none => .int 0

theorem number_priorityJson (priority : Option Binary64) :
    Coercion.number (priorityJson priority) = .accept (priority.getD .zero) := by
  cases priority with
  | some x => rfl
  | none =>
    have hzero : Binary64.ofInt 0 = .zero := by decide +kernel
    rw [priorityJson, Coercion.number, hzero]
    rfl

theorem check_eq_accept_iff {row : Fields} {b : Branch} :
    check (.object row) = .accept b ↔
      row.required "id" Coercion.textOrNumber = .accept b.id ∧
        row.required "branch_name" Coercion.textOrNumber = .accept b.name ∧
        row.optional "conditions" [] conditionsOf = .accept b.conditions ∧
        row.optional "priority" none (fun v => (Coercion.number v).map some) = .accept b.priority ∧
        row.optional "is_default" false Coercion.truth = .accept b.isDefault ∧
        row.optional "workflow_id" none (Coercion.orNull Coercion.textOrNumber) =
          .accept b.workflowId := by
  rw [check, Json.checkRow]
  constructor
  · intro h
    obtain ⟨_, workflowId, hfive, hworkflow, rfl⟩ := Checked.seq_eq_accept h
    obtain ⟨_, isDefault, hfour, hdefault, rfl⟩ := Checked.seq_eq_accept hfive
    obtain ⟨_, priority, hthree, hpriority, rfl⟩ := Checked.seq_eq_accept hfour
    obtain ⟨_, conditions, htwo, hconditions, rfl⟩ := Checked.seq_eq_accept hthree
    obtain ⟨_, name, hone, hname, rfl⟩ := Checked.seq_eq_accept htwo
    obtain ⟨id, hid, rfl⟩ := Checked.map_eq_accept hone
    exact ⟨hid, hname, hconditions, hpriority, hdefault, hworkflow⟩
  · rintro ⟨hid, hname, hconditions, hpriority, hdefault, hworkflow⟩
    rw [hid, hname, hconditions, hpriority, hdefault, hworkflow]
    rfl

/-- Every branch is read from what is written, with its priority said. -/
theorem check_toJson (b : Branch) : check b.toJson = .accept b.settled := by
  have hpriority : (Coercion.number (priorityJson b.priority)).map some = .accept (some b.rank) := by
    rw [number_priorityJson]
    rfl
  exact check_eq_accept_iff.2 ⟨Fields.required_eq rfl rfl, Fields.required_eq rfl rfl,
    Fields.optional_eq rfl rfl, Fields.optional_eq rfl hpriority, Fields.optional_eq rfl rfl,
    Fields.optional_eq rfl (Coercion.textOrNull_ofText? b.workflowId)⟩

theorem read_toJson (b : Branch) : read b.toJson = .ok b.settled :=
  Checked.orReject_of_accept (check_toJson b) kind

/-- The same values in all columns, where a priority that is not given counts as zero. -/
structure SameValues (b c : Branch) : Prop where
  id : b.id = c.id
  name : b.name = c.name
  conditions : b.conditions = c.conditions
  rank : b.rank = c.rank
  isDefault : b.isDefault = c.isDefault
  workflowId : b.workflowId = c.workflowId

theorem sameValues_settled (b : Branch) : b.settled.SameValues b :=
  ⟨rfl, rfl, rfl, rfl, rfl, rfl⟩

theorem rereads : Rereads read toJson (fun _ => True) SameValues :=
  .of_settles (fun _ _ _ => trivial) (fun b _ => read_toJson b) sameValues_settled fun _ => rfl

end Branch

/-! ## Actions -/

namespace Action

/-- None of the other members has the name of a column. -/
def IsApart (a : Action) : Prop :=
  ∀ column ∈ a.extra, column.1 ∉ ownNames

theorem isApart_of_read {v : Json} {a : Action} (h : read v = .ok a) : a.IsApart := by
  have hcheck := Checked.of_orReject h
  obtain ⟨row, rfl, -⟩ := Json.of_checkRow hcheck
  obtain ⟨-, -, -, hextra⟩ := check_eq_accept_iff.1 hcheck
  intro column hcolumn
  rw [← hextra] at hcolumn
  simpa using (List.mem_filter.1 hcolumn).2

theorem without_toFields {a : Action} (h : a.IsApart) : a.toFields.without ownNames = a.extra :=
  calc a.toFields.without ownNames = a.extra.without ownNames := rfl
    _ = a.extra := List.filter_eq_self.2 fun column hcolumn => by simpa using h column hcolumn

/-- An action is read from what is written if no other member has the name of a column. -/
theorem read_toJson {a : Action} (h : a.IsApart) : read a.toJson = .ok a := by
  have hchecked : check a.toJson = .accept a :=
    check_eq_accept_iff.2 ⟨Fields.optional_eq rfl (Coercion.textOrNull_ofText? a.id),
      Fields.optional_eq rfl (Coercion.textOrNull_ofText? a.branchId),
      Fields.optional_eq rfl rfl, without_toFields h⟩
  exact Checked.orReject_of_accept hchecked kind

theorem rereads : Rereads read toJson IsApart Eq :=
  .of_settles (fun _ _ => isApart_of_read) (fun _ => read_toJson) (fun _ => rfl) fun _ => rfl

end Action

/-! ## Scored branches -/

namespace ScoredBranch

theorem check_eq_accept_iff {row : Fields} {s : ScoredBranch} :
    check (.object row) = .accept s ↔
      row.required "branch" Branch.check = .accept s.branch ∧
        row.required "confidence" Coercion.share = .accept s.confidence ∧
        row.optional "matched" 0 Coercion.integer = .accept s.matched ∧
        row.optional "total" 0 Coercion.integer = .accept s.total := by
  rw [check, Json.checkRow]
  constructor
  · intro h
    obtain ⟨_, total, hthree, htotal, rfl⟩ := Checked.seq_eq_accept h
    obtain ⟨_, matched, htwo, hmatched, rfl⟩ := Checked.seq_eq_accept hthree
    obtain ⟨_, confidence, hone, hconfidence, rfl⟩ := Checked.seq_eq_accept htwo
    obtain ⟨branch, hbranch, rfl⟩ := Checked.map_eq_accept hone
    exact ⟨hbranch, hconfidence, hmatched, htotal⟩
  · rintro ⟨hbranch, hconfidence, hmatched, htotal⟩
    rw [hbranch, hconfidence, hmatched, htotal]
    rfl

theorem isShare_of_read {v : Json} {s : ScoredBranch} (h : read v = .ok s) :
    s.confidence.IsShare := by
  have hcheck := Checked.of_orReject h
  obtain ⟨row, rfl, -⟩ := Json.of_checkRow hcheck
  obtain ⟨-, hconfidence, -, -⟩ := check_eq_accept_iff.1 hcheck
  obtain ⟨v, -, hv⟩ := Fields.of_required hconfidence
  exact Coercion.of_share hv

/-- The scored branch with the priority of its branch said. -/
def settled (s : ScoredBranch) : ScoredBranch :=
  { s with branch := s.branch.settled }

/-- A scored branch is read from what is written if its confidence is a share. -/
theorem read_toJson {s : ScoredBranch} (h : s.confidence.IsShare) :
    read s.toJson = .ok s.settled := by
  have hchecked : check s.toJson = .accept s.settled :=
    check_eq_accept_iff.2 ⟨Fields.required_eq rfl s.branch.check_toJson,
      Fields.required_eq rfl (Coercion.share_eq h), Fields.optional_eq rfl rfl,
      Fields.optional_eq rfl rfl⟩
  exact Checked.orReject_of_accept hchecked kind

/-- The same values in all columns. -/
structure SameValues (s t : ScoredBranch) : Prop where
  branch : s.branch.SameValues t.branch
  confidence : s.confidence = t.confidence
  matched : s.matched = t.matched
  total : s.total = t.total

theorem sameValues_settled (s : ScoredBranch) : s.settled.SameValues s :=
  ⟨s.branch.sameValues_settled, rfl, rfl, rfl⟩

theorem rereads : Rereads read toJson (·.confidence.IsShare) SameValues :=
  .of_settles (fun _ _ => isShare_of_read) (fun _ => read_toJson) sameValues_settled fun _ => rfl

end ScoredBranch

/-! ## Log entries -/

theorem LogEntry.rereads : Rereads LogEntry.read LogEntry.toJson (fun _ => True) Eq :=
  .of_settles (fun _ _ _ => trivial) (fun e _ => e.build_eq) (fun _ => rfl) fun _ => rfl

/-! ## Requests -/

theorem Fields.GivesId.ne_empty {row : Fields} {name id : String} (h : row.GivesId name id) :
    id ≠ "" := by
  obtain ⟨v, -, ⟨-, hid⟩ | ⟨hnumber, rfl⟩⟩ := h
  · exact hid
  · rw [ne_eq, Json.toText_eq_empty_iff]
    rintro rfl
    cases hnumber

namespace Request

/-- The identifiers are given. -/
def HasIds (r : Request) : Prop :=
  r.workflowId ≠ "" ∧ r.contactId ≠ ""

theorem hasIds_of_read {v : Json} {r : Request} (h : read v = .ok r) : r.HasIds := by
  have hcheck := Checked.of_orReject h
  obtain ⟨row, rfl, -⟩ := Json.of_checkRow hcheck
  obtain ⟨hworkflow, hcontact, -⟩ := check_eq_accept_iff.1 hcheck
  exact ⟨hworkflow.ne_empty, hcontact.ne_empty⟩

theorem givesSection_of_lookup {row : Fields} {name : String} {given : Option Fields}
    (h : row.lookup name = some (sectionJson given)) : row.GivesSection name given := by
  cases given with
  | some members => exact h
  | none => exact .inr h

/-- A request is read from what is written if its identifiers are not empty. -/
theorem read_toJson {r : Request} (h : r.HasIds) : read r.toJson = .ok r := by
  have hchecked : check r.toJson = .accept r :=
    check_eq_accept_iff.2 ⟨⟨_, rfl, .inl ⟨rfl, h.1⟩⟩, ⟨_, rfl, .inl ⟨rfl, h.2⟩⟩,
      givesSection_of_lookup rfl, givesSection_of_lookup rfl, givesSection_of_lookup rfl⟩
  exact Checked.orReject_of_accept hchecked kind

theorem rereads : Rereads read toJson HasIds Eq :=
  .of_settles (fun _ _ => hasIds_of_read) (fun _ => read_toJson) (fun _ => rfl) fun _ => rfl

end Request

/-! ## All kinds -/

/-- **Rows are read again as what they are.**  Branches, also those with a score, keep the values of
all columns, where a priority that is not given is zero.  Actions with their other columns in order,
log entries and requests stay exactly the same. -/
theorem reread_rows :
    Rereads Branch.read Branch.toJson (fun _ => True) Branch.SameValues ∧
      Rereads Action.read Action.toJson Action.IsApart Eq ∧
      Rereads ScoredBranch.read ScoredBranch.toJson (·.confidence.IsShare)
        ScoredBranch.SameValues ∧
      Rereads LogEntry.read LogEntry.toJson (fun _ => True) Eq ∧
      Rereads Request.read Request.toJson Request.HasIds Eq :=
  ⟨Branch.rereads, Action.rereads, ScoredBranch.rereads, LogEntry.rereads, Request.rereads⟩

/-- Rows of each kind with numbers for texts and texts for numbers and truth values, a branch
without a priority, and an action with columns of its own between the others. -/
theorem reread_rows_coerced :
    let branchRow : Json := .object [("id", .int 7), ("branch_name", .float .nan),
      ("conditions", .null), ("is_default", .text "YES"), ("colour", .text "red")]
    let branch : Branch := ⟨"7", "nan", [], none, true, none⟩
    let actionRow : Json := .object [("colour", .text "red"), ("execution_order", .text " +1_0.0 "),
      ("id", .int (-3)), ("branch_id", .null), ("note", .list [])]
    let action : Action := ⟨some "-3", none, 10, [("colour", .text "red"), ("note", .list [])]⟩
    let scoredRow : Json := .object [("branch", branchRow), ("confidence", .float (.ofInt 1)),
      ("matched", .bool true), ("total", .text "2")]
    let scored : ScoredBranch := ⟨branch, .ofInt 1, 1, 2⟩
    let entryRow : Json := .object [("workflow_id", .text "w"), ("contact_id", .text "c"),
      ("branch_selected", .text "b"), ("confidence_score", .text " NaN "),
      ("execution_time_ms", .bool true)]
    let entry : LogEntry := ⟨"w", "c", "b", [], .nan, .ofInt 1⟩
    let requestRow : Json := .object [("workflow_id", .int 7), ("contact_id", .float .nan),
      ("form_data", .object [("x", .int 1)]), ("custom_data", .null)]
    let request : Request := ⟨"7", "nan", some [("x", .int 1)], none, none⟩
    (Branch.read branchRow = .ok branch ∧
      ∃ again, Branch.read branch.toJson = .ok again ∧ again.SameValues branch ∧
        Branch.read again.toJson = .ok again) ∧
    (Action.read actionRow = .ok action ∧ Action.read action.toJson = .ok action) ∧
    (ScoredBranch.read scoredRow = .ok scored ∧
      ∃ again, ScoredBranch.read scored.toJson = .ok again ∧ again.SameValues scored ∧
        ScoredBranch.read again.toJson = .ok again) ∧
    (LogEntry.read entryRow = .ok entry ∧ LogEntry.read entry.toJson = .ok entry) ∧
    (Request.read requestRow = .ok request ∧ Request.read request.toJson = .ok request) := by
  intro branchRow branch actionRow action scoredRow scored entryRow entry requestRow request
  obtain ⟨hbranches, hactions, hscores, hentries, hrequests⟩ := reread_rows
  have hyes : Coercion.truth (.text "YES") = .accept true := if_pos (by decide +kernel)
  have hcheck : Branch.check branchRow = .accept branch :=
    Branch.check_eq_accept_iff.2 ⟨rfl, rfl, rfl, rfl, Fields.optional_eq rfl hyes, rfl⟩
  have hbranch : Branch.read branchRow = .ok branch :=
    Checked.orReject_of_accept hcheck Branch.kind
  have haction : Action.read actionRow = .ok action := by rfl
  have hshare : Coercion.share (.float (.ofInt 1)) = .accept (.ofInt 1) :=
    Coercion.share_eq Binary64.one_isShare
  have hscoredCheck : ScoredBranch.check scoredRow = .accept scored :=
    ScoredBranch.check_eq_accept_iff.2
      ⟨Fields.required_eq rfl hcheck, Fields.required_eq rfl hshare, rfl, rfl⟩
  have hscored : ScoredBranch.read scoredRow = .ok scored :=
    Checked.orReject_of_accept hscoredCheck ScoredBranch.kind
  have hentry : LogEntry.read entryRow = .ok entry := by rfl
  have hrequest : Request.read requestRow = .ok request := by rfl
  obtain ⟨_, haction', rfl, -⟩ := hactions.again haction
  obtain ⟨_, hentry', rfl, -⟩ := hentries.again hentry
  obtain ⟨_, hrequest', rfl, -⟩ := hrequests.again hrequest
  exact ⟨⟨hbranch, hbranches.again hbranch⟩, ⟨haction, haction'⟩, ⟨hscored, hscores.again hscored⟩,
    ⟨hentry, hentry'⟩, ⟨hrequest, hrequest'⟩⟩

end BranchChoice
