import BranchChoice.Proofs.AnswerDocuments
import BranchChoice.Proofs.ContainerTexts
import BranchChoice.Proofs.ListingOrder

/-!
# Texts as they were given

Half of a pair of units is no character.  Where a document has one alone, it is read as the
replacement character, and the text that it stood in is not the one that was given.  A value in which
there is no replacement character is intact: all of it was read as it was given, and all of it can be
written again.

The texts of an answer come from rows as they are, or are numerals.  So an answer is intact if the
rows are.

* `Json.unitChar_half`: what the replacement character stands for.
* `Branch.isIntact_of_read` and `Action.isIntact_of_read`: what a row describes.
* `MemoryStore.decide_isIntact` and `Rest.decide_isIntact`: the answers over both kinds of store.
-/

namespace BranchChoice

/-! ## Values -/

namespace Text

/-- The character that stands for what is no character. -/
def replacement : Char := Char.ofNat 65533

/-- No character of a text stands for what is none. -/
def isIntact (s : String) : Bool := !s.toList.contains replacement

theorem isIntact_iff {s : String} : isIntact s = true ↔ replacement ∉ s.toList := by
  simp [isIntact]

theorem isIntact_of_allPlain {s : List Char} (h : AllPlain s) :
    isIntact (String.ofList s) = true := by
  rw [isIntact_iff, String.toList_ofList]
  intro hmem
  exact absurd (h _ hmem).2 (by decide)

theorem isIntact_singleton {s : String} (h : isIntact s = true) {c : Char} (hc : c ∈ s.toList) :
    isIntact (String.singleton c) = true := by
  rw [isIntact_iff] at h ⊢
  rw [String.toList_singleton, List.mem_singleton]
  rintro rfl
  exact h hc

end Text

namespace Json

/-- Half of a pair is read as the replacement character, and every character as itself
(`unitChar_toNat`). -/
theorem unitChar_half {n : Nat} (hlow : 55296 ≤ n) (hhigh : n ≤ 57343) :
    unitChar n = Text.replacement := by
  simp [unitChar, hlow, hhigh, Text.replacement]

mutual

/-- All texts in a value are intact. -/
def isIntact : Json → Bool
  | text s => Text.isIntact s
  | list items => isIntactItems items
  | object fields => isIntactFields fields
  | _ => true

/-- All items are intact. -/
def isIntactItems : List Json → Bool
  | [] => true
  | v :: rest => v.isIntact && isIntactItems rest

/-- The names and the values of all members are intact. -/
def isIntactFields : List (String × Json) → Bool
  | [] => true
  | (name, v) :: rest => Text.isIntact name && v.isIntact && isIntactFields rest

end

theorem isIntactItems_iff {items : List Json} :
    isIntactItems items = true ↔ ∀ v ∈ items, v.isIntact = true := by
  induction items with
  | nil => simp [isIntactItems]
  | cons v rest ih => simp [isIntactItems, ih]

theorem isIntactFields_iff {fields : Fields} :
    isIntactFields fields = true ↔
      ∀ member ∈ fields, Text.isIntact member.1 = true ∧ member.2.isIntact = true := by
  induction fields with
  | nil => simp [isIntactFields]
  | cons member rest ih => simp [isIntactFields, ih]

theorem isIntact_of_lookup {fields : Fields} {name : String} {v : Json}
    (h : isIntactFields fields = true) (hv : fields.lookup name = some v) : v.isIntact = true := by
  obtain ⟨before, after, rfl, -⟩ := List.lookup_eq_some_iff.1 hv
  exact (isIntactFields_iff.1 h _ (List.mem_append_right before List.mem_cons_self)).2

end Json

/-! ## What rows describe -/

theorem Coercion.isIntact_of_textOrNumber {v : Json} {s : String} (hv : v.isIntact = true)
    (h : textOrNumber v = .accept s) : Text.isIntact s = true := by
  cases v with
  | int n =>
    obtain rfl := Except.ok.inj h
    exact Text.isIntact_of_allPlain (Json.isNumber_writeInt n).allPlain
  | float x =>
    obtain rfl := Except.ok.inj h
    exact Text.isIntact_of_allPlain
      (Json.allPlain_writeFloat rfl (by decide) (by decide) x)
  | text t =>
    obtain rfl := Except.ok.inj h
    exact hv
  | null => exact nomatch h
  | bool b => exact nomatch h
  | list items => exact nomatch h
  | object fields => exact nomatch h

/-- A text that is there, where null may stand for none. -/
theorem Coercion.of_orNull_some {α : Type} {check : Json → Checked α} {v : Json} {a : α}
    (h : orNull check v = .accept (some a)) : check v = .accept a := by
  cases v with
  | null => cases h
  | _ =>
    obtain ⟨b, hb, hab⟩ := Checked.map_eq_accept h
    rw [hb, Option.some.inj hab]

namespace Branch

/-- The texts by which a branch is known are intact. -/
def IsIntact (b : Branch) : Prop :=
  Text.isIntact b.id = true ∧ Text.isIntact b.name = true

theorem isIntact_of_read {row : Json} {b : Branch} (hrow : row.isIntact = true)
    (h : read row = .ok b) : b.IsIntact := by
  obtain ⟨fields, rfl, hcheck⟩ := Json.of_checkRow (Checked.of_orReject h)
  obtain ⟨_, _, hfive, -, rfl⟩ := Checked.seq_eq_accept hcheck
  obtain ⟨_, _, hfour, -, rfl⟩ := Checked.seq_eq_accept hfive
  obtain ⟨_, _, hthree, -, rfl⟩ := Checked.seq_eq_accept hfour
  obtain ⟨_, _, htwo, -, rfl⟩ := Checked.seq_eq_accept hthree
  obtain ⟨_, name, hone, hname, rfl⟩ := Checked.seq_eq_accept htwo
  obtain ⟨id, hid, rfl⟩ := Checked.map_eq_accept hone
  obtain ⟨v, hv, hid⟩ := Fields.of_required hid
  obtain ⟨w, hw, hname⟩ := Fields.of_required hname
  exact ⟨Coercion.isIntact_of_textOrNumber (Json.isIntact_of_lookup hrow hv) hid,
    Coercion.isIntact_of_textOrNumber (Json.isIntact_of_lookup hrow hw) hname⟩

end Branch

namespace Action

/-- The texts in the row of an action are intact. -/
def IsIntact (a : Action) : Prop :=
  Json.isIntactFields a.toFields = true

/-- A text that may be missing is intact. -/
theorem isIntact_of_optional {row : Fields} {name : String} {s : Option String}
    (hrow : Json.isIntactFields row = true)
    (h : row.optional name none (Coercion.orNull Coercion.textOrNumber) = .accept s) :
    (Json.ofText? s).isIntact = true := by
  rcases Fields.of_optional h with ⟨-, rfl⟩ | ⟨v, hv, hcheck⟩
  · rfl
  · cases s with
    | none => rfl
    | some t =>
      exact Coercion.isIntact_of_textOrNumber (Json.isIntact_of_lookup hrow hv)
        (Coercion.of_orNull_some hcheck)

theorem isIntactFields_without {row : Fields} (h : Json.isIntactFields row = true)
    (names : List String) : Json.isIntactFields (row.without names) = true := by
  rw [Json.isIntactFields_iff] at h ⊢
  exact fun member hmember => h member (List.mem_filter.1 hmember).1

/-- The action that an intact row describes is intact. -/
theorem isIntact_of_read {row : Json} {a : Action} (hrow : row.isIntact = true)
    (h : read row = .ok a) : a.IsIntact := by
  have hcheck := Checked.of_orReject h
  obtain ⟨fields, rfl, -⟩ := Json.of_checkRow hcheck
  obtain ⟨hid, hbranch, -, hextra⟩ := check_eq_accept_iff.1 hcheck
  have hothers : Json.isIntactFields a.extra = true :=
    hextra ▸ isIntactFields_without hrow ownNames
  have hown := isIntact_of_optional hrow hid
  have hbranchId := isIntact_of_optional hrow hbranch
  have hnames : Text.isIntact "id" = true ∧ Text.isIntact "branch_id" = true ∧
      Text.isIntact "execution_order" = true := by decide
  obtain ⟨id, branchId, order, extra⟩ := a
  cases id <;> cases branchId <;>
    simp_all [IsIntact, toFields, Json.isIntactFields, Json.isIntact, Json.ofText?]

end Action

/-! ## Answers -/

/-- The texts of an answer that come from the stores are intact. -/
def Envelope.IsIntact : Envelope → Prop
  | success r => Text.isIntact r.branchId = true ∧ Text.isIntact r.branchName = true ∧
      ∀ row ∈ r.actions, Json.isIntactFields row = true
  | failure _ => True

section Decisions

variable {σ ε : Type}

theorem rowsFound_isIntact {outcome : Except ε (List Action)}
    (h : ∀ actions, outcome = .ok actions → ∀ a ∈ actions, a.IsIntact) :
    ∀ row ∈ rowsFound outcome, Json.isIntactFields row = true := by
  cases outcome with
  | error e => exact fun row hrow => nomatch hrow
  | ok actions =>
    intro row hrow
    obtain ⟨a, ha, rfl⟩ := List.mem_map.1 hrow
    exact h actions rfl a ha

/-- An answer is intact if what the stores list is. -/
theorem decide_intact (stores : Stores σ ε) (s : σ) (submission : Submission)
    (readings : Readings)
    (hbranches : ∀ workflowId branches, (stores.listBranches workflowId s).1 = .ok branches →
      ∀ b ∈ branches, b.IsIntact)
    (hactions : ∀ workflowId entry branchId actions,
      (stores.listActions branchId
        (stores.append entry (stores.listBranches workflowId s).2).2).1 = .ok actions →
      ∀ a ∈ actions, a.IsIntact) :
    ((submission.decide readings).run stores s).1.IsIntact := by
  cases hr : submission.request with
  | error flaw =>
    rw [Submission.decide_of_flaw hr]
    trivial
  | ok r =>
    rw [Submission.decide_of_request hr, decide_sides]
    cases hfetched : (stores.listBranches r.workflowId s).1 with
    | error e => trivial
    | ok branches =>
      cases hside : chooseBranch r readings branches with
      | error e =>
        simp only [worded, choiceFrom, hside]
        trivial
      | ok choice =>
        obtain ⟨context, selected⟩ := choice
        have hmem := selectBranch_mem (chooseBranch_eq_ok_iff.1 hside).2.2
        obtain ⟨hid, hname⟩ := hbranches _ _ hfetched _ hmem
        simp only [worded, choiceFrom, hside, conclude_answer]
        exact ⟨hid, hname, rowsFound_isIntact (hactions _ _ _)⟩

end Decisions

/-! ## Stores -/

theorem isIntact_of_mapM {α : Type} {read : Json → Except Rejection α} {IsIntact : α → Prop}
    (hread : ∀ {row : Json} {a : α}, row.isIntact = true → read row = .ok a → IsIntact a)
    {rows : List Json} {parts : List α} (hrows : Json.isIntactItems rows = true)
    (h : rows.mapM read = .ok parts) : ∀ a ∈ parts, IsIntact a := by
  intro a ha
  obtain ⟨row, hmem, hrow⟩ := MemoryStore.exists_row_of_mapM h a ha
  exact hread (Json.isIntactItems_iff.1 hrows row hmem) hrow

namespace MemoryStore

theorem rowsOf_isIntact {v : Json} {rows : List Json} (hv : v.isIntact = true)
    (h : rowsOf v = .ok rows) : Json.isIntactItems rows = true := by
  rw [Json.isIntactItems_iff]
  cases v with
  | list items =>
    obtain rfl := Except.ok.inj h
    exact Json.isIntactItems_iff.1 hv
  | text s =>
    obtain rfl := Except.ok.inj h
    intro row hrow
    obtain ⟨c, hc, rfl⟩ := List.mem_map.1 hrow
    exact Text.isIntact_singleton hv hc
  | object fields =>
    obtain rfl := Except.ok.inj h
    intro row hrow
    obtain ⟨member, hmember, rfl⟩ := List.mem_map.1 hrow
    exact (Json.isIntactFields_iff.1 hv member hmember).1
  | null => exact nomatch h
  | bool b => exact nomatch h
  | int n => exact nomatch h
  | float x => exact nomatch h

/-- What is read from a part of an intact document is intact. -/
theorem readPart_isIntact {α : Type} {read : Json → Except Rejection α} {IsIntact : α → Prop}
    (hread : ∀ {row : Json} {a : α}, row.isIntact = true → read row = .ok a → IsIntact a)
    {document : Fields} {name : String} {parts : List α}
    (hdocument : Json.isIntactFields document = true)
    (h : readPart read document name = .ok parts) : ∀ a ∈ parts, IsIntact a := by
  obtain ⟨rows, hrows, hparts⟩ := readPart_eq_ok_iff.1 h
  refine isIntact_of_mapM hread (rowsOf_isIntact ?_ hrows) hparts
  cases hget : document.lookup name with
  | none => rfl
  | some part => exact Json.isIntact_of_lookup hdocument hget

/-- **The answer over a store that an intact document describes is intact.** -/
theorem decide_isIntact {v : Json} {store : MemoryStore} (hv : v.isIntact = true)
    (h : ofDocument v = .ok store) (submission : Submission) (readings : Readings) :
    ((submission.decide readings).run stores store).1.IsIntact := by
  cases v with
  | object document =>
    obtain ⟨hbranches, hactions, -⟩ := ofDocument_eq_ok h
    refine decide_intact stores store submission readings ?_ ?_
    · intro workflowId branches hlisted b hb
      obtain rfl := Except.ok.inj hlisted
      have hmem := (List.mem_filter.1 ((byPriority_perm _).subset hb)).1
      exact readPart_isIntact Branch.isIntact_of_read hv hbranches b hmem
    · intro workflowId entry branchId actions hlisted a ha
      obtain rfl := Except.ok.inj hlisted
      have hmem : a ∈ store.actions := (List.mem_filter.1 (List.mem_mergeSort.1 ha)).1
      exact readPart_isIntact Action.isIntact_of_read hv hactions a hmem
  | _ => exact nomatch h

end MemoryStore

namespace Rest

/-- The body of a reply, if it can be read, is read as it was given. -/
def Reply.IsIntact : Reply → Prop
  | .response _ body => ∀ v, readBody body = .ok v → v.isIntact = true
  | .timeout | .failure _ => True

variable {s : RestState}

theorem select_isIntact {α : Type} {read : Json → Except Rejection α} {IsIntact : α → Prop}
    (hread : ∀ {row : Json} {a : α}, row.isIntact = true → read row = .ok a → IsIntact a)
    {role : Role} {filters : Parameters} {invalid : Rejection → Cause} {parts : List α}
    (hreplies : ∀ reply ∈ s.wire.replies, reply.IsIntact)
    (h : (select role filters read invalid s).1 = .ok parts) : ∀ a ∈ parts, IsIntact a := by
  obtain ⟨-, reply, later, rows, heq, ⟨status, body, rfl, -, -, hbody⟩, hparts⟩ :=
    select_eq_ok_iff.1 h
  have hreply : Reply.IsIntact (.response status body) := hreplies _ (heq ▸ List.mem_cons_self)
  exact isIntact_of_mapM hread (hreply _ hbody) hparts

/-- **The answer over remote stores is intact if what they are answered is.** -/
theorem decide_isIntact (hreplies : ∀ reply ∈ s.wire.replies, reply.IsIntact)
    (submission : Submission) (readings : Readings) :
    ((submission.decide readings).run stores s).1.IsIntact := by
  have hlater {requests : List HttpRequest} {s₁ s₂ : RestState} (h : Sends s₁ requests s₂)
      (hs : ∀ reply ∈ s₁.wire.replies, reply.IsIntact) :
      ∀ reply ∈ s₂.wire.replies, reply.IsIntact := by
    rw [h.replies]
    exact fun reply hreply => hs reply (List.mem_of_mem_drop hreply)
  refine decide_intact stores s submission readings
    (fun workflowId branches hlisted => select_isIntact Branch.isIntact_of_read hreplies hlisted)
    fun workflowId entry branchId actions hlisted => ?_
  exact select_isIntact Action.isIntact_of_read
    (hlater (append_sends entry _) (hlater (select_sends _ _ _ _ s) hreplies)) hlisted

end Rest

end BranchChoice
