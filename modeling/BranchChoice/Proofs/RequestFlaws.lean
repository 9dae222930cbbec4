import BranchChoice.Decision
import BranchChoice.Proofs.AbsentFields
import BranchChoice.Proofs.DocumentValues
import Mathlib.Data.List.Nodup
import Mathlib.Data.String.Basic

/-!
# What is wrong with a request

A request may have several things wrong with it at once, and only one of them is told.  The check
of a row finds them all: the issues of a combined check are those of its parts one after the other
(`Checked.issues_seq`), and each names the field that it is with (`Fields.path_of_mem_required`,
`Fields.path_of_mem_optional`).  So whatever is wrong with an identifier or a section is found with
it (`Request.mem_issues_check`), and which of these is told is decided by what the row says under
the names of its fields alone (`Request.ofJson_classified`).
-/

namespace BranchChoice

/-! ## Issues -/

namespace Checked

variable {α β : Type}

/-- The issues that a check has found, none if it accepts. -/
def issues : Checked α → List Issue
  | .ok _ => []
  | .error found => found

@[simp] theorem issues_accept (a : α) : (accept a).issues = [] :=
  rfl

@[simp] theorem issues_map (f : α → β) (c : Checked α) : (f <$> c).issues = c.issues := by
  cases c <;> rfl

/-- The issues of two checks together are those of both, in their order. -/
@[simp] theorem issues_seq (f : Checked (α → β)) (c : Checked α) :
    (f <*> c).issues = f.issues ++ c.issues := by
  cases f with
  | ok g => cases c <;> rfl
  | error found =>
    cases c with
    | ok a => exact (List.append_nil found).symm
    | error more => rfl

theorem issues_inside (step : Step) (c : Checked α) :
    (c.inside step).issues = c.issues.map fun i => { i with path := step :: i.path } := by
  cases c <;> rfl

end Checked

namespace Fields

variable {α : Type} {row : Fields} {name : String} {check : Json → Checked α} {i : Issue}

/-- Every issue of a field that must be there names the field. -/
theorem path_of_mem_required (h : i ∈ (row.required name check).issues) :
    i.path.head? = some (.field name) := by
  unfold required at h
  split at h
  · rw [Checked.issues_inside] at h
    obtain ⟨j, -, rfl⟩ := List.mem_map.1 h
    rfl
  · obtain rfl := List.mem_singleton.1 h
    rfl

/-- Every issue of a field that may be left out names the field. -/
theorem path_of_mem_optional {default : α} (h : i ∈ (row.optional name default check).issues) :
    i.path.head? = some (.field name) := by
  unfold optional at h
  split at h
  · rw [Checked.issues_inside] at h
    obtain ⟨j, -, rfl⟩ := List.mem_map.1 h
    rfl
  · exact absurd h List.not_mem_nil

/-! ## What a row says of a request -/

/-- The row gives an identifier: a text that is not empty, or a number, which stands for its
text. -/
def GivesId (row : Fields) (name id : String) : Prop :=
  ∃ v, row.lookup name = some v ∧ (v = .text id ∧ id ≠ "" ∨ v.IsNumber ∧ id = v.toText)

/-- The row gives nothing for an identifier: it has no such member, or null, or an empty text. -/
def LacksId (row : Fields) (name : String) : Prop :=
  row.lookup name = none ∨ row.lookup name = some .null ∨ row.lookup name = some (.text "")

/-- The row gives something for an identifier that is neither a text nor a number. -/
def MistypesId (row : Fields) (name : String) : Prop :=
  ∃ v, row.lookup name = some v ∧
    ((∃ b, v = .bool b) ∨ (∃ items, v = .list items) ∨ ∃ members, v = .object members)

/-- The row gives a section: an object, or none at all if it has no such member or null. -/
def GivesSection (row : Fields) (name : String) : Option Fields → Prop
  | some members => row.lookup name = some (.object members)
  | none => row.lookup name = none ∨ row.lookup name = some .null

/-- The row gives something for a section that is neither an object nor null. -/
def MistypesSection (row : Fields) (name : String) : Prop :=
  ∃ v, row.lookup name = some v ∧ v ≠ .null ∧ ∀ members, v ≠ .object members

end Fields

namespace Coercion

/-- A number stands for its text. -/
theorem textOrNumber_of_isNumber {v : Json} (hv : v.IsNumber) :
    textOrNumber v = .accept v.toText := by
  cases hv <;> rfl

theorem nonEmpty_of_isNumber {v : Json} (hv : v.IsNumber) : nonEmpty v = .accept v.toText := by
  have hne : v.toText.isEmpty = false := by
    rw [Bool.eq_false_iff, ne_eq, String.isEmpty_iff, Json.toText_eq_empty_iff]
    rintro rfl
    cases hv
  rw [nonEmpty, textOrNumber_of_isNumber hv]
  exact if_neg (by simp [hne])

theorem nonEmpty_text {s : String} (hs : s ≠ "") : nonEmpty (.text s) = .accept s :=
  if_neg (by simpa using hs)

end Coercion

namespace Request

/-- The names of the sections. -/
def sectionNames : List String := ["form_data", "contact_history", "custom_data"]

/-! ## One field -/

section Fields

variable {row : Fields} {name : String}

/-- The check of a member as an identifier. -/
def checkId (row : Fields) (name : String) : Checked String :=
  row.required name Coercion.nonEmpty

/-- The check of a member as a section. -/
def checkSection (row : Fields) (name : String) : Checked (Option Fields) :=
  row.optional name none (Coercion.orNull Coercion.object)

theorem checkId_of_given {id : String} (h : row.GivesId name id) : checkId row name = .accept id := by
  obtain ⟨v, hv, ⟨rfl, hid⟩ | ⟨hnumber, rfl⟩⟩ := h
  · exact Fields.required_eq hv (Coercion.nonEmpty_text hid)
  · exact Fields.required_eq hv (Coercion.nonEmpty_of_isNumber hnumber)

theorem checkId_of_lacking (h : row.LacksId name) :
    ∃ i, (checkId row name).issues = [i] ∧ isAbsence i = true := by
  rcases h with h | h | h <;> simp only [checkId, Fields.required, h]
  · exact ⟨_, rfl, rfl⟩
  · exact ⟨_, rfl, rfl⟩
  · exact ⟨_, rfl, rfl⟩

theorem checkId_of_mistyped (h : row.MistypesId name) :
    ∃ i, (checkId row name).issues = [i] ∧ isAbsence i = false := by
  obtain ⟨v, hv, ⟨b, rfl⟩ | ⟨items, rfl⟩ | ⟨members, rfl⟩⟩ := h <;>
    simp only [checkId, Fields.required, hv]
  · exact ⟨_, rfl, rfl⟩
  · exact ⟨_, rfl, rfl⟩
  · exact ⟨_, rfl, rfl⟩

/-- Every row gives an identifier, lacks it, or gives something else for it. -/
theorem id_cases (row : Fields) (name : String) :
    (∃ id, row.GivesId name id) ∨ row.LacksId name ∨ row.MistypesId name := by
  cases hv : row.lookup name with
  | none => exact .inr (.inl (.inl hv))
  | some v =>
    cases v with
    | null => exact .inr (.inl (.inr (.inl hv)))
    | text s =>
      by_cases hs : s = ""
      · exact .inr (.inl (.inr (.inr (hs ▸ hv))))
      · exact .inl ⟨s, _, hv, .inl ⟨rfl, hs⟩⟩
    | int n => exact .inl ⟨_, _, hv, .inr ⟨.int n, rfl⟩⟩
    | float x => exact .inl ⟨_, _, hv, .inr ⟨.float x, rfl⟩⟩
    | bool b => exact .inr (.inr ⟨_, hv, .inl ⟨b, rfl⟩⟩)
    | list items => exact .inr (.inr ⟨_, hv, .inr (.inl ⟨items, rfl⟩)⟩)
    | object members => exact .inr (.inr ⟨_, hv, .inr (.inr ⟨members, rfl⟩)⟩)

theorem givesId_iff {id : String} : row.GivesId name id ↔ checkId row name = .accept id := by
  refine ⟨checkId_of_given, fun h => ?_⟩
  have hnone : (checkId row name).issues = [] := by rw [h, Checked.issues_accept]
  rcases id_cases row name with ⟨other, hgiven⟩ | hlacks | hmistyped
  · have hsame := (checkId_of_given hgiven).symm.trans h
    obtain rfl := Except.ok.inj hsame
    exact hgiven
  · obtain ⟨i, hissues, -⟩ := checkId_of_lacking hlacks
    exact absurd (hissues.symm.trans hnone) (List.cons_ne_nil _ _)
  · obtain ⟨i, hissues, -⟩ := checkId_of_mistyped hmistyped
    exact absurd (hissues.symm.trans hnone) (List.cons_ne_nil _ _)

theorem lacksId_iff : row.LacksId name ↔ ∃ i ∈ (checkId row name).issues, isAbsence i = true := by
  constructor
  · intro h
    obtain ⟨i, hissues, hi⟩ := checkId_of_lacking h
    exact ⟨i, hissues ▸ List.mem_cons_self, hi⟩
  · rintro ⟨i, hmem, hi⟩
    rcases id_cases row name with ⟨id, hgiven⟩ | hlacks | hmistyped
    · rw [checkId_of_given hgiven] at hmem
      exact absurd hmem List.not_mem_nil
    · exact hlacks
    · obtain ⟨j, hissues, hj⟩ := checkId_of_mistyped hmistyped
      rw [hissues, List.mem_singleton] at hmem
      exact absurd (hmem ▸ hi) (by simp [hj])

theorem mistypesId_iff :
    row.MistypesId name ↔ ∃ i ∈ (checkId row name).issues, isAbsence i = false := by
  constructor
  · intro h
    obtain ⟨i, hissues, hi⟩ := checkId_of_mistyped h
    exact ⟨i, hissues ▸ List.mem_cons_self, hi⟩
  · rintro ⟨i, hmem, hi⟩
    rcases id_cases row name with ⟨id, hgiven⟩ | hlacks | hmistyped
    · rw [checkId_of_given hgiven] at hmem
      exact absurd hmem List.not_mem_nil
    · obtain ⟨j, hissues, hj⟩ := checkId_of_lacking hlacks
      rw [hissues, List.mem_singleton] at hmem
      exact absurd (hmem ▸ hi) (by simp [hj])
    · exact hmistyped

theorem checkSection_of_given {given : Option Fields} (h : row.GivesSection name given) :
    checkSection row name = .accept given := by
  cases given with
  | some members =>
    have hv : row.lookup name = some (.object members) := h
    exact Fields.optional_eq hv rfl
  | none =>
    rcases h with hv | hv
    · rw [checkSection, Fields.optional, hv]
    · exact Fields.optional_eq hv rfl

theorem checkSection_of_mistyped (h : row.MistypesSection name) :
    ∃ i, (checkSection row name).issues = [i] := by
  obtain ⟨v, hv, hnull, hobject⟩ := h
  simp only [checkSection, Fields.optional, hv]
  cases v with
  | null => exact absurd rfl hnull
  | object members => exact absurd rfl (hobject members)
  | _ => exact ⟨_, rfl⟩

/-- Every row gives a section, perhaps none, or something else for it. -/
theorem section_cases (row : Fields) (name : String) :
    (∃ given, row.GivesSection name given) ∨ row.MistypesSection name := by
  cases hv : row.lookup name with
  | none => exact .inl ⟨none, .inl hv⟩
  | some v =>
    cases v with
    | null => exact .inl ⟨none, .inr hv⟩
    | object members => exact .inl ⟨some members, hv⟩
    | _ => exact .inr ⟨_, hv, nofun, nofun⟩

theorem givesSection_iff {given : Option Fields} :
    row.GivesSection name given ↔ checkSection row name = .accept given := by
  refine ⟨checkSection_of_given, fun h => ?_⟩
  rcases section_cases row name with ⟨other, hgiven⟩ | hmistyped
  · have hsame := (checkSection_of_given hgiven).symm.trans h
    obtain rfl := Except.ok.inj hsame
    exact hgiven
  · obtain ⟨i, hissues⟩ := checkSection_of_mistyped hmistyped
    rw [h, Checked.issues_accept] at hissues
    exact absurd hissues.symm (List.cons_ne_nil _ _)

theorem mistypesSection_iff :
    row.MistypesSection name ↔ ∃ i, i ∈ (checkSection row name).issues := by
  constructor
  · intro h
    obtain ⟨i, hissues⟩ := checkSection_of_mistyped h
    exact ⟨i, hissues ▸ List.mem_cons_self⟩
  · rintro ⟨i, hi⟩
    rcases section_cases row name with ⟨given, hgiven⟩ | hmistyped
    · rw [checkSection_of_given hgiven] at hi
      exact absurd hi List.not_mem_nil
    · exact hmistyped

end Fields

/-! ## All fields -/

theorem check_object (row : Fields) :
    check (.object row) = Request.mk <$> checkId row "workflow_id" <*> checkId row "contact_id" <*>
      checkSection row "form_data" <*> checkSection row "contact_history" <*>
      checkSection row "custom_data" :=
  rfl

/-- **Every issue is found with its field.** -/
theorem mem_issues_check {row : Fields} {i : Issue} :
    i ∈ (check (.object row)).issues ↔
      (∃ name ∈ idNames, i ∈ (checkId row name).issues) ∨
        ∃ name ∈ sectionNames, i ∈ (checkSection row name).issues := by
  rw [check_object]
  simp [idNames, sectionNames, or_assoc]

theorem check_eq_accept_iff {row : Fields} {r : Request} :
    check (.object row) = .accept r ↔
      row.GivesId "workflow_id" r.workflowId ∧ row.GivesId "contact_id" r.contactId ∧
        row.GivesSection "form_data" r.formData ∧
        row.GivesSection "contact_history" r.contactHistory ∧
        row.GivesSection "custom_data" r.customData := by
  simp only [givesId_iff, givesSection_iff]
  rw [check_object]
  constructor
  · intro h
    obtain ⟨_, customData, hfour, hcustom, rfl⟩ := Checked.seq_eq_accept h
    obtain ⟨_, contactHistory, hthree, hhistory, rfl⟩ := Checked.seq_eq_accept hfour
    obtain ⟨_, formData, htwo, hform, rfl⟩ := Checked.seq_eq_accept hthree
    obtain ⟨_, contactId, hone, hcontact, rfl⟩ := Checked.seq_eq_accept htwo
    obtain ⟨workflowId, hworkflow, rfl⟩ := Checked.map_eq_accept hone
    exact ⟨hworkflow, hcontact, hform, hhistory, hcustom⟩
  · rintro ⟨hworkflow, hcontact, hform, hhistory, hcustom⟩
    rw [hworkflow, hcontact, hform, hhistory, hcustom]
    rfl

/-! ## From issues to a flaw -/

theorem isIdIssue_iff {i : Issue} :
    isIdIssue i = true ↔ ∃ name ∈ idNames, i.path.head? = some (.field name) := by
  obtain ⟨path, fault, found⟩ := i
  cases path with
  | nil => simp [isIdIssue]
  | cons step rest => cases step <;> simp [isIdIssue]

theorem isIdIssue_of_checkId {row : Fields} {name : String} (hname : name ∈ idNames) {i : Issue}
    (h : i ∈ (checkId row name).issues) : isIdIssue i = true :=
  isIdIssue_iff.2 ⟨name, hname, Fields.path_of_mem_required h⟩

theorem isIdIssue_of_checkSection {row : Fields} {name : String} (hname : name ∈ sectionNames)
    {i : Issue} (h : i ∈ (checkSection row name).issues) : isIdIssue i = false := by
  have hapart : ∀ name ∈ sectionNames, name ∉ idNames := by decide
  rw [Bool.eq_false_iff]
  intro hid
  obtain ⟨other, hother, hpath⟩ := isIdIssue_iff.1 hid
  rw [Fields.path_of_mem_optional h] at hpath
  obtain rfl := Step.field.inj (Option.some.inj hpath)
  exact hapart name hname hother

section Flaws

variable {issues : List Issue}

theorem flawOf_of_absence (h : ∃ i ∈ issues, isIdIssue i = true ∧ isAbsence i = true) :
    flawOf issues = .missingIds := by
  obtain ⟨i, hi, hid, habsent⟩ := h
  have hany : (issues.filter isIdIssue).any isAbsence = true :=
    List.any_eq_true.2 ⟨i, List.mem_filter.2 ⟨hi, hid⟩, habsent⟩
  rw [flawOf, if_pos hany]

theorem flawOf_of_mistyped (hnone : ∀ i ∈ issues, isIdIssue i = true → isAbsence i = false)
    (h : ∃ i ∈ issues, isIdIssue i = true) : flawOf issues = .illTypedIds := by
  obtain ⟨i, hi, hid⟩ := h
  have hany : ¬ (issues.filter isIdIssue).any isAbsence = true := by
    rw [Bool.not_eq_true, List.any_eq_false]
    intro j hj
    obtain ⟨hj, hjid⟩ := List.mem_filter.1 hj
    simp [hnone j hj hjid]
  have hsome : (!(issues.filter isIdIssue).isEmpty) = true := by
    have hmem : i ∈ issues.filter isIdIssue := List.mem_filter.2 ⟨hi, hid⟩
    simpa using List.ne_nil_of_mem hmem
  rw [flawOf, if_neg hany, if_pos hsome]

theorem flawOf_of_sections (h : ∀ i ∈ issues, isIdIssue i = false) :
    flawOf issues = .illTypedSections (fieldNames issues) := by
  have hnone : issues.filter isIdIssue = [] :=
    List.filter_eq_nil_iff.2 fun i hi => by simp [h i hi]
  simp [flawOf, hnone]

theorem mem_fieldNames {name : String} :
    name ∈ fieldNames issues ↔ ∃ i ∈ issues, i.path.head? = some (.field name) := by
  simp only [fieldNames, List.mem_mergeSort, List.mem_eraseDups, List.mem_filterMap]
  refine exists_congr fun i => and_congr_right fun _ => ?_
  obtain ⟨path, fault, found⟩ := i
  cases path with
  | nil => simp
  | cons step rest => cases step <;> simp

theorem nodup_eraseDups : ∀ names : List String, names.eraseDups.Nodup
  | [] => List.nodup_nil
  | name :: rest => by
    rw [List.eraseDups_cons, List.nodup_cons]
    exact ⟨by simp, nodup_eraseDups _⟩
termination_by names => names.length
decreasing_by exact Nat.lt_succ_of_le (List.length_filter_le _ _)

/-- The names are in alphabetical order, each once. -/
theorem pairwise_fieldNames (issues : List Issue) : (fieldNames issues).Pairwise (· < ·) := by
  unfold fieldNames
  extract_lets names
  have hle (a b : String) : (!Decidable.decide (b < a)) = true ↔ a ≤ b := by
    rw [Bool.not_eq_true', decide_eq_false_iff_not, not_lt]
  have hsorted : (names.eraseDups.mergeSort fun a b => !(b < a)).Pairwise
      fun a b => (!Decidable.decide (b < a)) = true := by
    refine List.pairwise_mergeSort ?_ ?_ _
    · simp only [hle]
      exact fun _ _ _ => le_trans
    · simp only [Bool.or_eq_true, hle]
      exact le_total
  have hnodup := (List.mergeSort_perm names.eraseDups fun a b : String => !(b < a)).nodup_iff.2
    (nodup_eraseDups names)
  exact (hsorted.and hnodup).imp fun ⟨hab, hne⟩ => lt_of_le_of_ne ((hle _ _).1 hab) hne

end Flaws

/-! ## From a row to a flaw -/

section Rows

variable {row : Fields}

theorem ofJson_of_issue {i : Issue} (h : i ∈ (check (.object row)).issues) :
    ofJson (.object row) = .error (flawOf (check (.object row)).issues) := by
  rw [ofJson]
  cases hcheck : check (.object row) with
  | ok r =>
    rw [hcheck] at h
    exact absurd h List.not_mem_nil
  | error issues => rfl

theorem ofJson_of_lacking (h : ∃ name ∈ idNames, row.LacksId name) :
    ofJson (.object row) = .error .missingIds := by
  obtain ⟨name, hname, hlacks⟩ := h
  obtain ⟨i, hi, habsent⟩ := lacksId_iff.1 hlacks
  have hmem := mem_issues_check.2 (.inl ⟨name, hname, hi⟩)
  rw [ofJson_of_issue hmem,
    flawOf_of_absence ⟨i, hmem, isIdIssue_of_checkId hname hi, habsent⟩]

theorem ofJson_of_mistyped (hpresent : ∀ name ∈ idNames, ¬ row.LacksId name)
    (h : ∃ name ∈ idNames, row.MistypesId name) :
    ofJson (.object row) = .error .illTypedIds := by
  obtain ⟨name, hname, hmistyped⟩ := h
  obtain ⟨i, hi, -⟩ := mistypesId_iff.1 hmistyped
  have hmem := mem_issues_check.2 (.inl ⟨name, hname, hi⟩)
  have hnone : ∀ j ∈ (check (.object row)).issues, isIdIssue j = true → isAbsence j = false := by
    intro j hj hid
    rcases mem_issues_check.1 hj with ⟨other, hother, hj⟩ | ⟨other, hother, hj⟩
    · rw [Bool.eq_false_iff]
      exact fun habsent => hpresent other hother (lacksId_iff.2 ⟨j, hj, habsent⟩)
    · rw [isIdIssue_of_checkSection hother hj] at hid
      exact absurd hid Bool.false_ne_true
  rw [ofJson_of_issue hmem,
    flawOf_of_mistyped hnone ⟨i, hmem, isIdIssue_of_checkId hname hi⟩]

theorem ofJson_of_sections (hids : ∀ name ∈ idNames, ∃ id, row.GivesId name id)
    (h : ∃ name ∈ sectionNames, row.MistypesSection name) :
    ∃ names, ofJson (.object row) = .error (.illTypedSections names) ∧ names ≠ [] ∧
      names.Pairwise (· < ·) ∧
      ∀ name, name ∈ names ↔ name ∈ sectionNames ∧ row.MistypesSection name := by
  obtain ⟨name, hname, hmistyped⟩ := h
  obtain ⟨i, hi⟩ := mistypesSection_iff.1 hmistyped
  have hmem := mem_issues_check.2 (.inr ⟨name, hname, hi⟩)
  -- with both identifiers given, all issues are with sections
  have hall : ∀ j ∈ (check (.object row)).issues,
      ∃ other ∈ sectionNames, j ∈ (checkSection row other).issues := by
    intro j hj
    rcases mem_issues_check.1 hj with ⟨other, hother, hj⟩ | hsection
    · obtain ⟨id, hgiven⟩ := hids other hother
      rw [checkId_of_given hgiven] at hj
      exact absurd hj List.not_mem_nil
    · exact hsection
  have hnames (other : String) : other ∈ fieldNames (check (.object row)).issues ↔
      other ∈ sectionNames ∧ row.MistypesSection other := by
    rw [mem_fieldNames, mistypesSection_iff]
    constructor
    · rintro ⟨j, hj, hpath⟩
      obtain ⟨found, hfound, hj⟩ := hall j hj
      rw [Fields.path_of_mem_optional hj] at hpath
      obtain rfl := Step.field.inj (Option.some.inj hpath)
      exact ⟨hfound, j, hj⟩
    · rintro ⟨hother, j, hj⟩
      exact ⟨j, mem_issues_check.2 (.inr ⟨other, hother, hj⟩), Fields.path_of_mem_optional hj⟩
  refine ⟨fieldNames (check (.object row)).issues, ?_,
    List.ne_nil_of_mem ((hnames name).2 ⟨hname, hmistyped⟩), pairwise_fieldNames _, hnames⟩
  rw [ofJson_of_issue hmem, flawOf_of_sections]
  intro j hj
  obtain ⟨other, hother, hj⟩ := hall j hj
  exact isIdIssue_of_checkSection hother hj

/-- Every row is of one of four sorts. -/
theorem row_cases (row : Fields) :
    (∃ name ∈ idNames, row.LacksId name) ∨
    ((∀ name ∈ idNames, ¬ row.LacksId name) ∧ ∃ name ∈ idNames, row.MistypesId name) ∨
    ((∀ name ∈ idNames, ∃ id, row.GivesId name id) ∧
      ∃ name ∈ sectionNames, row.MistypesSection name) ∨
    ∃ r, check (.object row) = .accept r := by
  by_cases hlacks : ∃ name ∈ idNames, row.LacksId name
  · exact .inl hlacks
  have hpresent : ∀ name ∈ idNames, ¬ row.LacksId name := fun name hname h =>
    hlacks ⟨name, hname, h⟩
  by_cases hmistyped : ∃ name ∈ idNames, row.MistypesId name
  · exact .inr (.inl ⟨hpresent, hmistyped⟩)
  have hgiven : ∀ name ∈ idNames, ∃ id, row.GivesId name id := fun name hname =>
    (id_cases row name).resolve_right fun h =>
      h.elim (hpresent name hname) fun h => hmistyped ⟨name, hname, h⟩
  by_cases hsection : ∃ name ∈ sectionNames, row.MistypesSection name
  · exact .inr (.inr (.inl ⟨hgiven, hsection⟩))
  have hsections : ∀ name ∈ sectionNames, ∃ given, row.GivesSection name given :=
    fun name hname => (section_cases row name).resolve_right fun h => hsection ⟨name, hname, h⟩
  obtain ⟨workflowId, hworkflow⟩ := hgiven "workflow_id" (by decide)
  obtain ⟨contactId, hcontact⟩ := hgiven "contact_id" (by decide)
  obtain ⟨formData, hform⟩ := hsections "form_data" (by decide)
  obtain ⟨contactHistory, hhistory⟩ := hsections "contact_history" (by decide)
  obtain ⟨customData, hcustom⟩ := hsections "custom_data" (by decide)
  exact .inr (.inr (.inr ⟨⟨workflowId, contactId, formData, contactHistory, customData⟩,
    check_eq_accept_iff.2 ⟨hworkflow, hcontact, hform, hhistory, hcustom⟩⟩))

theorem ofJson_of_accepted {r : Request} (h : check (.object row) = .accept r) :
    ofJson (.object row) = .ok r := by
  rw [ofJson, h]
  rfl

end Rows

/-! ## Verdicts -/

/-- What becomes of a value that is taken for a request. -/
inductive Verdict : Json → Except RequestFlaw Request → Prop
  /-- It is no object. -/
  | notObject {v : Json} (h : ∀ row, v ≠ .object row) : Verdict v (.error .notObject)
  /-- An identifier is lacking, whatever else is wrong. -/
  | lacking {row : Fields} (h : ∃ name ∈ idNames, row.LacksId name) :
      Verdict (.object row) (.error .missingIds)
  /-- Both identifiers are there, and one is neither a text nor a number. -/
  | mistyped {row : Fields} (hpresent : ∀ name ∈ idNames, ¬ row.LacksId name)
      (h : ∃ name ∈ idNames, row.MistypesId name) : Verdict (.object row) (.error .illTypedIds)
  /-- Both identifiers are given, and the named sections are those that are no objects. -/
  | sections {row : Fields} {names : List String}
      (hids : ∀ name ∈ idNames, ∃ id, row.GivesId name id) (hne : names ≠ [])
      (hsorted : names.Pairwise (· < ·))
      (hnames : ∀ name, name ∈ names ↔ name ∈ sectionNames ∧ row.MistypesSection name) :
      Verdict (.object row) (.error (.illTypedSections names))
  /-- Everything is given. -/
  | accepted {row : Fields} {r : Request} (hworkflow : row.GivesId "workflow_id" r.workflowId)
      (hcontact : row.GivesId "contact_id" r.contactId)
      (hform : row.GivesSection "form_data" r.formData)
      (hhistory : row.GivesSection "contact_history" r.contactHistory)
      (hcustom : row.GivesSection "custom_data" r.customData) : Verdict (.object row) (.ok r)

theorem verdict_ofJson (v : Json) : Verdict v (ofJson v) := by
  cases v with
  | object row =>
    rcases row_cases row with hlacks | ⟨hpresent, hmistyped⟩ | ⟨hids, hsection⟩ | ⟨r, hcheck⟩
    · rw [ofJson_of_lacking hlacks]
      exact .lacking hlacks
    · rw [ofJson_of_mistyped hpresent hmistyped]
      exact .mistyped hpresent hmistyped
    · obtain ⟨names, hflaw, hne, hsorted, hnames⟩ := ofJson_of_sections hids hsection
      rw [hflaw]
      exact .sections hids hne hsorted hnames
    · rw [ofJson_of_accepted hcheck]
      obtain ⟨hworkflow, hcontact, hform, hhistory, hcustom⟩ := check_eq_accept_iff.1 hcheck
      exact .accepted hworkflow hcontact hform hhistory hcustom
  | _ => exact .notObject (by simp)

/-- Names in alphabetical order, each once, are determined by which they are. -/
theorem eq_of_pairwise_lt {names others : List String} (hnames : names.Pairwise (· < ·))
    (hothers : others.Pairwise (· < ·)) (h : ∀ name, name ∈ names ↔ name ∈ others) :
    names = others := by
  have hperm : names.Perm others :=
    (List.perm_ext_iff_of_nodup (hnames.imp ne_of_lt) (hothers.imp ne_of_lt)).2 h
  exact hperm.eq_of_pairwise (fun _ _ _ _ hab hba => absurd hba hab.asymm) hnames hothers

theorem ofJson_eq_iff {v : Json} {outcome : Except RequestFlaw Request} :
    ofJson v = outcome ↔ Verdict v outcome := by
  constructor
  · rintro rfl
    exact verdict_ofJson v
  · intro h
    cases h with
    | notObject h =>
      cases v with
      | object row => exact absurd rfl (h row)
      | _ => rfl
    | lacking h => exact ofJson_of_lacking h
    | mistyped hpresent h => exact ofJson_of_mistyped hpresent h
    | @sections row names hids hne hsorted hnames =>
      obtain ⟨name, hname⟩ := List.exists_mem_of_ne_nil names hne
      obtain ⟨others, hflaw, -, hothers, hmem⟩ :=
        ofJson_of_sections hids ⟨name, (hnames name).1 hname⟩
      rw [hflaw, eq_of_pairwise_lt hothers hsorted fun name => (hmem name).trans (hnames name).symm]
    | accepted hworkflow hcontact hform hhistory hcustom =>
      exact ofJson_of_accepted
        (check_eq_accept_iff.2 ⟨hworkflow, hcontact, hform, hhistory, hcustom⟩)

/-! ## What is told -/

/-- The value is refused as a request, with a text. -/
def RefusedWith (v : Json) (message : String) : Prop :=
  ∃ flaw, ofJson v = .error flaw ∧ (DecisionError.invalidRequest flaw).message = message

theorem head?_message (names : List String) :
    (RequestFlaw.illTypedSections names).message.toList.head? = some 'I' := by
  have htext : (RequestFlaw.illTypedSections names).message =
      "Invalid request fields: " ++ ", ".intercalate names := rfl
  have hfirst : "Invalid request fields: ".toList.head? = some 'I' := by decide +kernel
  rw [htext, String.toList_append, List.head?_append, hfirst, Option.some_or]

theorem eq_of_message_eq {flaw known : RequestFlaw}
    (hknown : known ∈ [.notObject, .missingIds, .illTypedIds])
    (h : flaw.message = known.message) : flaw = known := by
  have hfixed : known = .notObject ∨ known = .missingIds ∨ known = .illTypedIds := by
    simpa using hknown
  cases flaw with
  | illTypedSections names =>
    have hhead := head?_message names
    rw [h] at hhead
    rcases hfixed with rfl | rfl | rfl <;> exact absurd hhead (by decide +kernel)
  | _ =>
    rcases hfixed with rfl | rfl | rfl <;>
      first
      | exact absurd h (by decide +kernel)
      | rfl

theorem refusedWith_iff {v : Json} {known : RequestFlaw}
    (hknown : known ∈ [.notObject, .missingIds, .illTypedIds]) :
    RefusedWith v known.message ↔ Verdict v (.error known) := by
  rw [← ofJson_eq_iff]
  constructor
  · rintro ⟨flaw, hflaw, hmessage⟩
    exact eq_of_message_eq hknown hmessage ▸ hflaw
  · intro h
    exact ⟨known, h, rfl⟩

/-- **What is told of a request.**  A value is accepted exactly if it is an object that gives both
identifiers and each section, or none for it; the request then has what it gives.  If it is refused,
it is told that it is no object; else that an identifier is lacking, if one is, whatever else is
wrong; else that one is of a wrong type, if one is; and else which sections are no objects. -/
theorem ofJson_classified (v : Json) :
    (∀ r, ofJson v = .ok r ↔ ∃ row : Fields, v = .object row ∧
      row.GivesId "workflow_id" r.workflowId ∧ row.GivesId "contact_id" r.contactId ∧
      row.GivesSection "form_data" r.formData ∧
      row.GivesSection "contact_history" r.contactHistory ∧
      row.GivesSection "custom_data" r.customData) ∧
    (RefusedWith v "Request body must be an object" ↔ ∀ row, v ≠ .object row) ∧
    (RefusedWith v "workflow_id and contact_id are required" ↔
      ∃ row : Fields, v = .object row ∧ ∃ name ∈ ["workflow_id", "contact_id"], row.LacksId name) ∧
    (RefusedWith v "workflow_id and contact_id must be strings" ↔
      ∃ row : Fields, v = .object row ∧ (∀ name ∈ ["workflow_id", "contact_id"], ¬ row.LacksId name) ∧
        ∃ name ∈ ["workflow_id", "contact_id"], row.MistypesId name) ∧
    (∀ message, message ∉ ["Request body must be an object",
        "workflow_id and contact_id are required", "workflow_id and contact_id must be strings"] →
      (RefusedWith v message ↔ ∃ (row : Fields) (names : List String), v = .object row ∧
        (∀ name ∈ ["workflow_id", "contact_id"], ∃ id, row.GivesId name id) ∧
        names ≠ [] ∧ names.Pairwise (· < ·) ∧
        (∀ name, name ∈ names ↔
          name ∈ ["form_data", "contact_history", "custom_data"] ∧ row.MistypesSection name) ∧
        message = "Invalid request fields: " ++ ", ".intercalate names)) := by
  have hknown (flaw : RequestFlaw) (h : flaw ∈ [.notObject, .missingIds, .illTypedIds]) :
      RefusedWith v flaw.message ↔ Verdict v (.error flaw) := refusedWith_iff h
  refine ⟨fun r => ?_, (hknown .notObject (by simp)).trans ?_,
    (hknown .missingIds (by simp)).trans ?_, (hknown .illTypedIds (by simp)).trans ?_,
    fun message hmessage => ?_⟩
  · rw [ofJson_eq_iff]
    constructor
    · intro h
      cases h with
      | accepted hworkflow hcontact hform hhistory hcustom =>
        exact ⟨_, rfl, hworkflow, hcontact, hform, hhistory, hcustom⟩
    · rintro ⟨row, rfl, hworkflow, hcontact, hform, hhistory, hcustom⟩
      exact .accepted hworkflow hcontact hform hhistory hcustom
  · constructor
    · intro h
      cases h with
      | notObject h => exact h
    · exact .notObject
  · constructor
    · intro h
      cases h with
      | lacking h => exact ⟨_, rfl, h⟩
    · rintro ⟨row, rfl, h⟩
      exact .lacking h
  · constructor
    · intro h
      cases h with
      | mistyped hpresent h => exact ⟨_, rfl, hpresent, h⟩
    · rintro ⟨row, rfl, hpresent, h⟩
      exact .mistyped hpresent h
  · constructor
    · rintro ⟨flaw, hflaw, rfl⟩
      cases ofJson_eq_iff.1 hflaw with
      | sections hids hne hsorted hnames => exact ⟨_, _, rfl, hids, hne, hsorted, hnames, rfl⟩
      | _ => exact absurd (by decide) hmessage
    · rintro ⟨row, names, rfl, hids, hne, hsorted, hnames, rfl⟩
      exact ⟨_, ofJson_eq_iff.2 (.sections hids hne hsorted hnames), rfl⟩

/-- A row with numbers as identifiers is told of the two sections that are no objects, in
alphabetical order; and once an identifier is empty, of nothing but this. -/
theorem ofJson_classified_sections :
    let row : Fields := [("form_data", .list []), ("workflow_id", .int 7),
      ("contact_history", .null), ("contact_id", .float .zero), ("custom_data", .text "x")]
    let message := "Invalid request fields: custom_data, form_data"
    (message ∉ ["Request body must be an object", "workflow_id and contact_id are required",
      "workflow_id and contact_id must be strings"]) ∧
      RefusedWith (.object row) message ∧
      RefusedWith (.object (("contact_id", .text "") :: row))
        "workflow_id and contact_id are required" := by
  intro row message
  have hmessage : message ∉ ["Request body must be an object",
      "workflow_id and contact_id are required", "workflow_id and contact_id must be strings"] := by
    decide +kernel
  have hids : ∀ name ∈ ["workflow_id", "contact_id"], ∃ id, row.GivesId name id := by
    intro name hname
    simp only [List.mem_cons, List.not_mem_nil, or_false] at hname
    rcases hname with rfl | rfl
    · exact ⟨_, _, rfl, .inr ⟨.int 7, rfl⟩⟩
    · exact ⟨_, _, rfl, .inr ⟨.float .zero, rfl⟩⟩
  have hhistory : ¬ row.MistypesSection "contact_history" := by
    rintro ⟨v, hv, hnull, -⟩
    exact hnull (Option.some.inj hv).symm
  have hnames (name : String) : name ∈ ["custom_data", "form_data"] ↔
      name ∈ ["form_data", "contact_history", "custom_data"] ∧ row.MistypesSection name := by
    simp only [List.mem_cons, List.not_mem_nil, or_false]
    constructor
    · rintro (rfl | rfl)
      · exact ⟨.inr (.inr rfl), _, rfl, by simp, by simp⟩
      · exact ⟨.inl rfl, _, rfl, by simp, by simp⟩
    · rintro ⟨rfl | rfl | rfl, h⟩
      · exact .inr rfl
      · exact absurd h hhistory
      · exact .inl rfl
  refine ⟨hmessage, ?_, ?_⟩
  · exact ((ofJson_classified (.object row)).2.2.2.2 message hmessage).2
      ⟨row, ["custom_data", "form_data"], rfl, hids, by simp, by decide +kernel, hnames,
        by decide +kernel⟩
  · exact (ofJson_classified (.object (("contact_id", .text "") :: row))).2.2.1.2
      ⟨_, rfl, "contact_id", by simp, .inr (.inr rfl)⟩

end Request

end BranchChoice
