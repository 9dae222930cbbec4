import BranchChoice.Context
import BranchChoice.Proofs.Decision
import BranchChoice.Proofs.JsonText
import Mathlib.Data.List.Nodup
import Mathlib.Data.List.TakeWhile

/-!
# Values that documents hold

A document can hold a value if no object in it uses a name twice and no whole number is too long.
These are the values that come from documents (`isReadable_of_parse`), and nothing that is done with
them before they are written again leads out of them: taking the sections of a request
(`Submission.isReadable_sections`), adding the time to these (`Request.isReadable_contextAt`),
leaving out numbers that are not finite (`isReadable_withoutNonFinite`).
-/

namespace BranchChoice

namespace Json

theorem isReadable_object {fields : Fields} :
    (object fields).isReadable = true ↔
      (fields.map (·.1)).Nodup ∧ isReadableFields fields = true := by
  simp [isReadable]

theorem isReadableFields_append {before after : Fields} :
    isReadableFields (before ++ after) = (isReadableFields before && isReadableFields after) := by
  induction before with
  | nil => rfl
  | cons member rest ih =>
    rw [List.cons_append, isReadableFields, isReadableFields, ih, Bool.and_assoc]

theorem isReadable_of_lookup {fields : Fields} {name : String} {v : Json}
    (h : isReadableFields fields = true) (hv : fields.lookup name = some v) :
    v.isReadable = true := by
  obtain ⟨before, after, rfl, -⟩ := List.lookup_eq_some_iff.1 hv
  rw [isReadableFields_append, isReadableFields, Bool.and_eq_true, Bool.and_eq_true] at h
  exact h.2.1

/-! ## Reading -/

section Reading

theorem names_put (fields : Fields) (name : String) (value : Json) :
    (fields.put name value).map (·.1) = fields.map (·.1) ∨
      name ∉ fields.map (·.1) ∧
        (fields.put name value).map (·.1) = fields.map (·.1) ++ [name] := by
  by_cases hname : name ∈ fields.map (·.1)
  · refine .inl ?_
    induction fields with
    | nil => simp at hname
    | cons member rest ih =>
      obtain ⟨k, v⟩ := member
      rw [Fields.put]
      split_ifs with hk
      · rfl
      · have hrest : name ∈ rest.map (·.1) := by
          rcases List.mem_cons.1 hname with h | h
          · exact absurd h.symm hk
          · exact h
        rw [List.map_cons, List.map_cons, ih hrest]
  · exact .inr ⟨hname, by simp [Fields.put_of_not_mem hname]⟩

theorem isReadableFields_put {fields : Fields} {name : String} {value : Json}
    (h : isReadableFields fields = true) (hv : value.isReadable = true) :
    isReadableFields (fields.put name value) = true := by
  induction fields with
  | nil => simp [Fields.put, isReadableFields, hv]
  | cons member rest ih =>
    obtain ⟨k, v⟩ := member
    rw [isReadableFields, Bool.and_eq_true] at h
    rw [Fields.put]
    split_ifs
    · rw [isReadableFields, hv, h.2, Bool.and_self]
    · rw [isReadableFields, h.1, ih h.2, Bool.and_self]

/-- A member that is set leaves an object that a document can hold. -/
theorem isReadable_put {fields : Fields} {name : String} {value : Json}
    (h : (object fields).isReadable = true) (hv : value.isReadable = true) :
    (object (fields.put name value)).isReadable = true := by
  obtain ⟨hnodup, hvalues⟩ := isReadable_object.1 h
  refine isReadable_object.2 ⟨?_, isReadableFields_put hvalues hv⟩
  rcases names_put fields name value with hnames | ⟨hnew, hnames⟩
  · rw [hnames]
    exact hnodup
  · rw [hnames, ← List.concat_eq_append]
    exact List.Nodup.concat hnew hnodup

theorem isReadable_ofList {members : List (String × Json)}
    (h : isReadableFields members = true) :
    (object (Fields.ofList members)).isReadable = true := by
  suffices hfold : ∀ (rest : List (String × Json)) (fields : Fields),
      isReadableFields rest = true → (object fields).isReadable = true →
        (object (rest.foldl (fun fields m => Fields.put fields m.1 m.2) fields)).isReadable =
          true from
    hfold members [] h rfl
  intro rest
  induction rest with
  | nil => exact fun fields _ hfields => hfields
  | cons member rest ih =>
    intro fields hrest hfields
    obtain ⟨k, v⟩ := member
    rw [isReadableFields, Bool.and_eq_true] at hrest
    exact ih _ hrest.2 (isReadable_put hfields hrest.1)

theorem allDigits_takeWhole (s : List Char) : AllDigits (takeWhole s).1 := by
  unfold takeWhole
  split
  · exact allDigits_zeros 1
  · intro c hc
    exact List.mem_takeWhile_imp hc

theorem digitCount_ofDigits_le {ds : List Char} (hds : AllDigits ds) (hne : ds ≠ [])
    (hlength : ds.length ≤ maxIntegerDigits) :
    Decimal.digitCount (Decimal.ofDigits ds) ≤ maxIntegerDigits := by
  have hpos : 0 < ds.length := List.length_pos_iff.2 hne
  exact ((Decimal.digitCount_le_iff hpos).2 (AllDigits.ofDigits_lt hds)).trans hlength

/-- A number that is read is real, or has no more digits than it may have. -/
theorem isReadable_of_readNumber {negative : Bool} {start s rest : List Char} {v : Json}
    (h : readNumber negative start s = .ok (v, rest)) : v.isReadable = true := by
  unfold readNumber at h
  split at h
  · exact nomatch h
  · next whole tail hne hwhole =>
    split at h
    · obtain rfl := (Prod.mk.inj (Except.ok.inj h)).1
      rfl
    · obtain rfl := (Prod.mk.inj (Except.ok.inj h)).1
      rfl
    · have hlong : ¬ maxIntegerDigits < whole.length := by
        intro hlong
        rw [if_pos hlong] at h
        exact nomatch h
      rw [if_neg hlong] at h
      obtain ⟨rfl, -⟩ := Prod.mk.inj (Except.ok.inj h)
      have hdigits : AllDigits whole := by
        have hall := allDigits_takeWhole s
        rw [hwhole] at hall
        exact hall
      have hcount := digitCount_ofDigits_le hdigits hne
        (Nat.le_of_not_lt hlong)
      cases negative <;> simpa [isReadable] using hcount

theorem isReadable_of_ok {v w : Json} {rest tail : List Char} (hw : w.isReadable = true)
    (h : (.ok (w, tail) : Except Failure (Json × List Char)) = .ok (v, rest)) :
    v.isReadable = true := by
  obtain ⟨rfl, -⟩ := Prod.mk.inj (Except.ok.inj h)
  exact hw

mutual

theorem isReadable_of_readValue : ∀ (fuel : Nat) {s rest : List Char} {v : Json},
    readValue fuel s = .ok (v, rest) → v.isReadable = true
  | 0, s, rest, v, h => nomatch h
  | fuel + 1, s, rest, v, h => by
    unfold readValue at h
    split at h
    -- a text
    case h_1 =>
      split at h
      · exact nomatch h
      · exact isReadable_of_ok rfl h
    -- a list
    case h_2 =>
      split at h
      · exact isReadable_of_ok rfl h
      · split at h
        · exact nomatch h
        · next hitems =>
          exact isReadable_of_ok (w := .list _) (isReadable_of_readItems fuel hitems) h
    -- an object
    case h_3 =>
      split at h
      · exact isReadable_of_ok rfl h
      · split at h
        · exact nomatch h
        · next hmembers =>
          exact isReadable_of_ok (isReadable_ofList (isReadable_of_readMembers fuel hmembers)) h
    -- a name, and a number after its sign or without one
    case h_4 | h_5 | h_6 | h_7 | h_8 | h_9 => exact isReadable_of_ok rfl h
    case h_10 | h_11 => exact isReadable_of_readNumber h

theorem isReadable_of_readItems : ∀ (fuel : Nat) {s rest : List Char} {items : List Json},
    readItems fuel s = .ok (items, rest) → isReadableItems items = true
  | 0, s, rest, items, h => nomatch h
  | fuel + 1, s, rest, items, h => by
    unfold readItems at h
    split at h
    · exact nomatch h
    · next v afterValue hvalue =>
      have hv := isReadable_of_readValue fuel hvalue
      split at h
      · obtain ⟨rfl, -⟩ := Prod.mk.inj (Except.ok.inj h)
        simp [isReadableItems, hv]
      · split at h
        · exact nomatch h
        · next hmore =>
          obtain ⟨rfl, -⟩ := Prod.mk.inj (Except.ok.inj h)
          rw [isReadableItems, hv, isReadable_of_readItems fuel hmore, Bool.and_self]
      · exact nomatch h

theorem isReadable_of_readMembers : ∀ (fuel : Nat) {s rest : List Char}
    {members : List (String × Json)},
    readMembers fuel s = .ok (members, rest) → isReadableFields members = true
  | 0, s, rest, members, h => nomatch h
  | fuel + 1, s, rest, members, h => by
    unfold readMembers at h
    split at h
    · split at h
      · exact nomatch h
      · split at h
        · split at h
          · exact nomatch h
          · next v afterValue hvalue =>
            have hv := isReadable_of_readValue fuel hvalue
            split at h
            · obtain ⟨rfl, -⟩ := Prod.mk.inj (Except.ok.inj h)
              simp [isReadableFields, hv]
            · split at h
              · exact nomatch h
              · next hmore =>
                obtain ⟨rfl, -⟩ := Prod.mk.inj (Except.ok.inj h)
                rw [isReadableFields, hv, isReadable_of_readMembers fuel hmore, Bool.and_self]
            · exact nomatch h
        · exact nomatch h
    · exact nomatch h

end

/-- **What comes from a document can be held by one.** -/
theorem isReadable_of_parse {s : String} {v : Json} (h : parse s = .ok v) :
    v.isReadable = true := by
  unfold parse at h
  split at h
  · next w hchars =>
    obtain rfl := Except.ok.inj h
    unfold parseChars at hchars
    split at hchars
    · exact nomatch hchars
    · next hvalue =>
      split at hchars
      · obtain rfl := Except.ok.inj hchars
        exact isReadable_of_readValue _ hvalue
      · exact nomatch hchars
  · exact nomatch h

end Reading

/-! ## Numbers that are not finite -/

theorem names_withoutNonFiniteFields (fields : Fields) :
    (withoutNonFiniteFields fields).map (·.1) = fields.map (·.1) := by
  induction fields with
  | nil => rfl
  | cons member rest ih =>
    obtain ⟨k, v⟩ := member
    rw [withoutNonFiniteFields, List.map_cons, List.map_cons, ih]

mutual

/-- Numbers that are not finite can be left out of a value that a document can hold. -/
theorem isReadable_withoutNonFinite : ∀ {v : Json}, v.isReadable = true →
    v.withoutNonFinite.isReadable = true
  | .null, _ | .bool _, _ | .text _, _ => rfl
  | .int _, h => h
  | .float x, _ => by
    rw [withoutNonFinite]
    split_ifs <;> rfl
  | .list _, h => by
    rw [isReadable] at h
    rw [withoutNonFinite, isReadable]
    exact isReadableItems_withoutNonFinite h
  | .object _, h => by
    obtain ⟨hnodup, hvalues⟩ := isReadable_object.1 h
    rw [withoutNonFinite]
    refine isReadable_object.2 ⟨?_, isReadableFields_withoutNonFinite hvalues⟩
    rw [names_withoutNonFiniteFields]
    exact hnodup

theorem isReadableItems_withoutNonFinite : ∀ {items : List Json}, isReadableItems items = true →
    isReadableItems (withoutNonFiniteItems items) = true
  | [], _ => rfl
  | _ :: _, h => by
    rw [isReadableItems, Bool.and_eq_true] at h
    rw [withoutNonFiniteItems, isReadableItems, isReadable_withoutNonFinite h.1,
      isReadableItems_withoutNonFinite h.2, Bool.and_self]

theorem isReadableFields_withoutNonFinite : ∀ {fields : List (String × Json)},
    isReadableFields fields = true → isReadableFields (withoutNonFiniteFields fields) = true
  | [], _ => rfl
  | (_, _) :: _, h => by
    rw [isReadableFields, Bool.and_eq_true] at h
    rw [withoutNonFiniteFields, isReadableFields, isReadable_withoutNonFinite h.1,
      isReadableFields_withoutNonFinite h.2, Bool.and_self]

end

end Json

/-! ## Requests -/

namespace Checked

variable {α β : Type}

theorem map_eq_accept {f : α → β} {c : Checked α} {b : β} (h : f <$> c = accept b) :
    ∃ a, c = accept a ∧ f a = b := by
  cases c with
  | ok a => exact ⟨a, rfl, Except.ok.inj h⟩
  | error issues => exact nomatch h

theorem seq_eq_accept {f : Checked (α → β)} {c : Checked α} {b : β}
    (h : f <*> c = accept b) : ∃ g a, f = accept g ∧ c = accept a ∧ g a = b := by
  cases f with
  | ok g =>
    cases c with
    | ok a => exact ⟨g, a, rfl, rfl, Except.ok.inj h⟩
    | error issues => exact nomatch h
  | error issues => cases c <;> exact nomatch h

end Checked

namespace Request

/-- A section that is accepted is a member of the row as it is. -/
theorem lookup_of_section {row fields : Fields} {name : String}
    (h : row.optional name none (Coercion.orNull Coercion.object) = .accept (some fields)) :
    row.lookup name = some (.object fields) := by
  rcases Fields.of_optional h with ⟨-, hnone⟩ | ⟨v, hv, hsection⟩
  · cases hnone
  · rw [hv]
    cases v with
    | object members =>
      obtain rfl := Option.some.inj (Except.ok.inj hsection)
      rfl
    | _ => cases hsection

/-- The sections of a request that is accepted are members of its row as they are. -/
theorem section_of_check {row fields : Fields} {r : Request} (h : check (.object row) = .accept r)
    (hfields : some fields ∈ [r.formData, r.contactHistory, r.customData]) :
    ∃ name, row.lookup name = some (.object fields) := by
  obtain ⟨_, customData, hfour, hcustom, rfl⟩ := Checked.seq_eq_accept h
  obtain ⟨_, contactHistory, hthree, hhistory, rfl⟩ := Checked.seq_eq_accept hfour
  obtain ⟨_, formData, htwo, hform, rfl⟩ := Checked.seq_eq_accept hthree
  obtain ⟨_, contactId, hone, -, rfl⟩ := Checked.seq_eq_accept htwo
  obtain ⟨workflowId, -, rfl⟩ := Checked.map_eq_accept hone
  simp only [List.mem_cons, List.not_mem_nil, or_false] at hfields
  rcases hfields with rfl | rfl | rfl
  · exact ⟨_, lookup_of_section hform⟩
  · exact ⟨_, lookup_of_section hhistory⟩
  · exact ⟨_, lookup_of_section hcustom⟩

theorem nodup_names_contextAt (r : Request) (instant : Nat) :
    ((r.contextAt instant).map (·.1)).Nodup := by
  obtain ⟨workflowId, contactId, formData, contactHistory, customData⟩ := r
  cases formData <;> cases contactHistory <;> cases customData <;> simp [contextAt, sections]

theorem isReadable_sections {r : Request}
    (h : ∀ fields, some fields ∈ [r.formData, r.contactHistory, r.customData] →
      (Json.object fields).isReadable = true) : Json.isReadableFields r.sections = true := by
  obtain ⟨workflowId, contactId, formData, contactHistory, customData⟩ := r
  cases formData <;> cases contactHistory <;> cases customData <;>
    simp_all [sections, Json.isReadableFields]

/-- A request from a value that a document can hold has such sections. -/
theorem isReadable_of_ofJson {v : Json} {r : Request} (hv : v.isReadable = true)
    (h : ofJson v = .ok r) : Json.isReadableFields r.sections = true := by
  unfold ofJson at h
  split at h
  · next row =>
    split at h
    · next hcheck =>
      obtain rfl := Except.ok.inj h
      refine isReadable_sections fun fields hfields => ?_
      obtain ⟨name, hget⟩ := section_of_check hcheck hfields
      exact Json.isReadable_of_lookup (Json.isReadable_object.1 hv).2 hget
    · exact nomatch h
  · exact nomatch h

end Request

namespace Submission

/-- Whether a document can hold what is submitted. -/
def isReadable : Submission → Bool
  | value v => v.isReadable
  | accepted r => Json.isReadableFields r.sections

theorem isReadable_sections {submission : Submission} {r : Request}
    (h : submission.isReadable = true) (hr : submission.request = .ok r) :
    Json.isReadableFields r.sections = true := by
  cases submission with
  | value v => exact Request.isReadable_of_ofJson h hr
  | accepted r' =>
    obtain rfl := Except.ok.inj hr
    exact h

end Submission

end BranchChoice
