import BranchChoice.Proofs.Evaluation
import BranchChoice.Proofs.LowerCase
import BranchChoice.Proofs.WrittenNumbers

/-!
# Conditions on absent fields

A condition whose path leads to nothing never stops the evaluation, and does not hold, whatever it
asks for.  Each operator has a reason of its own: nothing equals a value that is absent, no number
is greater or less than what stands for none, it is not there to exist, and a pattern is not even
read.  Only the search for a text finds something in the empty text that an absent value has, and
that is the empty text alone (`holds_of_absent`), as no other value is written, and no other text is
turned into lower case, without leaving a character.
-/

namespace BranchChoice

/-! ## Texts without characters -/

namespace Text

theorem lowerAfter_eq_nil_iff {before s : List Char} : lowerAfter before s = [] ↔ s = [] := by
  cases s with
  | nil => simp [lowerAfter]
  | cons c rest =>
    have himage : lowerImage before c rest ≠ [] := by
      unfold lowerImage
      split_ifs <;> simp
    simp [lowerAfter_cons, himage]

end Text

/-- Only the empty text occurs in the empty text. -/
theorem occursFolded_empty_iff {part : String} : occursFolded part "" = true ↔ part = "" := by
  rw [occursFolded, occursIn_iff, Text.lower, Text.lower, String.toList_ofList,
    String.toList_ofList, String.toList_empty, Text.lowerAfter, List.infix_nil,
    Text.lowerAfter_eq_nil_iff, String.toList_eq_nil_iff]

/-- **No other value is written without a character.** -/
theorem Json.toText_eq_empty_iff {v : Json} : v.toText = "" ↔ v = .text "" := by
  have hnumber {v : Json} (hv : v.IsNumber) : v.toText ≠ "" := by
    obtain ⟨s, htext, hreads⟩ := hv.reads
    rw [htext]
    simpa using hreads.ne_nil
  have hdocument (v : Json) : v.render .plain ≠ "" := by
    obtain ⟨c, s, hwrite, -⟩ := exists_start_write .plain 0 v
    simp [render, hwrite]
  cases v with
  | text s => simp [toText]
  | int n => simpa using hnumber (.int n)
  | float x => simpa using hnumber (.float x)
  | null => simpa [toText] using hdocument .null
  | bool b => simpa [toText] using hdocument (.bool b)
  | list items => simpa [toText] using hdocument (.list items)
  | object fields => simpa [toText] using hdocument (.object fields)

namespace Condition

/-! ## Absent values -/

/-- **No operator holds of an absent value**, but for the search for the empty text. -/
theorem applies_none (operator : Operator) (operand : Json) :
    ∃ result, applies operator operand none = .ok result ∧
      (result = true ↔ operator = .contains ∧ operand = .text "") := by
  cases operator with
  | equals => exact ⟨false, rfl, by simp⟩
  | contains =>
    refine ⟨occursFolded operand.toText "", rfl, ?_⟩
    rw [occursFolded_empty_iff, Json.toText_eq_empty_iff]
    simp
  | greaterThan => exact ⟨false, congrArg Except.ok (Binary64.lt_nan _), by simp⟩
  | lessThan => exact ⟨false, congrArg Except.ok (Binary64.nan_lt _), by simp⟩
  | present => exact ⟨false, rfl, by simp⟩
  | pattern => exact ⟨false, by cases operand <;> rfl, by simp⟩
  | oneOf =>
    refine ⟨false, ?_, by simp⟩
    cases operand with
    | list items =>
      exact congrArg Except.ok (List.any_eq_false.2 fun item _ => by simp [Found.strictEquals])
    | _ => rfl
  | unknown => exact ⟨false, rfl, by simp⟩

theorem holds_bare_none {key : String} {expected context : Json}
    (h : context.resolve key = none) : (bare key expected).holds context = .ok false := by
  rw [holds, path, h]
  rfl

/-- **A condition on an absent field does not hold.**  Where the path of a stored condition leads to
nothing, the condition has a truth value, which is true exactly for an object that names the
operator `contains` and gives the empty text as its value. -/
theorem holds_of_absent (key : String) (raw context : Json)
    (h : context.resolve (ofJson key raw).path = none) :
    ∃ result, (ofJson key raw).holds context = .ok result ∧
      (result = true ↔ ∃ fields, raw = .object fields ∧
        List.lookup "operator" fields = some (.text "contains") ∧
        List.lookup "value" fields = some (.text "")) := by
  cases raw with
  | object fields =>
    obtain ⟨result, hresult, htrue⟩ := applies_none
      (Operator.ofJson (memberOrNull fields "operator")) (memberOrNull fields "value")
    refine ⟨result, ?_, ?_⟩
    · rw [ofJson] at h ⊢
      rw [holds, h]
      exact hresult
    · rw [htrue, Operator.ofJson_eq_iff (by decide), memberOrNull_eq_iff (by simp),
        memberOrNull_eq_iff (by simp)]
      simp [Operator.name]
  | list items => exact ⟨false, rfl, by simp⟩
  | _ => exact ⟨false, holds_bare_none h, by simp⟩

/-- On a field inside null, a pattern that would be refused does not hold, and the empty text is
found. -/
theorem holds_of_absent_inside_null :
    let context : Json := .object [("a", .null)]
    let refused : Json := .object [("operator", .text "regex"), ("value", .text "x\x7b4294967295\x7d")]
    let empty : Json := .object [("operator", .text "contains"), ("value", .text ""),
      ("field", .text "a.b")]
    context.resolve (ofJson "a.b" refused).path = none ∧
      (ofJson "a.b" refused).holds context = .ok false ∧
      context.resolve (ofJson "k" empty).path = none ∧
      (ofJson "k" empty).holds context = .ok true := by
  intro context refused empty
  have hrefused : context.resolve (ofJson "a.b" refused).path = none := by decide
  have hempty : context.resolve (ofJson "k" empty).path = none := by decide
  obtain ⟨result, hholds, hiff⟩ := holds_of_absent "a.b" refused context hrefused
  obtain ⟨found, hholds', hiff'⟩ := holds_of_absent "k" empty context hempty
  have hfalse : result = false := Bool.eq_false_iff.2 fun h => by
    obtain ⟨fields, hraw, hop, -⟩ := hiff.1 h
    obtain rfl := Json.object.inj hraw
    simp at hop
  have htrue : found = true := hiff'.2 ⟨_, rfl, rfl, rfl⟩
  exact ⟨hrefused, hfalse ▸ hholds, hempty, htrue ▸ hholds'⟩

end Condition

end BranchChoice
