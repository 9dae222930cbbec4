import BranchChoice.Condition

/-!
# When an evaluation stops

A condition that makes no sense is meant not to hold, and nothing more.  Of all conditions only a
pattern can do otherwise: a text that is no pattern at all is found nowhere, but one that is refused
for another reason stops the evaluation, and with it the scores of all branches.

`evaluation_stops_iff` says exactly which stored conditions do so: those of the pattern operator
whose operand is a refused text, where the field is present.  It rests on one lemma for each step
from the stored value to the answer: searching, applying an operator, resolving the path, and
reading the value as a condition.
-/

namespace BranchChoice

/-! ## Searching -/

namespace Pattern

/-- A text stops an evaluation if it is refused for another reason than being no pattern. -/
def Stops (pattern : String) (e : Refusal) : Prop :=
  compile pattern = .error e ∧ e ≠ .malformed

theorem search_eq_error_iff {pattern text : String} {e : Refusal} :
    search pattern text = .error e ↔ Stops pattern e := by
  unfold search Stops
  cases compile pattern with
  | ok p => simp
  | error refusal =>
    cases refusal with
    | malformed =>
      simp only [reduceCtorEq, false_iff]
      rintro ⟨h, hne⟩
      exact hne (Except.error.inj h).symm
    | countTooLarge => simpa using fun h => h ▸ Refusal.noConfusion
    | countTooLong digits => simpa using fun h => h ▸ Refusal.noConfusion
    | mixedClasses => simpa using fun h => h ▸ Refusal.noConfusion

end Pattern

/-! ## Operators -/

namespace Operator

theorem ofJson_name (operator : Operator) : ofJson (.text operator.name) = operator := by
  cases operator <;> decide

/-- An operator is named by its own name only. -/
theorem ofJson_eq_iff {operator : Operator} (hknown : operator ≠ .unknown) {v : Json} :
    ofJson v = operator ↔ v = .text operator.name := by
  constructor
  · intro h
    cases v with
    | text s =>
      rw [ofJson] at h
      cases hfind : all.find? (·.name == s) with
      | none =>
        rw [hfind] at h
        exact absurd h.symm hknown
      | some found =>
        rw [hfind, Option.getD_some] at h
        have hname : (found.name == s) = true := by simpa using List.find?_some hfind
        rw [← h, eq_of_beq hname]
    | _ => exact absurd h.symm hknown
  · rintro rfl
    exact ofJson_name operator

end Operator

namespace Condition

/-- Only a pattern with a text as its operand can stop, where there is a value to search in. -/
theorem applies_eq_error_iff {operator : Operator} {operand : Json} {actual : Found}
    {e : Pattern.Refusal} :
    applies operator operand actual = .error e ↔
      ∃ p v, operator = .pattern ∧ operand = .text p ∧ actual = some v ∧ Pattern.Stops p e := by
  constructor
  · intro h
    unfold applies at h
    split at h
    case h_6 =>
      split at h
      · exact ⟨_, _, rfl, rfl, rfl, Pattern.search_eq_error_iff.1 h⟩
      · exact absurd h (by simp)
    all_goals (try split at h) <;> simp at h
  · rintro ⟨p, v, rfl, rfl, rfl, h⟩
    exact Pattern.search_eq_error_iff.2 h

theorem holds_eq_error_iff {c : Condition} {context : Json} {e : Pattern.Refusal} :
    c.holds context = .error e ↔
      ∃ key p field v, c = .declared key .pattern (.text p) field ∧
        context.resolve c.path = some v ∧ Pattern.Stops p e := by
  cases c with
  | bare key expected => simp [holds]
  | declared key operator operand field =>
    rw [holds, applies_eq_error_iff]
    constructor
    · rintro ⟨p, v, rfl, rfl, hv, h⟩
      exact ⟨key, p, field, v, rfl, hv, h⟩
    · rintro ⟨key', p, field', v, heq, hv, h⟩
      injection heq with _ hop hoperand _
      exact ⟨p, v, hop, hoperand, hv, h⟩

/-- What is taken for null when it is missing is anything else only if it is there. -/
theorem memberOrNull_eq_iff {fields : Fields} {name : String} {v : Json} (hv : v ≠ .null) :
    memberOrNull fields name = v ↔ fields.lookup name = some v := by
  unfold memberOrNull
  cases fields.lookup name with
  | none => simpa using hv.symm
  | some w => simp

/-- A stored condition is one of the pattern operator with a text as its operand exactly if it is an
object whose members say so. -/
theorem ofJson_eq_pattern_iff {key : String} {raw : Json} {p : String} :
    (∃ field, ofJson key raw = .declared key .pattern (.text p) field) ↔
      ∃ fields, raw = .object fields ∧ List.lookup "operator" fields = some (.text "regex") ∧
        List.lookup "value" fields = some (.text p) := by
  constructor
  · rintro ⟨field, h⟩
    cases raw with
    | object fields =>
      rw [ofJson] at h
      injection h with _ hop hvalue _
      have hname := (Operator.ofJson_eq_iff (by decide)).1 hop
      exact ⟨fields, rfl, (memberOrNull_eq_iff (by simp)).1 hname,
        (memberOrNull_eq_iff (by simp)).1 hvalue⟩
    | _ => simp [ofJson] at h
  · rintro ⟨fields, rfl, hop, hvalue⟩
    rw [ofJson, memberOrNull, memberOrNull, hop, hvalue]
    exact ⟨_, rfl⟩

/-- Every stored condition is kept under its key. -/
theorem key_ofJson (key : String) (raw : Json) :
    (∃ v, ofJson key raw = .bare key v) ∨
      ∃ operator operand field, ofJson key raw = .declared key operator operand field := by
  cases raw <;> simp [ofJson]

end Condition

/-- **Which conditions stop an evaluation.**  A stored condition has a truth value in a context
unless it is an object that names the pattern operator, gives a text that stops an evaluation, and
looks at a field that is present; then the refusal of the text is what comes of it. -/
theorem evaluation_stops_iff (key : String) (raw context : Json) (e : Pattern.Refusal) :
    (Condition.ofJson key raw).holds context = .error e ↔
      ∃ fields p v, raw = .object fields ∧
        List.lookup "operator" fields = some (.text "regex") ∧
        List.lookup "value" fields = some (.text p) ∧
        context.resolve (Condition.ofJson key raw).path = some v ∧ Pattern.Stops p e := by
  rw [Condition.holds_eq_error_iff]
  constructor
  · rintro ⟨key', p, field, v, hc, hv, hstop⟩
    obtain rfl : key' = key := by
      rcases Condition.key_ofJson key raw with ⟨w, hw⟩ | ⟨op, w, f, hw⟩
      · rw [hw] at hc; simp at hc
      · rw [hw] at hc; exact (Condition.declared.inj hc).1.symm
    obtain ⟨fields, hraw, hop, hvalue⟩ := Condition.ofJson_eq_pattern_iff.1 ⟨field, hc⟩
    exact ⟨fields, p, v, hraw, hop, hvalue, hv, hstop⟩
  · rintro ⟨fields, p, v, hraw, hop, hvalue, hv, hstop⟩
    obtain ⟨field, hc⟩ := Condition.ofJson_eq_pattern_iff.2 ⟨fields, hraw, hop, hvalue⟩
    exact ⟨key, p, field, v, hc, hv, hstop⟩

end BranchChoice
