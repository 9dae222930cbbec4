import BranchChoice.Proofs.PatternReading
import BranchChoice.Proofs.Selection

/-!
# What a refused pattern does

A condition that makes no sense should count as not met, and keep nothing else from being scored.
That holds for all conditions but those whose pattern is refused for another reason than being
malformed: such a condition has no truth value, and then no branch has a score.

* `Pattern.stops_cause` and `Pattern.stops_of_count`: which texts are refused in that way.
* `evaluation_yields_iff`: exactly when there is a truth value, and exactly when there are scores.
* `count_stops_scores`: one such condition, and a branch that it keeps from being selected.
-/

namespace BranchChoice

namespace Pattern

/-- A text that stops an evaluation has a count of at least ten digits after an opening brace, which
is refused, or both letters that choose the classes. -/
theorem stops_cause {pattern : String} {e : Refusal} (h : Stops pattern e) :
    (∃ tail digits, ('\x7b' :: tail) <:+ pattern.toList ∧ IsRunOf digits tail ∧
      10 ≤ digits.length ∧ count? digits = .error e) ∨
    (e = .mixedClasses ∧ 'a' ∈ pattern.toList ∧ 'u' ∈ pattern.toList) := by
  obtain ⟨hcompile, hne⟩ := h
  rcases (compile_error_cause hcompile).resolve_left hne with
    ⟨tail, digits, htail, hrun, hcount⟩ | h
  · exact .inl ⟨tail, digits, htail, hrun, length_of_count?_error hrun.2 hcount, hcount⟩
  · exact .inr h

theorem count?_ne_malformed {digits : List Char} : count? digits ≠ .error .malformed := by
  unfold count?
  split
  · simp
  · split
    · simp
    · dsimp only
      split <;> simp

theorem length_pos_of_count?_error {digits : List Char} {e : Refusal}
    (h : count? digits = .error e) : digits ≠ [] := by
  rintro rfl
  exact nomatch h

/-- Every count that is refused makes a text that stops an evaluation. -/
theorem stops_of_count {digits : List Char} {e : Refusal}
    (hdigits : ∀ d ∈ digits, d.isDigit = true) (h : count? digits = .error e) :
    Stops (String.ofList ('x' :: '\x7b' :: (digits ++ ['\x7d']))) e := by
  refine ⟨compile_count (length_pos_of_count?_error h) hdigits h, ?_⟩
  rintro rfl
  exact count?_ne_malformed h

end Pattern

/-- There are scores exactly if every condition of the branches that are no defaults has a truth
value. -/
theorem scoreAll_ok_iff {branches : List Branch} {context : Json} :
    (∃ scores, Branch.scoreAll branches context = .ok scores) ↔
      Branch.AllEvaluate branches context := by
  constructor
  · rintro ⟨scores, h⟩
    by_contra hstop
    obtain ⟨e, he⟩ := Branch.not_allEvaluate_iff.1 hstop
    rw [Branch.scoreAll_stops he] at h
    exact nomatch h
  · intro h
    exact ⟨_, Branch.scoreAll_eq h⟩

/-- **When an evaluation yields a truth value.**  A stored condition has one in a context unless it
is an object that names the pattern operator and gives a text that stops an evaluation, and the
field it looks at is present.  Such a text has a count of at least ten digits that is refused, or
both letters that choose the classes.  The branches have scores exactly if all conditions of those
that are no defaults have truth values. -/
theorem evaluation_yields_iff (key : String) (raw context : Json) :
    ((∃ holds, (Condition.ofJson key raw).holds context = .ok holds) ↔
      ∀ fields p v e, raw = .object fields →
        List.lookup "operator" fields = some (.text "regex") →
        List.lookup "value" fields = some (.text p) →
        context.resolve (Condition.ofJson key raw).path = some v → ¬ Pattern.Stops p e) ∧
    (∀ p e, Pattern.Stops p e →
      (∃ tail digits, ('\x7b' :: tail) <:+ p.toList ∧ Pattern.IsRunOf digits tail ∧
        10 ≤ digits.length ∧ Pattern.count? digits = .error e) ∨
      (e = .mixedClasses ∧ 'a' ∈ p.toList ∧ 'u' ∈ p.toList)) ∧
    ∀ branches, (∃ scores, Branch.scoreAll branches context = .ok scores) ↔
      Branch.AllEvaluate branches context := by
  refine ⟨⟨?_, ?_⟩, fun p e h => Pattern.stops_cause h, fun branches => scoreAll_ok_iff⟩
  · rintro ⟨holds, h⟩ fields p v e hraw hop hvalue hv hstop
    have herror := (evaluation_stops_iff key raw context e).2
      ⟨fields, p, v, hraw, hop, hvalue, hv, hstop⟩
    rw [herror] at h
    exact nomatch h
  · intro h
    cases hholds : (Condition.ofJson key raw).holds context with
    | ok holds => exact ⟨holds, rfl⟩
    | error e =>
      obtain ⟨fields, p, v, hraw, hop, hvalue, hv, hstop⟩ :=
        (evaluation_stops_iff key raw context e).1 hholds
      exact absurd hstop (h fields p v e hraw hop hvalue hv)

/-- A repetition of 4294967295 times stops the evaluation instead of not matching, and keeps another
branch, all of whose conditions are met, from being selected. -/
theorem count_stops_scores :
    let raw : Json := .object [("operator", .text "regex"), ("value", .text "x\x7b4294967295\x7d")]
    let context : Json := .object [("f", .text "x")]
    let refused : Branch := ⟨"a", "Refused", [("f", raw)], none, false, none⟩
    let met : Branch := ⟨"b", "Met", [("f", .text "x")], none, false, none⟩
    (Condition.ofJson "f" raw).holds context = .error .countTooLarge ∧
      (∃ s, selectBranch [met] context = .ok s) ∧
      selectBranch [met, refused] context = .error (.unscored (.refused .countTooLarge)) := by
  intro raw context refused met
  have hall : "4294967295".toList.all Char.isDigit = true := by decide
  have hcount : Pattern.count? "4294967295".toList = .error .countTooLarge := by decide
  have htext : "x\x7b4294967295\x7d" =
      String.ofList ('x' :: '\x7b' :: ("4294967295".toList ++ ['\x7d'])) := by decide +kernel
  have hstop : Pattern.Stops "x\x7b4294967295\x7d" .countTooLarge := by
    rw [htext]
    exact Pattern.stops_of_count (List.all_eq_true.1 hall) hcount
  have hfield : context.resolve "f" = some (.text "x") := by
    simp [Json.resolve, pathSegments, Json.member?, Json.fields?, context]
  have hholds : (Condition.ofJson "f" raw).holds context = .error .countTooLarge :=
    (evaluation_stops_iff "f" raw context _).2 ⟨_, _, _, rfl, rfl, rfl, hfield, hstop⟩
  have hmet : (Condition.ofJson "f" (.text "x")).holds context = .ok true := by rfl
  have hrefusals : (Branch.allRefusals [met, refused] context).head? = some .countTooLarge := by
    simp [Branch.allRefusals, Branch.candidates, Branch.refusals, Condition.ofFields,
      Condition.refusal?, met, refused, hholds, hmet]
  have hevaluate : Branch.AllEvaluate [met] context := by
    intro b hb _ c hc
    obtain rfl := List.mem_singleton.1 hb
    obtain rfl := List.mem_singleton.1 hc
    exact ⟨true, hmet⟩
  have heligible : met.Eligible context := ⟨rfl, by decide +kernel⟩
  exact ⟨hholds, exists_selected hevaluate (.inl ⟨met, List.mem_singleton_self met, heligible⟩),
    selectBranch_stops hrefusals⟩

end BranchChoice
