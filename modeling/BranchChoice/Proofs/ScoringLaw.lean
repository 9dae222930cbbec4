import BranchChoice.Proofs.ExactShares
import BranchChoice.Proofs.JsonText

/-!
# What a score depends on

The score of a branch counts its conditions one by one, so it is the share of those that hold when
each is evaluated alone, rounded to a number from zero to one (`Branch.score_eq`), and the order of
the conditions does not matter (`Branch.score_perm`).

A condition that is added under a new name changes one count or both: one that holds cannot lower
the share, and one that does not, such as a malformed one (`Condition.IsMalformed`), cannot raise
it.  Rounding respects this, however many conditions there are (`Binary64.fraction_le_fraction`), so
that the same is true of the confidences (`Branch.score_laws`).
-/

namespace BranchChoice

/-- A smaller share is rounded to no larger a number; an empty whole counts as one. -/
theorem Binary64.fraction_le_fraction {a b c d : Nat} (hab : a ≤ b) (hcd : c ≤ d)
    (h : a * max 1 d ≤ c * max 1 b) : (fraction a b).le (fraction c d) = true := by
  rw [fraction_eq hab, fraction_eq hcd]
  refine ofRank_le_ofRank (nearestRank_mono (by omega) (by omega) ?_)
  calc a * unitsPerOne * max 1 d = a * max 1 d * unitsPerOne := by ring
    _ ≤ c * max 1 b * unitsPerOne := Nat.mul_le_mul_right unitsPerOne h
    _ = c * unitsPerOne * max 1 b := by ring

namespace Condition

/-! ## Malformed conditions -/

/-- A condition that makes no sense: its operator is unknown, or its operand is not what the
operator needs. -/
inductive IsMalformed : Condition → Prop
  /-- No operator is known by the name that is given, or none is given. -/
  | unknown (key : String) (operand : Json) (field : Option String) :
    IsMalformed (.declared key .unknown operand field)
  /-- One of a list is asked for, and no list is given. -/
  | oneOf (key : String) (operand : Json) (field : Option String)
    (h : ∀ items, operand ≠ .list items) : IsMalformed (.declared key .oneOf operand field)
  /-- A pattern is asked for, and no text is given. -/
  | noPattern (key : String) (operand : Json) (field : Option String)
    (h : ∀ p, operand ≠ .text p) : IsMalformed (.declared key .pattern operand field)
  /-- A pattern is asked for, and a text is given that is none. -/
  | badPattern (key p : String) (field : Option String)
    (h : Pattern.compile p = .error .malformed) :
    IsMalformed (.declared key .pattern (.text p) field)

/-- **A malformed condition does not hold**, and does not stop the evaluation. -/
theorem IsMalformed.holds_eq {c : Condition} (h : c.IsMalformed) (context : Json) :
    c.holds context = .ok false := by
  cases h with
  | unknown key operand field => rfl
  | oneOf key operand field h =>
    cases operand with
    | list items => exact absurd rfl (h items)
    | _ => rfl
  | noPattern key operand field h =>
    cases operand with
    | text p => exact absurd rfl (h p)
    | _ => rfl
  | badPattern key p field h =>
    rw [holds]
    cases context.resolve (declared key .pattern (.text p) field).path with
    | none => rfl
    | some v =>
      rw [applies, Pattern.search, h]

/-- The conditions of an object are those of its members. -/
theorem setOf_object (fields : Fields) : setOf (.object fields) = .ok (ofFields fields) := by
  cases fields with
  | nil => rfl
  | cons member rest => rfl

end Condition

namespace Branch

/-! ## Scores and sets of conditions -/

variable {b : Branch} {context : Json}

theorem scoreOf_eq (h : b.Evaluates context) :
    scoreOf (Condition.ofFields b.conditions) context = .ok (b.confidenceIn context) := by
  rw [scoreOf, countHolding_eq h, length_ofFields]
  rfl

/-- The branch with other conditions. -/
def withConditions (b : Branch) (fields : Fields) : Branch :=
  { b with conditions := fields }

theorem matchedIn_eq (b : Branch) (context : Json) :
    b.matchedIn context =
      b.conditions.countP fun m => (Condition.ofJson m.1 m.2).isMet context := by
  rw [matchedIn, Condition.ofFields, List.countP_map]
  rfl

/-- **The order of the conditions does not matter.** -/
theorem score_perm (h : b.Evaluates context) {fields : Fields} (hperm : fields.Perm b.conditions) :
    (b.withConditions fields).score context =
      .ok { b.scoredIn context with branch := b.withConditions fields } := by
  have hevaluates : (b.withConditions fields).Evaluates context := by
    intro c hc
    exact h c ((hperm.map _).mem_iff.1 hc)
  have hmatched : (b.withConditions fields).matchedIn context = b.matchedIn context :=
    (hperm.map _).countP_eq _
  have htotal : (b.withConditions fields).conditions.length = b.conditions.length :=
    hperm.length_eq
  rw [score_eq hevaluates, scoredIn, confidenceIn, hmatched, htotal]
  rfl

/-! ## One condition more -/

/-- A condition under a new name is one more, and one more that is met if it is. -/
theorem score_put {key : String} {v : Json} (hkey : key ∉ b.conditions.map (·.1))
    (h : b.Evaluates context) {met : Bool}
    (hmet : (Condition.ofJson key v).holds context = .ok met) :
    (b.withConditions (b.conditions.put key v)).score context =
      .ok ⟨b.withConditions (b.conditions.put key v),
        .fraction (b.matchedIn context + met.toNat) (b.conditions.length + 1),
        (b.matchedIn context + met.toNat : Nat), (b.conditions.length + 1 : Nat)⟩ := by
  generalize hadded : b.withConditions (b.conditions.put key v) = added
  have hconditions : added.conditions = b.conditions ++ [(key, v)] := by
    rw [← hadded, withConditions, Fields.put_of_not_mem hkey]
  have hset : Condition.ofFields added.conditions =
      Condition.ofFields b.conditions ++ [Condition.ofJson key v] := by
    rw [hconditions, Condition.ofFields, List.map_append]
    rfl
  have hevaluates : added.Evaluates context := by
    intro c hc
    rw [hset, List.mem_append, List.mem_singleton] at hc
    rcases hc with hc | rfl
    · exact h c hc
    · exact ⟨met, hmet⟩
  have hmatched : added.matchedIn context = b.matchedIn context + met.toNat := by
    rw [matchedIn, hset, List.countP_append, List.countP_singleton, Condition.isMet, hmet, matchedIn]
    cases met <;> rfl
  have htotal : added.conditions.length = b.conditions.length + 1 := by
    rw [hconditions, List.length_append, List.length_singleton]
  rw [score_eq hevaluates, scoredIn, confidenceIn, hmatched, htotal]

/-- One condition more that is met does not lower the confidence. -/
theorem confidenceIn_le_of_met (b : Branch) (context : Json) :
    (b.confidenceIn context).le
      (.fraction (b.matchedIn context + 1) (b.conditions.length + 1)) = true := by
  have hle := b.matchedIn_le context
  refine Binary64.fraction_le_fraction hle (by omega) ?_
  generalize b.matchedIn context = matched at hle ⊢
  generalize b.conditions.length = total at hle ⊢
  calc matched * max 1 (total + 1) = matched * total + matched := by
        rw [max_eq_right (by omega), Nat.mul_succ]
    _ ≤ matched * max 1 total + max 1 total :=
        Nat.add_le_add (Nat.mul_le_mul_left matched (by omega)) (by omega)
    _ = (matched + 1) * max 1 total := (Nat.succ_mul matched _).symm

/-- One condition more that is not met does not raise the confidence. -/
theorem le_confidenceIn_of_not_met (b : Branch) (context : Json) :
    (Binary64.fraction (b.matchedIn context) (b.conditions.length + 1)).le
      (b.confidenceIn context) = true := by
  have hle := b.matchedIn_le context
  exact Binary64.fraction_le_fraction (by omega) hle (Nat.mul_le_mul_left _ (by omega))

/-- **The scoring law.**  Where every condition of a branch has a truth value, the branch has a
score.  It counts the conditions and those that are true when each is evaluated alone, and its
confidence is the score of the conditions given as an object, a number from zero to one.  The order
of the conditions changes none of the three.  A condition under a new name that holds does not lower
the confidence, and one that does not hold does not raise it, a malformed one always among these. -/
theorem score_laws (b : Branch) (context : Json) (h : b.Evaluates context) :
    ∃ s, b.score context = .ok s ∧ s.branch = b ∧
      s.total = b.conditions.length ∧
      s.matched = b.conditions.countP (fun m => (Condition.ofJson m.1 m.2).isMet context) ∧
      0 ≤ s.matched ∧ s.matched ≤ s.total ∧ s.confidence.IsShare ∧
      (∃ set, Condition.setOf (.object b.conditions) = .ok set ∧
        scoreOf set context = .ok s.confidence) ∧
      (∀ fields : Fields, fields.Perm b.conditions →
        (b.withConditions fields).score context =
          .ok { s with branch := b.withConditions fields }) ∧
      (∀ key v, key ∉ b.conditions.map (·.1) →
        (Condition.ofJson key v).holds context = .ok true →
        ∃ s', (b.withConditions (b.conditions.put key v)).score context = .ok s' ∧
          s.confidence.le s'.confidence = true) ∧
      ∀ key v, key ∉ b.conditions.map (·.1) →
        (Condition.ofJson key v).holds context = .ok false ∨
          (Condition.ofJson key v).IsMalformed →
        ∃ s', (b.withConditions (b.conditions.put key v)).score context = .ok s' ∧
          s'.confidence.le s.confidence = true := by
  refine ⟨b.scoredIn context, score_eq h, rfl, rfl, ?_, Int.natCast_nonneg _, ?_,
    b.confidenceIn_isShare context, ⟨_, Condition.setOf_object _, scoreOf_eq h⟩,
    fun fields => score_perm h, ?_, ?_⟩
  · exact congrArg Nat.cast (b.matchedIn_eq context)
  · exact Int.ofNat_le.2 (b.matchedIn_le context)
  · intro key v hkey hmet
    exact ⟨_, score_put hkey h hmet, b.confidenceIn_le_of_met context⟩
  · intro key v hkey hunmet
    have hholds : (Condition.ofJson key v).holds context = .ok false := by
      rcases hunmet with hfalse | hmalformed
      · exact hfalse
      · exact hmalformed.holds_eq context
    exact ⟨_, score_put hkey h hholds, b.le_confidenceIn_of_not_met context⟩

/-- Of two conditions one is met.  In the other order the score is the same, with a third one that
is met the confidence is no lower, and with one that names no operator no higher. -/
theorem score_laws_half :
    let b : Branch := ⟨"b", "B", [("n", .int 1), ("m", .int 1)], none, false, none⟩
    let context : Json := .object [("n", .int 1), ("k", .null)]
    b.Evaluates context ∧
      ∃ s, b.score context = .ok s ∧ s.matched = 1 ∧ s.total = 2 ∧
        (b.withConditions [("m", .int 1), ("n", .int 1)]).score context =
          .ok { s with branch := b.withConditions [("m", .int 1), ("n", .int 1)] } ∧
        (∃ s', (b.withConditions (b.conditions.put "k" .null)).score context = .ok s' ∧
          s.confidence.le s'.confidence = true) ∧
        ∃ s', (b.withConditions (b.conditions.put "k" (.object []))).score context = .ok s' ∧
          s'.confidence.le s.confidence = true := by
  intro b context
  have hevaluates : b.Evaluates context := by
    intro c hc
    simp only [b, Condition.ofFields, List.map_cons, List.map_nil, List.mem_cons, List.not_mem_nil,
      or_false] at hc
    rcases hc with rfl | rfl <;> exact ⟨_, rfl⟩
  obtain ⟨s, hs, -, htotal, hmatched, -, -, -, -, hperm, hmet, hunmet⟩ :=
    score_laws b context hevaluates
  refine ⟨hevaluates, s, hs, hmatched.trans (by decide +kernel), htotal, hperm _ ?_,
    hmet "k" .null (by decide) rfl, hunmet "k" (.object []) (by decide) (.inr ?_)⟩
  · exact List.Perm.swap _ _ _
  · exact .unknown _ _ _

end Branch

end BranchChoice
