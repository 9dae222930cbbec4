import BranchChoice.Condition
import BranchChoice.Proofs.CanonicalEquality

/-!
# The order of numeric comparison

The operators `greaterThan` and `lessThan` look at the binary64 numbers that values stand for.  They
are the two directions of one strict order, in which what stands for no number has no place.

Among numbers themselves the order is that of their exact values, as far as rounding leaves it: what
is found to be greater is greater (`value_lt_of_isGreater`), and of numbers that are represented
exactly, what is greater is found to be so (`isGreater_of_value_lt`).
-/

namespace BranchChoice

namespace Condition

/-! ## One strict order -/

/-- The value is found to be greater than the operand. -/
def IsGreater (v operand : Json) : Prop :=
  applies .greaterThan operand (some v) = .ok true

/-- The value is found to be less than the operand. -/
def IsLess (v operand : Json) : Prop :=
  applies .lessThan operand (some v) = .ok true

variable {u v w : Json}

theorem isGreater_iff : IsGreater v w ↔ w.toNumber.lt v.toNumber = true := by
  rw [IsGreater, applies, Except.ok.injEq]
  rfl

theorem isLess_iff : IsLess v w ↔ v.toNumber.lt w.toNumber = true := by
  rw [IsLess, applies, Except.ok.injEq]
  rfl

theorem isGreater_iff_isLess : IsGreater v w ↔ IsLess w v := by
  rw [isGreater_iff, isLess_iff]

theorem not_isGreater_and_isLess : ¬ (IsGreater v w ∧ IsLess v w) := by
  rw [isGreater_iff, isLess_iff]
  rintro ⟨hgreater, hless⟩
  have hself := Binary64.lt_of_lt_of_le' hgreater (Binary64.le_of_lt hless)
  simp [Binary64.lt_irrefl] at hself

theorem IsGreater.trans (h : IsGreater u v) (h' : IsGreater v w) : IsGreater u w := by
  rw [isGreater_iff] at *
  exact Binary64.lt_of_lt_of_le' h' (Binary64.le_of_lt h)

/-- What stands for no number is neither greater nor less than anything. -/
theorem applies_of_nan {found : Found} (h : found.toNumber = .nan ∨ w.toNumber = .nan) :
    applies .greaterThan w found = .ok false ∧ applies .lessThan w found = .ok false := by
  rw [applies, applies]
  rcases h with h | h <;> rw [h, Binary64.nan_lt, Binary64.lt_nan] <;> exact ⟨rfl, rfl⟩

/-! ## The order of values -/

/-- What is found to be greater is greater. -/
theorem value_lt_of_isGreater {a b : ExactValue} (hv : v.value? = some a) (hw : w.value? = some b)
    (h : IsGreater v w) : b < a := by
  by_contra hle
  have hback := Json.toNumber_le_of_value_le hv hw (not_lt.1 hle)
  have hself := Binary64.lt_of_lt_of_le' (isGreater_iff.1 h) hback
  simp [Binary64.lt_irrefl] at hself

theorem applies_equals_of_isGreater {a b : ExactValue} (hv : v.value? = some a)
    (hw : w.value? = some b) (h : IsGreater v w) : applies .equals w (some v) = .ok false := by
  have hlt := value_lt_of_isGreater hv hw h
  refine congrArg Except.ok (Bool.eq_false_iff.2 fun heq => ?_)
  have hsame := (Json.strictEquals_iff_value? hv).1 heq
  rw [hw, Option.some.injEq] at hsame
  exact hlt.ne hsame

/-- Of numbers that are represented exactly, what is greater is found to be so. -/
theorem isGreater_of_value_lt {a b : ExactValue} (hv : v.value? = some a) (hw : w.value? = some b)
    (hexact : v.IsRepresented) (hexact' : w.IsRepresented) (h : b < a) : IsGreater v w :=
  isGreater_iff.2 (Json.toNumber_lt_of_value_lt hw hv hexact' hexact h)

/-! ## The laws of numeric comparison -/

/-- **Numeric comparison is a sound order.**  What is greater than an operand is what the operand is
less than, nothing is both, and what is greater than something greater is greater; what stands for
no number has no place in this order.  Of two numbers that are no truth values and of any size, the
one found to be greater has the greater exact value, so that the two are not equal, and the converse
holds if both are represented exactly.  The conversion of whole numbers respects their order, up to
the numbers beyond the range, which become infinite with their sign. -/
theorem comparison_laws :
    (∀ v w : Json, IsGreater v w ↔ IsLess w v) ∧
    (∀ v w : Json, ¬ (IsGreater v w ∧ IsLess v w)) ∧
    (∀ u v w : Json, IsGreater u v → IsGreater v w → IsGreater u w) ∧
    (∀ (found : Found) (operand : Json), found.toNumber = .nan ∨ operand.toNumber = .nan →
      applies .greaterThan operand found = .ok false ∧
        applies .lessThan operand found = .ok false) ∧
    (∀ (v w : Json) (a b : ExactValue), v.value? = some a → w.value? = some b → IsGreater v w →
      b < a ∧ applies .equals w (some v) = .ok false) ∧
    (∀ (v w : Json) (a b : ExactValue), v.value? = some a → w.value? = some b →
      v.IsRepresented → w.IsRepresented → b < a → IsGreater v w) ∧
    (∀ m n : Int, m ≤ n → (Json.int m).toNumber.le (Json.int n).toNumber = true) ∧
    ∀ n : Int, ((Json.int n).toNumber = .infinity false ↔ Binary64.overflow ≤ n) ∧
      ((Json.int n).toNumber = .infinity true ↔ n ≤ -Binary64.overflow) := by
  refine ⟨fun v w => isGreater_iff_isLess, fun v w => not_isGreater_and_isLess,
    fun u v w => IsGreater.trans, fun found operand => applies_of_nan, ?_,
    fun v w a b => isGreater_of_value_lt, ?_, ?_⟩
  · intro v w a b hv hw h
    exact ⟨value_lt_of_isGreater hv hw h, applies_equals_of_isGreater hv hw h⟩
  · intro m n h
    exact Json.toNumber_le_of_value_le (v := .int m) (w := .int n) rfl rfl (by exact_mod_cast h)
  · intro n
    have hpos : 0 < Binary64.overflow := by decide +kernel
    rw [Json.toNumber, Binary64.ofInt_eq_infinity_iff, Binary64.ofInt_eq_infinity_iff]
    simp only [decide_eq_false_iff_not, decide_eq_true_eq]
    omega

/-- The text `7` between blanks is greater than `5`, and so than what `5` is greater than; an absent
value is not.  Beyond the range a whole number is still greater than one inside it, and is converted
to no less than those before it.  One more than 2⁵³ is not found to be greater, as it is not
represented. -/
theorem comparison_laws_mixed :
    IsGreater (.text " 7 ") (.bool true) ∧
      applies .greaterThan (.int 5) none = .ok false ∧
      applies .equals (.float (.ofInt 3)) (some (.int (10 ^ 400))) = .ok false ∧
      IsGreater (.int (2 ^ 53)) (.float (.ofInt 3)) ∧
      (Json.int (10 ^ 308)).toNumber.le (Json.int (10 ^ 309)).toNumber = true ∧
      ¬ IsGreater (.int (2 ^ 53 + 1)) (.int (2 ^ 53)) := by
  obtain ⟨-, -, htrans, hnan, hsound, hexact, hmono, -⟩ := comparison_laws
  have hseven : IsGreater (.text " 7 ") (.int 5) := isGreater_iff.2 (by decide +kernel)
  have hfive : IsGreater (.int 5) (.bool true) := isGreater_iff.2 (by decide +kernel)
  have hthree : (Json.float (.ofInt 3)).value? = some (((3 : ℚ) : WithTop ℚ) : ExactValue) := by
    decide +kernel
  have hfits : (Json.int (2 ^ 53)).IsRepresented := (by decide : (2 ^ 53 : Int).natAbs ≤ 2 ^ 53)
  have hhuge : IsGreater (.int (10 ^ 400)) (.float (.ofInt 3)) :=
    isGreater_iff.2 (by decide +kernel)
  refine ⟨htrans _ _ _ hseven hfive, (hnan none _ (.inl rfl)).1,
    (hsound _ _ _ _ rfl hthree hhuge).2, hexact _ _ _ _ rfl hthree hfits trivial ?_,
    hmono _ _ (by decide +kernel), ?_⟩
  · exact_mod_cast (by decide : (3 : Int) < 2 ^ 53)
  · rw [isGreater_iff]
    decide +kernel

end Condition

end BranchChoice
