import BranchChoice.Condition
import BranchChoice.Proofs.StrictEquality

/-!
# Conditions do not see spelling

Values that are strictly equal may still be spelled differently: the members of an object in another
order, a number as a whole or as a binary64 number.  Of the operators, those that compare as a whole
or by number take no notice (`Operator.IgnoresSpelling`); the other two look at texts, and the text
of `1` is not that of `1.0`.

For an operator that ignores spelling the answer is the same on strictly equal operands and values
(`applies_congr`).  So conditions that differ in spelling give the same answer in contexts that
differ in spelling (`holds_eq_of_alike`).
-/

namespace BranchChoice

/-! ## Numbers of strictly equal values -/

namespace Json

/-- A number is strictly equal to the numbers of its value. -/
theorem strictEquals_iff_extent? {v w : Json} {e : Binary64.Extent} (hv : v.extent? = some e) :
    v.strictEquals w = true ↔ w.extent? = some e := by
  have hany : v.strictEquals w = w.extent?.any (e == ·) := by
    cases v with
    | int m =>
      cases hw : w.extent? <;> cases w <;>
        simp only [strictEquals, hv, hw, Option.any_none, Option.any_some]
    | float x =>
      cases hw : w.extent? <;> cases w <;>
        simp only [strictEquals, hv, hw, Option.any_none, Option.any_some]
    | _ => cases hv
  rw [hany]
  cases w.extent? with
  | none => simp
  | some y => simp only [Option.any_some, beq_iff_eq, Option.some.injEq, eq_comm (a := e)]

/-- Whatever is strictly equal to a number is a number of its value. -/
theorem exists_extent_of_strictEquals {x : Binary64} {w : Json}
    (h : (float x).strictEquals w = true) : ∃ e, x.extent? = some e ∧ w.extent? = some e := by
  cases hx : x.extent? with
  | some e => exact ⟨e, rfl, (strictEquals_iff_extent? (v := float x) hx).1 h⟩
  | none =>
    have hno : (float x).strictEquals w = false := by
      cases w <;> simp only [strictEquals, extent?, hx]
    rw [hno] at h
    exact Bool.noConfusion h

/-- Numbers of one value are converted to one place in the order. -/
theorem key?_toNumber_of_extent? {v w : Json} {e : Binary64.Extent} (hv : v.extent? = some e)
    (hw : w.extent? = some e) : v.toNumber.key? = w.toNumber.key? := by
  have hone : (Binary64.unitsPerOne : Int) ≠ 0 := by decide +kernel
  cases v with
  | int m =>
    have hm : Binary64.Extent.finite (m * Binary64.unitsPerOne) = e := Option.some.inj hv
    cases w with
    | int n =>
      have hn : Binary64.Extent.finite (n * Binary64.unitsPerOne) = e := Option.some.inj hw
      have hvalue := Binary64.Extent.finite.inj (hm.trans hn.symm)
      rw [mul_right_cancel₀ hone hvalue]
    | float y =>
      rw [← hm] at hw
      exact Binary64.key?_ofInt hw
    | _ => exact nomatch hw
  | float x =>
    cases w with
    | int n =>
      have hn : Binary64.Extent.finite (n * Binary64.unitsPerOne) = e := Option.some.inj hw
      rw [← hn] at hv
      exact (Binary64.key?_ofInt hv).symm
    | float y => exact Binary64.key?_eq_of_extent hv hw
    | _ => exact nomatch hw
  | _ => exact nomatch hv

/-- Strictly equal values stand for numbers at one place in the order, or both for none. -/
theorem key?_toNumber {v w : Json} (h : v.strictEquals w = true) :
    v.toNumber.key? = w.toNumber.key? := by
  cases hv : v.extent? with
  | some e => exact key?_toNumber_of_extent? hv ((strictEquals_iff_extent? hv).1 h)
  | none =>
    cases v with
    | int n => exact nomatch hv
    | float x =>
      obtain ⟨e, hx, -⟩ := exists_extent_of_strictEquals h
      exact nomatch hx.symm.trans hv
    | bool b =>
      cases w with
      | bool b' => rw [eq_of_beq h]
      | _ => cases h
    | text s =>
      cases w with
      | text s' => rw [eq_of_beq h]
      | _ => cases h
    | null | list _ | object _ =>
      cases w with
      | null | list _ | object _ => rfl
      | _ => cases h

/-- Null is strictly equal to null only. -/
theorem eq_null_iff {v w : Json} (h : v.strictEquals w = true) : v = null ↔ w = null := by
  constructor
  · rintro rfl
    cases w with
    | null => rfl
    | _ => cases h
  · rintro rfl
    cases v with
    | null => rfl
    | float x =>
      obtain ⟨e, -, hnull⟩ := exists_extent_of_strictEquals h
      exact nomatch hnull
    | _ => cases h

end Json

/-! ## Operators -/

/-- The operators that compare as a whole or by number. -/
def Operator.IgnoresSpelling (operator : Operator) : Prop :=
  operator ∈ [equals, greaterThan, lessThan, present, oneOf]

namespace Found

/-- Whether the objects of a value that was found use each name once. -/
def WellFormed (v : Found) : Prop :=
  ∀ w, v = some w → w.wellFormed = true

theorem Alike.strictEquals_eq {v v' : Found} {w w' : Json} (halike : Alike v v')
    (hv : WellFormed v) (hv' : WellFormed v') (hw : w.wellFormed = true)
    (hw' : w'.wellFormed = true) (h : w.strictEquals w' = true) :
    v.strictEquals (some w) = v'.strictEquals (some w') := by
  cases halike with
  | absent => rfl
  | present hsame => exact Json.strictEquals_congr (hv _ rfl) (hv' _ rfl) hw hw' hsame h

theorem Alike.key?_toNumber {v w : Found} (halike : Alike v w) :
    v.toNumber.key? = w.toNumber.key? := by
  cases halike with
  | absent => rfl
  | present hsame => exact Json.key?_toNumber hsame

end Found

namespace Condition

/-- What is strictly equal to one of some items is so to one of the strictly equal items. -/
theorem any_strictEquals_eq {v v' : Found} (halike : Found.Alike v v') (hv : v.WellFormed)
    (hv' : v'.WellFormed) : ∀ {items others : List Json}, Json.wellFormedItems items = true →
      Json.wellFormedItems others = true → Json.strictEqualItems items others = true →
      (items.any fun item => v.strictEquals (some item)) =
        others.any fun item => v'.strictEquals (some item)
  | [], [], _, _, _ => rfl
  | [], w :: others, _, _, h => by simp [Json.strictEqualItems] at h
  | v :: items, [], _, _, h => by simp [Json.strictEqualItems] at h
  | item :: items, other :: others, hitems, hothers, h => by
    simp only [Json.wellFormedItems, Bool.and_eq_true] at hitems hothers
    simp only [Json.strictEqualItems, Bool.and_eq_true] at h
    rw [List.any_cons, List.any_cons, halike.strictEquals_eq hv hv' hitems.1 hothers.1 h.1,
      any_strictEquals_eq halike hv hv' hitems.2 hothers.2 h.2]

theorem applies_present {operand v : Json} (hv : v ≠ .null) :
    applies .present operand (some v) = .ok true := by
  cases v with
  | null => exact absurd rfl hv
  | _ => rfl

/-- An operator that ignores spelling has one answer for strictly equal operands and values. -/
theorem applies_congr {operator : Operator} {operand operand' : Json} {actual actual' : Found}
    (hoperator : operator.IgnoresSpelling) (hoperand : operand.wellFormed = true)
    (hoperand' : operand'.wellFormed = true) (hsame : operand.strictEquals operand' = true)
    (hactual : actual.WellFormed) (hactual' : actual'.WellFormed)
    (halike : Found.Alike actual actual') :
    applies operator operand actual = applies operator operand' actual' := by
  have hkey := Json.key?_toNumber hsame
  cases operator with
  | equals =>
    rw [applies, applies,
      halike.strictEquals_eq hactual hactual' hoperand hoperand' hsame]
  | greaterThan => rw [applies, applies, Binary64.lt, Binary64.lt, hkey, halike.key?_toNumber]
  | lessThan => rw [applies, applies, Binary64.lt, Binary64.lt, hkey, halike.key?_toNumber]
  | present =>
    cases halike with
    | absent => rfl
    | @present v w h =>
      have hnull := Json.eq_null_iff h
      by_cases hv : v = .null
      · obtain rfl := hnull.1 hv
        obtain rfl := hv
        rfl
      · have hw : w ≠ .null := fun hw => hv (hnull.2 hw)
        rw [applies_present hv, applies_present hw]
  | oneOf =>
    cases operand with
    | list items =>
      cases operand' with
      | list others =>
        exact congrArg Except.ok
          (any_strictEquals_eq halike hactual hactual' hoperand hoperand' hsame)
      | _ => cases hsame
    | float x =>
      cases operand' with
      | list others =>
        obtain ⟨e, -, hlist⟩ := Json.exists_extent_of_strictEquals hsame
        cases hlist
      | _ => rfl
    | _ =>
      cases operand' with
      | list others => cases hsame
      | _ => rfl
  | contains | pattern | unknown => simp [Operator.IgnoresSpelling] at hoperator

/-! ## Conditions -/

/-- The value that a condition compares with. -/
def operand : Condition → Json
  | bare _ expected => expected
  | declared _ _ operand _ => operand

/-- Conditions that differ in the spelling of their operands only: both bare, or of one operator
that ignores spelling. -/
inductive Alike : Condition → Condition → Prop
  | bare {key : String} {v w : Json} (h : v.strictEquals w = true) :
    Alike (.bare key v) (.bare key w)
  | declared {key key' : String} {operator : Operator} {v w : Json} {field field' : Option String}
    (hoperator : operator.IgnoresSpelling) (hpath : field.getD key = field'.getD key')
    (h : v.strictEquals w = true) :
    Alike (.declared key operator v field) (.declared key' operator w field')

/-- **Strict equality is a congruence.**  In strictly equal contexts every path leads nowhere or to
strictly equal values, and conditions that differ in spelling give one answer. -/
theorem holds_eq_of_alike {c d : Condition} {context other : Json}
    (hc : c.operand.wellFormed = true) (hd : d.operand.wellFormed = true)
    (hcontext : context.wellFormed = true) (hother : other.wellFormed = true)
    (hsame : context.strictEquals other = true) (halike : c.Alike d) :
    c.holds context = d.holds other ∧
      ∀ path, Found.Alike (context.resolve path) (other.resolve path) := by
  have hpaths := Json.resolve_alike hcontext hother hsame
  have hfound (path : String) : (context.resolve path).WellFormed :=
    fun _ hw => Json.wellFormed_resolve hcontext hw
  have hfound' (path : String) : (other.resolve path).WellFormed :=
    fun _ hw => Json.wellFormed_resolve hother hw
  refine ⟨?_, hpaths⟩
  cases halike with
  | @bare key v w h =>
    exact congrArg Except.ok
      ((hpaths key).strictEquals_eq (hfound key) (hfound' key) hc hd h)
  | @declared key key' operator v w field field' hoperator hpath h =>
    rw [holds, holds, path, path, ← hpath]
    exact applies_congr hoperator hc hd h (hfound _) (hfound' _) (hpaths _)

/-- An age of `5` is above `4.0`, as an age of `5.0` beside the other members is above `4`. -/
theorem holds_eq_of_alike_reordered :
    (declared "form_data.age" .greaterThan (.float (Binary64.ofInt 4)) none).holds
        (.object [("form_data", .object [("age", .int 5), ("name", .text "Ada")])]) =
      (declared "of age" .greaterThan (.int 4) (some "form_data.age")).holds
        (.object [("form_data", .object
          [("name", .text "Ada"), ("age", .float (Binary64.ofInt 5))])]) ∧
    (declared "form_data.age" .greaterThan (.float (Binary64.ofInt 4)) none).holds
        (.object [("form_data", .object [("age", .int 5), ("name", .text "Ada")])]) = .ok true := by
  refine ⟨(holds_eq_of_alike ?_ ?_ ?_ ?_ ?_ (.declared ?_ rfl ?_)).1, ?_⟩
  · decide +kernel
  · decide +kernel
  · decide +kernel
  · decide +kernel
  · decide +kernel
  · simp [Operator.IgnoresSpelling]
  · decide +kernel
  · decide +kernel

end Condition

end BranchChoice
