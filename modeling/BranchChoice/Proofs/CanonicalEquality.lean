import BranchChoice.Proofs.ExactValue
import BranchChoice.Proofs.Spelling

/-!
# What strict equality tells apart

Strict equality is equality of canonical forms, and a number's form is its exact value.  A value has
a form unless something in it is not a number (`canonical?_eq_none_iff`), so strict equality is
symmetric and transitive, and reflexive on the values in which everything is a number that claims to
be one (`strictEquals_laws`).
-/

namespace BranchChoice

namespace Json

/-! ## Parts of values -/

/-- A value occurs in another: it is that value, or occurs in an item or in a member of it. -/
inductive Occurs (part : Json) : Json → Prop
  | whole : Occurs part part
  | item {items : List Json} {v : Json} (hv : v ∈ items) (h : Occurs part v) :
    Occurs part (list items)
  | member {fields : Fields} {p : String × Json} (hp : p ∈ fields) (h : Occurs part p.2) :
    Occurs part (object fields)

/-- What is not a number, as a value. -/
def notANumber : Json := float .nan

theorem occurs_list_iff {items : List Json} :
    Occurs notANumber (list items) ↔ ∃ v ∈ items, Occurs notANumber v := by
  constructor
  · rintro (_ | ⟨hv, h⟩)
    exact ⟨_, hv, h⟩
  · rintro ⟨v, hv, h⟩
    exact .item hv h

theorem occurs_object_iff {fields : Fields} :
    Occurs notANumber (object fields) ↔ ∃ p ∈ fields, Occurs notANumber p.2 := by
  constructor
  · rintro (_ | _ | ⟨hp, h⟩)
    exact ⟨_, hp, h⟩
  · rintro ⟨p, hp, h⟩
    exact .member hp h

theorem occurs_float_iff {x : Binary64} : Occurs notANumber (float x) ↔ x = .nan := by
  constructor
  · rintro ⟨⟩
    rfl
  · rintro rfl
    exact .whole

/-! ## Values without a form -/

theorem extent?_eq_none_iff {x : Binary64} : x.extent? = none ↔ x = .nan := by
  cases x with
  | nan => simp [Binary64.extent?]
  | signed negative rank => simp [Binary64.extent?_signed]

mutual

/-- **A value has no canonical form exactly if something in it is not a number.** -/
theorem canonical?_eq_none_iff : ∀ v : Json, v.canonical? = none ↔ Occurs notANumber v
  | null => by
    rw [canonical?]
    exact ⟨nofun, nofun⟩
  | bool b => by
    rw [canonical?]
    exact ⟨nofun, nofun⟩
  | text s => by
    rw [canonical?]
    exact ⟨nofun, nofun⟩
  | int n => by
    rw [canonical?]
    exact ⟨nofun, nofun⟩
  | float x => by
    rw [canonical?, Option.map_eq_none_iff, occurs_float_iff]
    exact extent?_eq_none_iff
  | list items => by
    rw [canonical?, Option.map_eq_none_iff, canonicalItems?_eq_none_iff items, occurs_list_iff]
  | object fields => by
    rw [canonical?, Option.map_eq_none_iff, canonicalMembers?_eq_none_iff fields,
      occurs_object_iff]

theorem canonicalItems?_eq_none_iff :
    ∀ items : List Json, canonicalItems? items = none ↔ ∃ v ∈ items, Occurs notANumber v
  | [] => by simp [canonicalItems?]
  | v :: rest => by
    rw [List.exists_mem_cons_iff, ← canonical?_eq_none_iff v, ← canonicalItems?_eq_none_iff rest,
      canonicalItems?]
    cases canonical? v <;> cases canonicalItems? rest <;> simp

theorem canonicalMembers?_eq_none_iff :
    ∀ fields : Fields, canonicalMembers? fields = none ↔ ∃ p ∈ fields, Occurs notANumber p.2
  | [] => by simp [canonicalMembers?]
  | (k, v) :: rest => by
    rw [List.exists_mem_cons_iff, ← canonical?_eq_none_iff v, ← canonicalMembers?_eq_none_iff rest,
      canonicalMembers?]
    cases canonical? v <;> cases canonicalMembers? rest <;> simp

end

/-- A value is strictly equal to itself exactly if it has a form. -/
theorem strictEquals_self_iff {v : Json} (hv : v.wellFormed = true) :
    v.strictEquals v = true ↔ ¬ Occurs notANumber v := by
  rw [strictEquals_iff v v hv hv, SameForm, ← canonical?_eq_none_iff, ← ne_eq,
    Option.ne_none_iff_exists']
  simp only [and_self]

theorem value?_eq_some_iff {v : Json} {e : Binary64.Extent} :
    v.value? = some e.value ↔ v.extent? = some e := by
  rw [value?_eq]
  exact (Option.map_injective Binary64.Extent.value_injective).eq_iff' rfl

/-- The form of a number is its exact value. -/
theorem canonical?_eq_number_iff_value? {v : Json} {e : Binary64.Extent} :
    v.canonical? = some (.number e) ↔ v.value? = some e.value := by
  rw [canonical?_eq_number_iff, value?_eq_some_iff]

/-- A number is strictly equal to the numbers of its exact value, and to nothing else. -/
theorem strictEquals_iff_value? {v w : Json} {q : ExactValue} (hv : v.value? = some q) :
    v.strictEquals w = true ↔ w.value? = some q := by
  obtain ⟨e, he, rfl⟩ := Option.map_eq_some_iff.1 (v.value?_eq ▸ hv)
  rw [strictEquals_iff_extent? he, value?_eq_some_iff]

/-! ## The laws of strict equality -/

/-- **The laws of strict equality.**  Values whose objects use each name once are strictly equal
exactly if they have the same canonical form, in which a number is its exact value, and what has no
form has a part that is not a number.  A number equals the numbers of its exact value and nothing
else.  So strict equality is symmetric and transitive, and reflexive exactly on the values that have
a form.  What is not there equals nothing, not even what is not there either. -/
theorem strictEquals_laws :
    (∀ v w : Json, v.wellFormed = true → w.wellFormed = true →
      (v.strictEquals w = true ↔ SameForm v w)) ∧
    (∀ v : Json, v.canonical? = none ↔ Occurs notANumber v) ∧
    (∀ (v : Json) (e : Binary64.Extent),
      v.canonical? = some (.number e) ↔ v.value? = some e.value) ∧
    (∀ (v w : Json) (q : ExactValue), v.value? = some q →
      (v.strictEquals w = true ↔ w.value? = some q)) ∧
    (∀ v w : Json, v.wellFormed = true → w.wellFormed = true →
      v.strictEquals w = w.strictEquals v) ∧
    (∀ u v w : Json, u.wellFormed = true → v.wellFormed = true → w.wellFormed = true →
      u.strictEquals v = true → v.strictEquals w = true → u.strictEquals w = true) ∧
    (∀ v : Json, v.wellFormed = true → (v.strictEquals v = true ↔ ¬ Occurs notANumber v)) ∧
    ∀ v : Found, Found.strictEquals none v = false ∧ v.strictEquals none = false := by
  refine ⟨strictEquals_iff, canonical?_eq_none_iff, fun v e => canonical?_eq_number_iff_value?,
    fun v w q => strictEquals_iff_value?, ?_, fun u v w => strictEquals_trans,
    fun v => strictEquals_self_iff, ?_⟩
  · intro v w hv hw
    rw [Bool.eq_iff_iff]
    exact ⟨strictEquals_symm hv hw, strictEquals_symm hw hv⟩
  · intro v
    cases v with
    | none => exact ⟨rfl, rfl⟩
    | some v => exact ⟨rfl, rfl⟩

/-- The members of an object in another order and the numbers in it spelled otherwise, a zero with
its sign changed among them, make a strictly equal object; one more than 2⁵³ does not make the
binary64 number 2⁵³, nor 10⁴⁰⁰ infinity. -/
theorem strictEquals_laws_spelling :
    let v := object [("a", list [int 5, float Binary64.zero.neg]), ("b", null)]
    let w := object [("b", null), ("a", list [float (.ofInt 5), int 0])]
    v.wellFormed = true ∧ w.wellFormed = true ∧ SameForm v w ∧ w.strictEquals v = true ∧
      (int (2 ^ 53 + 1)).strictEquals (float (.ofInt (2 ^ 53))) = false ∧
      (int (10 ^ 400)).strictEquals (float (.infinity false)) = false := by
  intro v w
  obtain ⟨hforms, -, -, hvalues, hsymm, -⟩ := strictEquals_laws
  have hv : v.wellFormed = true := by decide +kernel
  have hw : w.wellFormed = true := by decide +kernel
  have heq : v.strictEquals w = true := by decide +kernel
  refine ⟨hv, hw, (hforms v w hv hw).1 heq, hsymm v w hv hw ▸ heq, by decide +kernel, ?_⟩
  rw [Bool.eq_false_iff, ne_eq, hvalues (int (10 ^ 400)) _ _ rfl]
  exact nofun

end Json

end BranchChoice
