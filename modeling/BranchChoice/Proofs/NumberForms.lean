import BranchChoice.Calendar
import BranchChoice.Proofs.NumberText
import Mathlib.Algebra.GroupWithZero.Nat
import Mathlib.Data.Char
import Mathlib.Data.List.Forall2
import Mathlib.Data.List.Lex

/-!
# Forms of numbers

Numbers that are written in a fixed form, each with as many digits as its place has and with the mark
that follows it, can be read again (`NumberForm.read?_write`), and their texts come in the order of
the numbers (`NumberForm.write_lt_iff`).  Both need that the numbers fit their places, as zeros in
front fill a place up but nothing is cut off.

The order rests on one fact at both levels: where two parts are equally long, or two remainders stay
below the same unit, the first difference decides.
-/

namespace BranchChoice

/-! ## Digits and their order -/

/-- Beginnings that are equally long decide, unless they are the same. -/
theorem append_lt_append_iff {α : Type} [LinearOrder α] {xs ys : List α}
    (h : xs.length = ys.length) (as bs : List α) :
    xs ++ as < ys ++ bs ↔ xs < ys ∨ xs = ys ∧ as < bs := by
  induction xs generalizing ys with
  | nil =>
    obtain rfl := List.length_eq_zero_iff.1 h.symm
    simp
  | cons x xs ih =>
    cases ys with
    | nil => cases h
    | cons y ys =>
      rw [List.cons_append, List.cons_append, List.cons_lt_cons_iff, List.cons_lt_cons_iff,
        ih (Nat.succ.inj h), List.cons.injEq]
      tauto

/-- The leading digits decide, as the others stay below their unit. -/
theorem mul_add_lt_iff {unit a b u v : Nat} (hu : u < unit) (hv : v < unit) :
    a * unit + u < b * unit + v ↔ a < b ∨ a = b ∧ u < v := by
  rcases lt_trichotomy a b with hab | rfl | hab
  · have hle : (a + 1) * unit ≤ b * unit := Nat.mul_le_mul_right unit hab
    rw [Nat.succ_mul] at hle
    omega
  · omega
  · have hle : (b + 1) * unit ≤ a * unit := Nat.mul_le_mul_right unit hab
    rw [Nat.succ_mul] at hle
    omega

namespace AllDigits

/-- Equally many digits come in the order of the numbers that they stand for. -/
theorem lt_iff {ds es : List Char} (hds : AllDigits ds) (hes : AllDigits es)
    (h : ds.length = es.length) : ds < es ↔ Decimal.ofDigits ds < Decimal.ofDigits es := by
  induction ds generalizing es with
  | nil =>
    obtain rfl := List.length_eq_zero_iff.1 h.symm
    exact iff_of_false (lt_irrefl _) (lt_irrefl _)
  | cons d ds ih =>
    cases es with
    | nil => cases h
    | cons e es =>
      obtain ⟨hd, hds⟩ := List.forall_mem_cons.1 hds
      obtain ⟨he, hes⟩ := List.forall_mem_cons.1 hes
      have hlength : ds.length = es.length := Nat.succ.inj h
      have hd48 : 48 ≤ d.toNat := (Char.isDigit_iff_toNat.1 hd).1
      have he48 : 48 ≤ e.toNat := (Char.isDigit_iff_toNat.1 he).1
      have hlt : d < e ↔ d.toNat - 48 < e.toNat - 48 := by
        rw [show d < e ↔ d.toNat < e.toNat from Iff.rfl]
        omega
      have heq : d = e ↔ d.toNat - 48 = e.toNat - 48 := by
        rw [← Char.toNat_inj]
        omega
      rw [List.cons_lt_cons_iff, Decimal.ofDigits_cons, Decimal.ofDigits_cons, ← hlength,
        mul_add_lt_iff (ofDigits_lt hds) (hlength ▸ ofDigits_lt hes), ih hds hes hlength, hlt, heq]

end AllDigits

namespace Calendar

theorem length_padded {width n : Nat} (hwidth : 0 < width) (h : n < 10 ^ width) :
    (padded width n).length = width := by
  have hle := (Nat.length_toDigits_le_iff (by decide) hwidth).2 h
  rw [padded, List.length_append, List.length_replicate]
  omega

theorem allDigits_padded (width n : Nat) : AllDigits (padded width n) :=
  (allDigits_zeros _).append (allDigits_toDigits n)

theorem ofDigits_padded (width n : Nat) : Decimal.ofDigits (padded width n) = n := by
  rw [padded, Decimal.ofDigits_zeros_append, Decimal.ofDigits_toDigits]

end Calendar

/-! ## Forms of numbers -/

/-- A form for numbers: how many digits each has, and which mark follows it. -/
abbrev NumberForm := List (Nat × Char)

namespace NumberForm

/-- The numbers fit the places of a form. -/
def Fits : NumberForm → List Nat → Prop :=
  List.Forall₂ fun place n => 0 < place.1 ∧ n < 10 ^ place.1

/-- The text of numbers in a form. -/
def write : NumberForm → List Nat → List Char
  | (width, mark) :: form, n :: numbers => Calendar.padded width n ++ mark :: write form numbers
  | _, _ => []

/-- The numbers of a text that has a form. -/
def read? : NumberForm → List Char → Option (List Nat)
  | [], s => if s.isEmpty then some [] else none
  | (width, mark) :: form, s =>
    let digits := s.take width
    if digits.length = width ∧ digits.all Char.isDigit ∧ s[width]? = some mark then
      (read? form (s.drop (width + 1))).map (Decimal.ofDigits digits :: ·)
    else none

variable {form : NumberForm} {numbers others : List Nat}

theorem length_write (h : form.Fits numbers) :
    (form.write numbers).length = (form.map fun place => place.1 + 1).sum := by
  induction h with
  | nil => rfl
  | cons hplace _ ih =>
    rw [write, List.length_append, List.length_cons, ih, Calendar.length_padded hplace.1 hplace.2,
      List.map_cons, List.sum_cons]
    omega

theorem read?_write (h : form.Fits numbers) : form.read? (form.write numbers) = some numbers := by
  induction h with
  | nil => rfl
  | @cons place n form numbers hplace _ ih =>
    obtain ⟨width, mark⟩ := place
    have hlength := Calendar.length_padded hplace.1 hplace.2
    have htake : (write ((width, mark) :: form) (n :: numbers)).take width =
        Calendar.padded width n := List.take_left' hlength
    have hmark : (write ((width, mark) :: form) (n :: numbers))[width]? = some mark := by
      rw [write, List.getElem?_append_right hlength.le, hlength, Nat.sub_self]
      rfl
    have hdrop : (write ((width, mark) :: form) (n :: numbers)).drop (width + 1) =
        write form numbers := by
      have hlength' : (Calendar.padded width n ++ [mark]).length = width + 1 := by
        rw [List.length_append, hlength, List.length_singleton]
      rw [write, List.append_cons]
      exact List.drop_left' hlength'
    have hdigits : (Calendar.padded width n).all Char.isDigit = true :=
      List.all_eq_true.2 (Calendar.allDigits_padded width n)
    rw [read?, htake, hmark, hdrop, ih, Calendar.ofDigits_padded]
    exact if_pos ⟨hlength, hdigits, rfl⟩

/-- Texts of a form come in the order of their numbers, the first that differ deciding. -/
theorem write_lt_iff (h : form.Fits numbers) (h' : form.Fits others) :
    form.write numbers < form.write others ↔ numbers < others := by
  induction h generalizing others with
  | nil =>
    cases h'
    exact iff_of_false (lt_irrefl _) (lt_irrefl _)
  | @cons place n form numbers hplace _ ih =>
    cases h' with
    | @cons _ m _ others hplace' hrest' =>
    obtain ⟨width, mark⟩ := place
    have hn := Calendar.length_padded hplace.1 hplace.2
    have hm := Calendar.length_padded hplace'.1 hplace'.2
    have hlt : Calendar.padded width n < Calendar.padded width m ↔ n < m := by
      rw [(Calendar.allDigits_padded width n).lt_iff (Calendar.allDigits_padded width m)
        (hn.trans hm.symm), Calendar.ofDigits_padded, Calendar.ofDigits_padded]
    have heq : Calendar.padded width n = Calendar.padded width m ↔ n = m := by
      refine ⟨fun h => ?_, fun h => h ▸ rfl⟩
      rw [← Calendar.ofDigits_padded width n, h, Calendar.ofDigits_padded]
    rw [write, write, append_lt_append_iff (hn.trans hm.symm), hlt, heq, List.cons_lt_cons_iff,
      List.cons_lt_cons_iff, ih hrest']
    simp

end NumberForm

end BranchChoice
