import BranchChoice.Condition
import BranchChoice.Proofs.JsonText
import Mathlib.Data.List.TakeWhile

/-!
# Numbers and their texts compare alike

The text of a number, with blanks around it or without, stands for the same binary64 number as the
number itself (`toNumber_written`), so that a comparison cannot tell which of the two is stored
(`Condition.comparison_of_written`).

The two sides are converted in different ways.  A whole number is rounded once, and is infinite
beyond the range; its digits are a decimal, and decimals far beyond the range are told by their
length.  A binary64 number is taken as it is; its text is the shortest decimal that reads back, laid
out with a point or an exponent.  In both cases the numeral is found in its text again
(`Numeral.decimal?_parts`), and the decimal is converted to the number.
-/

namespace BranchChoice

/-! ## Blanks around a text -/

/-- What stands between characters that are removed is kept, if none of it is to be removed. -/
theorem Text.trimBoth_append {p : Char → Bool} {before s after : List Char}
    (hbefore : ∀ c ∈ before, p c = true) (hs : ∀ c ∈ s, p c = false)
    (hafter : ∀ c ∈ after, p c = true) : trimBoth p (before ++ s ++ after) = s := by
  rw [trimBoth, List.append_assoc, List.dropWhile_append_of_pos hbefore]
  cases s with
  | nil =>
    rw [List.nil_append, List.dropWhile_eq_nil_iff.2 hafter]
    rfl
  | cons c rest =>
    have hfirst : (c :: rest ++ after).dropWhile p = c :: rest ++ after :=
      List.dropWhile_eq_self_iff.2 fun _ => by simp [hs c]
    have hlast : (c :: rest).reverse.dropWhile p = (c :: rest).reverse :=
      List.dropWhile_eq_self_iff.2 fun _ =>
        Bool.eq_false_iff.1 (hs _ (List.mem_reverse.1 (List.getElem_mem _)))
    rw [hfirst, List.reverse_append,
      List.dropWhile_append_of_pos fun d hd => hafter d (List.mem_reverse.1 hd), hlast,
      List.reverse_reverse]

namespace Numeral

/-! ## Texts without blanks and separators -/

/-- A text of visible ASCII characters without low lines: nothing in it is converted or left out
before it is read. -/
def IsBare (s : List Char) : Prop :=
  ∀ c ∈ s, c.toNat < 128 ∧ Text.isBlank c = false ∧ c ≠ '_'

theorem isBare_append {s t : List Char} : IsBare (s ++ t) ↔ IsBare s ∧ IsBare t := by
  simp only [IsBare, List.forall_mem_append]

theorem isBare_cons {c : Char} {s : List Char} :
    IsBare (c :: s) ↔ (c.toNat < 128 ∧ Text.isBlank c = false ∧ c ≠ '_') ∧ IsBare s := by
  simp only [IsBare, List.forall_mem_cons]

theorem plain_of_isBare {s : List Char} (hs : IsBare s) : plain s = s := by
  refine (List.map_congr_left fun c hc => ?_).trans s.map_id
  rw [if_pos (hs c hc).1]
  rfl

theorem dropSeparators?_of_isBare (p : Char → Bool) {s : List Char} (hs : IsBare s) :
    dropSeparators? p s = some s := by
  fun_induction dropSeparators? p s <;> simp_all [isBare_cons]

theorem isPlainBlank_of_isBare {s : List Char} (hs : IsBare s) :
    ∀ c ∈ s, Text.isPlainBlank c = false := by
  intro c hc
  have hblank := (hs c hc).2.1
  simp [Text.isBlank, Text.isPlainBlank] at hblank ⊢
  omega

/-- A text in which nothing is converted or left out is read as it stands. -/
theorem read?_of_isBare {s : List Char} (hs : IsBare s) : read? (String.ofList s) = real? s := by
  have htrim : Text.trimBoth Text.isPlainBlank s = s := by
    have hpadded : Text.trimBoth Text.isPlainBlank ([] ++ s ++ []) = s :=
      Text.trimBoth_append (by simp) (isPlainBlank_of_isBare hs) (by simp)
    simpa using hpadded
  rw [read?, String.toList_ofList, plain_of_isBare hs, htrim, dropSeparators?_of_isBare _ hs]
  rfl

theorem isBare_of_allDigits {ds : List Char} (hds : AllDigits ds) : IsBare ds := by
  intro c hc
  have hdigit : 48 ≤ c.toNat ∧ c.toNat ≤ 57 := by
    have h := hds c hc
    simpa [Char.isDigit, UInt32.le_iff_toNat_le] using h
  refine ⟨by omega, ?_, ?_⟩
  · simp only [Text.isBlank, Bool.or_eq_false_iff, Bool.and_eq_false_iff, decide_eq_false_iff_not,
      beq_eq_false_iff_ne]
    omega
  · rintro rfl
    exact absurd hdigit (by decide)

/-! ## Numerals found in their texts -/

theorem exponent?_exponentText (e : Int) : exponent? (exponentText e) = some e := by
  obtain ⟨ds, htext, hdigits, hne, hvalue⟩ := Json.exponentText_digits e
  have hsign : takeSign ((if e < 0 then '-' else '+') :: ds) = (decide (e < 0), ds) := by
    split_ifs with he <;> simp [takeSign, he]
  have hall : (ds.isEmpty || !ds.all Char.isDigit) = false := by
    simp only [Bool.or_eq_false_iff, Bool.not_eq_false', List.all_eq_true]
    exact ⟨by simpa using hne, hdigits⟩
  rw [htext, exponent?, if_pos (by rfl), hsign]
  dsimp only
  rw [hall, hvalue]
  simp only [Bool.false_eq_true, if_false, decide_eq_true_eq, Option.some.injEq]
  split_ifs <;> omega

/-- **A numeral is found in its text.**  The digits before the point end at the point or the letter
of the exponent, and those after it at the letter. -/
theorem decimal?_parts {p : NumberParts} (hwhole : AllDigits p.whole) (hne : p.whole ≠ [])
    (hfractional : AllDigits p.fractional) : decimal? p.text = some p.decimal := by
  obtain ⟨whole, fractional, exponent⟩ := p
  dsimp only at hwhole hne hfractional
  have hexponent : exponent? (exponent.elim [] exponentText) = some (exponent.getD 0) := by
    cases exponent with
    | none => rfl
    | some e => exact exponent?_exponentText e
  have hletter : ∀ c ∈ (exponent.elim [] exponentText).head?, c = 'e' := by
    cases exponent with
    | none => simp
    | some e =>
      have hhead := Json.head?_exponentText_append e []
      simp_all
  rw [NumberParts.text, NumberParts.decimal, List.append_assoc]
  dsimp only
  generalize exponent.elim [] exponentText = tail at hexponent hletter ⊢
  have hdigit : ∀ c ∈ tail.head?, c.isDigit = false := fun c hc => hletter c hc ▸ rfl
  have hnonempty : whole.isEmpty = false := by simpa using hne
  cases fractional with
  | nil =>
    have hrest : tail.head? ≠ some '.' := fun h => absurd (hletter _ h) (by decide)
    rw [decimal?, List.isEmpty_nil, if_pos rfl, List.nil_append, spanDigits_append hwhole hdigit]
    cases tail <;> simp_all
  | cons d ds =>
    have hspan := spanDigits_append hfractional hdigit
    rw [decimal?, List.isEmpty_cons, if_neg Bool.false_ne_true, List.cons_append,
      spanDigits_append hwhole (by simp)]
    simp only [hspan, hnonempty, hexponent, Bool.false_and, Bool.false_eq_true, if_false,
      Option.map_some]

theorem toLower_of_isDigit {c : Char} (hc : c.isDigit = true) : c.toLower = c := by
  refine dif_neg ?_
  simp [Char.isDigit, UInt32.le_iff_toNat_le] at hc ⊢
  omega

/-- What starts with a digit, after a minus sign or not, is none of the numerals spelled out. -/
theorem real?_of_isDigit (negative : Bool) {c : Char} {rest : List Char} (hc : c.isDigit = true) :
    real? (if negative then '-' :: c :: rest else c :: rest) =
      (decimal? (c :: rest)).map (·.toBinary64 negative) := by
  have hsign : takeSign (if negative then '-' :: c :: rest else c :: rest) =
      (negative, c :: rest) := by
    cases negative with
    | true => rfl
    | false =>
      rw [if_neg Bool.false_ne_true]
      unfold takeSign
      split <;> simp_all
  have hword (first : Char) (more : List Char) (hfirst : first.isDigit = false) :
      String.ofList ((c :: rest).map Char.toLower) ≠ String.ofList (first :: more) := by
    intro h
    have hsame := congrArg String.toList h
    simp only [String.toList_ofList, List.map_cons, List.cons.injEq] at hsame
    rw [toLower_of_isDigit hc] at hsame
    rw [← hsame.1, hc] at hfirst
    exact Bool.noConfusion hfirst
  rw [real?, hsign]
  dsimp only
  rw [if_neg, if_neg (hword 'n' ['a', 'n'] rfl)]
  simp only [Bool.or_eq_true, decide_eq_true_eq]
  rintro (h | h)
  · exact hword 'i' ['n', 'f'] rfl h
  · exact hword 'i' ['n', 'f', 'i', 'n', 'i', 't', 'y'] rfl h

/-- The text has nothing to be converted or left out, and is the numeral of a number. -/
structure Reads (s : List Char) (x : Binary64) : Prop where
  bare : IsBare s
  real : real? s = some x

theorem Reads.ne_nil {s : List Char} {x : Binary64} (h : Reads s x) : s ≠ [] := by
  have hreal := h.real
  rintro rfl
  have hnone : real? [] = none := by decide
  simp [hnone] at hreal

theorem isBare_exponentText (e : Int) : IsBare (exponentText e) := by
  obtain ⟨ds, htext, hdigits, -, -⟩ := Json.exponentText_digits e
  rw [htext, isBare_cons, isBare_cons]
  refine ⟨by decide, ?_, isBare_of_allDigits hdigits⟩
  split_ifs <;> decide

theorem isBare_text {p : NumberParts} (hwhole : AllDigits p.whole)
    (hfractional : AllDigits p.fractional) : IsBare p.text := by
  obtain ⟨whole, fractional, exponent⟩ := p
  rw [NumberParts.text, isBare_append, isBare_append]
  refine ⟨⟨isBare_of_allDigits hwhole, ?_⟩, ?_⟩
  · split_ifs
    · simp [IsBare]
    · exact isBare_cons.2 ⟨by decide, isBare_of_allDigits hfractional⟩
  · cases exponent with
    | none => simp [IsBare]
    | some e => exact isBare_exponentText e

/-- **The parts of a number, with a sign or without, read as their decimal.** -/
theorem reads_parts (negative : Bool) {p : NumberParts} (hwhole : AllDigits p.whole)
    (hne : p.whole ≠ []) (hfractional : AllDigits p.fractional) :
    Reads (if negative then '-' :: p.text else p.text) (p.decimal.toBinary64 negative) where
  bare := by
    have htext := isBare_text hwhole hfractional
    cases negative with
    | true => exact isBare_cons.2 ⟨by decide, htext⟩
    | false => exact htext
  real := by
    have hdecimal := decimal?_parts hwhole hne hfractional
    obtain ⟨c, rest, hcons⟩ := List.exists_cons_of_ne_nil hne
    obtain ⟨more, htext⟩ : ∃ more, p.text = c :: more := by
      rw [NumberParts.text, hcons]
      exact ⟨_, rfl⟩
    rw [htext] at hdecimal ⊢
    rw [real?_of_isDigit negative (hwhole c (by simp [hcons])), hdecimal]
    rfl

/-! ## Whole numbers -/

/-- The digits of a whole number are converted as the number is, however many there are. -/
theorem toBinary64_natAbs (n : Int) :
    (Decimal.mk n.natAbs 0).toBinary64 (n < 0) = .ofInt n := by
  rw [Decimal.toBinary64_eq, Binary64.ofInt, Decimal.numerator, Decimal.denominator]
  simp

theorem reads_writeInt (n : Int) : Reads (Json.writeInt n) (.ofInt n) := by
  have hparts := reads_parts (n < 0) (p := ⟨Nat.toDigits 10 n.natAbs, [], none⟩)
    (allDigits_toDigits _) Nat.toDigits_ne_nil (by simp [AllDigits])
  have hdecimal : NumberParts.decimal ⟨Nat.toDigits 10 n.natAbs, [], none⟩ = ⟨n.natAbs, 0⟩ := by
    simp [NumberParts.decimal, Decimal.ofParts, Decimal.ofDigits_toDigits]
  rw [hdecimal, toBinary64_natAbs] at hparts
  simpa [NumberParts.text, Json.writeInt] using hparts

/-! ## Binary64 numbers -/

theorem reads_write (x : Binary64) : Reads (x.write Binary64.plainStyle Decimal.shortest) x := by
  cases x with
  | nan => exact ⟨by simp [IsBare, Binary64.write, Binary64.plainStyle, Text.isBlank], by decide⟩
  | signed negative rank =>
    by_cases hrank : rank.val = Binary64.infinityRank
    · have hwrite : (Binary64.signed negative rank).write Binary64.plainStyle Decimal.shortest =
          if negative then ['-', 'i', 'n', 'f'] else ['i', 'n', 'f'] := by
        rw [Binary64.write, if_pos hrank]
        rfl
      rw [hwrite, ← Binary64.ofRank_val, hrank]
      cases negative with
      | true => exact ⟨by simp [IsBare, Text.isBlank], by decide⟩
      | false => exact ⟨by simp [IsBare, Text.isBlank], by decide⟩
    · obtain ⟨d, ⟨p, hp, htext, hspelled⟩, hread⟩ :=
        Binary64.exists_spells_magnitude Binary64.plainStyle rfl rank.val
      have hparts := reads_parts negative hp.whole.digits hp.whole.ne_nil hp.fractional
      rw [hspelled, hread, Binary64.ofRank_val, ← htext] at hparts
      rw [Json.write_signed _ hrank]
      exact hparts

end Numeral

/-! ## Numbers and their texts -/

namespace Json

/-- A number that is no truth value. -/
inductive IsNumber : Json → Prop
  | int (n : Int) : IsNumber (.int n)
  | float (x : Binary64) : IsNumber (.float x)

/-- A text with a number's numeral between blanks stands for the number. -/
theorem toNumber_padded {s : List Char} {x : Binary64} (hs : Numeral.Reads s x)
    {before after : String} (hbefore : ∀ c ∈ before.toList, Text.isBlank c = true)
    (hafter : ∀ c ∈ after.toList, Text.isBlank c = true) :
    (text (before ++ String.ofList s ++ after)).toNumber = x := by
  have htrim := Text.trimBoth_append hbefore (fun c hc => (hs.bare c hc).2.1) hafter
  rw [toNumber, String.toList_append, String.toList_append, String.toList_ofList, htrim,
    Numeral.read?_of_isBare hs.bare, hs.real]
  rfl

theorem IsNumber.reads {v : Json} (hv : v.IsNumber) :
    ∃ s, v.toText = String.ofList s ∧ Numeral.Reads s v.toNumber := by
  cases hv with
  | int n => exact ⟨writeInt n, rfl, Numeral.reads_writeInt n⟩
  | float x => exact ⟨_, rfl, Numeral.reads_write x⟩

/-- **A number and its text stand for the same number.** -/
theorem toNumber_written {v : Json} (hv : v.IsNumber) {before after : String}
    (hbefore : ∀ c ∈ before.toList, Text.isBlank c = true)
    (hafter : ∀ c ∈ after.toList, Text.isBlank c = true) :
    (text (before ++ v.toText ++ after)).toNumber = v.toNumber := by
  obtain ⟨s, htext, hreads⟩ := hv.reads
  rw [htext, toNumber_padded hreads hbefore hafter]

end Json

namespace Condition

/-- What an operand is compared as is the number it stands for. -/
theorem comparison_congr_operand {w w' : Json} (h : w'.toNumber = w.toNumber) (found : Found) :
    applies .greaterThan w' found = applies .greaterThan w found ∧
      applies .lessThan w' found = applies .lessThan w found := by
  simp only [applies, h, and_self]

/-- What a value is compared as is the number it stands for. -/
theorem comparison_congr_found {v v' : Json} (h : v'.toNumber = v.toNumber) (operand : Json) :
    applies .greaterThan operand (some v') = applies .greaterThan operand (some v) ∧
      applies .lessThan operand (some v') = applies .lessThan operand (some v) := by
  have hfound : Found.toNumber (some v') = Found.toNumber (some v) := h
  simp only [applies, hfound, and_self]

/-- **A number and its text compare alike.**  The text of a whole number or of a binary64 number, with
blanks on both sides, stands for what the number itself stands for: zero has its sign, what is no
number is none, and a whole number beyond the range is infinite with its sign.  A comparison
therefore has the same answer for the text as for the number, be it the operand or the value that is
compared, and whatever stands on the other side. -/
theorem comparison_of_written (v : Json) (hv : v.IsNumber) (before after : String)
    (hbefore : ∀ c ∈ before.toList, Text.isBlank c = true)
    (hafter : ∀ c ∈ after.toList, Text.isBlank c = true) :
    let written := Json.text (before ++ v.toText ++ after)
    written.toNumber = v.toNumber ∧
      (∀ found, applies .greaterThan written found = applies .greaterThan v found ∧
        applies .lessThan written found = applies .lessThan v found) ∧
      ∀ operand, applies .greaterThan operand (some written) =
          applies .greaterThan operand (some v) ∧
        applies .lessThan operand (some written) = applies .lessThan operand (some v) := by
  have hsame := Json.toNumber_written hv hbefore hafter
  exact ⟨hsame, comparison_congr_operand hsame, comparison_congr_found hsame⟩

/-- Stored as its digits between a tab and an ideographic space, minus 10³⁰⁹ is beyond the range: it
stands for minus infinity, and minus 10³⁰⁸ is greater. -/
theorem comparison_of_written_huge :
    (∀ c ∈ "\t".toList, Text.isBlank c = true) ∧
      (∀ c ∈ "\u3000".toList, Text.isBlank c = true) ∧
      (Json.text ("\t" ++ (Json.int (-10 ^ 309)).toText ++ "\u3000")).toNumber =
        .infinity true ∧
      applies .greaterThan (.text ("\t" ++ (Json.int (-10 ^ 309)).toText ++ "\u3000"))
        (some (.int (-10 ^ 308))) = .ok true := by
  have htab : ∀ c ∈ "\t".toList, Text.isBlank c = true := by simp [Text.isBlank]
  have hspace : ∀ c ∈ "\u3000".toList, Text.isBlank c = true := by simp [Text.isBlank]
  obtain ⟨hnumber, hoperand, -⟩ :=
    comparison_of_written (.int (-10 ^ 309)) (.int _) "\t" "\u3000" htab hspace
  refine ⟨htab, hspace, hnumber.trans (by decide +kernel), (hoperand _).1.trans ?_⟩
  exact congrArg Except.ok (by decide +kernel)

end Condition

end BranchChoice
