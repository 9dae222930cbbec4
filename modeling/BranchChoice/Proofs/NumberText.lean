import BranchChoice.Decimal.Layout
import BranchChoice.Json.Reader
import BranchChoice.Json.Writer
import BranchChoice.Proofs.ShortestDecimal

/-!
# Numbers as texts

A number that is written is made of parts: a whole part, digits after the point, an exponent
(`NumberParts`).  Whichever way a decimal is laid out, its parts have its value (`spells_layout`),
and reading a text of parts finds the parts again (`readNumber_parts`).  As the shortest decimal
reads back, numbers do (`exists_spells_magnitude`), and whole numbers do as well
(`readNumber_digits`).

What follows a number must not go on with it: `EndsNumber`.
-/

namespace BranchChoice

/-! ## Digits -/

namespace Decimal

theorem ofDigits_eq (ds : List Char) : ofDigits ds = Nat.ofDigitChars 10 ds 0 := by
  rw [Nat.ofDigitChars_eq_foldl]
  rfl

theorem ofDigits_append (ds es : List Char) :
    ofDigits (ds ++ es) = ofDigits ds * 10 ^ es.length + ofDigits es := by
  rw [ofDigits_eq, ofDigits_eq, ofDigits_eq, Nat.ofDigitChars_append,
    @Nat.ofDigitChars_eq_ofDigitChars_zero es, Nat.mul_comm]

theorem ofDigits_cons (d : Char) (ds : List Char) :
    ofDigits (d :: ds) = (d.toNat - 48) * 10 ^ ds.length + ofDigits ds := by
  have hone : ofDigits [d] = d.toNat - 48 := Nat.zero_add _
  rw [← List.singleton_append, ofDigits_append, hone]

theorem ofDigits_zeros (n : Nat) : ofDigits (List.replicate n '0') = 0 := by
  rw [ofDigits_eq, Nat.ofDigitChars_replicate_zero, Nat.mul_zero]

theorem ofDigits_toDigits (n : Nat) : ofDigits (Nat.toDigits 10 n) = n := by
  rw [ofDigits_eq, Nat.ofDigitChars_ten_toDigits]

/-- Zeros in front of digits do not count. -/
theorem ofDigits_zeros_append (n : Nat) (ds : List Char) :
    ofDigits (List.replicate n '0' ++ ds) = ofDigits ds := by
  rw [ofDigits_append, ofDigits_zeros, Nat.zero_mul, Nat.zero_add]

/-- Zeros behind digits multiply. -/
theorem ofDigits_append_zeros (n : Nat) (ds : List Char) :
    ofDigits (ds ++ List.replicate n '0') = ofDigits ds * 10 ^ n := by
  rw [ofDigits_append, ofDigits_zeros, List.length_replicate, Nat.add_zero]

end Decimal

/-- All characters are plain digits. -/
def AllDigits (ds : List Char) : Prop :=
  ∀ c ∈ ds, c.isDigit = true

theorem AllDigits.ofDigits_lt {ds : List Char} (h : AllDigits ds) :
    Decimal.ofDigits ds < 10 ^ ds.length := by
  induction ds with
  | nil => exact Nat.one_pos
  | cons d ds ih =>
    have hd : d.toNat ≤ 57 := by
      have := h d List.mem_cons_self
      simp only [Char.isDigit, Bool.and_eq_true, decide_eq_true_eq] at this
      exact this.2
    have hds := ih fun c hc => h c (List.mem_cons_of_mem d hc)
    have hle : (d.toNat - 48) * 10 ^ ds.length ≤ 9 * 10 ^ ds.length :=
      Nat.mul_le_mul_right _ (by omega)
    rw [Decimal.ofDigits_cons, List.length_cons, Nat.pow_succ]
    omega

theorem allDigits_toDigits (n : Nat) : AllDigits (Nat.toDigits 10 n) :=
  fun _ hc => Nat.isDigit_of_mem_toDigits (by decide) (by decide) hc

theorem allDigits_zeros (n : Nat) : AllDigits (List.replicate n '0') := by
  intro c hc
  obtain rfl := List.eq_of_mem_replicate hc
  decide

theorem AllDigits.append {ds es : List Char} (hds : AllDigits ds) (hes : AllDigits es) :
    AllDigits (ds ++ es) := by
  intro c hc
  rcases List.mem_append.1 hc with h | h
  · exact hds c h
  · exact hes c h

/-- Digits that may stand before the point: at least one, and the first of several is not zero. -/
structure IsWhole (ds : List Char) : Prop where
  digits : AllDigits ds
  ne_nil : ds ≠ []
  head : ds.head? = some '0' → ds = ['0']

theorem digitChar_eq_zero : ∀ n < 10, n.digitChar = '0' → n = 0 := by
  decide

/-- The digits of a positive number do not start with a zero. -/
theorem head?_toDigits {n : Nat} (hn : 0 < n) : (Nat.toDigits 10 n).head? ≠ some '0' := by
  induction n using Nat.strong_induction_on with
  | h n ih =>
    rw [Nat.toDigits_eq_if (by decide)]
    split_ifs with hsmall
    · intro hhead
      have hzero := digitChar_eq_zero n hsmall (Option.some.inj hhead)
      omega
    · obtain ⟨c, rest, hcons⟩ := List.exists_cons_of_ne_nil (Nat.toDigits_ne_nil (n := n / 10))
      have hfirst := ih (n / 10) (by omega) (by omega)
      rw [hcons] at hfirst ⊢
      exact hfirst

theorem isWhole_toDigits (n : Nat) : IsWhole (Nat.toDigits 10 n) where
  digits := allDigits_toDigits n
  ne_nil := Nat.toDigits_ne_nil
  head h := by
    rcases Nat.eq_zero_or_pos n with rfl | hn
    · exact Nat.toDigits_zero 10
    · exact absurd h (head?_toDigits hn)

/-! ## Reading digits -/

/-- The text does not go on with a number: it is at its end, or a character follows that no number
has. -/
def EndsNumber (tail : List Char) : Prop :=
  ∀ c ∈ tail.head?, c.isDigit = false ∧ c ≠ '.' ∧ c ≠ 'e' ∧ c ≠ 'E'

theorem spanDigits_append {ds tail : List Char} (hds : AllDigits ds)
    (htail : ∀ c ∈ tail.head?, c.isDigit = false) :
    Decimal.spanDigits (ds ++ tail) = (ds, tail) := by
  have hstop : tail.takeWhile Char.isDigit = [] ∧ tail.dropWhile Char.isDigit = tail := by
    cases tail with
    | nil => exact ⟨rfl, rfl⟩
    | cons c rest =>
      have hc : c.isDigit = false := htail c rfl
      simp [hc]
  rw [Decimal.spanDigits, List.takeWhile_append_of_pos hds, List.dropWhile_append_of_pos hds,
    hstop.1, hstop.2, List.append_nil]

namespace Json

theorem takeWhole_append {ds tail : List Char} (hds : IsWhole ds)
    (htail : ∀ c ∈ tail.head?, c.isDigit = false) : takeWhole (ds ++ tail) = (ds, tail) := by
  obtain ⟨c, rest, rfl⟩ : ∃ c rest, ds = c :: rest := List.exists_cons_of_ne_nil hds.ne_nil
  by_cases hc : c = '0'
  · obtain rfl := hc
    have hrest : rest = [] := by simpa using hds.head rfl
    rw [hrest]
    rfl
  · have hspan := spanDigits_append hds.digits htail
    rw [← hspan]
    unfold takeWhole
    split
    · next h => exact absurd (List.cons.inj h).1 hc
    · rfl

theorem takeFraction_of_ends {tail : List Char} (h : ∀ c ∈ tail.head?, c ≠ '.') :
    takeFraction tail = none := by
  unfold takeFraction
  split
  · exact absurd rfl (h '.' rfl)
  · rfl

theorem takeFraction_append {fractional tail : List Char} (hdigits : AllDigits fractional)
    (hne : fractional ≠ []) (htail : ∀ c ∈ tail.head?, c.isDigit = false) :
    takeFraction ('.' :: fractional ++ tail) = some (fractional, tail) := by
  rw [List.cons_append, takeFraction, spanDigits_append hdigits htail]
  cases fractional with
  | nil => exact absurd rfl hne
  | cons c rest => rfl

theorem takeExponent_of_ends {tail : List Char} (h : ∀ c ∈ tail.head?, c ≠ 'e' ∧ c ≠ 'E') :
    takeExponent tail = none := by
  cases tail with
  | nil => rfl
  | cons c rest =>
    obtain ⟨he, hE⟩ := h c rfl
    have hno : (c == 'e' || c == 'E') = false := by simp [he, hE]
    rw [takeExponent, if_neg (by simp [hno])]

end Json

/-! ## Parts of a number -/

/-- An exponent as it is written: its letter, its sign and at least two digits. -/
def exponentText (e : Int) : List Char :=
  let magnitude := Nat.toDigits 10 e.natAbs
  ['e', if e < 0 then '-' else '+'] ++
    (if magnitude.length < 2 then '0' :: magnitude else magnitude)

/-- The parts that a real number is written with. -/
structure NumberParts where
  whole : List Char
  /-- The digits after the point; no point is written if there are none. -/
  fractional : List Char
  exponent : Option Int

namespace NumberParts

/-- The text of the parts. -/
def text (p : NumberParts) : List Char :=
  p.whole ++ (if p.fractional.isEmpty then [] else '.' :: p.fractional) ++
    (p.exponent.elim [] exponentText)

/-- The decimal that the parts stand for. -/
def decimal (p : NumberParts) : Decimal :=
  .ofParts p.whole p.fractional (p.exponent.getD 0)

/-- Parts that are digits, and of which at least one is not that of a whole number. -/
structure WellFormed (p : NumberParts) : Prop where
  whole : IsWhole p.whole
  fractional : AllDigits p.fractional
  real : p.fractional ≠ [] ∨ p.exponent ≠ none

end NumberParts

namespace Json

theorem exponentText_digits (e : Int) :
    ∃ ds, exponentText e = 'e' :: (if e < 0 then '-' else '+') :: ds ∧ AllDigits ds ∧ ds ≠ [] ∧
      Decimal.ofDigits ds = e.natAbs := by
  have hdigits := allDigits_toDigits e.natAbs
  by_cases hshort : (Nat.toDigits 10 e.natAbs).length < 2
  · refine ⟨'0' :: Nat.toDigits 10 e.natAbs, by simp [exponentText, hshort],
      (allDigits_zeros 1).append hdigits, by simp, ?_⟩
    have hzero := Decimal.ofDigits_zeros_append 1 (Nat.toDigits 10 e.natAbs)
    rw [Decimal.ofDigits_toDigits] at hzero
    exact hzero
  · exact ⟨Nat.toDigits 10 e.natAbs, by simp [exponentText, hshort], hdigits, Nat.toDigits_ne_nil,
      Decimal.ofDigits_toDigits _⟩

theorem takeExponent_exponentText (e : Int) {tail : List Char}
    (htail : ∀ c ∈ tail.head?, c.isDigit = false) :
    takeExponent (exponentText e ++ tail) = some (e, tail) := by
  obtain ⟨ds, htext, hdigits, hne, hvalue⟩ := exponentText_digits e
  obtain ⟨c, rest, rfl⟩ := List.exists_cons_of_ne_nil hne
  have hsign : Numeral.takeSign ((if e < 0 then '-' else '+') :: (c :: rest ++ tail)) =
      (decide (e < 0), c :: rest ++ tail) := by
    split_ifs with he <;> simp [Numeral.takeSign, he]
  rw [htext, List.cons_append, List.cons_append, takeExponent, if_pos (by rfl), hsign]
  dsimp only
  rw [spanDigits_append hdigits htail]
  dsimp only
  rw [hvalue]
  congr 2
  split_ifs with he
  · have hneg : e < 0 := by simpa using he
    omega
  · have hpos : ¬ e < 0 := by simpa using he
    omega

theorem head?_exponentText_append (e : Int) (tail : List Char) :
    (exponentText e ++ tail).head? = some 'e' := by
  obtain ⟨ds, htext, -⟩ := exponentText_digits e
  rw [htext]
  rfl

section Number

variable {negative : Bool} {start whole rest : List Char}

theorem readNumber_of_fraction (hwhole : IsWhole whole)
    (hrest : ∀ c ∈ rest.head?, c.isDigit = false) {fractional more : List Char}
    (hfraction : takeFraction rest = some (fractional, more)) :
    readNumber negative start (whole ++ rest) =
      .ok (.float ((Decimal.ofParts whole fractional
        ((takeExponent more).getD (0, more)).1).toBinary64 negative),
        ((takeExponent more).getD (0, more)).2) := by
  obtain ⟨c, cs, hcons⟩ := List.exists_cons_of_ne_nil hwhole.ne_nil
  rw [readNumber, takeWhole_append hwhole hrest, hcons]
  dsimp only
  rw [hfraction]

theorem readNumber_of_exponent (hwhole : IsWhole whole)
    (hrest : ∀ c ∈ rest.head?, c.isDigit = false) {e : Int} {more : List Char}
    (hfraction : takeFraction rest = none) (hexponent : takeExponent rest = some (e, more)) :
    readNumber negative start (whole ++ rest) =
      .ok (.float ((Decimal.ofParts whole [] e).toBinary64 negative), more) := by
  obtain ⟨c, cs, hcons⟩ := List.exists_cons_of_ne_nil hwhole.ne_nil
  rw [readNumber, takeWhole_append hwhole hrest, hcons]
  dsimp only
  rw [hfraction, hexponent]

/-- Digits that nothing of a real number follows are a whole number, unless there are too many. -/
theorem readNumber_digits (hwhole : IsWhole whole) (hrest : EndsNumber rest)
    (hlength : whole.length ≤ maxIntegerDigits) :
    readNumber negative start (whole ++ rest) =
      .ok (.int (if negative then -(Decimal.ofDigits whole : Int) else Decimal.ofDigits whole),
        rest) := by
  have hfraction : takeFraction rest = none := takeFraction_of_ends fun c hc => (hrest c hc).2.1
  have hexponent : takeExponent rest = none := takeExponent_of_ends fun c hc => (hrest c hc).2.2
  obtain ⟨c, cs, hcons⟩ := List.exists_cons_of_ne_nil hwhole.ne_nil
  rw [readNumber, takeWhole_append hwhole fun c hc => (hrest c hc).1, hcons]
  dsimp only
  rw [hfraction, hexponent, ← hcons]
  dsimp only
  rw [if_neg (by omega)]

end Number

/-- **Reading a number finds its parts.** -/
theorem readNumber_parts {p : NumberParts} (hp : p.WellFormed) (negative : Bool)
    (start : List Char) {tail : List Char} (htail : EndsNumber tail) :
    readNumber negative start (p.text ++ tail) =
      .ok (.float (p.decimal.toBinary64 negative), tail) := by
  obtain ⟨whole, fractional, exponent⟩ := p
  obtain ⟨hwhole, hfractional, hreal⟩ := hp
  dsimp only at hwhole hfractional hreal
  have hdigit : ∀ c ∈ tail.head?, c.isDigit = false := fun c hc => (htail c hc).1
  have hletter (e : Int) : ∀ c ∈ (exponentText e ++ tail).head?, c = 'e' := by
    rw [head?_exponentText_append]
    simp
  rcases eq_or_ne fractional [] with rfl | hne
  · cases exponent with
    | none => simp at hreal
    | some e =>
      have htext : NumberParts.text ⟨whole, [], some e⟩ ++ tail =
          whole ++ (exponentText e ++ tail) := by simp [NumberParts.text]
      rw [htext, readNumber_of_exponent hwhole (fun c hc => hletter e c hc ▸ rfl)
        (takeFraction_of_ends fun c hc => hletter e c hc ▸ by decide)
        (takeExponent_exponentText e hdigit)]
      rfl
  · have hnonempty : fractional.isEmpty = false := by simpa using hne
    cases exponent with
    | none =>
      have htext : NumberParts.text ⟨whole, fractional, none⟩ ++ tail =
          whole ++ ('.' :: fractional ++ tail) := by simp [NumberParts.text, hnonempty]
      rw [htext, readNumber_of_fraction hwhole (by simp)
        (takeFraction_append hfractional hne hdigit),
        takeExponent_of_ends fun c hc => (htail c hc).2.2]
      rfl
    | some e =>
      have htext : NumberParts.text ⟨whole, fractional, some e⟩ ++ tail =
          whole ++ ('.' :: fractional ++ (exponentText e ++ tail)) := by
        simp [NumberParts.text, hnonempty]
      rw [htext, readNumber_of_fraction hwhole (by simp)
        (takeFraction_append hfractional hne fun c hc => hletter e c hc ▸ rfl),
        takeExponent_exponentText e hdigit]
      rfl

end Json

/-! ## Laying out a decimal -/

namespace Decimal

/-- The digits of a decimal: the first is not zero, and the zeros left out at the end multiply. -/
theorem digits_spec {d : Decimal} (hc : d.coefficient ≠ 0) :
    d.digits ≠ [] ∧ AllDigits d.digits ∧ d.digits.head? ≠ some '0' ∧
      ∃ t, d.coefficient = ofDigits d.digits * 10 ^ t ∧
        digitCount d.coefficient = d.digits.length + t := by
  generalize hall : Nat.toDigits 10 d.coefficient = all
  have hdigits : d.digits = (all.reverse.dropWhile (· == '0')).reverse := by rw [digits, hall]
  generalize hzeros : all.reverse.takeWhile (· == '0') = zeros
  have hsplit : all = d.digits ++ zeros.reverse := by
    have hback : all.reverse = zeros ++ all.reverse.dropWhile (· == '0') := by
      rw [← hzeros, List.takeWhile_append_dropWhile]
    have hturned := congrArg List.reverse hback
    rw [List.reverse_reverse, List.reverse_append] at hturned
    rw [hdigits]
    exact hturned
  have hreplicate : zeros.reverse = List.replicate zeros.length '0' := by
    rw [List.reverse_eq_iff, List.reverse_replicate, List.eq_replicate_iff]
    refine ⟨rfl, fun c hc => ?_⟩
    rw [← hzeros] at hc
    have hall : (all.reverse.takeWhile (· == '0')).all (· == '0') = true := List.all_takeWhile
    exact eq_of_beq (List.all_eq_true.1 hall c hc)
  rw [hreplicate] at hsplit
  have hvalue : d.coefficient = ofDigits d.digits * 10 ^ zeros.length := by
    rw [← ofDigits_append_zeros, ← hsplit, ← hall, ofDigits_toDigits]
  have hne : d.digits ≠ [] := by
    intro hnil
    rw [hnil] at hvalue
    exact hc (by simpa [ofDigits] using hvalue)
  refine ⟨hne, ?_, ?_, zeros.length, hvalue, ?_⟩
  · intro c hmem
    exact allDigits_toDigits d.coefficient c (by simp [hall, hsplit, hmem])
  · have hhead := head?_toDigits (Nat.pos_of_ne_zero hc)
    obtain ⟨c, rest, hcons⟩ := List.exists_cons_of_ne_nil hne
    rw [hall, hsplit, hcons] at hhead
    rw [hcons]
    exact hhead
  · rw [digitCount, hall]
    conv_lhs => rw [hsplit]
    simp

end Decimal

theorem isWhole_of_head {ds : List Char} (hdigits : AllDigits ds) (hne : ds ≠ [])
    (hhead : ds.head? ≠ some '0') : IsWhole ds :=
  ⟨hdigits, hne, fun h => absurd h hhead⟩

/-- A text is made of parts that a decimal is converted like. -/
def Spells (s : List Char) (d : Decimal) : Prop :=
  ∃ p : NumberParts, p.WellFormed ∧ s = p.text ∧
    ∀ negative, p.decimal.toBinary64 negative = d.toBinary64 negative

namespace Decimal

section Layout

variable {ds : List Char}

/-- A point with zeros before the digits. -/
theorem spells_fraction (hdigits : AllDigits ds) (hne : ds ≠ []) (n : Nat) :
    Spells ('0' :: '.' :: List.replicate n '0' ++ ds) ⟨ofDigits ds, -(n + ds.length : Nat)⟩ := by
  refine ⟨⟨['0'], List.replicate n '0' ++ ds, none⟩, ⟨⟨allDigits_zeros 1, by simp, fun _ => rfl⟩,
    (allDigits_zeros n).append hdigits, .inl (by simp [hne])⟩, by simp [NumberParts.text, hne],
    fun negative => ?_⟩
  have hzeros := ofDigits_zeros_append (n + 1) ds
  rw [List.replicate_succ, List.cons_append] at hzeros
  rw [NumberParts.decimal, ofParts, List.singleton_append, hzeros]
  congr 2
  simp

/-- Zeros behind the digits, and a point. -/
theorem spells_whole (hdigits : AllDigits ds) (hne : ds ≠ []) (hhead : ds.head? ≠ some '0')
    (n : Nat) : Spells (ds ++ List.replicate n '0' ++ ['.', '0']) ⟨ofDigits ds, n⟩ := by
  have hwhole : IsWhole (ds ++ List.replicate n '0') := by
    refine isWhole_of_head (hdigits.append (allDigits_zeros n)) (by simp [hne]) ?_
    obtain ⟨c, rest, rfl⟩ := List.exists_cons_of_ne_nil hne
    exact hhead
  refine ⟨⟨ds ++ List.replicate n '0', ['0'], none⟩,
    ⟨hwhole, allDigits_zeros 1, .inl (by simp)⟩, by simp [NumberParts.text], fun negative => ?_⟩
  have hzeros := ofDigits_append_zeros (n + 1) ds
  rw [List.replicate_succ', ← List.append_assoc] at hzeros
  rw [NumberParts.decimal, ofParts, hzeros, toBinary64_shift]
  congr 2
  simp

/-- A point among the digits. -/
theorem spells_pointed (hdigits : AllDigits ds) (hhead : ds.head? ≠ some '0') {n : Nat}
    (hn : n + 1 < ds.length) : Spells (ds.take (n + 1) ++ '.' :: ds.drop (n + 1))
      ⟨ofDigits ds, -(ds.length - (n + 1) : Nat)⟩ := by
  have hdrop : ds.drop (n + 1) ≠ [] := by
    simp only [ne_eq, List.drop_eq_nil_iff]
    omega
  have hnonempty : (ds.drop (n + 1)).isEmpty = false := by simpa using hdrop
  have hwhole : IsWhole (ds.take (n + 1)) := by
    obtain ⟨c, rest, rfl⟩ := List.exists_cons_of_length_pos (Nat.zero_lt_of_lt hn)
    refine isWhole_of_head (fun x hx => hdigits x (List.mem_of_mem_take hx)) (by simp) ?_
    simpa using hhead
  refine ⟨⟨ds.take (n + 1), ds.drop (n + 1), none⟩,
    ⟨hwhole, fun x hx => hdigits x (List.mem_of_mem_drop hx), .inl hdrop⟩,
    by simp [NumberParts.text, hnonempty], fun negative => ?_⟩
  rw [NumberParts.decimal, ofParts, List.take_append_drop]
  congr 2
  simp

/-- Digits with the point where the exponent of the first one puts it. -/
theorem spells_positional (hdigits : AllDigits ds) (hne : ds ≠ []) (hhead : ds.head? ≠ some '0')
    (e : Int) : Spells (positional true ds e) ⟨ofDigits ds, e + 1 - ds.length⟩ := by
  have hpositive : 0 < ds.length := List.length_pos_iff.2 hne
  rcases lt_or_ge e 0 with hsmall | hlarge
  · have hexponent : e + 1 - ds.length = -(((-e).toNat - 1) + ds.length : Nat) := by omega
    rw [positional, if_pos hsmall, hexponent]
    exact spells_fraction hdigits hne _
  · rw [positional, if_neg (by omega)]
    dsimp only
    by_cases hall : ds.length ≤ e.toNat + 1
    · have hexponent : e + 1 - ds.length = ((e.toNat + 1 - ds.length : Nat) : Int) := by omega
      rw [if_pos hall, hexponent]
      exact spells_whole hdigits hne hhead _
    · have hexponent : e + 1 - ds.length = -(ds.length - (e.toNat + 1) : Nat) := by omega
      rw [if_neg hall, hexponent]
      exact spells_pointed hdigits hhead (by omega)

/-- Digits with the point after the first, and the exponent of the first. -/
theorem spells_scientific (hdigits : AllDigits ds) (hne : ds ≠ []) (hhead : ds.head? ≠ some '0')
    (e : Int) : Spells (scientific ds e) ⟨ofDigits ds, e + 1 - ds.length⟩ := by
  obtain ⟨c, rest, rfl⟩ := List.exists_cons_of_ne_nil hne
  have hfirst : AllDigits [c] := fun x hx => hdigits x (by simp_all)
  refine ⟨⟨[c], rest, some e⟩, ⟨isWhole_of_head hfirst (by simp) hhead,
    fun x hx => hdigits x (by simp [hx]), .inr (by simp)⟩, ?_, fun negative => ?_⟩
  · cases rest <;> simp [scientific, NumberParts.text, exponentText]
  · congr 1
    rw [NumberParts.decimal, ofParts]
    simp only [List.singleton_append, Option.getD_some, List.length_cons, Decimal.mk.injEq,
      true_and]
    omega

end Layout

/-- **A decimal that is laid out keeps its value.** -/
theorem spells_layout {style : NumberStyle} (hpoint : style.keepPoint = true) {d : Decimal}
    (hc : d.coefficient ≠ 0) : Spells (d.layout style) d := by
  obtain ⟨hne, hdigits, hhead, t, hvalue, hcount⟩ := digits_spec hc
  obtain ⟨c, rest, hcons⟩ := List.exists_cons_of_ne_nil hne
  have hlayout : d.layout style =
      if -4 ≤ d.scientificExponent && d.scientificExponent < style.limit then
        positional true d.digits d.scientificExponent
      else scientific d.digits d.scientificExponent := by
    rw [layout, hpoint, hcons]
  have hsame (negative : Bool) : (Decimal.mk (ofDigits d.digits)
      (d.scientificExponent + 1 - d.digits.length)).toBinary64 negative =
        d.toBinary64 negative := by
    have hd : d = ⟨ofDigits d.digits * 10 ^ t, d.exponent⟩ := by rw [← hvalue]
    conv_rhs => rw [hd]
    rw [toBinary64_shift, scientificExponent, hcount]
    congr 2
    push_cast
    omega
  have hspells : Spells (d.layout style)
      ⟨ofDigits d.digits, d.scientificExponent + 1 - d.digits.length⟩ := by
    rw [hlayout]
    split_ifs
    · exact spells_positional hdigits hne hhead _
    · exact spells_scientific hdigits hne hhead _
  obtain ⟨p, hp, htext, hread⟩ := hspells
  exact ⟨p, hp, htext, fun negative => (hread negative).trans (hsame negative)⟩

theorem toBinary64_of_zero (negative : Bool) {d : Decimal} (hc : d.coefficient = 0) :
    d.toBinary64 negative = .ofRank negative 0 := by
  rw [toBinary64, if_pos hc]

/-- Zero is laid out as itself. -/
theorem spells_zero {style : NumberStyle} (hpoint : style.keepPoint = true) :
    Spells ((Decimal.mk 0 0).layout style) ⟨0, 0⟩ := by
  have hlayout : (Decimal.mk 0 0).layout style = ['0', '.', '0'] := by
    have hdigits : (Decimal.mk 0 0).digits = [] := by decide
    rw [layout, hdigits, hpoint]
    rfl
  rw [hlayout]
  refine ⟨⟨['0'], ['0'], none⟩, ⟨⟨allDigits_zeros 1, by simp, fun _ => rfl⟩, allDigits_zeros 1,
    .inl (by simp)⟩, rfl, fun negative => ?_⟩
  have hzero : (NumberParts.decimal ⟨['0'], ['0'], none⟩).coefficient = 0 := by decide
  rw [toBinary64_of_zero negative hzero, toBinary64_of_zero negative rfl]

end Decimal

/-! ## Writing a number and reading it -/

namespace Json

/-- Reading what spells a decimal converts the decimal. -/
theorem readNumber_spells {s : List Char} {d : Decimal} (h : Spells s d) (negative : Bool)
    (start : List Char) {tail : List Char} (htail : EndsNumber tail) :
    readNumber negative start (s ++ tail) = .ok (.float (d.toBinary64 negative), tail) := by
  obtain ⟨p, hp, rfl, hread⟩ := h
  rw [readNumber_parts hp negative start htail, hread]

end Json

namespace Binary64

theorem ofRank_val (negative : Bool) (rank : Fin (infinityRank + 1)) :
    ofRank negative rank.val = signed negative rank := by
  rw [ofRank]
  congr 1
  exact Fin.ext (Nat.min_eq_left (Nat.le_of_lt_succ rank.isLt))

/-- The text of a finite magnitude. -/
def magnitudeText (style : NumberStyle) (rank : Nat) : List Char :=
  if rank = 0 then (Decimal.mk 0 0).layout style else (Decimal.shortest rank).layout style

/-- **A magnitude that is written reads back.** -/
theorem exists_spells_magnitude (style : NumberStyle) (hpoint : style.keepPoint = true)
    (rank : Nat) : ∃ d : Decimal, Spells (magnitudeText style rank) d ∧
      ∀ negative, d.toBinary64 negative = ofRank negative rank := by
  rcases Nat.eq_zero_or_pos rank with rfl | hpos
  · exact ⟨⟨0, 0⟩, Decimal.spells_zero hpoint,
      fun negative => Decimal.toBinary64_of_zero negative rfl⟩
  · refine ⟨Decimal.shortest rank, ?_, fun negative => Decimal.toBinary64_shortest negative hpos⟩
    have hcoefficient := (Decimal.shortest_spec hpos).2
    rw [magnitudeText, if_neg (by omega)]
    exact Decimal.spells_layout hpoint (by omega)

end Binary64

end BranchChoice
