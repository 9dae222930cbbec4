import BranchChoice.Binary64.Rounding
import Mathlib.Tactic.Linarith
import Mathlib.Tactic.Ring

/-!
# Order and rounding

Rounding a quotient to the nearest whole number, ties to even, respects the order of the quotients
(`roundQuotient_mono`), and so does the choice of the nearest rank, across binades as well as inside
one (`nearestRank_mono`).  The second follows from the first because a binade's ranks end where the
next binade's begin.

Ranks carry the order of binary64 numbers, so a fraction of a whole lies between zero and one
(`fraction_isShare`) and is a number.
-/

namespace BranchChoice

/-! ## Rounded quotients -/

theorem div_le_roundQuotient (num den : Nat) : num / den ≤ roundQuotient num den := by
  unfold roundQuotient
  dsimp only
  split_ifs <;> omega

theorem roundQuotient_le_div_succ (num den : Nat) : roundQuotient num den ≤ num / den + 1 := by
  unfold roundQuotient
  dsimp only
  split_ifs <;> omega

/-- A whole number is not rounded. -/
theorem roundQuotient_mul_self (n : Nat) {den : Nat} (hden : 0 < den) :
    roundQuotient (n * den) den = n := by
  have hmod : n * den % den = 0 := Nat.mul_mod_left n den
  have hdiv : n * den / den = n := Nat.mul_div_cancel n hden
  unfold roundQuotient
  dsimp only
  rw [hmod, hdiv, if_pos (by omega)]

/-- Whole parts respect the order of quotients, which is given here by cross multiplication. -/
theorem div_le_div_of_cross {a b c d : Nat} (hb : 0 < b) (hd : 0 < d) (h : a * d ≤ c * b) :
    a / b ≤ c / d := by
  rw [Nat.le_div_iff_mul_le hd]
  refine Nat.le_of_mul_le_mul_right ?_ hb
  calc a / b * d * b = a / b * b * d := by ring
    _ ≤ a * d := Nat.mul_le_mul_right d (Nat.div_mul_le_self a b)
    _ ≤ c * b := h

/-- **Rounding is monotone.**  A larger quotient is never rounded to a smaller number. -/
theorem roundQuotient_mono {a b c d : Nat} (hb : 0 < b) (hd : 0 < d) (h : a * d ≤ c * b) :
    roundQuotient a b ≤ roundQuotient c d := by
  have hle := div_le_div_of_cross hb hd h
  rcases Nat.lt_or_eq_of_le hle with hlt | heq
  · calc roundQuotient a b ≤ a / b + 1 := roundQuotient_le_div_succ a b
      _ ≤ c / d := hlt
      _ ≤ roundQuotient c d := div_le_roundQuotient c d
  · -- with equal whole parts the remainders decide
    have ha : b * (a / b) + a % b = a := Nat.div_add_mod a b
    have hc : d * (a / b) + c % d = c := by rw [heq]; exact Nat.div_add_mod c d
    have hrem : a % b * d ≤ c % d * b := by nlinarith
    have hhalf : b ≤ 2 * (a % b) → d ≤ 2 * (c % d) := by
      intro hba
      refine Nat.le_of_mul_le_mul_right ?_ hb
      nlinarith
    have hover : b < 2 * (a % b) → d < 2 * (c % d) := by
      intro hba
      refine Nat.lt_of_mul_lt_mul_right (a := b) ?_
      nlinarith
    unfold roundQuotient
    dsimp only
    rw [← heq]
    split_ifs <;> omega

theorem roundQuotient_le_of_le {num den n : Nat} (hden : 0 < den) (h : num ≤ n * den) :
    roundQuotient num den ≤ n := by
  have hmono := roundQuotient_mono hden hden (Nat.mul_le_mul_right den h)
  rwa [roundQuotient_mul_self n hden] at hmono

theorem le_roundQuotient_of_le {num den n : Nat} (hden : 0 < den) (h : n * den ≤ num) :
    n ≤ roundQuotient num den := by
  have hmono := roundQuotient_mono hden hden (Nat.mul_le_mul_right den h)
  rwa [roundQuotient_mul_self n hden] at hmono

namespace Binary64

/-! ## Nearest ranks -/

theorem binadeSize_eq : binadeSize = 2 ^ 52 := by decide

/-- The exponent that `nearestRank` works in. -/
def exponentOf (num den : Nat) : Nat := (num / den).log2 - 52

theorem nearestRank_eq (num den : Nat) :
    nearestRank num den =
      roundQuotient num (den * 2 ^ exponentOf num den) + exponentOf num den * binadeSize := rfl

theorem lt_mul_of_exponentOf {num den : Nat} (hden : 0 < den) :
    num < 2 ^ 53 * (den * 2 ^ exponentOf num den) := by
  have hlog : (num / den).log2 + 1 ≤ 53 + exponentOf num den := by
    unfold exponentOf
    omega
  have hdiv : num / den < 2 ^ (53 + exponentOf num den) :=
    lt_of_lt_of_le Nat.lt_log2_self (Nat.pow_le_pow_right (by norm_num) hlog)
  have hlt : num < 2 ^ (53 + exponentOf num den) * den := (Nat.div_lt_iff_lt_mul hden).1 hdiv
  calc num < 2 ^ (53 + exponentOf num den) * den := hlt
    _ = 2 ^ 53 * (den * 2 ^ exponentOf num den) := by rw [Nat.pow_add]; ring

theorem mul_le_of_exponentOf {num den : Nat} (hexp : 0 < exponentOf num den) :
    2 ^ 52 * (den * 2 ^ exponentOf num den) ≤ num := by
  have hlog : 52 + exponentOf num den = (num / den).log2 := by
    unfold exponentOf at *
    omega
  have hne : num / den ≠ 0 := by
    intro hzero
    rw [exponentOf, hzero, Nat.log2_zero] at hexp
    omega
  have hpow : 2 ^ (52 + exponentOf num den) ≤ num / den := by
    rw [hlog]
    exact Nat.log2_self_le hne
  calc 2 ^ 52 * (den * 2 ^ exponentOf num den)
      = 2 ^ (52 + exponentOf num den) * den := by rw [Nat.pow_add]; ring
    _ ≤ num / den * den := Nat.mul_le_mul_right den hpow
    _ ≤ num := Nat.div_mul_le_self num den

theorem log2_le_log2 {m n : Nat} (h : m ≤ n) : m.log2 ≤ n.log2 := by
  rcases Nat.eq_zero_or_pos m with rfl | hm
  · rw [Nat.log2_zero]
    exact Nat.zero_le _
  · have hn : n ≠ 0 := by omega
    exact (Nat.le_log2 hn).2 (le_trans (Nat.log2_self_le (by omega)) h)

theorem exponentOf_mono {a b c d : Nat} (hb : 0 < b) (hd : 0 < d) (h : a * d ≤ c * b) :
    exponentOf a b ≤ exponentOf c d :=
  Nat.sub_le_sub_right (log2_le_log2 (div_le_div_of_cross hb hd h)) 52

/-- **The nearest rank is monotone.**  Inside a binade this is monotone rounding; a lower binade's
ranks all lie below those of a higher one. -/
theorem nearestRank_mono {a b c d : Nat} (hb : 0 < b) (hd : 0 < d) (h : a * d ≤ c * b) :
    nearestRank a b ≤ nearestRank c d := by
  rw [nearestRank_eq, nearestRank_eq]
  rcases Nat.lt_or_eq_of_le (exponentOf_mono hb hd h) with hlt | heq
  · have hlow : roundQuotient a (b * 2 ^ exponentOf a b) ≤ 2 ^ 53 :=
      roundQuotient_le_of_le (by positivity) (lt_mul_of_exponentOf hb).le
    have hhigh : 2 ^ 52 ≤ roundQuotient c (d * 2 ^ exponentOf c d) :=
      le_roundQuotient_of_le (by positivity) (mul_le_of_exponentOf (by omega))
    rw [binadeSize_eq]
    omega
  · rw [heq]
    refine Nat.add_le_add_right (roundQuotient_mono (by positivity) (by positivity) ?_) _
    calc a * (d * 2 ^ exponentOf c d) = a * d * 2 ^ exponentOf c d := by ring
      _ ≤ c * b * 2 ^ exponentOf c d := Nat.mul_le_mul_right _ h
      _ = c * (b * 2 ^ exponentOf c d) := by ring

/-! ## Keys and comparisons -/

theorem lt_iff {x y : Binary64} :
    x.lt y = true ↔ ∃ a b, x.key? = some a ∧ y.key? = some b ∧ a < b := by
  unfold lt
  cases x.key? <;> cases y.key? <;> simp

theorem le_iff {x y : Binary64} :
    x.le y = true ↔ ∃ a b, x.key? = some a ∧ y.key? = some b ∧ a ≤ b := by
  unfold le
  cases x.key? <;> cases y.key? <;> simp

theorem key?_eq_none_iff {x : Binary64} : x.key? = none ↔ x = nan := by
  cases x <;> simp [key?]

theorem le_of_lt {x y : Binary64} (h : x.lt y = true) : x.le y = true := by
  obtain ⟨a, b, ha, hb, hab⟩ := lt_iff.1 h
  exact le_iff.2 ⟨a, b, ha, hb, hab.le⟩

theorem le_refl {x : Binary64} (h : x ≠ nan) : x.le x = true := by
  obtain ⟨a, ha⟩ := Option.ne_none_iff_exists'.1 (mt key?_eq_none_iff.1 h)
  exact le_iff.2 ⟨a, a, ha, ha, Int.le_refl a⟩

theorem lt_irrefl (x : Binary64) : x.lt x = false := by
  cases hkey : x.key? <;> simp [lt, hkey]

theorem le_trans' {x y z : Binary64} (hxy : x.le y = true) (hyz : y.le z = true) :
    x.le z = true := by
  obtain ⟨a, b, ha, hb, hab⟩ := le_iff.1 hxy
  obtain ⟨b', c, hb', hc, hbc⟩ := le_iff.1 hyz
  obtain rfl : b = b' := Option.some.inj (hb.symm.trans hb')
  exact le_iff.2 ⟨a, c, ha, hc, hab.trans hbc⟩

theorem lt_of_le_of_lt' {x y z : Binary64} (hxy : x.le y = true) (hyz : y.lt z = true) :
    x.lt z = true := by
  obtain ⟨a, b, ha, hb, hab⟩ := le_iff.1 hxy
  obtain ⟨b', c, hb', hc, hbc⟩ := lt_iff.1 hyz
  obtain rfl : b = b' := Option.some.inj (hb.symm.trans hb')
  exact lt_iff.2 ⟨a, c, ha, hc, lt_of_le_of_lt hab hbc⟩

theorem lt_of_lt_of_le' {x y z : Binary64} (hxy : x.lt y = true) (hyz : y.le z = true) :
    x.lt z = true := by
  obtain ⟨a, b, ha, hb, hab⟩ := lt_iff.1 hxy
  obtain ⟨b', c, hb', hc, hbc⟩ := le_iff.1 hyz
  obtain rfl : b = b' := Option.some.inj (hb.symm.trans hb')
  exact lt_iff.2 ⟨a, c, ha, hc, lt_of_lt_of_le hab hbc⟩

/-- Between numbers, one that is not less is at least as large. -/
theorem le_of_not_lt {x y : Binary64} (hx : x ≠ nan) (hy : y ≠ nan) (h : x.lt y = false) :
    y.le x = true := by
  obtain ⟨a, ha⟩ := Option.ne_none_iff_exists'.1 (mt key?_eq_none_iff.1 hx)
  obtain ⟨b, hb⟩ := Option.ne_none_iff_exists'.1 (mt key?_eq_none_iff.1 hy)
  refine le_iff.2 ⟨b, a, hb, ha, ?_⟩
  by_contra hlt
  rw [lt_iff.2 ⟨a, b, ha, hb, not_le.1 hlt⟩] at h
  exact absurd h (by decide)

theorem nan_lt (x : Binary64) : nan.lt x = false := rfl

theorem lt_nan (x : Binary64) : x.lt nan = false := by
  cases x <;> rfl

/-- Between numbers, one is at most another exactly if the other is not less. -/
theorem le_iff_not_lt {x y : Binary64} (hx : x ≠ nan) (hy : y ≠ nan) :
    x.le y = true ↔ ¬ y.lt x = true := by
  constructor
  · intro hle hlt
    have hself := lt_of_le_of_lt' hle hlt
    rw [lt_irrefl] at hself
    exact Bool.false_ne_true hself
  · intro hnot
    exact le_of_not_lt hy hx (Bool.eq_false_iff.2 hnot)

/-! ## Numbers that are not negative -/

theorem key?_ofRank (rank : Nat) :
    (ofRank false rank).key? = some ((min rank infinityRank : Nat) : Int) := rfl

theorem ofRank_le_ofRank {m n : Nat} (h : m ≤ n) : (ofRank false m).le (ofRank false n) = true := by
  refine le_iff.2 ⟨_, _, key?_ofRank m, key?_ofRank n, ?_⟩
  have hmin : min m infinityRank ≤ min n infinityRank := min_le_min_right infinityRank h
  exact_mod_cast hmin

/-! ## Fractions of a whole -/

/-- A fraction has no sign. -/
theorem exists_rank_fraction (part whole : Nat) :
    ∃ rank, fraction part whole = ofRank false rank := by
  unfold fraction
  split_ifs
  · exact ⟨0, rfl⟩
  · exact ⟨_, rfl⟩

theorem fraction_ne_nan (part whole : Nat) : fraction part whole ≠ nan := by
  obtain ⟨rank, hrank⟩ := exists_rank_fraction part whole
  rw [hrank]
  exact Binary64.noConfusion

theorem zero_le_fraction (part whole : Nat) : zero.le (fraction part whole) = true := by
  obtain ⟨rank, hrank⟩ := exists_rank_fraction part whole
  rw [hrank]
  exact ofRank_le_ofRank (Nat.zero_le rank)

/-- A part of a whole is at most one, also after rounding. -/
theorem fraction_le_one {part whole : Nat} (h : part ≤ whole) :
    (fraction part whole).le (ofInt 1) = true := by
  rw [ofInt, ofQuotient, Int.natAbs_one, show decide ((1 : Int) < 0) = false from rfl]
  unfold fraction
  split_ifs with hzero
  · exact ofRank_le_ofRank (Nat.zero_le _)
  · refine ofRank_le_ofRank (nearestRank_mono (Nat.pos_of_ne_zero hzero) Nat.one_pos ?_)
    calc part * unitsPerOne * 1 ≤ whole * unitsPerOne := by
          rw [Nat.mul_one]; exact Nat.mul_le_mul_right _ h
      _ = 1 * unitsPerOne * whole := by ring

/-- A number from zero to one. -/
def IsShare (x : Binary64) : Prop :=
  zero.le x = true ∧ x.le (ofInt 1) = true

theorem fraction_isShare {part whole : Nat} (h : part ≤ whole) : (fraction part whole).IsShare :=
  ⟨zero_le_fraction part whole, fraction_le_one h⟩

theorem one_isShare : (ofInt 1).IsShare := by
  unfold IsShare
  decide +kernel

theorem IsShare.isFinite {x : Binary64} (h : x.IsShare) : x.isFinite = true := by
  obtain ⟨one, hone, hlt⟩ : ∃ k : Int, (ofInt 1).key? = some k ∧ k < infinityRank :=
    ⟨4607182418800017408, by decide +kernel, by decide⟩
  obtain ⟨hlow, hhigh⟩ := h
  have hzero : zero.key? = some 0 := rfl
  cases x with
  | nan => exact nomatch hlow
  | signed negative rank =>
    have hrank : (signed negative rank).key? =
      some (if negative then -(rank.val : Int) else rank.val) := rfl
    rw [le, hzero, hrank] at hlow
    rw [le, hone, hrank] at hhigh
    simp only [decide_eq_true_eq] at hlow hhigh
    unfold Binary64.isFinite
    simp only [decide_eq_true_eq]
    split_ifs at hlow hhigh <;> omega

end Binary64

end BranchChoice
