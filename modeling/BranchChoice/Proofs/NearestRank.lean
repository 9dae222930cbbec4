import BranchChoice.Proofs.Rounding

/-!
# The nearest rank

What `nearestRank` computes binade by binade, said without binades: a quotient is rounded to the
rank between whose midpoints it lies, and a midpoint itself to the even one of the two ranks beside
it (`IsNearest`).

* `units_eq` gives the value of a rank by a significand and an exponent, and `units_lt_succ` says
  that values grow with the rank.
* `nearestRank_isNearest` and `IsNearest.unique`: the nearest rank is the one and only such rank.
* `nearestRank_units`: what is the value of a rank is rounded to this rank, so a whole number that
  equals a binary64 number is converted to it (`key?_ofInt`).
-/

namespace BranchChoice

/-! ## Rounded quotients and halves -/

/-- A rounded quotient differs from the quotient by no more than one half, and by one half only if
it is even. -/
theorem roundQuotient_near (num : Nat) {den : Nat} (hden : 0 < den) :
    let n := roundQuotient num den
    2 * (n * den) ≤ 2 * num + den ∧ 2 * num ≤ 2 * (n * den) + den ∧
      (n % 2 = 1 → 2 * (n * den) ≠ 2 * num + den ∧ 2 * num ≠ 2 * (n * den) + den) := by
  intro n
  have hdiv : num / den * den + num % den = num := by
    rw [Nat.mul_comm]
    exact Nat.div_add_mod num den
  have hmod : num % den < den := Nat.mod_lt num hden
  have hsucc : (num / den + 1) * den = num / den * den + den := Nat.succ_mul (num / den) den
  have hn : n = roundQuotient num den := rfl
  unfold roundQuotient at hn
  dsimp only at hn
  split_ifs at hn with hless hmore
  · rw [hn]
    omega
  · rw [hn, hsucc]
    omega
  · rcases Nat.mod_two_eq_zero_or_one (num / den) with hparity | hparity
    · rw [hn, hparity, Nat.add_zero]
      omega
    · rw [hn, hparity, hsucc]
      omega

namespace Binary64

/-! ## Values of ranks -/

/-- The value of a rank that is given by a significand and an exponent. -/
theorem units_eq {m e : Nat} (hm : m ≤ 2 ^ 53) (he : 2 ^ 52 ≤ m ∨ e = 0) :
    units (m + e * binadeSize) = m * 2 ^ e := by
  rw [units, binadeSize_eq]
  rcases Nat.lt_or_ge m (2 ^ 52) with hlow | hhigh
  · have hzero : e = 0 := by omega
    rw [hzero, Nat.zero_mul, Nat.add_zero, if_pos hlow, Nat.pow_zero, Nat.mul_one]
  · rw [if_neg (by omega)]
    rcases Nat.lt_or_eq_of_le hm with hlt | heq
    · have hdiv : (m + e * 2 ^ 52) / 2 ^ 52 = e + 1 := by omega
      have hmod : (m + e * 2 ^ 52) % 2 ^ 52 = m - 2 ^ 52 := by omega
      have hsum : 2 ^ 52 + (m - 2 ^ 52) = m := by omega
      rw [hdiv, hmod, hsum]
      rfl
    · have hdiv : (m + e * 2 ^ 52) / 2 ^ 52 = e + 2 := by omega
      have hmod : (m + e * 2 ^ 52) % 2 ^ 52 = 0 := by omega
      have hpow : Nat.pow 2 (e + 2 - 1) = 2 ^ e * 2 := rfl
      rw [hdiv, hmod, hpow, heq]
      ring

/-- Every rank is given by a significand and an exponent. -/
theorem exists_significand (rank : Nat) :
    ∃ m e, rank = m + e * binadeSize ∧ m < 2 ^ 53 ∧ (2 ^ 52 ≤ m ∨ e = 0) := by
  refine ⟨rank - (rank / 2 ^ 52 - 1) * 2 ^ 52, rank / 2 ^ 52 - 1, ?_, ?_, ?_⟩
  · rw [binadeSize_eq]
    omega
  · omega
  · omega

/-- The value after that of a significand and an exponent is at least a step above it. -/
theorem le_units_succ {m e : Nat} (hm : m ≤ 2 ^ 53) (he : 2 ^ 52 ≤ m ∨ e = 0) :
    (m + 1) * 2 ^ e ≤ units (m + e * binadeSize + 1) := by
  rcases Nat.lt_or_eq_of_le hm with hlt | rfl
  · have hsucc : m + e * binadeSize + 1 = m + 1 + e * binadeSize := by omega
    rw [hsucc, units_eq (by omega) (by omega)]
  · have hsucc : 2 ^ 53 + e * binadeSize + 1 = 2 ^ 52 + 1 + (e + 1) * binadeSize := by
      rw [binadeSize_eq]
      omega
    calc (2 ^ 53 + 1) * 2 ^ e ≤ (2 ^ 53 + 2) * 2 ^ e := Nat.mul_le_mul_right _ (by omega)
      _ = (2 ^ 52 + 1) * 2 ^ (e + 1) := by rw [Nat.pow_succ]; ring
      _ = units (2 ^ 53 + e * binadeSize + 1) := by
        rw [hsucc, units_eq (by norm_num) (by norm_num)]

/-- Values grow with the rank. -/
theorem units_lt_succ (rank : Nat) : units rank < units (rank + 1) := by
  obtain ⟨m, e, rfl, hm, he⟩ := exists_significand rank
  have hstep := le_units_succ hm.le he
  rw [units_eq hm.le he]
  have hpow := Nat.two_pow_pos e
  nlinarith

theorem units_strictMono : StrictMono units :=
  strictMono_nat_of_lt_succ units_lt_succ

/-! ## Between midpoints -/

/-- Twice the midpoint between a rank and the one below it; nothing lies below zero. -/
def lowMidpoint (rank : Nat) : Nat :=
  if rank = 0 then 0 else units (rank - 1) + units rank

/-- Twice the midpoint between a rank and the one above it. -/
def highMidpoint (rank : Nat) : Nat :=
  units rank + units (rank + 1)

/-- The quotient `num / den` lies between the midpoints around a rank, or on one of them if the rank
is even. -/
structure IsNearest (num den rank : Nat) : Prop where
  low : lowMidpoint rank * den ≤ 2 * num
  high : 2 * num ≤ highMidpoint rank * den
  odd : rank % 2 = 1 → lowMidpoint rank * den ≠ 2 * num ∧ 2 * num ≠ highMidpoint rank * den

theorem lowMidpoint_succ (rank : Nat) : lowMidpoint (rank + 1) = highMidpoint rank := by
  simp [lowMidpoint, highMidpoint]

theorem highMidpoint_strictMono : StrictMono highMidpoint := by
  refine strictMono_nat_of_lt_succ fun rank => ?_
  have hfirst := units_lt_succ rank
  have hsecond := units_lt_succ (rank + 1)
  simp only [highMidpoint]
  omega

/-- A quotient is nearest to one rank only: between two there is a midpoint, and of two neighbours
only one is even. -/
theorem IsNearest.le {num den a b : Nat} (hden : 0 < den) (ha : IsNearest num den a)
    (hb : IsNearest num den b) : a ≤ b := by
  by_contra hlt
  obtain ⟨c, rfl⟩ : ∃ c, a = c + 1 := ⟨a - 1, by omega⟩
  have hlow : highMidpoint c * den ≤ 2 * num := lowMidpoint_succ c ▸ ha.low
  have hmid : highMidpoint b ≤ highMidpoint c := highMidpoint_strictMono.monotone (by omega)
  have hle : highMidpoint b * den ≤ highMidpoint c * den := Nat.mul_le_mul_right den hmid
  have hhigh := hb.high
  have hsame : highMidpoint b = highMidpoint c :=
    Nat.eq_of_mul_eq_mul_right hden (by omega)
  obtain rfl : b = c := highMidpoint_strictMono.injective hsame
  rcases Nat.mod_two_eq_zero_or_one b with hparity | hparity
  · have hodd := (ha.odd (by omega)).1
    rw [lowMidpoint_succ] at hodd
    omega
  · have hodd := (hb.odd hparity).2
    omega

theorem IsNearest.unique {num den a b : Nat} (hden : 0 < den) (ha : IsNearest num den a)
    (hb : IsNearest num den b) : a = b :=
  Nat.le_antisymm (ha.le hden hb) (hb.le hden ha)

theorem lowMidpoint_le (rank : Nat) : lowMidpoint rank ≤ 2 * units rank := by
  have hbelow : units (rank - 1) ≤ units rank := units_strictMono.monotone (Nat.sub_le rank 1)
  unfold lowMidpoint
  split_ifs <;> omega

/-- The midpoint above a significand and an exponent is at least half a step above the value. -/
theorem le_highMidpoint {q e : Nat} (hq : q ≤ 2 ^ 53) (he : 2 ^ 52 ≤ q ∨ e = 0) :
    2 * (q * 2 ^ e) + 2 ^ e ≤ highMidpoint (q + e * binadeSize) := by
  have hnext := le_units_succ hq he
  rw [highMidpoint, units_eq hq he]
  rw [Nat.succ_mul] at hnext
  omega

/-- The midpoint below a significand and an exponent is half a step below the value, but for zero
and at the foot of a binade. -/
theorem lowMidpoint_eq {q e : Nat} (hq : q ≤ 2 ^ 53) (he : 2 ^ 52 ≤ q ∨ e = 0) (hpos : 0 < q)
    (hfoot : ¬ (q = 2 ^ 52 ∧ 0 < e)) :
    lowMidpoint (q + e * binadeSize) + 2 ^ e = 2 * (q * 2 ^ e) := by
  obtain ⟨p, rfl⟩ : ∃ p, q = p + 1 := ⟨q - 1, by omega⟩
  have hpred : p + 1 + e * binadeSize = p + e * binadeSize + 1 := by omega
  rw [hpred, lowMidpoint_succ, highMidpoint, ← hpred, units_eq hq he,
    units_eq (by omega) (by omega)]
  ring

/-- **The nearest rank is nearest.**  In the binade that it works in, the rank is a significand
above the binade's exponent, and the significand is a rounded quotient. -/
theorem nearestRank_isNearest (num : Nat) {den : Nat} (hden : 0 < den) :
    IsNearest num den (nearestRank num den) := by
  rw [nearestRank_eq]
  have hlow := fun h => le_roundQuotient_of_le (by positivity)
    (@mul_le_of_exponentOf num den h)
  have hhigh := roundQuotient_le_of_le (by positivity)
    (@lt_mul_of_exponentOf num den hden).le
  have hbase := fun h => @mul_le_of_exponentOf num den h
  obtain ⟨hbelow, habove, hodd⟩ :=
    roundQuotient_near num (show 0 < den * 2 ^ exponentOf num den by positivity)
  revert hlow hhigh hbase hbelow habove hodd
  generalize exponentOf num den = e
  generalize roundQuotient num (den * 2 ^ e) = q
  intro hlow hhigh hbase hbelow habove hodd
  have he : 2 ^ 52 ≤ q ∨ e = 0 := by omega
  have hparity : (q + e * binadeSize) % 2 = q % 2 := by
    rw [binadeSize_eq]
    omega
  have hupper :
      2 * (q * (den * 2 ^ e)) + den * 2 ^ e ≤ highMidpoint (q + e * binadeSize) * den := by
    calc 2 * (q * (den * 2 ^ e)) + den * 2 ^ e = (2 * (q * 2 ^ e) + 2 ^ e) * den := by ring
      _ ≤ _ := Nat.mul_le_mul_right den (le_highMidpoint hhigh he)
  -- at zero and at the foot of a binade, nothing below the value is rounded up to it
  have hlower : lowMidpoint (q + e * binadeSize) * den + den * 2 ^ e = 2 * (q * (den * 2 ^ e)) ∨
      lowMidpoint (q + e * binadeSize) * den ≤ 2 * num ∧ q % 2 = 0 := by
    by_cases hedge : q = 0 ∨ q = 2 ^ 52 ∧ 0 < e
    · right
      have hvalue : q * (den * 2 ^ e) ≤ num := by
        rcases hedge with rfl | ⟨rfl, hpos⟩
        · omega
        · exact hbase hpos
      refine ⟨?_, by omega⟩
      calc lowMidpoint (q + e * binadeSize) * den ≤ 2 * (q * 2 ^ e) * den :=
            Nat.mul_le_mul_right den (units_eq hhigh he ▸ lowMidpoint_le _)
        _ = 2 * (q * (den * 2 ^ e)) := by ring
        _ ≤ 2 * num := Nat.mul_le_mul_left 2 hvalue
    · left
      calc lowMidpoint (q + e * binadeSize) * den + den * 2 ^ e =
            (lowMidpoint (q + e * binadeSize) + 2 ^ e) * den := by ring
        _ = 2 * (q * (den * 2 ^ e)) := by
          rw [lowMidpoint_eq hhigh he (by omega) (by omega)]
          ring
  clear hlow hhigh hbase he
  generalize q * (den * 2 ^ e) = x at *
  refine ⟨?_, ?_, ?_⟩
  · rcases hlower with hlower | ⟨hlower, -⟩ <;> omega
  · omega
  · intro hone
    obtain ⟨hbelow', habove'⟩ := hodd (by omega)
    rcases hlower with hlower | ⟨-, heven⟩
    · constructor <;> omega
    · omega

/-- A rank is the nearest one exactly if the quotient lies between its midpoints. -/
theorem nearestRank_eq_iff {num den rank : Nat} (hden : 0 < den) :
    nearestRank num den = rank ↔ IsNearest num den rank := by
  constructor
  · rintro rfl
    exact nearestRank_isNearest num hden
  · exact (nearestRank_isNearest num hden).unique hden

/-- The nearest rank is a matter of the quotient alone. -/
theorem nearestRank_congr {a b c d : Nat} (hb : 0 < b) (hd : 0 < d) (h : a * d = c * b) :
    nearestRank a b = nearestRank c d :=
  Nat.le_antisymm (nearestRank_mono hb hd h.le) (nearestRank_mono hd hb h.ge)

/-- The value of a rank is rounded to this rank. -/
theorem nearestRank_units (rank : Nat) : nearestRank (units rank) 1 = rank := by
  have hup := units_lt_succ rank
  rw [nearestRank_eq_iff Nat.one_pos]
  rcases rank with _ | rank
  · have hzero : units 0 = 0 := rfl
    refine ⟨?_, ?_, ?_⟩ <;> simp [lowMidpoint, hzero]
  · have hdown := units_lt_succ rank
    refine ⟨?_, ?_, fun _ => ⟨?_, ?_⟩⟩ <;> rw [Nat.mul_one]
    all_goals simp only [lowMidpoint_succ, highMidpoint]; omega

/-! ## Numbers of one value -/

/-- A magnitude with a sign, as a whole number. -/
def withSign (negative : Bool) (n : Nat) : Int :=
  if negative then -(n : Int) else n

theorem natAbs_withSign (negative : Bool) (n : Nat) : (withSign negative n).natAbs = n := by
  cases negative <;> simp [withSign]

theorem withSign_natAbs (n : Int) : withSign (n < 0) n.natAbs = n := by
  unfold withSign
  split_ifs with h
  · have hneg : n < 0 := by simpa using h
    omega
  · have hpos : ¬ n < 0 := by simpa using h
    omega

theorem withSign_mul (negative : Bool) (m n : Nat) :
    withSign negative (m * n) = withSign negative m * n := by
  cases negative <;> simp [withSign]

theorem units_pos {rank : Nat} (h : 0 < rank) : 0 < units rank :=
  lt_of_lt_of_le h (units_strictMono.le_apply)

/-- Signed values are equal only for equal signed ranks, as both zeros have rank zero. -/
theorem withSign_units_inj {s t : Bool} {a b : Nat}
    (h : withSign s (units a) = withSign t (units b)) : withSign s a = withSign t b := by
  have habs : units a = units b := by
    rw [← natAbs_withSign s (units a), h, natAbs_withSign]
  obtain rfl := units_strictMono.injective habs
  rcases Nat.eq_zero_or_pos a with rfl | ha
  · cases s <;> cases t <;> simp [withSign]
  · have hpos := units_pos ha
    cases s <;> cases t <;> simp [withSign] at h ⊢ <;> omega

theorem key?_signed (negative : Bool) (rank : Fin (infinityRank + 1)) :
    (signed negative rank).key? = some (withSign negative rank.val) := by
  cases negative <;> rfl

theorem extent?_signed (negative : Bool) (rank : Fin (infinityRank + 1)) :
    (signed negative rank).extent? =
      some (if rank.val = infinityRank then .infinite negative
        else .finite (withSign negative (units rank.val))) := by
  rw [extent?]
  split_ifs <;> simp_all [withSign]

/-- Numbers of one value stand at one place in the order. -/
theorem key?_eq_of_extent {x y : Binary64} {e : Extent} (hx : x.extent? = some e)
    (hy : y.extent? = some e) : x.key? = y.key? := by
  cases x with
  | nan => exact nomatch hx
  | signed s a =>
    cases y with
    | nan => exact nomatch hy
    | signed t b =>
      rw [extent?_signed] at hx hy
      rw [key?_signed, key?_signed]
      have h := hx.trans hy.symm
      split_ifs at h with ha hb hb
      · simp only [Option.some.injEq, Extent.infinite.injEq] at h
        rw [h, ha, hb]
      · simp at h
      · simp at h
      · simp only [Option.some.injEq, Extent.finite.injEq] at h
        rw [withSign_units_inj h]

/-- A whole number that is the value of a binary64 number is converted to this number, up to the
sign of zero. -/
theorem key?_ofInt {n : Int} {x : Binary64}
    (h : x.extent? = some (.finite (n * unitsPerOne))) : (ofInt n).key? = x.key? := by
  cases x with
  | nan => exact nomatch h
  | signed s rank =>
    rw [extent?_signed] at h
    split_ifs at h with hrank
    · exact nomatch h
    · simp only [Option.some.injEq, Extent.finite.injEq] at h
      have habs : n.natAbs * unitsPerOne = units rank.val := by
        have habs := congrArg Int.natAbs h
        rw [natAbs_withSign, Int.natAbs_mul, Int.natAbs_natCast] at habs
        exact habs.symm
      have hle : min rank.val infinityRank = rank.val := by
        have hlt := rank.isLt
        omega
      have hof : ofInt n = signed (n < 0) rank := by
        rw [ofInt, ofQuotient, habs, nearestRank_units, ofRank]
        simp only [hle]
      have hsigned : withSign (n < 0) (units rank.val) = n * unitsPerOne := by
        rw [← habs, withSign_mul, withSign_natAbs]
      rw [hof, key?_signed, key?_signed]
      exact congrArg some (withSign_units_inj (hsigned.trans h.symm))

end Binary64

end BranchChoice
