import BranchChoice.Decimal.Reading
import BranchChoice.Proofs.NearestRank

/-!
# The shortest decimal reads back

Every finite number is the nearest one to its shortest decimal, so writing a number and reading it
again loses nothing.

* `toBinary64_eq`: a decimal is converted by rounding its exact value once.  The bounds on the first
  digit beyond which nothing is computed are safe ones.
* `onGrid?_isSome`: of the two neighbours of a value with seventeen digits at least one lies between
  the midpoints around it, because the midpoints are further apart than the neighbours
  (`two_mul_units_lt`).
* `toBinary64_shortest`: the shortest decimal is therefore found, and rounds to its rank.
-/

namespace BranchChoice

namespace Decimal

/-! ## Digits and powers of ten -/

theorem digitCount_le_iff {n k : Nat} (hk : 0 < k) : digitCount n ≤ k ↔ n < 10 ^ k :=
  Nat.length_toDigits_le_iff (by decide) hk

theorem digitCount_pos (n : Nat) : 0 < digitCount n :=
  Nat.length_toDigits_pos

theorem lt_pow_digitCount (n : Nat) : n < 10 ^ digitCount n :=
  (digitCount_le_iff (digitCount_pos n)).1 le_rfl

theorem pow_digitCount_le {n : Nat} (hn : 0 < n) : 10 ^ (digitCount n - 1) ≤ n := by
  by_contra hlt
  rcases Nat.eq_zero_or_pos (digitCount n - 1) with hzero | hpos
  · rw [hzero, Nat.pow_zero] at hlt
    omega
  · have hle := (digitCount_le_iff hpos).2 (Nat.lt_of_not_le hlt)
    omega

/-- A comparison of quotients with powers of ten depends on the difference of the exponents only. -/
theorem pow_mul_le_mul_pow {x y i j i' j' : Nat} (h : 10 ^ i * x ≤ y * 10 ^ j)
    (hshift : i' + j = i + j') : 10 ^ i' * x ≤ y * 10 ^ j' := by
  have hpos : 0 < 10 ^ j := Nat.pow_pos (by decide)
  refine Nat.le_of_mul_le_mul_right ?_ hpos
  calc 10 ^ i' * x * 10 ^ j = 10 ^ (i' + j) * x := by rw [Nat.pow_add]; ring
    _ = 10 ^ j' * (10 ^ i * x) := by rw [hshift, Nat.pow_add]; ring
    _ ≤ 10 ^ j' * (y * 10 ^ j) := Nat.mul_le_mul_left _ h
    _ = y * 10 ^ j' * 10 ^ j := by ring

/-! ## The value of a decimal -/

/-- The numerator of a decimal as a quotient of whole numbers. -/
def numerator (d : Decimal) : Nat :=
  d.coefficient * 10 ^ d.exponent.toNat

/-- The denominator of a decimal as a quotient of whole numbers. -/
def denominator (d : Decimal) : Nat :=
  10 ^ (-d.exponent).toNat

theorem denominator_pos (d : Decimal) : 0 < d.denominator :=
  Nat.pow_pos (by decide)

/-- A decimal whose first digit stands for `10 ^ 310` or more is beyond the largest number. -/
theorem infinityRank_le_nearestRank {d : Decimal} (hc : d.coefficient ≠ 0)
    (hlead : 310 < (digitCount d.coefficient : Int) + d.exponent) :
    Binary64.infinityRank ≤
      Binary64.nearestRank (d.numerator * Binary64.unitsPerOne) d.denominator := by
  have hdigits := pow_digitCount_le (Nat.pos_of_ne_zero hc)
  have hlarge : 10 ^ 310 * d.denominator ≤ d.numerator := by
    have hpow : 10 ^ 310 * 10 ^ (-d.exponent).toNat ≤
        10 ^ (digitCount d.coefficient - 1) * 10 ^ d.exponent.toNat := by
      rw [← Nat.pow_add, ← Nat.pow_add]
      exact Nat.pow_le_pow_right (by decide) (by omega)
    exact hpow.trans (Nat.mul_le_mul_right _ hdigits)
  have hinfinity : Binary64.units Binary64.infinityRank ≤ 10 ^ 310 * Binary64.unitsPerOne := by
    decide +kernel
  generalize 10 ^ 310 = bound at hlarge hinfinity
  calc Binary64.infinityRank
      = Binary64.nearestRank (Binary64.units Binary64.infinityRank) 1 :=
        (Binary64.nearestRank_units _).symm
    _ ≤ Binary64.nearestRank (d.numerator * Binary64.unitsPerOne) d.denominator := by
        refine Binary64.nearestRank_mono Nat.one_pos d.denominator_pos ?_
        rw [Nat.mul_one]
        calc Binary64.units Binary64.infinityRank * d.denominator
            ≤ bound * Binary64.unitsPerOne * d.denominator :=
              Nat.mul_le_mul_right _ hinfinity
          _ = bound * d.denominator * Binary64.unitsPerOne := by ring
          _ ≤ d.numerator * Binary64.unitsPerOne := Nat.mul_le_mul_right _ hlarge

/-- A decimal whose first digit stands for less than `10 ^ -330` is below half the least number. -/
theorem nearestRank_eq_zero {d : Decimal}
    (hlead : (digitCount d.coefficient : Int) + d.exponent < -330) :
    Binary64.nearestRank (d.numerator * Binary64.unitsPerOne) d.denominator = 0 := by
  have hsmall : d.numerator * 10 ^ 331 ≤ d.denominator := by
    calc d.numerator * 10 ^ 331
        ≤ 10 ^ digitCount d.coefficient * 10 ^ d.exponent.toNat * 10 ^ 331 :=
          Nat.mul_le_mul_right _ (Nat.mul_le_mul_right _ (lt_pow_digitCount _).le)
      _ = 10 ^ (digitCount d.coefficient + d.exponent.toNat + 331) := by
          rw [Nat.pow_add, Nat.pow_add]
      _ ≤ d.denominator := Nat.pow_le_pow_right (by decide) (by omega)
  have hunits : 2 * Binary64.unitsPerOne < 10 ^ 331 := by decide +kernel
  have hbelow : 2 * (d.numerator * Binary64.unitsPerOne) ≤ d.denominator := by
    calc 2 * (d.numerator * Binary64.unitsPerOne)
        = d.numerator * (2 * Binary64.unitsPerOne) := by ring
      _ ≤ d.numerator * 10 ^ 331 := Nat.mul_le_mul_left _ hunits.le
      _ ≤ d.denominator := hsmall
  have hmidpoint : Binary64.highMidpoint 0 = 1 := rfl
  rw [Binary64.nearestRank_eq_iff d.denominator_pos]
  refine ⟨by simp [Binary64.lowMidpoint], ?_, by simp⟩
  rw [hmidpoint, Nat.one_mul]
  exact hbelow

/-- **Conversion rounds the exact value once.** -/
theorem toBinary64_eq (negative : Bool) (d : Decimal) :
    d.toBinary64 negative = .ofQuotient negative d.numerator d.denominator := by
  unfold toBinary64
  dsimp only
  split_ifs with hc hlarge hsmall hwhole
  · have hzero : Binary64.nearestRank (0 * Binary64.unitsPerOne) d.denominator = 0 := by
      rw [Nat.zero_mul, Binary64.nearestRank_eq_iff d.denominator_pos]
      refine ⟨by simp [Binary64.lowMidpoint], by simp, by simp⟩
    have hnumerator : d.numerator = 0 := by rw [numerator, hc, Nat.zero_mul]
    rw [Binary64.ofQuotient, hnumerator, hzero]
  · have hrank := infinityRank_le_nearestRank hc hlarge
    rw [Binary64.ofQuotient, Binary64.infinity, Binary64.ofRank, Binary64.ofRank]
    congr 2
    omega
  · rw [Binary64.ofQuotient, nearestRank_eq_zero hsmall]
  · have hone : d.denominator = 1 := by
      rw [denominator, Int.toNat_of_nonpos (by omega), Nat.pow_zero]
    rw [hone, numerator, Nat.pow_eq]
  · have hnumerator : d.numerator = d.coefficient := by
      rw [numerator, Int.toNat_of_nonpos (by omega), Nat.pow_zero, Nat.mul_one]
    rw [hnumerator, denominator, Nat.pow_eq]

/-- Decimals of one value are converted to one number. -/
theorem toBinary64_congr (negative : Bool) {d d' : Decimal}
    (h : d.numerator * d'.denominator = d'.numerator * d.denominator) :
    d.toBinary64 negative = d'.toBinary64 negative := by
  have hrank : Binary64.nearestRank (d.numerator * Binary64.unitsPerOne) d.denominator =
      Binary64.nearestRank (d'.numerator * Binary64.unitsPerOne) d'.denominator := by
    apply Binary64.nearestRank_congr d.denominator_pos d'.denominator_pos
    calc d.numerator * Binary64.unitsPerOne * d'.denominator
        = d.numerator * d'.denominator * Binary64.unitsPerOne := by ring
      _ = d'.numerator * Binary64.unitsPerOne * d.denominator := by rw [h]; ring
  rw [toBinary64_eq, toBinary64_eq, Binary64.ofQuotient, Binary64.ofQuotient, hrank]

/-- Zeros at the end of the coefficient may be moved to the exponent. -/
theorem toBinary64_shift (negative : Bool) (c j : Nat) (k : Int) :
    (Decimal.mk (c * 10 ^ j) k).toBinary64 negative =
      (Decimal.mk c (k + j)).toBinary64 negative := by
  apply toBinary64_congr
  have hexponent : j + k.toNat + (-(k + j)).toNat = (k + j).toNat + (-k).toNat := by omega
  calc c * 10 ^ j * 10 ^ k.toNat * 10 ^ (-(k + j)).toNat
      = c * 10 ^ (j + k.toNat + (-(k + j)).toNat) := by rw [Nat.pow_add, Nat.pow_add]; ring
    _ = c * 10 ^ (k + j).toNat * 10 ^ (-k).toNat := by rw [hexponent, Nat.pow_add]; ring

/-! ## Steps of a power of ten -/

theorem inSteps_eq (num den : Nat) (k : Int) :
    inSteps num den k = (num * 10 ^ (-k).toNat, den * 10 ^ k.toNat) := by
  unfold inSteps
  split_ifs with hk
  · rw [Nat.pow_eq, Int.toNat_of_nonpos (by omega : -k ≤ 0), Nat.pow_zero, Nat.mul_one]
  · rw [Nat.pow_eq, Int.toNat_of_nonpos (by omega : k ≤ 0), Nat.pow_zero, Nat.mul_one]

/-- A decimal rounds to a rank if its value in units is nearest to it. -/
theorem roundsTo_iff {rank : Nat} {d : Decimal} :
    roundsTo rank d.coefficient d.exponent = true ↔
      Binary64.IsNearest (d.numerator * Binary64.unitsPerOne) d.denominator rank := by
  have htwice : (if 0 ≤ d.exponent then
      (2 * d.coefficient * Nat.pow 10 d.exponent.toNat * Binary64.unitsPerOne, 1)
    else (2 * d.coefficient * Binary64.unitsPerOne, Nat.pow 10 (-d.exponent).toNat)) =
      (2 * (d.numerator * Binary64.unitsPerOne), d.denominator) := by
    rw [numerator, denominator]
    generalize Binary64.unitsPerOne = one
    split_ifs with hk
    · rw [Nat.pow_eq, Int.toNat_of_nonpos (by omega : -d.exponent ≤ 0), Nat.pow_zero,
        Nat.mul_assoc 2, Nat.mul_assoc 2]
    · rw [Nat.pow_eq, Int.toNat_of_nonpos (by omega : d.exponent ≤ 0), Nat.pow_zero, Nat.mul_one,
        Nat.mul_assoc 2]
  unfold roundsTo
  rw [htwice]
  dsimp only
  have hlow : (if rank = 0 then 0 else Binary64.units (rank - 1) + Binary64.units rank) =
      Binary64.lowMidpoint rank := rfl
  have hhigh : Binary64.units rank + Binary64.units (rank + 1) = Binary64.highMidpoint rank := rfl
  rw [hlow, hhigh]
  split_ifs with hparity
  · simp only [Bool.and_eq_true, decide_eq_true_eq]
    constructor
    · rintro ⟨h, h'⟩
      exact ⟨h, h', fun hodd => by omega⟩
    · rintro ⟨h, h', -⟩
      exact ⟨h, h'⟩
  · simp only [Bool.and_eq_true, decide_eq_true_eq]
    constructor
    · rintro ⟨h, h'⟩
      exact ⟨h.le, h'.le, fun _ => ⟨h.ne, h'.ne⟩⟩
    · rintro ⟨h, h', hodd⟩
      obtain ⟨hne, hne'⟩ := hodd (by omega)
      exact ⟨lt_of_le_of_ne h hne, lt_of_le_of_ne h' hne'⟩

/-- In steps of the power of ten `n` places below its first digit, a quotient counts at least
`10 ^ n`. -/
theorem pow_mul_le_inSteps {num den n : Nat} {k : Int}
    (hquotient : 0 < num * Nat.pow 10 400 / den) (hk : k + n = leadingExponent num den) :
    10 ^ n * (inSteps num den k).2 ≤ (inSteps num den k).1 := by
  rw [inSteps_eq]
  unfold leadingExponent at hk
  -- the power itself is never computed
  generalize hp : 400 = p at hk hquotient
  rw [Nat.pow_eq] at hk hquotient
  have hdigits := pow_digitCount_le hquotient
  have hpos := digitCount_pos (num * 10 ^ p / den)
  generalize digitCount (num * 10 ^ p / den) = count at hk hdigits hpos
  have hscaled : 10 ^ (count - 1) * den ≤ num * 10 ^ p := Nat.mul_le_of_le_div _ _ _ hdigits
  calc 10 ^ n * (den * 10 ^ k.toNat) = 10 ^ (n + k.toNat) * den := by rw [Nat.pow_add]; ring
    _ ≤ num * 10 ^ (-k).toNat := pow_mul_le_mul_pow hscaled (by omega)

/-! ## Seventeen digits -/

/-- The neighbours of a rank are more than `2 / 10 ^ 16` of its value apart: in steps of the rank
below, its value is at most `2 ^ 53` and the neighbours are two steps apart. -/
theorem two_mul_units_lt {rank : Nat} (h : 0 < rank) :
    2 * Binary64.units rank + 10 ^ 16 * Binary64.units (rank - 1) <
      10 ^ 16 * Binary64.units (rank + 1) := by
  obtain ⟨below, rfl⟩ : ∃ below, rank = below + 1 := ⟨rank - 1, by omega⟩
  obtain ⟨m, e, rfl, hm, he⟩ := Binary64.exists_significand below
  have hpow : 0 < 2 ^ e := Nat.two_pow_pos e
  rw [Nat.add_sub_cancel, Binary64.units_eq hm.le he]
  have hnext : m + e * Binary64.binadeSize + 1 = m + 1 + e * Binary64.binadeSize := by omega
  rw [hnext, Binary64.units_eq (by omega) (by omega)]
  have habove : (m + 2) * 2 ^ e ≤ Binary64.units (m + 1 + e * Binary64.binadeSize + 1) :=
    Binary64.le_units_succ (by omega) (by omega)
  calc 2 * ((m + 1) * 2 ^ e) + 10 ^ 16 * (m * 2 ^ e)
      = (2 * (m + 1) + 10 ^ 16 * m) * 2 ^ e := by ring
    _ < 10 ^ 16 * (m + 2) * 2 ^ e := Nat.mul_lt_mul_of_pos_right (by omega) hpow
    _ ≤ 10 ^ 16 * Binary64.units (m + 1 + e * Binary64.binadeSize + 1) := by
      rw [Nat.mul_assoc]
      exact Nat.mul_le_mul_left _ habove

theorem onGrid?_isSome_iff {rank : Nat} {k : Int} :
    (onGrid? rank k).isSome = true ↔
      let steps := inSteps (Binary64.units rank) Binary64.unitsPerOne k
      roundsTo rank (steps.1 / steps.2) k = true ∨
        roundsTo rank (steps.1 / steps.2 + 1) k = true := by
  unfold onGrid?
  generalize inSteps (Binary64.units rank) Binary64.unitsPerOne k = steps
  dsimp only
  cases roundsTo rank (steps.1 / steps.2) k <;>
    cases roundsTo rank (steps.1 / steps.2 + 1) k <;> simp

/-- Between the midpoints around a value there is a multiple of any step that the value counts at
least `10 ^ 16` times, if the neighbours are more than `2 / 10 ^ 16` of the value apart: otherwise
the step would be at least as large as the gap between the midpoints. -/
theorem multiple_between {below value above step : Nat} (hbelow : below < value)
    (habove : value < above) (hgap : 2 * value + 10 ^ 16 * below < 10 ^ 16 * above)
    (hpos : 0 < step) (hsteps : 10 ^ 16 * step ≤ value) :
    (below + value < 2 * (value / step * step) ∧ 2 * (value / step * step) < value + above) ∨
      below + value < 2 * ((value / step + 1) * step) ∧
        2 * ((value / step + 1) * step) < value + above := by
  have hdivision : value / step * step + value % step = value := by
    rw [Nat.mul_comm (value / step)]
    exact Nat.div_add_mod value step
  have hrest : value % step < step := Nat.mod_lt _ hpos
  rw [Nat.succ_mul (value / step)]
  by_cases hfirst : below + value < 2 * (value / step * step)
  · left
    exact ⟨hfirst, by omega⟩
  · right
    constructor <;> omega

/-- What lies strictly between the midpoints of a rank rounds to it. -/
theorem roundsTo_of_between {rank c : Nat} {k : Int}
    (hbelow : Binary64.lowMidpoint rank * 10 ^ (-k).toNat <
      2 * (c * (Binary64.unitsPerOne * 10 ^ k.toNat)))
    (habove : 2 * (c * (Binary64.unitsPerOne * 10 ^ k.toNat)) <
      Binary64.highMidpoint rank * 10 ^ (-k).toNat) : roundsTo rank c k = true := by
  have hvalue : c * (Binary64.unitsPerOne * 10 ^ k.toNat) =
      c * 10 ^ k.toNat * Binary64.unitsPerOne := by
    rw [Nat.mul_comm Binary64.unitsPerOne, Nat.mul_assoc]
  rw [hvalue] at hbelow habove
  exact (@roundsTo_iff rank ⟨c, k⟩).2 ⟨hbelow.le, habove.le, fun _ => ⟨hbelow.ne, habove.ne⟩⟩

/-- Where a value counts at least `10 ^ 16` steps, one of its two neighbours on the grid rounds to
it. -/
theorem onGrid?_isSome {rank : Nat} {k : Int} (hrank : 0 < rank)
    (hsteps : 10 ^ 16 * (inSteps (Binary64.units rank) Binary64.unitsPerOne k).2 ≤
      (inSteps (Binary64.units rank) Binary64.unitsPerOne k).1) :
    (onGrid? rank k).isSome = true := by
  rw [onGrid?_isSome_iff]
  dsimp only
  rw [inSteps_eq] at hsteps ⊢
  dsimp only at hsteps ⊢
  have hscale : 0 < 10 ^ (-k).toNat := Nat.pow_pos (by decide)
  have hstep : 0 < Binary64.unitsPerOne * 10 ^ k.toNat :=
    Nat.mul_pos (by decide +kernel) (Nat.pow_pos (by decide))
  have hbelow := Nat.mul_lt_mul_of_pos_right
    (Binary64.units_strictMono (Nat.sub_lt hrank Nat.one_pos)) hscale
  have habove := Nat.mul_lt_mul_of_pos_right (Binary64.units_lt_succ rank) hscale
  have hgap : 2 * (Binary64.units rank * 10 ^ (-k).toNat) +
      10 ^ 16 * (Binary64.units (rank - 1) * 10 ^ (-k).toNat) <
        10 ^ 16 * (Binary64.units (rank + 1) * 10 ^ (-k).toNat) := by
    calc 2 * (Binary64.units rank * 10 ^ (-k).toNat) +
          10 ^ 16 * (Binary64.units (rank - 1) * 10 ^ (-k).toNat)
        = (2 * Binary64.units rank + 10 ^ 16 * Binary64.units (rank - 1)) * 10 ^ (-k).toNat := by
          ring
      _ < 10 ^ 16 * Binary64.units (rank + 1) * 10 ^ (-k).toNat :=
        Nat.mul_lt_mul_of_pos_right (two_mul_units_lt hrank) hscale
      _ = _ := Nat.mul_assoc _ _ _
  have hlow : Binary64.lowMidpoint rank = Binary64.units (rank - 1) + Binary64.units rank :=
    if_neg (by omega)
  have hhigh : Binary64.highMidpoint rank = Binary64.units rank + Binary64.units (rank + 1) := rfl
  rcases multiple_between hbelow habove hgap hstep hsteps with ⟨h, h'⟩ | ⟨h, h'⟩
  · refine .inl (roundsTo_of_between ?_ ?_)
    · rw [hlow, Nat.add_mul (Binary64.units (rank - 1))]
      exact h
    · rw [hhigh, Nat.add_mul (Binary64.units rank)]
      exact h'
  · refine .inr (roundsTo_of_between ?_ ?_)
    · rw [hlow, Nat.add_mul (Binary64.units (rank - 1))]
      exact h
    · rw [hhigh, Nat.add_mul (Binary64.units rank)]
      exact h'

/-- What is found on a grid rounds to the rank, and is not below the value's lower neighbour. -/
theorem onGrid?_eq_some {rank : Nat} {k : Int} {d : Decimal} (h : onGrid? rank k = some d) :
    roundsTo rank d.coefficient d.exponent = true ∧
      (inSteps (Binary64.units rank) Binary64.unitsPerOne k).1 /
        (inSteps (Binary64.units rank) Binary64.unitsPerOne k).2 ≤ d.coefficient := by
  unfold onGrid? at h
  generalize inSteps (Binary64.units rank) Binary64.unitsPerOne k = steps at h ⊢
  dsimp only at h
  generalize steps.1 / steps.2 = below at h ⊢
  split at h
  · next hbelow habove =>
    obtain rfl := Option.some.inj h
    have heven : below + below % 2 = below ∨ below + below % 2 = below + 1 := by omega
    dsimp only
    split_ifs
    · exact ⟨hbelow, le_rfl⟩
    · exact ⟨habove, by omega⟩
    · rcases heven with heq | heq
      · rw [heq]
        exact ⟨hbelow, le_rfl⟩
      · rw [heq]
        exact ⟨habove, by omega⟩
  · next hbelow habove =>
    obtain rfl := Option.some.inj h
    exact ⟨hbelow, le_rfl⟩
  · next hbelow habove =>
    obtain rfl := Option.some.inj h
    exact ⟨habove, Nat.le_succ below⟩
  · simp at h

theorem scaledUnits_pos {rank : Nat} (h : 0 < rank) :
    0 < Binary64.units rank * Nat.pow 10 400 / Binary64.unitsPerOne := by
  have hone : Binary64.unitsPerOne ≤ Nat.pow 10 400 := by decide +kernel
  have hpos : 0 < Binary64.unitsPerOne := by decide +kernel
  generalize Nat.pow 10 400 = bound at hone ⊢
  exact Nat.div_pos (hone.trans (Nat.le_mul_of_pos_left _ (Binary64.units_pos h))) hpos

theorem shortest_eq (rank : Nat) :
    shortest rank = ((List.range 17).findSome? fun n : Nat => onGrid? rank
      (leadingExponent (Binary64.units rank) Binary64.unitsPerOne - n)).getD ⟨0, 0⟩ := rfl

/-- The shortest decimal is found with at most seventeen digits, rounds to the rank, and is not
zero. -/
theorem shortest_spec {rank : Nat} (h : 0 < rank) :
    roundsTo rank (shortest rank).coefficient (shortest rank).exponent = true ∧
      0 < (shortest rank).coefficient := by
  have hquotient := scaledUnits_pos h
  rw [shortest_eq]
  have hsteps (n : Nat) := pow_mul_le_inSteps (n := n) hquotient (sub_add_cancel
    (leadingExponent (Binary64.units rank) Binary64.unitsPerOne) (n : Int))
  clear hquotient
  generalize leadingExponent (Binary64.units rank) Binary64.unitsPerOne = lead at hsteps ⊢
  cases hfound : (List.range 17).findSome? fun n : Nat => onGrid? rank (lead - n) with
  | none =>
    rw [List.findSome?_eq_none_iff] at hfound
    have hnone := hfound 16 (by decide)
    have hsome := onGrid?_isSome h (hsteps 16)
    rw [hnone] at hsome
    simp at hsome
  | some d =>
    obtain ⟨n, -, hgrid⟩ := List.exists_of_findSome?_eq_some hfound
    obtain ⟨hrounds, hbelow⟩ := onGrid?_eq_some hgrid
    refine ⟨hrounds, lt_of_lt_of_le ?_ hbelow⟩
    have hmany := hsteps n
    rw [inSteps_eq] at hmany ⊢
    dsimp only at hmany ⊢
    have hden : 0 < Binary64.unitsPerOne * 10 ^ (lead - n).toNat :=
      Nat.mul_pos (by decide +kernel) (Nat.pow_pos (by decide))
    apply Nat.div_pos _ hden
    exact (Nat.le_mul_of_pos_left _ (Nat.pow_pos (by decide))).trans hmany

/-- **The shortest decimal reads back.** -/
theorem toBinary64_shortest (negative : Bool) {rank : Nat} (h : 0 < rank) :
    (shortest rank).toBinary64 negative = .ofRank negative rank := by
  have hnearest := roundsTo_iff.1 (shortest_spec h).1
  rw [toBinary64_eq, Binary64.ofQuotient,
    (Binary64.nearestRank_isNearest _ (denominator_pos _)).unique (denominator_pos _) hnearest]

end Decimal

end BranchChoice
