import BranchChoice.Comparison
import BranchChoice.Proofs.NearestRank
import Mathlib.Algebra.Order.Field.Rat
import Mathlib.Order.WithBot
import Mathlib.Tactic.FieldSimp
import Mathlib.Tactic.NormNum

/-!
# Exact values

What a number is worth, apart from how it is stored: a rational number, or infinity with a sign
(`Json.value?`).  A binary64 number is read off its exponent and fraction fields; that this is its
rank's value in units is `magnitude_eq`.

Conversion to binary64 goes through the nearest rank, so that it respects the order of values
(`toNumber_le_of_value_le`), also where a whole number is so large that it becomes infinite.  It
keeps the strict order of values that binary64 numbers have (`toNumber_lt_of_value_lt`), such as
whole numbers up to 2⁵³ (`isRepresented_int`).
-/

namespace BranchChoice

/-- A rational number, or infinity with a sign. -/
abbrev ExactValue := WithBot (WithTop ℚ)

namespace Binary64

/-! ## Values of binary64 numbers -/

/-- The magnitude with a given rank, that is with the exponent field `rank / 2 ^ 52` and the
fraction field `rank % 2 ^ 52`: a fraction of 2⁻¹⁰²² if the exponent field is zero, else a power of
two and the fraction of it. -/
def magnitude (rank : Nat) : ℚ :=
  if rank / 2 ^ 52 = 0 then (rank % 2 ^ 52 : Nat) * 2 ^ (-1074 : Int)
  else (2 ^ 52 + rank % 2 ^ 52 : Nat) * 2 ^ ((rank / 2 ^ 52 : Nat) - 1075 : Int)

/-- The exact value, zero for both zeros; `none` for what is not a number. -/
def value? : Binary64 → Option ExactValue
  | nan => none
  | signed negative rank =>
    if rank.val = infinityRank then some (if negative then ⊥ else ⊤)
    else some ((if negative then -magnitude rank.val else magnitude rank.val : ℚ) : WithTop ℚ)

/-- The exact value of so many units. -/
def Extent.value : Extent → ExactValue
  | finite u => ((u / unitsPerOne : ℚ) : WithTop ℚ)
  | infinite negative => if negative then ⊥ else ⊤

theorem unitsPerOne_cast : (unitsPerOne : ℚ) = 2 ^ 1074 := by
  have hcast (n : Nat) : (Nat.pow 2 n : ℚ) = 2 ^ n := Nat.cast_pow 2 n
  unfold unitsPerOne
  apply hcast

theorem unitsPerOne_pos : 0 < unitsPerOne := by
  decide +kernel

/-- The fields of a rank give its value in units. -/
theorem magnitude_eq (rank : Nat) : magnitude rank = units rank / unitsPerOne := by
  have htwo : (2 : ℚ) ≠ 0 := by norm_num
  rw [unitsPerOne_cast, eq_div_iff (pow_ne_zero _ htwo), ← zpow_natCast, magnitude, units,
    binadeSize_eq]
  by_cases hlow : rank < 2 ^ 52
  · rw [if_pos (Nat.div_eq_of_lt hlow), if_pos hlow, Nat.mod_eq_of_lt hlow, mul_assoc,
      ← zpow_add₀ htwo]
    norm_num
  · have hfield : rank / 2 ^ 52 = rank / 2 ^ 52 - 1 + 1 := by omega
    rw [if_neg (by omega), if_neg hlow, mul_assoc, ← zpow_add₀ htwo, Nat.pow_eq, Nat.cast_mul,
      Nat.cast_pow, Nat.cast_ofNat, ← zpow_natCast]
    congr 2
    omega

theorem value?_eq (x : Binary64) : x.value? = x.extent?.map Extent.value := by
  cases x with
  | nan => rfl
  | signed negative rank =>
    rw [extent?_signed, value?, Option.map_some]
    by_cases hrank : rank.val = infinityRank
    · rw [if_pos hrank, if_pos hrank, Extent.value]
    · rw [if_neg hrank, if_neg hrank, Extent.value, magnitude_eq]
      cases negative with
      | false => simp only [withSign, Bool.false_eq_true, if_false, Int.cast_natCast]
      | true => simp only [withSign, if_true, Int.cast_neg, Int.cast_natCast, neg_div]

namespace Extent

theorem value_finite_le {u v : Int} : (finite u).value ≤ (finite v).value ↔ u ≤ v := by
  have hpos : (0 : ℚ) < unitsPerOne := by exact_mod_cast unitsPerOne_pos
  rw [value, value, WithBot.coe_le_coe, WithTop.coe_le_coe, div_le_div_iff_of_pos_right hpos,
    Int.cast_le]

theorem infinite_lt_finite (u : Int) : (infinite true).value < (finite u).value :=
  WithBot.bot_lt_coe _

theorem finite_lt_infinite (u : Int) : (finite u).value < (infinite false).value :=
  WithBot.coe_lt_coe.2 (WithTop.coe_lt_top _)

theorem infinite_lt_infinite : (infinite true).value < (infinite false).value :=
  (infinite_lt_finite 0).trans (finite_lt_infinite 0)

theorem value_injective : Function.Injective value := by
  intro e f h
  cases e with
  | finite u =>
    cases f with
    | finite v => rw [le_antisymm (value_finite_le.1 h.le) (value_finite_le.1 h.ge)]
    | infinite t =>
      cases t with
      | false => exact absurd h (finite_lt_infinite u).ne
      | true => exact absurd h (infinite_lt_finite u).ne'
  | infinite s =>
    cases f with
    | finite v =>
      cases s with
      | false => exact absurd h (finite_lt_infinite v).ne'
      | true => exact absurd h (infinite_lt_finite v).ne
    | infinite t =>
      cases s <;> cases t
      · rfl
      · exact absurd h infinite_lt_infinite.ne'
      · exact absurd h infinite_lt_infinite.ne
      · rfl

end Extent

/-! ## Large numbers -/

theorem lowMidpoint_mono {m n : Nat} (h : m ≤ n) : lowMidpoint m ≤ lowMidpoint n := by
  rcases m with _ | m
  · exact Nat.zero_le _
  · obtain ⟨k, rfl⟩ : ∃ k, n = k + 1 := ⟨n - 1, by omega⟩
    rw [lowMidpoint_succ, lowMidpoint_succ]
    exact highMidpoint_strictMono.monotone (by omega)

/-- An even rank is reached from its lower midpoint on. -/
theorem le_nearestRank_iff {num rank : Nat} (heven : rank % 2 = 0) :
    rank ≤ nearestRank num 1 ↔ lowMidpoint rank ≤ 2 * num := by
  have hnearest := nearestRank_isNearest num Nat.one_pos
  constructor
  · intro h
    have hlow := hnearest.low
    exact (lowMidpoint_mono h).trans (by omega)
  · intro h
    by_contra hlt
    obtain ⟨k, rfl⟩ : ∃ k, rank = k + 1 := ⟨rank - 1, by omega⟩
    rw [lowMidpoint_succ] at h
    have hhigh := hnearest.high
    have hmid : highMidpoint (nearestRank num 1) ≤ highMidpoint k :=
      highMidpoint_strictMono.monotone (by omega)
    -- only the midpoint itself is left, and it goes to the even rank
    have hsame : highMidpoint (nearestRank num 1) = highMidpoint k := by omega
    have hrank := highMidpoint_strictMono.injective hsame
    exact (hnearest.odd (by omega)).2 (by omega)

/-- The least whole number that becomes infinite, halfway from the largest finite one to 2¹⁰²⁴. -/
def overflow : Nat := 2 ^ 1024 - 2 ^ 970

theorem infinityRank_le_nearestRank_iff {n : Nat} :
    infinityRank ≤ nearestRank (n * unitsPerOne) 1 ↔ overflow ≤ n := by
  have hmid : lowMidpoint infinityRank = overflow * (2 * unitsPerOne) := by decide +kernel
  have hpos := unitsPerOne_pos
  rw [le_nearestRank_iff (by decide), hmid, show 2 * (n * unitsPerOne) = n * (2 * unitsPerOne) by
    ring]
  exact Nat.mul_le_mul_right_iff (by omega)

/-- Whole numbers from the bound on become infinite with their sign, and no others do. -/
theorem ofInt_eq_infinity_iff {n : Int} {negative : Bool} :
    ofInt n = infinity negative ↔ decide (n < 0) = negative ∧ overflow ≤ n.natAbs := by
  rw [← infinityRank_le_nearestRank_iff, ofInt, ofQuotient, infinity, ofRank, ofRank]
  simp only [signed.injEq, Fin.mk.injEq, min_self, min_eq_right_iff]

/-! ## Places in the order -/

/-- The place in the order of the binary64 number nearest to so many units. -/
def nearestKey (u : Int) : Int :=
  withSign (u < 0) (min (nearestRank u.natAbs 1) infinityRank)

/-- The place in the order of the binary64 number nearest to a value. -/
def Extent.key : Extent → Int
  | finite u => nearestKey u
  | infinite negative => withSign negative infinityRank

theorem min_nearestRank_mono {m n : Nat} (h : m ≤ n) :
    min (nearestRank m 1) infinityRank ≤ min (nearestRank n 1) infinityRank :=
  min_le_min_right infinityRank
    (nearestRank_mono Nat.one_pos Nat.one_pos (Nat.mul_le_mul_right 1 h))

/-- Rounding respects the order on both sides of zero. -/
theorem nearestKey_mono {u v : Int} (h : u ≤ v) : nearestKey u ≤ nearestKey v := by
  unfold nearestKey withSign
  rcases lt_or_ge u 0 with hu | hu
  · rcases lt_or_ge v 0 with hv | hv
    · have hle := min_nearestRank_mono (show v.natAbs ≤ u.natAbs by omega)
      simp only [hu, hv, decide_true, if_true]
      omega
    · simp only [hu, not_lt.2 hv, decide_true, decide_false, if_true, Bool.false_eq_true, if_false]
      omega
  · have hle := min_nearestRank_mono (show u.natAbs ≤ v.natAbs by omega)
    simp only [not_lt.2 hu, not_lt.2 (hu.trans h), decide_false, Bool.false_eq_true, if_false]
    omega

theorem neg_le_nearestKey (u : Int) : -(infinityRank : Int) ≤ nearestKey u := by
  unfold nearestKey withSign
  split_ifs <;> omega

theorem nearestKey_le (u : Int) : nearestKey u ≤ infinityRank := by
  unfold nearestKey withSign
  split_ifs <;> omega

/-- The value of a rank is not rounded. -/
theorem nearestKey_withSign (negative : Bool) {rank : Nat} (h : rank ≤ infinityRank) :
    nearestKey (withSign negative (units rank)) = withSign negative rank := by
  rw [nearestKey, natAbs_withSign, nearestRank_units, min_eq_left h]
  rcases Nat.eq_zero_or_pos rank with rfl | hpos
  · cases negative <;> simp [withSign]
  · have hunits := units_pos hpos
    congr 1
    cases negative with
    | false => simp [withSign]
    | true => simpa [withSign] using hunits

/-- A larger value has no earlier place. -/
theorem Extent.key_mono {e f : Extent} (h : e.value ≤ f.value) : e.key ≤ f.key := by
  have hrank : (0 : Int) ≤ infinityRank := Int.natCast_nonneg _
  cases e with
  | finite u =>
    cases f with
    | finite v => exact nearestKey_mono (value_finite_le.1 h)
    | infinite t =>
      cases t with
      | false => exact nearestKey_le u
      | true => exact absurd h (not_le.2 (infinite_lt_finite u))
  | infinite s =>
    cases f with
    | finite v =>
      cases s with
      | false => exact absurd h (not_le.2 (finite_lt_infinite v))
      | true => exact neg_le_nearestKey v
    | infinite t =>
      cases s <;> cases t
      · exact le_rfl
      · exact absurd h (not_le.2 infinite_lt_infinite)
      · exact neg_le_self hrank
      · exact le_rfl

theorem key?_eq_key {x : Binary64} {e : Extent} (h : x.extent? = some e) :
    x.key? = some e.key := by
  cases x with
  | nan => exact nomatch h
  | signed negative rank =>
    rw [extent?_signed] at h
    obtain rfl := Option.some.inj h
    rw [key?_signed]
    split_ifs with hrank
    · rw [Extent.key, hrank]
    · rw [Extent.key, nearestKey_withSign negative (Nat.le_of_lt_succ rank.isLt)]

theorem withSign_inj {s t : Bool} {n : Nat} (hn : 0 < n) (h : withSign s n = withSign t n) :
    s = t := by
  cases s <;> cases t <;> simp only [withSign, if_true, Bool.false_eq_true, if_false] at h ⊢ <;>
    omega

/-- Numbers at one place in the order have one value. -/
theorem extent?_eq_of_key? {x y : Binary64} (h : x.key? = y.key?) : x.extent? = y.extent? := by
  cases x with
  | nan =>
    cases y with
    | nan => rfl
    | signed t b => exact nomatch h
  | signed s a =>
    cases y with
    | nan => exact nomatch h
    | signed t b =>
      rw [key?_signed, key?_signed, Option.some.injEq] at h
      have hrank : a.val = b.val := by
        rw [← natAbs_withSign s a.val, h, natAbs_withSign]
      rw [← hrank] at h
      rw [extent?_signed, extent?_signed, ← hrank]
      rcases Nat.eq_zero_or_pos a.val with hzero | hpos
      · -- the two zeros have different signs and one value
        rw [hzero]
        cases s <;> cases t <;> rfl
      · rw [withSign_inj hpos h]

/-- **Comparing binary64 numbers compares their values.** -/
theorem lt_iff_value_lt {x y : Binary64} {a b : ExactValue} (hx : x.value? = some a)
    (hy : y.value? = some b) : x.lt y = true ↔ a < b := by
  rw [value?_eq, Option.map_eq_some_iff] at hx hy
  obtain ⟨e, he, rfl⟩ := hx
  obtain ⟨f, hf, rfl⟩ := hy
  rw [lt_iff, key?_eq_key he, key?_eq_key hf]
  simp only [Option.some.injEq, exists_eq_left', exists_and_left]
  constructor
  · intro hlt
    by_contra hge
    exact absurd hlt (not_lt.2 (Extent.key_mono (not_lt.1 hge)))
  · intro hlt
    refine lt_of_le_of_ne (Extent.key_mono hlt.le) fun hsame => hlt.ne ?_
    have hkeys : x.key? = y.key? := by rw [key?_eq_key he, key?_eq_key hf, hsame]
    have hextents := extent?_eq_of_key? hkeys
    rw [he, hf, Option.some.injEq] at hextents
    rw [hextents]

/-- A whole number up to 2⁵³ is the value of a rank. -/
theorem exists_rank_of_le {n : Nat} (h : n ≤ 2 ^ 53) :
    ∃ rank < infinityRank, units rank = n * unitsPerOne := by
  rcases Nat.eq_zero_or_pos n with rfl | hpos
  · exact ⟨0, by decide, (Nat.zero_mul unitsPerOne).symm⟩
  · -- the significand is the number with its leading digit moved to the place of 2⁵²
    have hlow := Nat.log2_self_le hpos.ne'
    have hhigh := Nat.lt_log2_self (n := n)
    have hshift : n.log2 ≤ 53 := (Nat.pow_le_pow_iff_right (by norm_num)).1 (hlow.trans h)
    have hm : 2 ^ 52 ≤ n * 2 ^ (52 - n.log2) ∧ n * 2 ^ (52 - n.log2) ≤ 2 ^ 53 := by
      rcases Nat.lt_or_eq_of_le hshift with hlt | heq
      · have hbelow : 2 ^ n.log2 * 2 ^ (52 - n.log2) = 2 ^ 52 := by
          rw [← Nat.pow_add]
          congr 1
          omega
        have habove : 2 ^ (n.log2 + 1) * 2 ^ (52 - n.log2) = 2 ^ 53 := by
          rw [← Nat.pow_add]
          congr 1
          omega
        rw [← hbelow, ← habove]
        exact ⟨Nat.mul_le_mul_right _ hlow, Nat.mul_le_mul_right _ hhigh.le⟩
      · rw [heq] at hlow ⊢
        omega
    refine ⟨n * 2 ^ (52 - n.log2) + (1074 - (52 - n.log2)) * binadeSize, ?_, ?_⟩
    · rw [infinityRank, binadeSize_eq]
      omega
    · rw [units_eq hm.2 (.inl hm.1), mul_assoc, ← Nat.pow_add]
      congr 2
      omega

end Binary64

/-! ## Numbers of all kinds -/

namespace Json

/-- The exact value of a number; `none` for all else. -/
def value? : Json → Option ExactValue
  | int n => some ((n : ℚ) : WithTop ℚ)
  | float x => x.value?
  | _ => none

theorem value?_eq (v : Json) : v.value? = v.extent?.map Binary64.Extent.value := by
  cases v with
  | int n =>
    have hpos : (Binary64.unitsPerOne : ℚ) ≠ 0 := by exact_mod_cast Binary64.unitsPerOne_pos.ne'
    rw [value?, extent?, Option.map_some, Binary64.Extent.value, Int.cast_mul, Int.cast_natCast,
      mul_div_cancel_right₀ _ hpos]
  | float x => exact x.value?_eq
  | _ => rfl

/-- A number is converted to the binary64 number nearest to its value. -/
theorem key?_toNumber_eq {v : Json} {e : Binary64.Extent} (h : v.extent? = some e) :
    v.toNumber.key? = some e.key := by
  cases v with
  | int n =>
    obtain rfl := Option.some.inj h
    have hpos : (0 : Int) < Binary64.unitsPerOne := by exact_mod_cast Binary64.unitsPerOne_pos
    have hsign : decide (n * (Binary64.unitsPerOne : Int) < 0) = decide (n < 0) := by
      rw [decide_eq_decide]
      exact ⟨fun h => neg_of_mul_neg_left h hpos.le, fun h => mul_neg_of_neg_of_pos h hpos⟩
    rw [toNumber, Binary64.Extent.key, Binary64.nearestKey, hsign, Int.natAbs_mul,
      Int.natAbs_natCast]
    exact Binary64.key?_signed _ _
  | float x => exact Binary64.key?_eq_key h
  | _ => exact nomatch h

/-- **Conversion respects the order of values**, also where it rounds or leaves the range. -/
theorem toNumber_le_of_value_le {v w : Json} {a b : ExactValue} (hv : v.value? = some a)
    (hw : w.value? = some b) (h : a ≤ b) : v.toNumber.le w.toNumber = true := by
  rw [value?_eq, Option.map_eq_some_iff] at hv hw
  obtain ⟨e, he, rfl⟩ := hv
  obtain ⟨f, hf, rfl⟩ := hw
  exact Binary64.le_iff.2
    ⟨e.key, f.key, key?_toNumber_eq he, key?_toNumber_eq hf, Binary64.Extent.key_mono h⟩

/-- A number that is sure to equal a binary64 number: such a number itself, or a whole number up to
2⁵³. -/
def IsRepresented : Json → Prop
  | int n => n.natAbs ≤ 2 ^ 53
  | float _ => True
  | _ => False

/-- A represented number is converted to the binary64 number that equals it. -/
theorem IsRepresented.exists_value {v : Json} {a : ExactValue} (h : v.IsRepresented)
    (hv : v.value? = some a) :
    ∃ x : Binary64, x.value? = some a ∧ v.toNumber.key? = x.key? := by
  cases v with
  | int n =>
    obtain ⟨rank, hrank, hunits⟩ := Binary64.exists_rank_of_le h
    have hextent : (Binary64.signed (n < 0) ⟨rank, by omega⟩).extent? =
        some (.finite (n * Binary64.unitsPerOne)) := by
      rw [Binary64.extent?_signed, if_neg hrank.ne, hunits, Binary64.withSign_mul,
        Binary64.withSign_natAbs]
    refine ⟨_, ?_, Binary64.key?_ofInt hextent⟩
    rw [Binary64.value?_eq, hextent, ← hv, value?_eq]
    rfl
  | float x => exact ⟨x, hv, rfl⟩
  | _ => exact h.elim

/-- The conversion of represented numbers keeps their strict order. -/
theorem toNumber_lt_of_value_lt {v w : Json} {a b : ExactValue} (hv : v.value? = some a)
    (hw : w.value? = some b) (hfits : v.IsRepresented) (hfits' : w.IsRepresented) (h : a < b) :
    v.toNumber.lt w.toNumber = true := by
  obtain ⟨x, hx, hkey⟩ := hfits.exists_value hv
  obtain ⟨y, hy, hkey'⟩ := hfits'.exists_value hw
  have hlt : x.lt y = true := (Binary64.lt_iff_value_lt hx hy).2 h
  rwa [Binary64.lt, ← hkey, ← hkey'] at hlt

end Json

end BranchChoice
