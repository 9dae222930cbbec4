import BranchChoice.Proofs.NearestRank
import BranchChoice.Proofs.Selection
import Mathlib.Data.List.MinMax
import Mathlib.Algebra.Order.Field.Rat

/-!
# Rounded shares and exact ones

A confidence is a share rounded to the nearest binary64 number, and yet the selection is the one
that exact shares make, as long as there are no more than 2²⁶ conditions to a branch
(`selectBranch_exact`).

Two different shares differ by at least one part in the product of their wholes, that is by 2⁻⁵².
All numbers that are rounded to the same rank lie between the midpoints beside it, and up to one
these are less than 2⁻⁵² apart (`highMidpoint_le`).  So different shares are rounded to different
ranks (`nearestRank_lt_of_cross`), and their order is kept (`fraction_lt_iff`).
-/

namespace BranchChoice

namespace Binary64

/-! ## Steps between ranks -/

/-- From a rank to the next the value grows by the unit of the rank's binade. -/
theorem units_succ (rank : Nat) : units (rank + 1) = units rank + 2 ^ (rank / 2 ^ 52 - 1) := by
  obtain ⟨m, e, hrank, hm, he⟩ := exists_significand rank
  have hexp : rank / 2 ^ 52 - 1 = e := by
    rw [hrank, binadeSize_eq]
    omega
  have hnext : rank + 1 = m + 1 + e * binadeSize := by omega
  rw [hexp, hnext, units_eq (by omega) (by omega), hrank, units_eq hm.le he, Nat.succ_mul]

/-- The rank of one. -/
def oneRank : Nat := 1023 * binadeSize

theorem units_oneRank : units oneRank = unitsPerOne := by
  decide +kernel

/-- The step between the magnitudes just below one, 2⁻⁵³ in units. -/
def stepBelowOne : Nat := Nat.pow 2 1021

theorem unitsPerOne_eq : unitsPerOne = 2 ^ 53 * stepBelowOne := by
  decide +kernel

theorem stepBelowOne_pos : 0 < stepBelowOne := by
  decide +kernel

theorem two_pow_le_stepBelowOne {e : Nat} (h : e ≤ 1021) : 2 ^ e ≤ stepBelowOne := by
  unfold stepBelowOne
  -- a power of this size is better left alone
  generalize 1021 = n at h ⊢
  exact Nat.pow_le_pow_right (by norm_num) h

/-- Up to one the midpoints beside a rank are no more than one and a half such steps apart; they are
given here twice as large as they are. -/
theorem highMidpoint_le {rank : Nat} (h : rank ≤ oneRank) :
    highMidpoint rank ≤ lowMidpoint rank + 3 * stepBelowOne := by
  rw [oneRank, binadeSize_eq] at h
  rcases rank with _ | k
  · have hone : highMidpoint 0 = 1 := by decide +kernel
    have hstep := stepBelowOne_pos
    omega
  · have hbelow : 2 ^ (k / 2 ^ 52 - 1) ≤ stepBelowOne := two_pow_le_stepBelowOne (by omega)
    have habove : 2 ^ ((k + 1) / 2 ^ 52 - 1) ≤ 2 * stepBelowOne := by
      calc 2 ^ ((k + 1) / 2 ^ 52 - 1) ≤ 2 ^ ((k + 1) / 2 ^ 52 - 2 + 1) :=
            Nat.pow_le_pow_right (by norm_num) (by omega)
        _ = 2 * 2 ^ ((k + 1) / 2 ^ 52 - 2) := Nat.pow_succ'
        _ ≤ 2 * stepBelowOne := Nat.mul_le_mul_left 2 (two_pow_le_stepBelowOne (by omega))
    rw [lowMidpoint_succ, highMidpoint, highMidpoint, units_succ (k + 1), units_succ k]
    omega

/-! ## Different shares -/

theorem nearestRank_le_oneRank {part whole : Nat} (hwhole : 0 < whole) (h : part ≤ whole) :
    nearestRank (part * unitsPerOne) whole ≤ oneRank := by
  rw [← nearestRank_units oneRank, units_oneRank]
  refine nearestRank_mono hwhole Nat.one_pos ?_
  calc part * unitsPerOne * 1 ≤ whole * unitsPerOne := by
        rw [Nat.mul_one]
        exact Nat.mul_le_mul_right _ h
    _ = unitsPerOne * whole := Nat.mul_comm _ _

/-- **Different shares are rounded to different ranks**, the larger share to the higher one. -/
theorem nearestRank_lt_of_cross {a b c d : Nat} (hb : 0 < b) (hd : 0 < d) (hab : a ≤ b)
    (hsmall : b * d ≤ 2 ^ 52) (h : a * d < c * b) :
    nearestRank (a * unitsPerOne) b < nearestRank (c * unitsPerOne) d := by
  have hmono : nearestRank (a * unitsPerOne) b ≤ nearestRank (c * unitsPerOne) d := by
    refine nearestRank_mono hb hd ?_
    calc a * unitsPerOne * d = a * d * unitsPerOne := by ring
      _ ≤ c * b * unitsPerOne := Nat.mul_le_mul_right _ h.le
      _ = c * unitsPerOne * b := by ring
  refine lt_of_le_of_ne hmono fun hsame => ?_
  have hlow := (nearestRank_isNearest (a * unitsPerOne) hb).low
  have hhigh := (nearestRank_isNearest (c * unitsPerOne) hd).high
  have hwidth := highMidpoint_le (nearestRank_le_oneRank hb hab)
  rw [← hsame] at hhigh
  -- both shares lie between the midpoints beside the one rank, and are too far apart for that
  have hstep := stepBelowOne_pos
  have hpair :
      2 * (c * unitsPerOne) * b ≤ 2 * (a * unitsPerOne) * d + 3 * stepBelowOne * 2 ^ 52 := by
    calc 2 * (c * unitsPerOne) * b
        ≤ highMidpoint (nearestRank (a * unitsPerOne) b) * d * b := Nat.mul_le_mul_right b hhigh
      _ ≤ (lowMidpoint (nearestRank (a * unitsPerOne) b) + 3 * stepBelowOne) * d * b :=
          Nat.mul_le_mul_right b (Nat.mul_le_mul_right d hwidth)
      _ = lowMidpoint (nearestRank (a * unitsPerOne) b) * b * d + 3 * stepBelowOne * (b * d) := by
          ring
      _ ≤ 2 * (a * unitsPerOne) * d + 3 * stepBelowOne * 2 ^ 52 :=
          Nat.add_le_add (Nat.mul_le_mul_right d hlow) (Nat.mul_le_mul_left _ hsmall)
  have hapart : 2 * (a * unitsPerOne) * d + 2 * unitsPerOne ≤ 2 * (c * unitsPerOne) * b := by
    calc 2 * (a * unitsPerOne) * d + 2 * unitsPerOne = (a * d + 1) * (2 * unitsPerOne) := by ring
      _ ≤ c * b * (2 * unitsPerOne) := Nat.mul_le_mul_right _ h
      _ = 2 * (c * unitsPerOne) * b := by ring
  have hone := unitsPerOne_eq
  omega

/-- The ranks of two shares stand in the order of the shares, which is given here by cross
multiplication. -/
theorem nearestRank_lt_iff {a b c d : Nat} (hb : 0 < b) (hd : 0 < d) (hab : a ≤ b)
    (hsmall : b * d ≤ 2 ^ 52) :
    nearestRank (a * unitsPerOne) b < nearestRank (c * unitsPerOne) d ↔ a * d < c * b := by
  refine ⟨fun hlt => ?_, nearestRank_lt_of_cross hb hd hab hsmall⟩
  by_contra hnot
  refine absurd hlt (not_lt.2 (nearestRank_mono hd hb ?_))
  calc c * unitsPerOne * b = c * b * unitsPerOne := by ring
    _ ≤ a * d * unitsPerOne := Nat.mul_le_mul_right _ (not_lt.1 hnot)
    _ = a * unitsPerOne * d := by ring

/-! ## Fractions of small wholes -/

/-- The fraction of an empty whole is that of a whole of one. -/
theorem fraction_eq {part whole : Nat} (h : part ≤ whole) :
    fraction part whole = ofRank false (nearestRank (part * unitsPerOne) (max 1 whole)) := by
  unfold fraction
  split_ifs with hempty
  · obtain rfl : part = 0 := by omega
    rw [hempty, Nat.zero_mul]
    rfl
  · rw [max_eq_right (Nat.one_le_iff_ne_zero.2 hempty), ofQuotient]

theorem key?_fraction {part whole : Nat} (h : part ≤ whole) :
    (fraction part whole).key? =
      some (nearestRank (part * unitsPerOne) (max 1 whole) : Int) := by
  have hone : oneRank ≤ infinityRank := by decide
  have hrank : nearestRank (part * unitsPerOne) (max 1 whole) ≤ infinityRank :=
    (nearestRank_le_oneRank (by omega) (by omega)).trans hone
  rw [fraction_eq h, key?_ofRank, min_eq_left hrank]

section Fractions

variable {a b c d : Nat} (hab : a ≤ b) (hcd : c ≤ d) (hb : b ≤ 2 ^ 26) (hd : d ≤ 2 ^ 26)

include hab hcd hb hd

/-- **The order of fractions is exact** for wholes of up to 2²⁶. -/
theorem fraction_lt_iff :
    (fraction a b).lt (fraction c d) = true ↔ a * max 1 d < c * max 1 b := by
  have hsmall : max 1 b * max 1 d ≤ 2 ^ 52 := by
    calc max 1 b * max 1 d ≤ 2 ^ 26 * 2 ^ 26 := Nat.mul_le_mul (by omega) (by omega)
      _ = 2 ^ 52 := by norm_num
  rw [← nearestRank_lt_iff (by omega) (by omega) (by omega) hsmall, lt, key?_fraction hab,
    key?_fraction hcd]
  simp only [decide_eq_true_eq, Nat.cast_lt]

/-- Fractions are rounded to one number only if they are equal. -/
theorem fraction_inj :
    fraction a b = fraction c d ↔ a * max 1 d = c * max 1 b := by
  constructor
  · intro heq
    refine le_antisymm (not_lt.1 fun hlt => ?_) (not_lt.1 fun hlt => ?_)
    · have hless := (fraction_lt_iff hcd hab hd hb).2 hlt
      rw [heq, lt_irrefl] at hless
      exact absurd hless Bool.false_ne_true
    · have hless := (fraction_lt_iff hab hcd hb hd).2 hlt
      rw [heq, lt_irrefl] at hless
      exact absurd hless Bool.false_ne_true
  · intro hcross
    rw [fraction_eq hab, fraction_eq hcd]
    refine congrArg _ (nearestRank_congr (by omega) (by omega) ?_)
    calc a * unitsPerOne * max 1 d = a * max 1 d * unitsPerOne := by ring
      _ = c * unitsPerOne * max 1 b := by rw [hcross]; ring

end Fractions

end Binary64

namespace ScoredBranch

/-- The share of the conditions that are met, exactly; zero if there are none. -/
def share (s : ScoredBranch) : ℚ :=
  s.matched / s.total

/-- The confidence is the number nearest to the share, the even one of two that are equally near. -/
def IsRounded (s : ScoredBranch) : Prop :=
  ∃ rank, s.confidence = .ofRank false rank ∧
    Binary64.IsNearest (s.matched.toNat * Binary64.unitsPerOne) (max 1 s.total.toNat) rank

end ScoredBranch

/-- The selection by exact shares: the first branch of the greatest share, if that is at least one
half, else the first default branch. -/
def selectByShare (branches : List Branch) (context : Json) :
    Except SelectionError ScoredBranch :=
  match Branch.scoreAll branches context with
  | .error e => .error (.unscored e)
  | .ok scores =>
    match (scores.argmax ScoredBranch.share).filter (1 / 2 ≤ ·.share) with
    | some best => .ok best
    | none =>
      match branches.find? (·.isDefault) with
      | some b => (ScoredBranch.ofDefault b).mapError .unscored
      | none => .error .noSuitable

/-! ## Scores -/

namespace Branch

variable {b c : Branch} {context : Json}

theorem scoredIn_isRounded (b : Branch) (context : Json) : (b.scoredIn context).IsRounded :=
  ⟨_, Binary64.fraction_eq (b.matchedIn_le context),
    Binary64.nearestRank_isNearest _ (by omega)⟩

theorem confidenceIn_lt_iff (hb : b.conditions.length ≤ 2 ^ 26)
    (hc : c.conditions.length ≤ 2 ^ 26) :
    (b.confidenceIn context).lt (c.confidenceIn context) = true ↔
      b.matchedIn context * max 1 c.conditions.length <
        c.matchedIn context * max 1 b.conditions.length :=
  Binary64.fraction_lt_iff (b.matchedIn_le context) (c.matchedIn_le context) hb hc

theorem confidenceIn_inj (hb : b.conditions.length ≤ 2 ^ 26)
    (hc : c.conditions.length ≤ 2 ^ 26) :
    b.confidenceIn context = c.confidenceIn context ↔
      b.matchedIn context * max 1 c.conditions.length =
        c.matchedIn context * max 1 b.conditions.length :=
  Binary64.fraction_inj (b.matchedIn_le context) (c.matchedIn_le context) hb hc

/-- At least one half of the conditions is met, and there is one. -/
theorem isEligible_scoredIn (hb : b.conditions.length ≤ 2 ^ 26) :
    (b.scoredIn context).isEligible = true ↔
      b.conditions.length ≤ 2 * b.matchedIn context ∧ 0 < b.conditions.length := by
  have hle := b.matchedIn_le context
  have hlt : (b.confidenceIn context).lt ScoredBranch.threshold = true ↔
      b.matchedIn context * 2 < 1 * max 1 b.conditions.length :=
    Binary64.fraction_lt_iff hle (by norm_num) hb (by norm_num)
  have hiff : (b.scoredIn context).isEligible = true ↔
      ¬ (b.confidenceIn context).lt ScoredBranch.threshold = true :=
    Binary64.le_iff_not_lt (Binary64.fraction_ne_nan 1 2) (b.confidenceIn_ne_nan context)
  rw [hiff, hlt]
  omega

/-- The share, with a whole that is not zero. -/
theorem share_scoredIn (b : Branch) (context : Json) :
    (b.scoredIn context).share =
      (b.matchedIn context : ℚ) / (max 1 b.conditions.length : Nat) := by
  have hle := b.matchedIn_le context
  have hshare : (b.scoredIn context).share =
      (b.matchedIn context : ℚ) / (b.conditions.length : ℚ) := rfl
  rcases Nat.eq_zero_or_pos b.conditions.length with hempty | hpos
  · have hnone : b.matchedIn context = 0 := by omega
    rw [hshare, hnone, Nat.cast_zero, zero_div, zero_div]
  · rw [hshare, max_eq_right hpos]

theorem share_lt_iff (b c : Branch) (context : Json) :
    (b.scoredIn context).share < (c.scoredIn context).share ↔
      b.matchedIn context * max 1 c.conditions.length <
        c.matchedIn context * max 1 b.conditions.length := by
  have hpos (d : Branch) : (0 : ℚ) < (max 1 d.conditions.length : Nat) := by
    exact_mod_cast (by omega : 0 < max 1 d.conditions.length)
  rw [share_scoredIn, share_scoredIn, div_lt_div_iff₀ (hpos b) (hpos c)]
  exact_mod_cast Iff.rfl

theorem half_le_share_iff (b : Branch) (context : Json) :
    1 / 2 ≤ (b.scoredIn context).share ↔
      b.conditions.length ≤ 2 * b.matchedIn context ∧ 0 < b.conditions.length := by
  have hle := b.matchedIn_le context
  have hpos : (0 : ℚ) < (max 1 b.conditions.length : Nat) := by
    exact_mod_cast (by omega : 0 < max 1 b.conditions.length)
  rw [share_scoredIn, div_le_div_iff₀ two_pos hpos]
  have hcast : (1 : ℚ) * (max 1 b.conditions.length : Nat) ≤ b.matchedIn context * 2 ↔
      max 1 b.conditions.length ≤ b.matchedIn context * 2 := by
    rw [one_mul]
    exact_mod_cast Iff.rfl
  rw [hcast]
  omega

end Branch

/-! ## The loop -/

/-- The largest of a list that is not empty, by the loop that keeps the first best item. -/
theorem argmax_cons_eq {α : Type} (f : α → ℚ) (l : List α) (first : α) :
    (first :: l).argmax f =
      some (l.foldl (fun best a => if f best < f a then a else best) first) := by
  refine List.foldl_hom some fun best a => ?_
  rw [apply_ite some]
  rfl

/-- Two comparisons that agree on the items of a list keep the same one. -/
theorem foldl_best_congr {α : Type} {r s : α → α → Prop} [DecidableRel r] [DecidableRel s]
    (l : List α) : ∀ first, (∀ a ∈ first :: l, ∀ b ∈ first :: l, r a b ↔ s a b) →
      l.foldl (fun best a => if r best a then a else best) first =
        l.foldl (fun best a => if s best a then a else best) first := by
  induction l with
  | nil => intro first _; rfl
  | cons a rest ih =>
    intro first h
    have hiff : r first a ↔ s first a := h first (by simp) a (by simp)
    rw [List.foldl_cons, List.foldl_cons]
    by_cases hr : r first a
    · rw [if_pos hr, if_pos (hiff.1 hr)]
      exact ih a fun b hb c hc => h b (List.mem_cons_of_mem _ hb) c (List.mem_cons_of_mem _ hc)
    · rw [if_neg hr, if_neg (mt hiff.2 hr)]
      refine ih first fun b hb c hc => h b ?_ c ?_
      · exact List.cons_subset_cons _ (List.subset_cons_self ..) hb
      · exact List.cons_subset_cons _ (List.subset_cons_self ..) hc

namespace ScoredBranch

/-- Where confidences have the order of the shares, the best score is the one of the largest
share. -/
theorem best?_eq_argmax {scores : List ScoredBranch}
    (h : ∀ s ∈ scores, ∀ t ∈ scores, s.confidence.lt t.confidence = true ↔ s.share < t.share) :
    best? scores = scores.argmax share := by
  cases scores with
  | nil => rfl
  | cons first rest =>
    rw [argmax_cons_eq, best?]
    exact congrArg some (foldl_best_congr rest first h)

end ScoredBranch

/-! ## The selection -/

namespace Branch

variable {branches : List Branch} {context : Json} {scores : List ScoredBranch}

/-- Whatever scores there are, they count the conditions. -/
theorem scores_eq (h : scoreAll branches context = .ok scores) :
    scores = (candidates branches).map (·.scoredIn context) := by
  by_cases hall : AllEvaluate branches context
  · exact Except.ok.inj (h.symm.trans (scoreAll_eq hall))
  · obtain ⟨e, he⟩ := not_allEvaluate_iff.1 hall
    rw [scoreAll_stops he] at h
    exact absurd h nofun

theorem exists_scoredIn (h : scoreAll branches context = .ok scores) {s : ScoredBranch}
    (hs : s ∈ scores) : ∃ b ∈ branches, b.isDefault = false ∧ s = b.scoredIn context := by
  rw [scores_eq h] at hs
  obtain ⟨b, hb, rfl⟩ := List.mem_map.1 hs
  obtain ⟨hmem, hdefault⟩ := mem_candidates.1 hb
  exact ⟨b, hmem, hdefault, rfl⟩

end Branch

section Selection

variable {branches : List Branch} {context : Json}
  (hsize : ∀ b ∈ branches, b.isDefault = false → b.conditions.length ≤ 2 ^ 26)

include hsize

/-- The scores keep the order of the shares, and the threshold. -/
theorem scores_exact {scores : List ScoredBranch}
    (h : Branch.scoreAll branches context = .ok scores) :
    (∀ s ∈ scores, s.isEligible = true ↔ 1 / 2 ≤ s.share) ∧
      ∀ s ∈ scores, ∀ t ∈ scores, s.confidence.lt t.confidence = true ↔ s.share < t.share := by
  constructor
  · intro s hs
    obtain ⟨b, hb, hdefault, rfl⟩ := Branch.exists_scoredIn h hs
    rw [Branch.half_le_share_iff]
    exact Branch.isEligible_scoredIn (hsize b hb hdefault)
  · intro s hs t ht
    obtain ⟨b, hb, hbdefault, rfl⟩ := Branch.exists_scoredIn h hs
    obtain ⟨c, hc, hcdefault, rfl⟩ := Branch.exists_scoredIn h ht
    rw [Branch.share_lt_iff]
    exact Branch.confidenceIn_lt_iff (hsize b hb hbdefault) (hsize c hc hcdefault)

theorem selectBranch_eq_selectByShare :
    selectBranch branches context = selectByShare branches context := by
  rw [selectBranch, selectByShare]
  cases hscores : Branch.scoreAll branches context with
  | error e => rfl
  | ok scores =>
    obtain ⟨heligible, horder⟩ := scores_exact hsize hscores
    have hfilter : (ScoredBranch.best? scores).filter (·.isEligible) =
        (scores.argmax ScoredBranch.share).filter (1 / 2 ≤ ·.share) := by
      rw [ScoredBranch.best?_eq_argmax horder]
      cases hbest : scores.argmax ScoredBranch.share with
      | none => rfl
      | some best =>
        have hsame : best.isEligible = Decidable.decide (1 / 2 ≤ best.share) := by
          rw [Bool.eq_iff_iff, decide_eq_true_iff]
          exact heligible best (List.argmax_mem hbest)
        rw [Option.filter_some, Option.filter_some, hsame]
    dsimp only
    exact hfilter ▸ rfl

end Selection

/-- **Threshold and ranking are exact.**  Where no branch that competes has more than 2²⁶
conditions, its confidence is the share of its conditions that are met, rounded to the nearest
number; it reaches the threshold exactly if at least half of the conditions are met, and there is
one; one confidence is less than another exactly if the shares are, and equal to it exactly if the
shares are, an empty set of conditions counting as none out of one.  The selection is therefore the
one that exact shares make. -/
theorem selectBranch_exact (branches : List Branch) (context : Json)
    (hsize : ∀ b ∈ branches, b.isDefault = false → b.conditions.length ≤ 2 ^ 26) :
    (∀ scores, Branch.scoreAll branches context = .ok scores →
      scores = (Branch.candidates branches).map (·.scoredIn context) ∧
      (∀ s ∈ scores, s.IsRounded ∧
        (s.isEligible = true ↔ s.total ≤ 2 * s.matched ∧ 0 < s.total)) ∧
      ∀ s ∈ scores, ∀ t ∈ scores,
        (s.confidence.lt t.confidence = true ↔
          s.matched * max 1 t.total < t.matched * max 1 s.total) ∧
        (s.confidence = t.confidence ↔
          s.matched * max 1 t.total = t.matched * max 1 s.total)) ∧
    selectBranch branches context = selectByShare branches context := by
  refine ⟨fun scores hscores => ⟨Branch.scores_eq hscores, ?_, ?_⟩,
    selectBranch_eq_selectByShare hsize⟩
  · intro s hs
    obtain ⟨b, hb, hdefault, rfl⟩ := Branch.exists_scoredIn hscores hs
    refine ⟨b.scoredIn_isRounded context, ?_⟩
    rw [Branch.isEligible_scoredIn (hsize b hb hdefault)]
    simp only [Branch.scoredIn]
    exact_mod_cast Iff.rfl
  · intro s hs t ht
    obtain ⟨b, hb, hbdefault, rfl⟩ := Branch.exists_scoredIn hscores hs
    obtain ⟨c, hc, hcdefault, rfl⟩ := Branch.exists_scoredIn hscores ht
    have hlt : (b.confidenceIn context).lt (c.confidenceIn context) = true ↔ _ :=
      Branch.confidenceIn_lt_iff (hsize b hb hbdefault) (hsize c hc hcdefault)
    have heq : b.confidenceIn context = c.confidenceIn context ↔ _ :=
      Branch.confidenceIn_inj (hsize b hb hbdefault) (hsize c hc hcdefault)
    simp only [Branch.scoredIn]
    exact ⟨by exact_mod_cast hlt, by exact_mod_cast heq⟩

/-- Of a branch that meets one condition of two and one that meets two of three, the second is
selected, by the confidences and by the shares. -/
theorem selectBranch_exact_thirds :
    let half : Branch := ⟨"a", "Half", [("n", .int 1), ("m", .int 1)], none, false, none⟩
    let thirds : Branch :=
      ⟨"b", "Thirds", [("n", .int 1), ("k", .int 1), ("l", .int 2)], none, false, none⟩
    let branches := [half, thirds]
    let context : Json := .object [("n", .int 1), ("l", .int 2)]
    (∀ b ∈ branches, b.isDefault = false → b.conditions.length ≤ 2 ^ 26) ∧
      selectBranch branches context = selectByShare branches context ∧
      (selectBranch branches context).toOption.map (·.branch.id) = some "b" := by
  intro half thirds branches context
  have hsize : ∀ b ∈ branches, b.isDefault = false → b.conditions.length ≤ 2 ^ 26 := by
    intro b hb _
    simp only [branches, List.mem_cons, List.not_mem_nil, or_false] at hb
    rcases hb with rfl | rfl <;> decide
  exact ⟨hsize, (selectBranch_exact branches context hsize).2, by decide +kernel⟩

end BranchChoice
