import BranchChoice.Proofs.Evaluation
import BranchChoice.Proofs.Rounding
import BranchChoice.Selection
import Mathlib.Data.List.Basic

/-!
# Which branch is selected

Where every condition of the branches that are no defaults has a truth value, the confidence of a
branch is the share of its conditions that are met (`score_eq`), and the selection is determined by
these confidences and by which branches are defaults: the first branch of the greatest confidence,
if that is at least one half (`IsFirstBest`), else the first default branch (`IsFirstDefault`), else
none (`selectBranch_spec`).

The loop that keeps the best score so far replaces it only by a strictly better one.  The invariant
is that the score kept is the first best of those seen, which is why ties go to the earlier branch.
-/

namespace BranchChoice

/-! ## Counting conditions -/

namespace Condition

/-- Whether a condition holds in a context; one that stops the evaluation does not. -/
def isMet (c : Condition) (context : Json) : Bool :=
  match c.holds context with
  | .ok holds => holds
  | .error _ => false

/-- The condition has a truth value in a context. -/
def Evaluates (c : Condition) (context : Json) : Prop :=
  ∃ holds, c.holds context = .ok holds

theorem holds_eq_isMet {c : Condition} {context : Json} (h : c.Evaluates context) :
    c.holds context = .ok (c.isMet context) := by
  obtain ⟨holds, hc⟩ := h
  rw [isMet, hc]

/-- The refusal that stops the evaluation of a condition in a context. -/
def refusal? (c : Condition) (context : Json) : Option Pattern.Refusal :=
  match c.holds context with
  | .ok _ => none
  | .error e => some e

theorem evaluates_iff {c : Condition} {context : Json} :
    c.Evaluates context ↔ c.refusal? context = none := by
  unfold Evaluates refusal?
  cases c.holds context <;> simp

theorem holds_eq_error {c : Condition} {context : Json} {e : Pattern.Refusal}
    (h : c.refusal? context = some e) : c.holds context = .error e := by
  unfold refusal? at h
  cases hc : c.holds context with
  | ok holds => rw [hc] at h; simp at h
  | error e' => rw [hc] at h; exact congrArg Except.error (Option.some.inj h)

end Condition

theorem countHolding_eq {conditions : List Condition} {context : Json}
    (h : ∀ c ∈ conditions, c.Evaluates context) :
    countHolding conditions context =
      .ok (conditions.countP (·.isMet context), conditions.length) := by
  induction conditions with
  | nil => rfl
  | cons c rest ih =>
    have hc := Condition.holds_eq_isMet (h c (List.mem_cons_self ..))
    rw [countHolding, hc, ih fun d hd => h d (List.mem_cons_of_mem _ hd)]
    cases hmet : c.isMet context <;> simp [hmet]

/-- The first condition that stops the evaluation stops the counting. -/
theorem countHolding_stops {conditions : List Condition} {context : Json} {e : Pattern.Refusal}
    (h : (conditions.filterMap (·.refusal? context)).head? = some e) :
    countHolding conditions context = .error e := by
  induction conditions with
  | nil => simp at h
  | cons c rest ih =>
    rw [countHolding]
    cases hc : c.refusal? context with
    | some e' =>
      simp only [List.filterMap_cons, hc, List.head?_cons] at h
      obtain rfl := Option.some.inj h
      rw [Condition.holds_eq_error hc]
    | none =>
      simp only [List.filterMap_cons, hc] at h
      rw [Condition.holds_eq_isMet (Condition.evaluates_iff.2 hc), ih h]

/-! ## Scores -/

namespace Branch

/-- Every condition of the branch has a truth value in a context. -/
def Evaluates (b : Branch) (context : Json) : Prop :=
  ∀ c ∈ Condition.ofFields b.conditions, c.Evaluates context

/-- How many conditions of a branch are met. -/
def matchedIn (b : Branch) (context : Json) : Nat :=
  (Condition.ofFields b.conditions).countP (·.isMet context)

/-- The share of a branch's conditions that are met, zero if it has none. -/
def confidenceIn (b : Branch) (context : Json) : Binary64 :=
  .fraction (b.matchedIn context) b.conditions.length

/-- The branch with its score. -/
def scoredIn (b : Branch) (context : Json) : ScoredBranch :=
  ⟨b, b.confidenceIn context, b.matchedIn context, b.conditions.length⟩

end Branch

theorem Coercion.share_eq {x : Binary64} (h : x.IsShare) :
    Coercion.share (.float x) = .accept x := by
  rw [Coercion.share, Coercion.number, Checked.accept, Checked.andThen, h.1, h.2]
  rfl

/-- A score whose confidence is a share is accepted. -/
theorem ScoredBranch.build_eq {b : Branch} {confidence : Binary64} {matched total : Int}
    (h : confidence.IsShare) :
    build b confidence matched total = .ok ⟨b, confidence, matched, total⟩ := by
  rw [build, Coercion.share_eq h]
  rfl

namespace Branch

theorem length_ofFields (b : Branch) :
    (Condition.ofFields b.conditions).length = b.conditions.length := by
  rw [Condition.ofFields, List.length_map]

theorem matchedIn_le (b : Branch) (context : Json) :
    b.matchedIn context ≤ b.conditions.length := by
  rw [← b.length_ofFields]
  exact List.countP_le_length

theorem confidenceIn_isShare (b : Branch) (context : Json) : (b.confidenceIn context).IsShare :=
  Binary64.fraction_isShare (b.matchedIn_le context)

/-- A branch whose conditions have truth values has a score, which is always accepted as one. -/
theorem score_eq {b : Branch} {context : Json} (h : b.Evaluates context) :
    b.score context = .ok (b.scoredIn context) := by
  have hbuild : ScoredBranch.build b (b.confidenceIn context) (b.matchedIn context)
      b.conditions.length = .ok (b.scoredIn context) :=
    ScoredBranch.build_eq (b.confidenceIn_isShare context)
  rw [score, countHolding_eq h, length_ofFields]
  exact congrArg (Except.mapError ScoreError.rejected) hbuild

/-- What stops the evaluation of a branch's conditions, in their order. -/
def refusals (b : Branch) (context : Json) : List Pattern.Refusal :=
  (Condition.ofFields b.conditions).filterMap (·.refusal? context)

theorem evaluates_iff {b : Branch} {context : Json} :
    b.Evaluates context ↔ b.refusals context = [] := by
  rw [refusals, List.filterMap_eq_nil_iff]
  exact forall₂_congr fun c _ => Condition.evaluates_iff

theorem score_stops {b : Branch} {context : Json} {e : Pattern.Refusal}
    (h : (b.refusals context).head? = some e) : b.score context = .error (.refused e) := by
  rw [score, countHolding_stops h]

end Branch

/-! ## Steps that may fail -/

theorem bind_eq_ok_iff {α β ε : Type} {f : α → Except ε β} {outcome : Except ε α} {b : β} :
    outcome.bind f = .ok b ↔ ∃ a, outcome = .ok a ∧ f a = .ok b := by
  cases outcome <;> simp [Except.bind]

/-- All elements of a list are mapped by a function exactly if each one is. -/
theorem mapM_eq_map_iff {α β ε : Type} {f : α → Except ε β} {g : α → β} {l : List α} :
    l.mapM f = .ok (l.map g) ↔ ∀ a ∈ l, f a = .ok (g a) := by
  induction l with
  | nil => simp [pure, Except.pure]
  | cons a rest ih =>
    rw [List.mapM_cons, List.map_cons, List.forall_mem_cons, ← ih]
    cases f a with
    | error e => simp [bind, Except.bind]
    | ok b =>
      cases rest.mapM f with
      | error e => simp [bind, Except.bind]
      | ok others => simp [bind, Except.bind, pure, Except.pure]

/-! ## Scores of a list -/

namespace Branch

/-- Every condition of the branches that are no defaults has a truth value in a context. -/
def AllEvaluate (branches : List Branch) (context : Json) : Prop :=
  ∀ b ∈ branches, b.isDefault = false → b.Evaluates context

/-- The branches that compete by their scores. -/
def candidates (branches : List Branch) : List Branch :=
  branches.filter (!·.isDefault)

theorem mem_candidates {branches : List Branch} {b : Branch} :
    b ∈ candidates branches ↔ b ∈ branches ∧ b.isDefault = false := by
  simp [candidates]

theorem scoreAll_eq {branches : List Branch} {context : Json} (h : AllEvaluate branches context) :
    scoreAll branches context = .ok ((candidates branches).map (·.scoredIn context)) := by
  refine mapM_eq_map_iff.2 fun b hb => ?_
  obtain ⟨hmem, hdefault⟩ := mem_candidates.1 hb
  exact score_eq (h b hmem hdefault)

/-- What stops the evaluation of the candidates' conditions, in their order. -/
def allRefusals (branches : List Branch) (context : Json) : List Pattern.Refusal :=
  (candidates branches).flatMap (·.refusals context)

theorem allEvaluate_iff {branches : List Branch} {context : Json} :
    AllEvaluate branches context ↔ allRefusals branches context = [] := by
  rw [allRefusals, List.flatMap_eq_nil_iff]
  constructor
  · intro h b hb
    obtain ⟨hmem, hdefault⟩ := mem_candidates.1 hb
    exact evaluates_iff.1 (h b hmem hdefault)
  · intro h b hmem hdefault
    exact evaluates_iff.2 (h b (mem_candidates.2 ⟨hmem, hdefault⟩))

theorem not_allEvaluate_iff {branches : List Branch} {context : Json} :
    ¬ AllEvaluate branches context ↔ ∃ e, (allRefusals branches context).head? = some e := by
  rw [allEvaluate_iff, ← List.head?_eq_none_iff, ← Option.ne_none_iff_exists', ne_eq]

theorem mapM_score_stops {context : Json} {e : Pattern.Refusal} (l : List Branch)
    (h : (l.flatMap (·.refusals context)).head? = some e) :
    l.mapM (·.score context) = .error (.refused e) := by
  induction l with
  | nil => simp at h
  | cons b rest ih =>
    rw [List.mapM_cons]
    rw [List.flatMap_cons] at h
    cases hb : b.refusals context with
    | nil =>
      rw [hb, List.nil_append] at h
      rw [score_eq (evaluates_iff.2 hb), ih h]
      rfl
    | cons e' more =>
      rw [hb, List.cons_append, List.head?_cons] at h
      have hfirst : (b.refusals context).head? = some e := by rw [hb]; exact h
      rw [score_stops hfirst]
      rfl

/-- The first condition that stops the evaluation stops the scoring of all branches. -/
theorem scoreAll_stops {branches : List Branch} {context : Json} {e : Pattern.Refusal}
    (h : (allRefusals branches context).head? = some e) :
    scoreAll branches context = .error (.refused e) :=
  mapM_score_stops (candidates branches) h

end Branch

/-! ## The best score -/

/-- An item of a list that scores best, and is the first to do so: earlier ones score strictly less,
later ones no more. -/
def IsFirstMax {α : Type} (score : α → Binary64) (l : List α) (a : α) : Prop :=
  ∃ before after, l = before ++ a :: after ∧
    (∀ c ∈ before, (score c).lt (score a) = true) ∧ ∀ c ∈ after, (score c).le (score a) = true

namespace IsFirstMax

variable {α : Type} {score : α → Binary64} {l : List α} {a b : α}

theorem head_le (h : IsFirstMax score (b :: l) a) (hb : score b ≠ .nan) :
    (score b).le (score a) = true := by
  obtain ⟨before, after, heq, hbefore, -⟩ := h
  cases before with
  | nil =>
    obtain ⟨rfl, -⟩ := List.cons.inj heq
    exact Binary64.le_refl hb
  | cons c before =>
    obtain ⟨rfl, -⟩ := List.cons.inj heq
    exact Binary64.le_of_lt (hbefore _ (List.mem_cons_self ..))

theorem cons_lt (h : IsFirstMax score l a) (hb : (score b).lt (score a) = true) :
    IsFirstMax score (b :: l) a := by
  obtain ⟨before, after, rfl, hbefore, hafter⟩ := h
  refine ⟨b :: before, after, rfl, ?_, hafter⟩
  intro c hc
  rcases List.mem_cons.1 hc with rfl | hc
  · exact hb
  · exact hbefore c hc

/-- An item that scores no more than the one before it can be put after that one. -/
theorem insert (h : IsFirstMax score (b :: l) a) {c : α} (hc : (score c).le (score b) = true) :
    IsFirstMax score (b :: c :: l) a := by
  obtain ⟨before, after, heq, hbefore, hafter⟩ := h
  cases before with
  | nil =>
    obtain ⟨rfl, rfl⟩ := List.cons.inj heq
    refine ⟨[], c :: l, rfl, by simp, ?_⟩
    intro d hd
    rcases List.mem_cons.1 hd with rfl | hd
    · exact hc
    · exact hafter d hd
  | cons d before =>
    obtain ⟨rfl, rfl⟩ := List.cons.inj heq
    have hb : (score b).lt (score a) = true := hbefore b (List.mem_cons_self ..)
    refine ⟨b :: c :: before, after, rfl, ?_, hafter⟩
    intro d hd
    rcases List.mem_cons.1 hd with rfl | hd
    · exact hb
    · rcases List.mem_cons.1 hd with rfl | hd
      · exact Binary64.lt_of_le_of_lt' hc hb
      · exact hbefore d (List.mem_cons_of_mem _ hd)

/-- Nothing in the list scores more. -/
theorem bound (h : IsFirstMax score l a) (ha : score a ≠ .nan) (hb : b ∈ l) :
    (score b).le (score a) = true := by
  obtain ⟨before, after, rfl, hbefore, hafter⟩ := h
  rcases List.mem_append.1 hb with hb | hb
  · exact Binary64.le_of_lt (hbefore b hb)
  · rcases List.mem_cons.1 hb with rfl | hb
    · exact Binary64.le_refl ha
    · exact hafter b hb

theorem mem (h : IsFirstMax score l a) : a ∈ l := by
  obtain ⟨before, after, rfl, -, -⟩ := h
  simp

end IsFirstMax

/-- **The loop keeps the first best score.** -/
theorem foldl_isFirstMax {α : Type} {score : α → Binary64} (l : List α) :
    ∀ first, (∀ a ∈ first :: l, score a ≠ .nan) →
      IsFirstMax score (first :: l)
        (l.foldl (fun best a => if (score best).lt (score a) then a else best) first) := by
  induction l with
  | nil => intro first _; exact ⟨[], [], rfl, by simp, by simp⟩
  | cons a rest ih =>
    intro first hnan
    rw [List.foldl_cons]
    by_cases hlt : (score first).lt (score a) = true
    · rw [if_pos hlt]
      have hbest := ih a fun c hc => hnan c (List.mem_cons_of_mem _ hc)
      have hhead := hbest.head_le (hnan a (by simp))
      exact hbest.cons_lt (Binary64.lt_of_lt_of_le' hlt hhead)
    · rw [if_neg hlt]
      refine (ih first ?_).insert ?_
      · intro c hc
        rcases List.mem_cons.1 hc with rfl | hc
        · exact hnan _ (List.mem_cons_self ..)
        · exact hnan c (List.mem_cons_of_mem _ (List.mem_cons_of_mem _ hc))
      · exact Binary64.le_of_not_lt (hnan first (by simp)) (hnan a (by simp)) (by simpa using hlt)

/-! ## The selected branch -/

namespace Branch

/-- The first branch, among those that are no defaults, whose confidence no other one exceeds. -/
def IsFirstBest (branches : List Branch) (context : Json) (b : Branch) : Prop :=
  ∃ before after, branches = before ++ b :: after ∧ b.isDefault = false ∧
    (∀ c ∈ before, c.isDefault = false →
      (c.confidenceIn context).lt (b.confidenceIn context) = true) ∧
    ∀ c ∈ after, c.isDefault = false →
      (c.confidenceIn context).le (b.confidenceIn context) = true

/-- The first default branch. -/
def IsFirstDefault (branches : List Branch) (b : Branch) : Prop :=
  ∃ before after, branches = before ++ b :: after ∧ b.isDefault = true ∧
    ∀ c ∈ before, c.isDefault = false

/-- The confidence of a branch that is no default suffices for it to be selected. -/
def Eligible (b : Branch) (context : Json) : Prop :=
  b.isDefault = false ∧ ScoredBranch.threshold.le (b.confidenceIn context) = true

theorem confidenceIn_ne_nan (b : Branch) (context : Json) : b.confidenceIn context ≠ .nan :=
  Binary64.fraction_ne_nan _ _

/-- What comes first among the candidates comes first among all branches. -/
theorem isFirstBest_of_candidates {branches : List Branch} {context : Json} {b : Branch}
    (h : IsFirstMax (·.confidenceIn context) (candidates branches) b) :
    IsFirstBest branches context b := by
  obtain ⟨before, after, heq, hbefore, hafter⟩ := h
  obtain ⟨front, back, rfl, rfl, hback⟩ := List.filter_eq_append_iff.1 heq
  obtain ⟨skipped, rest, rfl, hskipped, hb, rfl⟩ := List.filter_eq_cons_iff.1 hback
  refine ⟨front ++ skipped, rest, by simp, by simpa using hb, ?_, ?_⟩
  · intro c hc hdefault
    rcases List.mem_append.1 hc with hc | hc
    · exact hbefore c (mem_candidates.2 ⟨hc, hdefault⟩)
    · exact absurd hdefault (by simpa using hskipped c hc)
  · intro c hc hdefault
    exact hafter c (mem_candidates.2 ⟨hc, hdefault⟩)

theorem isFirstDefault_of_find? {branches : List Branch} {b : Branch}
    (h : branches.find? (·.isDefault) = some b) : IsFirstDefault branches b := by
  obtain ⟨hb, before, after, rfl, hbefore⟩ := List.find?_eq_some_iff_append.1 h
  exact ⟨before, after, rfl, hb, fun c hc => by simpa using hbefore c hc⟩

/-- The best of the candidates' scores is the score of the first best branch. -/
theorem best?_scoredIn {candidates : List Branch} (context : Json) (h : candidates ≠ []) :
    ∃ b, IsFirstMax (·.confidenceIn context) candidates b ∧
      ScoredBranch.best? (candidates.map (·.scoredIn context)) = some (b.scoredIn context) := by
  obtain ⟨first, rest, rfl⟩ := List.exists_cons_of_ne_nil h
  refine ⟨_, foldl_isFirstMax rest first fun b _ => b.confidenceIn_ne_nan context, ?_⟩
  rw [List.map_cons, ScoredBranch.best?, List.foldl_map]
  refine congrArg some (List.foldl_hom (fun b : Branch => b.scoredIn context) fun best b => ?_)
  rw [apply_ite (fun b : Branch => b.scoredIn context)]
  rfl

end Branch

open Branch

section Selection

variable {branches : List Branch} {context : Json}

/-- An eligible branch makes the first best branch eligible, and that one is selected. -/
theorem selectBranch_of_eligible (h : AllEvaluate branches context)
    (heligible : ∃ b ∈ branches, b.Eligible context) :
    ∃ b, IsFirstBest branches context b ∧ b.Eligible context ∧
      selectBranch branches context = .ok (b.scoredIn context) := by
  obtain ⟨b, hmem, hdefault, hthreshold⟩ := heligible
  have hb : b ∈ candidates branches := mem_candidates.2 ⟨hmem, hdefault⟩
  obtain ⟨best, hfirst, hbest⟩ := best?_scoredIn context (List.ne_nil_of_mem hb)
  have hle : ScoredBranch.threshold.le (best.confidenceIn context) = true :=
    Binary64.le_trans' hthreshold (hfirst.bound (best.confidenceIn_ne_nan context) hb)
  have hscored : (best.scoredIn context).isEligible = true := hle
  refine ⟨best, isFirstBest_of_candidates hfirst, ⟨(mem_candidates.1 hfirst.mem).2, hle⟩, ?_⟩
  rw [selectBranch, scoreAll_eq h]
  simp only [hbest, Option.filter_some, hscored, if_true]

/-- Without an eligible branch the scores select none. -/
theorem best?_not_eligible (hnone : ¬ ∃ b ∈ branches, b.Eligible context) :
    (ScoredBranch.best? ((candidates branches).map (·.scoredIn context))).filter (·.isEligible) =
      none := by
  by_cases hnil : candidates branches = []
  · rw [hnil]
    rfl
  · obtain ⟨best, hfirst, hbest⟩ := best?_scoredIn context hnil
    obtain ⟨hmem, hdefault⟩ := mem_candidates.1 hfirst.mem
    have hscored : (best.scoredIn context).isEligible = false := by
      rw [← Bool.not_eq_true]
      exact fun hle => hnone ⟨best, hmem, hdefault, hle⟩
    rw [hbest, Option.filter_some, hscored]
    rfl

theorem ofDefault_eq (b : Branch) :
    ScoredBranch.ofDefault b = .ok ⟨b, ScoredBranch.defaultConfidence, 0, 0⟩ := by
  have hshare : ScoredBranch.defaultConfidence.IsShare := Binary64.one_isShare
  rw [ScoredBranch.ofDefault, ScoredBranch.build_eq hshare]
  rfl

/-- Without an eligible branch the first default branch is selected. -/
theorem selectBranch_of_default (h : AllEvaluate branches context)
    (hnone : ¬ ∃ b ∈ branches, b.Eligible context) (hdefault : ∃ b ∈ branches, b.isDefault = true) :
    ∃ b, IsFirstDefault branches b ∧
      selectBranch branches context = .ok ⟨b, ScoredBranch.defaultConfidence, 0, 0⟩ := by
  obtain ⟨d, hmem, hd⟩ := hdefault
  obtain ⟨b, hb⟩ := Option.isSome_iff_exists.1 (List.find?_isSome.2 ⟨d, hmem, hd⟩)
  refine ⟨b, isFirstDefault_of_find? hb, ?_⟩
  rw [selectBranch, scoreAll_eq h]
  simp only [best?_not_eligible hnone, hb, ofDefault_eq]
  rfl

theorem selectBranch_of_none (h : AllEvaluate branches context)
    (hnone : ¬ ∃ b ∈ branches, b.Eligible context)
    (hdefault : ¬ ∃ b ∈ branches, b.isDefault = true) :
    selectBranch branches context = .error .noSuitable := by
  have hfind : branches.find? (·.isDefault) = none := by
    rw [List.find?_eq_none]
    exact fun b hb hd => hdefault ⟨b, hb, hd⟩
  rw [selectBranch, scoreAll_eq h]
  simp only [best?_not_eligible hnone, hfind]

/-- An eligible branch or a default one is enough for some branch to be selected. -/
theorem exists_selected (h : AllEvaluate branches context)
    (hsome : (∃ b ∈ branches, b.Eligible context) ∨ ∃ b ∈ branches, b.isDefault = true) :
    ∃ s, selectBranch branches context = .ok s := by
  by_cases heligible : ∃ b ∈ branches, b.Eligible context
  · obtain ⟨b, -, -, hb⟩ := selectBranch_of_eligible h heligible
    exact ⟨_, hb⟩
  · have hdefault := hsome.resolve_left heligible
    obtain ⟨b, -, hb⟩ := selectBranch_of_default h heligible hdefault
    exact ⟨_, hb⟩

theorem selectBranch_stops {e : Pattern.Refusal}
    (h : (allRefusals branches context).head? = some e) :
    selectBranch branches context = .error (.unscored (.refused e)) := by
  rw [selectBranch, scoreAll_stops h]

/-- Whatever is selected is the first best branch, or else, without an eligible branch, the first
default one. -/
theorem selectBranch_cases {s : ScoredBranch} (h : selectBranch branches context = .ok s) :
    (∃ b, IsFirstBest branches context b ∧ b.Eligible context ∧ s = b.scoredIn context) ∨
      (¬ ∃ b ∈ branches, b.Eligible context) ∧
        ∃ b, IsFirstDefault branches b ∧ s = ⟨b, ScoredBranch.defaultConfidence, 0, 0⟩ := by
  by_cases hall : AllEvaluate branches context
  · by_cases heligible : ∃ b ∈ branches, b.Eligible context
    · obtain ⟨b, hbest, hb, hselected⟩ := selectBranch_of_eligible hall heligible
      exact .inl ⟨b, hbest, hb, Except.ok.inj (h.symm.trans hselected)⟩
    · by_cases hdefault : ∃ b ∈ branches, b.isDefault = true
      · obtain ⟨b, hfirst, hselected⟩ := selectBranch_of_default hall heligible hdefault
        exact .inr ⟨heligible, b, hfirst, Except.ok.inj (h.symm.trans hselected)⟩
      · rw [selectBranch_of_none hall heligible hdefault] at h
        exact absurd h (by simp)
  · obtain ⟨e, he⟩ := not_allEvaluate_iff.1 hall
    rw [selectBranch_stops he] at h
    exact absurd h (by simp)

/-- Whatever is selected, its confidence is a share. -/
theorem selectBranch_isShare {s : ScoredBranch} (h : selectBranch branches context = .ok s) :
    s.confidence.IsShare := by
  rcases selectBranch_cases h with ⟨b, -, -, rfl⟩ | ⟨-, b, -, rfl⟩
  · exact b.confidenceIn_isShare context
  · exact Binary64.one_isShare

/-- Whatever is selected is one of the branches. -/
theorem selectBranch_mem {s : ScoredBranch} (h : selectBranch branches context = .ok s) :
    s.branch ∈ branches := by
  rcases selectBranch_cases h with ⟨b, hfirst, -, rfl⟩ | ⟨-, b, hfirst, rfl⟩
  · obtain ⟨before, after, rfl, -⟩ := hfirst
    exact List.mem_append_right _ List.mem_cons_self
  · obtain ⟨before, after, rfl, -⟩ := hfirst
    exact List.mem_append_right _ List.mem_cons_self

end Selection

/-! ## What the selection does not look at -/

theorem mapM_map_comm {α β ε : Type} {g : α → Except ε β} {f : α → α} {f' : β → β}
    (h : ∀ a, g (f a) = (g a).map f') (l : List α) :
    (l.map f).mapM g = (l.mapM g).map (List.map f') := by
  induction l with
  | nil => rfl
  | cons a rest ih =>
    rw [List.map_cons, List.mapM_cons, List.mapM_cons, h a, ih]
    cases g a with
    | error e => rfl
    | ok b => cases rest.mapM g <;> rfl

namespace ScoredBranch

/-- The score given to another branch. -/
def mapBranch (f : Branch → Branch) (s : ScoredBranch) : ScoredBranch :=
  { s with branch := f s.branch }

theorem build_map (f : Branch → Branch) (b : Branch) (confidence : Binary64)
    (matched total : Int) :
    build (f b) confidence matched total =
      (build b confidence matched total).map (mapBranch f) := by
  unfold build
  cases Coercion.share (.float confidence) <;> rfl

theorem best?_map (f : Branch → Branch) (scores : List ScoredBranch) :
    best? (scores.map (mapBranch f)) = (best? scores).map (mapBranch f) := by
  cases scores with
  | nil => rfl
  | cons first rest =>
    rw [List.map_cons, best?, best?, List.foldl_map, Option.map_some]
    refine congrArg some (List.foldl_hom (mapBranch f) fun best s => ?_)
    rw [apply_ite (mapBranch f)]
    rfl

end ScoredBranch

section Relabelled

variable {f : Branch → Branch} (hdefault : ∀ b, (f b).isDefault = b.isDefault)
  (hconditions : ∀ b, (f b).conditions = b.conditions)

include hconditions in
theorem score_map (b : Branch) (context : Json) :
    (f b).score context = (b.score context).map (ScoredBranch.mapBranch f) := by
  rw [Branch.score, Branch.score, hconditions]
  cases countHolding (Condition.ofFields b.conditions) context with
  | error e => rfl
  | ok counts =>
    obtain ⟨matched, total⟩ := counts
    dsimp only
    rw [ScoredBranch.build_map]
    cases ScoredBranch.build b (.fraction matched total) matched total <;> rfl

include hdefault hconditions

theorem scoreAll_map (branches : List Branch) (context : Json) :
    scoreAll (branches.map f) context =
      (scoreAll branches context).map (List.map (ScoredBranch.mapBranch f)) := by
  have hfilter : (branches.map f).filter (!·.isDefault) =
      (branches.filter (!·.isDefault)).map f := by
    rw [List.filter_map]
    refine congrArg (List.map f) (List.filter_congr fun b _ => ?_)
    rw [Function.comp_apply, hdefault]
  rw [scoreAll, scoreAll, hfilter]
  exact mapM_map_comm (fun b => score_map hconditions b context) _

/-- **The selection looks at nothing but conditions and default marks.**  If all else in the
branches is changed, the same branch is selected, with the same score. -/
theorem selectBranch_map (branches : List Branch) (context : Json) :
    selectBranch (branches.map f) context =
      (selectBranch branches context).map (ScoredBranch.mapBranch f) := by
  have hfind : (branches.map f).find? (·.isDefault) = (branches.find? (·.isDefault)).map f := by
    rw [List.find?_map]
    congr 2
    funext b
    exact hdefault b
  rw [selectBranch, selectBranch, scoreAll_map hdefault hconditions, hfind]
  cases scoreAll branches context with
  | error e => rfl
  | ok scores =>
    simp only [Except.map, ScoredBranch.best?_map]
    cases ScoredBranch.best? scores with
    | none =>
      cases branches.find? (·.isDefault) with
      | none => rfl
      | some b =>
        simp only [Option.map_none, Option.map_some, Option.filter_none, ofDefault_eq]
        rfl
    | some best =>
      have heligible : (ScoredBranch.mapBranch f best).isEligible = best.isEligible := rfl
      simp only [Option.map_some, Option.filter_some, heligible]
      cases best.isEligible with
      | true => rfl
      | false =>
        cases branches.find? (·.isDefault) with
        | none => rfl
        | some b => simp only [Option.map_some, ofDefault_eq]; rfl

end Relabelled

/-- The branch with no priority of its own. -/
def Branch.withoutPriority (b : Branch) : Branch :=
  { b with priority := none }

/-- The scored branch with no priority of its own. -/
def ScoredBranch.withoutPriority (s : ScoredBranch) : ScoredBranch :=
  s.mapBranch Branch.withoutPriority

/-- Lists that differ in priorities only have the same selection, up to the priority. -/
theorem selectBranch_withoutPriority {branches others : List Branch} (context : Json)
    (h : others.map (·.withoutPriority) = branches.map (·.withoutPriority)) :
    (selectBranch others context).map (·.withoutPriority) =
      (selectBranch branches context).map (·.withoutPriority) := by
  have hmap (l : List Branch) : selectBranch (l.map (·.withoutPriority)) context =
      (selectBranch l context).map (·.withoutPriority) :=
    selectBranch_map (f := Branch.withoutPriority) (fun _ => rfl) (fun _ => rfl) l context
  rw [← hmap others, h, hmap branches]

/-! ## The rule of selection -/

/-- **The rule of selection.**  Where all conditions of the branches that are no defaults have truth
values: if one of these branches has a confidence of at least one half, the first of those with the
greatest confidence is selected, with its own score; otherwise, if there is a default branch, the
first one is, with confidence one and no counts; otherwise none is.  Priorities play no part. -/
theorem selectBranch_spec (branches : List Branch) (context : Json)
    (h : AllEvaluate branches context) :
    ((∃ b ∈ branches, b.Eligible context) →
      ∃ b, IsFirstBest branches context b ∧ b.Eligible context ∧
        selectBranch branches context = .ok (b.scoredIn context)) ∧
    (¬ (∃ b ∈ branches, b.Eligible context) → (∃ b ∈ branches, b.isDefault = true) →
      ∃ b, IsFirstDefault branches b ∧
        selectBranch branches context = .ok ⟨b, ScoredBranch.defaultConfidence, 0, 0⟩) ∧
    (¬ (∃ b ∈ branches, b.Eligible context) → ¬ (∃ b ∈ branches, b.isDefault = true) →
      selectBranch branches context = .error .noSuitable) ∧
    ∀ others : List Branch,
      others.map (·.withoutPriority) = branches.map (·.withoutPriority) →
      (selectBranch others context).map (·.withoutPriority) =
        (selectBranch branches context).map (·.withoutPriority) :=
  ⟨selectBranch_of_eligible h, selectBranch_of_default h, selectBranch_of_none h,
    fun _ hothers => selectBranch_withoutPriority context hothers⟩

/-- Of two branches with a confidence of one half each, after a default one, the first is
selected. -/
theorem selectBranch_spec_tie :
    let fallback : Branch := ⟨"d", "Default", [], none, true, none⟩
    let first : Branch := ⟨"a", "First", [("n", .int 1), ("m", .int 1)], none, false, none⟩
    let second : Branch := ⟨"b", "Second", [("n", .int 1), ("k", .int 1)], none, false, none⟩
    let branches := [fallback, first, second]
    let context : Json := .object [("n", .int 1)]
    AllEvaluate branches context ∧ (∃ b ∈ branches, b.Eligible context) ∧
      ∃ b, IsFirstBest branches context b ∧ b.Eligible context ∧
        selectBranch branches context = .ok (b.scoredIn context) := by
  intro fallback first second branches context
  have h : AllEvaluate branches context := by
    intro b hb _ c hc
    simp only [branches, List.mem_cons, List.not_mem_nil, or_false] at hb
    rcases hb with rfl | rfl | rfl
    · simp [Condition.ofFields, fallback] at hc
    · simp only [Condition.ofFields, first, List.map_cons, List.map_nil, List.mem_cons,
        List.not_mem_nil, or_false] at hc
      rcases hc with rfl | rfl <;> exact ⟨_, rfl⟩
    · simp only [Condition.ofFields, second, List.map_cons, List.map_nil, List.mem_cons,
        List.not_mem_nil, or_false] at hc
      rcases hc with rfl | rfl <;> exact ⟨_, rfl⟩
  have heligible : ∃ b ∈ branches, b.Eligible context :=
    ⟨first, by simp [branches], rfl, by decide +kernel⟩
  exact ⟨h, heligible, (selectBranch_spec branches context h).1 heligible⟩

end BranchChoice
