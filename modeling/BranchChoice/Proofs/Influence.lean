import BranchChoice.Proofs.Selection
import Mathlib.Data.List.Forall2

/-!
# What a selection depends on

A condition sees of a context only what its own path leads to, and the selection sees of a branch
only whether it is a default one and, if it is none, its conditions.

* `Condition.holds_congr` is this for one condition, and `Branch.confidenceIn_congr` and
  `Branch.refusals_congr` are this for the score of a branch and for what keeps it from having one.
* `Branch.PlaysAs` relates branches that the selection cannot tell apart, each in its own context.
* `selectBranch_congr`: lists of such branches have the same selection, at the same place.
-/

namespace BranchChoice

/-! ## Conditions -/

namespace Condition

variable {c : Condition} {context other : Json}

/-- A condition sees of a context what its path leads to. -/
theorem holds_congr (h : context.resolve c.path = other.resolve c.path) :
    c.holds context = c.holds other := by
  cases c with
  | bare key expected => rw [holds, holds, h]
  | declared key operator operand field => rw [holds, holds, h]

theorem isMet_congr (h : context.resolve c.path = other.resolve c.path) :
    c.isMet context = c.isMet other := by
  rw [isMet, isMet, holds_congr h]

theorem refusal?_congr (h : context.resolve c.path = other.resolve c.path) :
    c.refusal? context = c.refusal? other := by
  rw [refusal?, refusal?, holds_congr h]

end Condition

/-! ## Branches -/

namespace Branch

/-- Two contexts have the same in them wherever a condition of the branch looks. -/
def SeesAlike (b : Branch) (context other : Json) : Prop :=
  ∀ c ∈ Condition.ofFields b.conditions, context.resolve c.path = other.resolve c.path

/-- Two branches have the same part in a selection: both are defaults, or neither is and they have
the same conditions. -/
structure SameRole (b c : Branch) : Prop where
  isDefault : b.isDefault = c.isDefault
  conditions : b.isDefault = false → b.conditions = c.conditions

variable {b c : Branch} {context other : Json}

theorem matchedIn_congr (hconditions : b.conditions = c.conditions)
    (hsees : b.SeesAlike context other) : b.matchedIn context = c.matchedIn other := by
  rw [matchedIn, matchedIn, ← hconditions]
  refine List.countP_congr fun d hd => ?_
  rw [Condition.isMet_congr (hsees d hd)]

theorem confidenceIn_congr (hconditions : b.conditions = c.conditions)
    (hsees : b.SeesAlike context other) : b.confidenceIn context = c.confidenceIn other := by
  rw [confidenceIn, confidenceIn, matchedIn_congr hconditions hsees, hconditions]

theorem refusals_congr (hconditions : b.conditions = c.conditions)
    (hsees : b.SeesAlike context other) : b.refusals context = c.refusals other := by
  rw [refusals, refusals, ← hconditions]
  exact List.filterMap_congr fun d hd => Condition.refusal?_congr (hsees d hd)

/-- Two branches, each in its own context, that a selection cannot tell apart. -/
def PlaysAs (context other : Json) (b c : Branch) : Prop :=
  (b.isDefault = false → b.SeesAlike context other) ∧ b.SameRole c

theorem PlaysAs.confidenceIn_eq (h : PlaysAs context other b c) (hb : b.isDefault = false) :
    b.confidenceIn context = c.confidenceIn other :=
  confidenceIn_congr (h.2.conditions hb) (h.1 hb)

theorem PlaysAs.eligible_iff (h : PlaysAs context other b c) :
    b.Eligible context ↔ c.Eligible other := by
  rw [Eligible, Eligible, ← h.2.isDefault]
  refine and_congr_right fun hb => ?_
  rw [h.confidenceIn_eq hb]

end Branch

/-! ## Lists side by side -/

/-- Where a list is split, one beside it is split at the same place. -/
theorem split_of_forall₂ {α β : Type} {R : α → β → Prop} {before after : List α} {a : α}
    {others : List β} (h : List.Forall₂ R (before ++ a :: after) others) :
    ∃ before' b after', others = before' ++ b :: after' ∧ List.Forall₂ R before before' ∧ R a b ∧
      List.Forall₂ R after after' := by
  induction before generalizing others with
  | nil =>
    obtain ⟨b, after', hab, hafter, rfl⟩ := List.forall₂_cons_left_iff.1 h
    exact ⟨[], b, after', rfl, .nil, hab, hafter⟩
  | cons x before ih =>
    obtain ⟨y, others', hxy, hrest, rfl⟩ := List.forall₂_cons_left_iff.1 h
    obtain ⟨before', b, after', rfl, hbefore, hab, hafter⟩ := ih hrest
    exact ⟨y :: before', b, after', rfl, .cons hxy hbefore, hab, hafter⟩

theorem exists_mem_of_forall₂ {α β : Type} {R : α → β → Prop} {l : List α} {others : List β}
    (h : List.Forall₂ R l others) {b : β} (hb : b ∈ others) : ∃ a ∈ l, R a b := by
  induction h with
  | nil => simp at hb
  | @cons x y l others hxy _ ih =>
    rcases List.mem_cons.1 hb with rfl | hb
    · exact ⟨x, List.mem_cons_self .., hxy⟩
    · obtain ⟨a, ha, hab⟩ := ih hb
      exact ⟨a, List.mem_cons_of_mem _ ha, hab⟩

namespace Branch

/-- A branch stands at a place of a list, and at no earlier one. -/
def StandsAt (branches : List Branch) (place : Nat) (b : Branch) : Prop :=
  branches[place]? = some b ∧ ∀ earlier < place, branches[earlier]? ≠ some b

theorem standsAt_of_split {before after : List Branch} {b : Branch} (h : b ∉ before) :
    StandsAt (before ++ b :: after) before.length b := by
  refine ⟨by simp, fun earlier hlt heq => h ?_⟩
  rw [List.getElem?_append_left hlt] at heq
  exact List.mem_of_getElem? heq

variable {branches others : List Branch} {context other : Json} {b c : Branch}

/-! ## The first best branch -/

/-- A list has one first best branch at most. -/
theorem IsFirstBest.unique (hb : IsFirstBest branches context b)
    (hc : IsFirstBest branches context c) : b = c := by
  obtain ⟨before, after, rfl, hbdefault, hbefore, hafter⟩ := hb
  obtain ⟨before', after', heq, hcdefault, hbefore', hafter'⟩ := hc
  -- of two places, the branch at the earlier one is exceeded by the one at the later
  have hno {x y : Branch} (hlt : (x.confidenceIn context).lt (y.confidenceIn context) = true)
      (hle : (y.confidenceIn context).le (x.confidenceIn context) = true) : False := by
    have hself := Binary64.lt_of_lt_of_le' hlt hle
    rw [Binary64.lt_irrefl] at hself
    exact Bool.noConfusion hself
  rcases List.append_eq_append_iff.1 heq with ⟨gap, rfl, hgap⟩ | ⟨gap, rfl, hgap⟩
  · cases gap with
    | nil => exact (List.cons.inj hgap).1
    | cons x gap =>
      obtain ⟨rfl, rfl⟩ := List.cons.inj hgap
      exact (hno (hbefore' b (by simp) hbdefault) (hafter c (by simp) hcdefault)).elim
  · cases gap with
    | nil => exact (List.cons.inj hgap).1.symm
    | cons x gap =>
      obtain ⟨rfl, rfl⟩ := List.cons.inj hgap
      exact (hno (hbefore c (by simp) hcdefault) (hafter' b (by simp) hbdefault)).elim

/-- What holds of the confidence of every branch that is no default holds so in a list beside it. -/
theorem forall_confidence_beside {P : Binary64 → Prop}
    (h : List.Forall₂ (PlaysAs context other) branches others)
    (hP : ∀ b ∈ branches, b.isDefault = false → P (b.confidenceIn context)) :
    ∀ c ∈ others, c.isDefault = false → P (c.confidenceIn other) := by
  intro c hc hcdefault
  obtain ⟨b, hb, hbc⟩ := exists_mem_of_forall₂ h hc
  have hdefault : b.isDefault = false := hbc.2.isDefault.trans hcdefault
  rw [← hbc.confidenceIn_eq hdefault]
  exact hP b hb hdefault

/-- The first best branch stands where the first best branch of a list beside it does. -/
theorem IsFirstBest.beside (h : List.Forall₂ (PlaysAs context other) branches others)
    (hb : IsFirstBest branches context b) :
    ∃ place c, StandsAt branches place b ∧ StandsAt others place c ∧ PlaysAs context other b c ∧
      IsFirstBest others other c := by
  obtain ⟨before, after, rfl, hdefault, hbefore, hafter⟩ := hb
  obtain ⟨before', c, after', rfl, hfront, hbc, hback⟩ := split_of_forall₂ h
  have hcdefault : c.isDefault = false := hbc.2.isDefault ▸ hdefault
  have hbefore' : ∀ d ∈ before', d.isDefault = false →
      (d.confidenceIn other).lt (c.confidenceIn other) = true := by
    rw [← hbc.confidenceIn_eq hdefault]
    exact forall_confidence_beside (P := (·.lt (b.confidenceIn context) = true)) hfront hbefore
  have hafter' : ∀ d ∈ after', d.isDefault = false →
      (d.confidenceIn other).le (c.confidenceIn other) = true := by
    rw [← hbc.confidenceIn_eq hdefault]
    exact forall_confidence_beside (P := (·.le (b.confidenceIn context) = true)) hback hafter
  have hb : b ∉ before := by
    intro hmem
    simpa [Binary64.lt_irrefl] using hbefore b hmem hdefault
  have hc : c ∉ before' := by
    intro hmem
    simpa [Binary64.lt_irrefl] using hbefore' c hmem hcdefault
  refine ⟨before.length, c, standsAt_of_split hb, ?_, hbc,
    before', after', rfl, hcdefault, hbefore', hafter'⟩
  rw [hfront.length_eq]
  exact standsAt_of_split hc

/-! ## The first default branch -/

theorem IsFirstDefault.unique (hb : IsFirstDefault branches b) (hc : IsFirstDefault branches c) :
    b = c := by
  have hfind {d : Branch} (hd : IsFirstDefault branches d) :
      branches.find? (·.isDefault) = some d := by
    obtain ⟨before, after, rfl, hdefault, hbefore⟩ := hd
    exact List.find?_eq_some_iff_append.2
      ⟨hdefault, before, after, rfl, fun x hx => by simp [hbefore x hx]⟩
  exact Option.some.inj ((hfind hb).symm.trans (hfind hc))

/-- The first default branch stands where the first default branch of a list beside it does. -/
theorem IsFirstDefault.beside (h : List.Forall₂ (PlaysAs context other) branches others)
    (hb : IsFirstDefault branches b) :
    ∃ place c, StandsAt branches place b ∧ StandsAt others place c ∧ IsFirstDefault others c := by
  obtain ⟨before, after, rfl, hdefault, hbefore⟩ := hb
  obtain ⟨before', c, after', rfl, hfront, hbc, -⟩ := split_of_forall₂ h
  have hcdefault : c.isDefault = true := hbc.2.isDefault ▸ hdefault
  have hbefore' : ∀ d ∈ before', d.isDefault = false := by
    intro d hd
    obtain ⟨x, hx, hxd⟩ := exists_mem_of_forall₂ hfront hd
    exact hxd.2.isDefault ▸ hbefore x hx
  have hb : b ∉ before := by
    intro hmem
    simpa [hdefault] using hbefore b hmem
  have hc : c ∉ before' := by
    intro hmem
    simpa [hcdefault] using hbefore' c hmem
  refine ⟨before.length, c, standsAt_of_split hb, ?_, before', after', rfl, hcdefault, hbefore'⟩
  rw [hfront.length_eq]
  exact standsAt_of_split hc

/-! ## What stops the evaluation -/

theorem allRefusals_congr (h : List.Forall₂ (PlaysAs context other) branches others) :
    allRefusals branches context = allRefusals others other := by
  induction h with
  | nil => rfl
  | @cons b c branches others hbc _ ih =>
    simp only [allRefusals, candidates] at ih ⊢
    cases hb : b.isDefault with
    | true =>
      have hc : c.isDefault = true := hbc.2.isDefault ▸ hb
      simpa [hb, hc] using ih
    | false =>
      have hc : c.isDefault = false := hbc.2.isDefault ▸ hb
      simp [hb, hc, ih, refusals_congr (hbc.2.conditions hb) (hbc.1 hb)]

end Branch

open Branch

section Selection

variable {branches others : List Branch} {context other : Json} {b : Branch}

/-- The first best branch is selected, if it is eligible. -/
theorem selectBranch_of_isFirstBest (h : AllEvaluate branches context)
    (hb : IsFirstBest branches context b) (heligible : b.Eligible context) :
    selectBranch branches context = .ok (b.scoredIn context) := by
  have hmem : b ∈ branches := by
    obtain ⟨before, after, rfl, -⟩ := hb
    simp
  obtain ⟨c, hc, -, hselect⟩ := selectBranch_of_eligible h ⟨b, hmem, heligible⟩
  rw [hb.unique hc, hselect]

/-- The first default branch is selected, if no branch is eligible. -/
theorem selectBranch_of_isFirstDefault (h : AllEvaluate branches context)
    (hnone : ¬ ∃ c ∈ branches, c.Eligible context) (hb : IsFirstDefault branches b) :
    selectBranch branches context = .ok ⟨b, ScoredBranch.defaultConfidence, 0, 0⟩ := by
  have hdefault : ∃ c ∈ branches, c.isDefault = true := by
    obtain ⟨before, after, rfl, hdefault, -⟩ := hb
    exact ⟨b, by simp, hdefault⟩
  obtain ⟨c, hc, hselect⟩ := selectBranch_of_default h hnone hdefault
  rw [hb.unique hc, hselect]

/-- What is selected from a list, and where the selected branch stands in it. -/
structure SelectedAt (branches : List Branch) (context : Json) (place : Nat) (s : ScoredBranch) :
    Prop where
  selected : selectBranch branches context = .ok s
  stands : StandsAt branches place s.branch

/-- **What a selection depends on.**  Let two lists have default branches at the same places, and
the same conditions at all others; and let two contexts have the same in them wherever one of these
conditions looks.  Then either no branch is selected from either list, for the same reason, or the
branches at one and the same place are, with the same score.  Nothing else in the branches or in the
contexts matters. -/
theorem selectBranch_congr (hroles : List.Forall₂ SameRole branches others)
    (hsees : ∀ b ∈ branches, b.isDefault = false → b.SeesAlike context other) :
    (∃ e, selectBranch branches context = .error e ∧ selectBranch others other = .error e) ∨
      ∃ place s t, SelectedAt branches context place s ∧ SelectedAt others other place t ∧
        s.confidence = t.confidence ∧ s.matched = t.matched ∧ s.total = t.total := by
  have h : List.Forall₂ (PlaysAs context other) branches others :=
    (List.forall₂_and_left _ _).2 ⟨hsees, hroles⟩
  have hrefusals := allRefusals_congr h
  by_cases hall : AllEvaluate branches context
  · have hall' : AllEvaluate others other := by
      rwa [allEvaluate_iff, ← hrefusals, ← allEvaluate_iff]
    by_cases heligible : ∃ b ∈ branches, b.Eligible context
    · obtain ⟨b, hbest, hb, hselect⟩ := selectBranch_of_eligible hall heligible
      obtain ⟨place, c, hplace, hplace', hbc, hbest'⟩ := hbest.beside h
      have hselect' := selectBranch_of_isFirstBest hall' hbest' (hbc.eligible_iff.1 hb)
      have hconditions := hbc.2.conditions hb.1
      have hmatched : (b.scoredIn context).matched = (c.scoredIn other).matched :=
        congrArg Int.ofNat (matchedIn_congr hconditions (hbc.1 hb.1))
      have htotal : (b.scoredIn context).total = (c.scoredIn other).total :=
        congrArg (fun fields : Fields => Int.ofNat fields.length) hconditions
      exact .inr ⟨place, _, _, ⟨hselect, hplace⟩, ⟨hselect', hplace'⟩, hbc.confidenceIn_eq hb.1,
        hmatched, htotal⟩
    · have hnone : ¬ ∃ c ∈ others, c.Eligible other := by
        rintro ⟨c, hc, hceligible⟩
        obtain ⟨b, hb, hbc⟩ := exists_mem_of_forall₂ h hc
        exact heligible ⟨b, hb, hbc.eligible_iff.2 hceligible⟩
      by_cases hdefault : ∃ b ∈ branches, b.isDefault = true
      · obtain ⟨b, hfirst, hselect⟩ := selectBranch_of_default hall heligible hdefault
        obtain ⟨place, c, hplace, hplace', hfirst'⟩ := hfirst.beside h
        have hselect' := selectBranch_of_isFirstDefault hall' hnone hfirst'
        exact .inr ⟨place, _, _, ⟨hselect, hplace⟩, ⟨hselect', hplace'⟩, rfl, rfl, rfl⟩
      · have hdefault' : ¬ ∃ c ∈ others, c.isDefault = true := by
          rintro ⟨c, hc, hcdefault⟩
          obtain ⟨b, hb, hbc⟩ := exists_mem_of_forall₂ h hc
          exact hdefault ⟨b, hb, hbc.2.isDefault.trans hcdefault⟩
        exact .inl ⟨_, selectBranch_of_none hall heligible hdefault,
          selectBranch_of_none hall' hnone hdefault'⟩
  · obtain ⟨e, he⟩ := not_allEvaluate_iff.1 hall
    exact .inl ⟨_, selectBranch_stops he, selectBranch_stops (hrefusals ▸ he)⟩

/-- Two workflows that differ in all their labels and in the conditions of their default branches,
asked about contacts of whom they only look at the same plan: each selects its second branch. -/
theorem selectBranch_congr_relabelled :
    let asked : Fields := [("plan", .object
      [("field", .text "form_data.plan"), ("operator", .text "contains"), ("value", .text "Pro")])]
    let branches : List Branch :=
      [⟨"f", "Fallback", [("form_data.age", .int 3)], some (.ofInt 1), true, some "w"⟩,
        ⟨"p", "Professional", asked, some (.ofInt 2), false, some "w"⟩]
    let others : List Branch :=
      [⟨"g", "Otherwise", [], none, true, none⟩, ⟨"q", "Paying", asked, some .nan, false, some "v"⟩]
    let context : Json :=
      .object [("form_data", .object [("plan", .text "pro"), ("age", .int 3)])]
    let other : Json := .object [("form_data", .object [("plan", .text "pro")]), ("n", .null)]
    List.Forall₂ SameRole branches others ∧
      (∀ b ∈ branches, b.isDefault = false → b.SeesAlike context other) ∧
      ∃ place s t, SelectedAt branches context place s ∧ SelectedAt others other place t ∧
        s.confidence = t.confidence ∧ s.matched = t.matched ∧ s.total = t.total := by
  intro asked branches others context other
  have hroles : List.Forall₂ SameRole branches others :=
    .cons ⟨rfl, nofun⟩ (.cons ⟨rfl, fun _ => rfl⟩ .nil)
  have hsees : ∀ b ∈ branches, b.isDefault = false → b.SeesAlike context other := by
    intro b hb hdefault c hc
    simp only [branches, List.mem_cons, List.not_mem_nil, or_false] at hb
    rcases hb with rfl | rfl
    · exact Bool.noConfusion hdefault
    · obtain rfl := List.mem_singleton.1 hc
      rfl
  have hselected : (selectBranch branches context).isOk = true := by decide +kernel
  refine ⟨hroles, hsees, ?_⟩
  rcases selectBranch_congr hroles hsees with ⟨e, he, -⟩ | hplace
  · rw [he] at hselected
    exact Bool.noConfusion hselected
  · exact hplace

end Selection

end BranchChoice
