import BranchChoice.Pattern.Parser
import BranchChoice.Proofs.NumberText
import Mathlib.Data.List.TakeWhile

/-!
# Why a text is refused as a pattern

A pattern is read from the front, so what is left to read is always an end of the text
(`Within`).  Of the refusals, those of a count come from digits that stand in the text after an
opening brace, and that of mixed classes from two letters of the text: `compile_error_cause`.
Conversely any count that is refused can be the reason: `compile_count`.

All reading steps are built from a few, so each keeps to the text because its parts do.  `Reads`
says so of one step, and its lemmas follow the ways in which steps are put together; the readers of
the parts of a pattern, which call each other, are covered by one induction on the fuel (`allRead`).
-/

namespace BranchChoice.Pattern

/-! ## What is left of a text -/

/-- What a taker leaves, when it leaves a known end of the text. -/
theorem suffix_of_some {α : Type} {a b : α} {left rest s : List Char}
    (h : some (a, left) = some (b, rest)) (hleft : left <:+ s) : rest <:+ s :=
  (Prod.mk.inj (Option.some.inj h)).2 ▸ hleft

/-- What a taker leaves, when another one has taken and only the value is changed. -/
theorem suffix_of_map {α β : Type} {f : α × List Char → β × List Char}
    {o : Option (α × List Char)} {b : β} {rest s : List Char} (h : o.map f = some (b, rest))
    (hf : ∀ x, (f x).2 = x.2) (ho : ∀ a left, o = some (a, left) → left <:+ s) : rest <:+ s := by
  obtain ⟨⟨a, left⟩, ha, h⟩ := Option.map_eq_some_iff.1 h
  have hrest : rest = left := (congrArg Prod.snd h).symm.trans (hf (a, left))
  exact hrest ▸ ho a left ha

theorem takeHex_suffix {width : Nat} : ∀ {n m : Nat} {s rest : List Char},
    takeHex width n s = some (m, rest) → rest <:+ s := by
  induction width with
  | zero =>
    intro n m s rest h
    exact suffix_of_some h List.suffix_rfl
  | succ width ih =>
    intro n m s rest h
    cases s with
    | nil => simp [takeHex] at h
    | cons c s =>
      rw [takeHex, Option.bind_eq_some_iff] at h
      obtain ⟨d, -, h⟩ := h
      exact (ih h).trans (List.suffix_cons c s)

theorem takeOctal_suffix {width : Nat} : ∀ {n : Nat} {s : List Char},
    (takeOctal width n s).2 <:+ s := by
  induction width with
  | zero => intro n s; exact List.suffix_rfl
  | succ width ih =>
    intro n s
    cases s with
    | nil => exact List.suffix_rfl
    | cons c s =>
      rw [takeOctal]
      split
      · exact ih.trans (List.suffix_cons c s)
      · exact List.suffix_rfl

theorem takeUntil_suffix {stop : Char} {s : List Char} : ∀ {name rest : List Char},
    takeUntil stop s = some (name, rest) → rest <:+ s := by
  fun_induction takeUntil stop s with
  | case1 => intro name rest h; simp at h
  | case2 c s ih =>
    intro name rest h
    exact suffix_of_map h (fun _ => rfl) fun _ _ h => (ih h).trans ⟨['\\', c], rfl⟩
  | case3 c s =>
    intro name rest h
    exact suffix_of_some h (List.suffix_cons c s)
  | case4 c s _ _ ih =>
    intro name rest h
    exact suffix_of_map h (fun _ => rfl) fun _ _ h => (ih h).trans (List.suffix_cons c s)

theorem takeName_suffix {stop : Char} {s name rest : List Char}
    (h : takeName stop s = some (name, rest)) : rest <:+ s :=
  takeUntil_suffix (Option.filter_eq_some_iff.1 h).1

theorem codedEscape?_suffix {c : Char} {s rest : List Char} {n : Nat}
    (h : codedEscape? c s = some (n, rest)) : rest <:+ s := by
  unfold codedEscape? at h
  split at h
  · exact takeHex_suffix h
  split at h
  · exact takeHex_suffix h
  split at h
  · exact takeHex_suffix (Option.filter_eq_some_iff.1 h).1
  split at h
  · split at h
    · rename_i s
      simp only [Option.bind_eq_some_iff, Option.map_eq_some_iff, Prod.mk.injEq,
        Prod.exists] at h
      obtain ⟨name, tail, hname, m, -, -, rfl⟩ := h
      exact (takeName_suffix hname).trans (List.suffix_cons _ s)
    · simp at h
  · simp at h

theorem setEscape?_suffix {c : Char} {s rest : List Char} {member : Member}
    (h : setEscape? c s = some (member, rest)) : rest <:+ s := by
  unfold setEscape? at h
  split at h
  · exact suffix_of_some h List.suffix_rfl
  split at h
  · exact suffix_of_map h (fun _ => rfl) fun _ _ h => codedEscape?_suffix h
  split at h
  · dsimp only at h
    split at h
    · exact suffix_of_some h takeOctal_suffix
    · simp at h
  split at h
  · exact suffix_of_some h List.suffix_rfl
  · exact suffix_of_some h List.suffix_rfl
  · split at h
    · simp at h
    · exact suffix_of_some h List.suffix_rfl

theorem takeMember_suffix {s rest : List Char} {member : Member}
    (h : takeMember s = some (member, rest)) : rest <:+ s := by
  unfold takeMember at h
  split at h
  · simp at h
  · rename_i c s
    exact (setEscape?_suffix h).trans ⟨['\\', c], rfl⟩
  · simp at h
  · rename_i c s _ _
    exact suffix_of_some h (List.suffix_cons c s)

theorem takeMembers_suffix {fuel : Nat} : ∀ {members found : List Member} {s rest : List Char},
    takeMembers fuel members s = some (found, rest) → rest <:+ s := by
  induction fuel with
  | zero => intro members found s rest h; simp [takeMembers] at h
  | succ fuel ih =>
    intro members found s rest h
    unfold takeMembers at h
    split at h
    · rename_i s m ms
      exact suffix_of_some h (List.suffix_cons _ s)
    · split at h
      · simp at h
      · rename_i member tail hmember
        have htail := (List.suffix_append ['-', ']'] tail).trans (takeMember_suffix hmember)
        exact suffix_of_some h htail
      · rename_i member tail _ hmember
        have hrange : tail <:+ s :=
          (List.suffix_cons '-' tail).trans (takeMember_suffix hmember)
        split at h
        · rename_i low high tail' hhigh
          split at h
          · simp at h
          · exact (ih h).trans ((takeMember_suffix hhigh).trans hrange)
        · simp at h
      · rename_i member tail _ _ hmember
        exact (ih h).trans (takeMember_suffix hmember)

theorem takeSet_suffix {mode : Mode} {s rest : List Char} {test : CharTest}
    (h : takeSet mode s = some (test, rest)) : rest <:+ s := by
  unfold takeSet at h
  simp only [Option.map_eq_some_iff, Prod.exists] at h
  obtain ⟨members, tail, hmembers, h⟩ := h
  have htail : tail <:+ s := by
    refine (takeMembers_suffix hmembers).trans ?_
    split
    · exact List.suffix_cons _ _
    · exact List.suffix_rfl
  have hrest : rest = tail := by
    split at h <;> exact (Prod.mk.inj h).2.symm
  rw [hrest]
  exact htail

theorem skipComment_suffix (s : List Char) : skipComment s <:+ s := by
  fun_induction skipComment s with
  | case1 => exact List.suffix_rfl
  | case2 => exact List.suffix_rfl
  | case3 c s ih => exact ih.trans ⟨['\\', c], rfl⟩
  | case4 s => exact List.suffix_cons _ s
  | case5 c s _ _ _ ih => exact ih.trans (List.suffix_cons c s)

theorem modesOff_suffix {on s : List Char} : ∀ {off rest : List Char} {group : ModeGroup},
    modesOff on off s = some (group, rest) → rest <:+ s ∧ ∃ off', group = .scoped on off' := by
  induction s with
  | nil => intro off rest group h; simp [modesOff] at h
  | cons c s ih =>
    intro off rest group h
    rw [modesOff] at h
    split at h
    · split at h
      · simp at h
      · obtain ⟨hrest, hgroup⟩ := ih h
        exact ⟨hrest.trans (List.suffix_cons c s), hgroup⟩
    · split at h
      · simp only [Option.some.injEq, Prod.mk.injEq] at h
        exact ⟨h.2 ▸ List.suffix_cons c s, off, h.1.symm⟩
      · simp at h

/-- The letters that turn on modes of the whole pattern come from the text. -/
theorem modesOn_suffix {s : List Char} : ∀ {on rest : List Char} {group : ModeGroup},
    modesOn on s = some (group, rest) →
      rest <:+ s ∧ ∀ letters, group = .whole letters → ∀ c ∈ letters, c ∈ on ∨ c ∈ s := by
  induction s with
  | nil => intro on rest group h; simp [modesOn] at h
  | cons c s ih =>
    intro on rest group h
    rw [modesOn] at h
    split at h
    · split at h
      · simp at h
      · obtain ⟨hrest, hletters⟩ := ih h
        refine ⟨hrest.trans (List.suffix_cons c s), fun letters hgroup d hd => ?_⟩
        rcases hletters letters hgroup d hd with hon | hs
        · rcases List.mem_cons.1 hon with rfl | hon
          · exact .inr (List.mem_cons_self ..)
          · exact .inl hon
        · exact .inr (List.mem_cons_of_mem c hs)
    split at h
    · simp only [Option.some.injEq, Prod.mk.injEq] at h
      obtain ⟨rfl, rfl⟩ := h
      refine ⟨List.suffix_cons c s, fun letters hgroup d hd => .inl ?_⟩
      rw [ModeGroup.whole.inj hgroup]
      exact hd
    split at h
    · simp at h
    split at h
    · simp only [Option.some.injEq, Prod.mk.injEq] at h
      obtain ⟨rfl, rfl⟩ := h
      exact ⟨List.suffix_cons c s, fun letters hgroup => by simp at hgroup⟩
    split at h
    · obtain ⟨hrest, off, rfl⟩ := modesOff_suffix h
      exact ⟨hrest.trans (List.suffix_cons c s), fun letters hgroup => by simp at hgroup⟩
    · simp at h

/-- A list of digits stands somewhere in a text. -/
def IsRunOf (digits s : List Char) : Prop :=
  digits <:+: s ∧ ∀ d ∈ digits, d.isDigit = true

theorem spanDigits_suffix {s digits rest : List Char} (h : Decimal.spanDigits s = (digits, rest)) :
    rest <:+ s ∧ IsRunOf digits s := by
  obtain ⟨rfl, rfl⟩ := Prod.mk.inj h
  exact ⟨List.dropWhile_suffix _, (List.takeWhile_prefix Char.isDigit).isInfix,
    fun _ hd => List.mem_takeWhile_imp hd⟩

theorem takeBounds_suffix {s least most rest : List Char}
    (h : takeBounds s = some (least, most, rest)) :
    rest <:+ s ∧ IsRunOf least s ∧ IsRunOf most s := by
  unfold takeBounds at h
  split at h
  · rename_i digits more hleast
    obtain ⟨hmore, hrun⟩ := spanDigits_suffix hleast
    have hcomma : more <:+ s := (List.suffix_cons ',' more).trans hmore
    split at h
    · rename_i digits' tail hmost
      simp only [Option.some.injEq, Prod.mk.injEq] at h
      obtain ⟨rfl, rfl, rfl⟩ := h
      obtain ⟨htail, hrun'⟩ := spanDigits_suffix hmost
      have hrest := ((List.suffix_cons _ _).trans htail).trans hcomma
      exact ⟨hrest, hrun, hrun'.1.trans hcomma.isInfix, hrun'.2⟩
    · simp at h
  · simp at h
  · rename_i digits tail _ hcount
    simp only [Option.some.injEq, Prod.mk.injEq] at h
    obtain ⟨rfl, rfl, rfl⟩ := h
    obtain ⟨htail, hrun⟩ := spanDigits_suffix hcount
    exact ⟨(List.suffix_cons _ _).trans htail, hrun, hrun⟩
  · simp at h

/-! ## Reading within a text -/

/-- A reading stands within a text: what is left is an end of it, and the letters that have turned
on modes come from it. -/
structure Within (text : List Char) (p : Progress) : Prop where
  rest : p.rest <:+ text
  letters : ∀ c ∈ p.letters, c ∈ text

/-- A count that stands in the text, after an opening brace, is refused. -/
def RefusesCount (text : List Char) (e : Refusal) : Prop :=
  ∃ tail digits, ('\x7b' :: tail) <:+ text ∧ IsRunOf digits tail ∧ count? digits = .error e

/-- A step of reading stays within a text, and gives up because the text is malformed or because of
a count in it. -/
def Reads (text : List Char) {α : Type} (m : Parse α) : Prop :=
  ∀ p, Within text p →
    match m.run p with
    | .ok (_, p') => Within text p'
    | .error e => e = .malformed ∨ RefusesCount text e

namespace Reads

variable {text : List Char} {α β : Type}

theorem of_pure (a : α) : Reads text (pure a) :=
  fun _ hp => hp

theorem bind {m : Parse α} {f : α → Parse β} (hm : Reads text m) (hf : ∀ a, Reads text (f a)) :
    Reads text (m >>= f) := by
  intro p hp
  have h := hm p hp
  rw [StateT.run_bind]
  cases hrun : m.run p with
  | error e => rw [hrun] at h; exact h
  | ok result =>
    obtain ⟨a, p'⟩ := result
    rw [hrun] at h
    exact hf a p' h

theorem of_refuse : Reads text (refuse : Parse α) :=
  fun _ _ => .inl rfl

theorem refuse_bind (f : α → Parse β) : Reads text (refuse >>= f) :=
  fun _ _ => .inl rfl

theorem get_bind {f : Progress → Parse β} (hf : ∀ p, Within text p → Reads text (f p)) :
    Reads text (get >>= f) :=
  fun p hp => hf p hp p hp

theorem of_set {p : Progress} (h : Within text p) : Reads text (set p : Parse PUnit) :=
  fun _ _ => h

theorem of_modify {f : Progress → Progress} (h : ∀ p, Within text p → Within text (f p)) :
    Reads text (modify f : Parse PUnit) :=
  fun p hp => h p hp

theorem of_setRest {rest : List Char} (h : rest <:+ text) : Reads text (setRest rest) :=
  fun _ hp => ⟨h, hp.letters⟩

theorem of_demand (o : Option α) : Reads text (demand o) := by
  cases o with
  | none => exact of_refuse
  | some a => exact of_pure a

theorem demand_bind {o : Option α} {f : α → Parse β} (hf : ∀ a, o = some a → Reads text (f a)) :
    Reads text (demand o >>= f) := by
  cases o with
  | none => exact refuse_bind f
  | some a => exact hf a rfl

theorem ite {c : Prop} [Decidable c] {m m' : Parse α} (h : Reads text m) (h' : Reads text m') :
    Reads text (if c then m else m') := by
  split
  · exact h
  · exact h'

/-- A change on a condition, before going on either way. -/
theorem of_modify_or {c : Prop} [Decidable c] {f : Progress → Progress} {k : Unit → Parse α}
    (h : ∀ p, Within text p → Within text (f p)) (hk : Reads text (k ())) :
    Reads text (if c then modify f >>= k else k ()) :=
  .ite (.bind (.of_modify h) fun _ => hk) hk

theorem of_count {tail digits : List Char} (htail : ('\x7b' :: tail) <:+ text)
    (hrun : IsRunOf digits tail) : Reads text (liftM (count? digits) : Parse (Option Nat)) := by
  intro p hp
  cases hcount : count? digits with
  | ok n => exact hp
  | error e => exact .inr ⟨tail, digits, htail, hrun, hcount⟩

end Reads

/-! ## The parts of a pattern -/

section Parts

variable {text : List Char}

theorem reads_accept (c : Char) : Reads text (accept c) := by
  refine .get_bind fun p hp => ?_
  split
  · rename_i d rest hrest
    split
    · exact .bind (.of_setRest ((List.suffix_cons d rest).trans (hrest ▸ hp.rest)))
        fun _ => .of_pure true
    · exact .of_pure false
  · exact .of_pure false

theorem reads_expect (c : Char) : Reads text (expect c) := by
  refine .bind (reads_accept c) fun found => ?_
  split
  · exact .of_pure ()
  · exact .of_refuse

theorem reads_reference (mode : Mode) (index : Nat) : Reads text (reference mode index) := by
  refine .get_bind fun p _ => .demand_bind fun width _ => ?_
  dsimp only
  split
  · exact .of_pure _
  · exact .refuse_bind _

theorem reads_escape (mode : Mode) {c : Char} {s : List Char} (hs : s <:+ text) :
    Reads text (readEscape mode c s) := by
  refine .bind (.of_setRest hs) fun _ => ?_
  -- places, classes and controls take no further characters
  refine .ite (.of_pure _) (.ite (.of_pure _) (.ite (.of_pure _) (.ite (.of_pure _) ?_)))
  split
  · exact .of_pure _
  split
  · exact .of_pure _
  refine .ite (.demand_bind fun coded hcoded => ?_) (.ite ?_ (.ite ?_ ?_))
  · obtain ⟨n, rest⟩ := coded
    exact .bind (.of_setRest ((codedEscape?_suffix hcoded).trans hs)) fun _ => .of_pure _
  · have hrest : (takeOctal 2 0 s).2 <:+ text := takeOctal_suffix.trans hs
    exact .bind (.of_setRest hrest) fun _ => .of_pure _
  · -- a digit that is not zero: an octal code of three digits, or a reference
    cases s with
    | nil => exact reads_reference mode _
    | cons d rest =>
      have hrest : rest <:+ text := (List.suffix_cons d rest).trans hs
      have htwo : Reads text (setRest rest >>= fun _ => reference mode (Decimal.ofDigits [c, d])) :=
        .bind (.of_setRest hrest) fun _ => reads_reference mode _
      refine .ite ?_ (reads_reference mode _)
      cases rest with
      | nil => exact htwo
      | cons e tail =>
        refine .ite ?_ htwo
        have htail : tail <:+ text := (List.suffix_cons e tail).trans hrest
        exact .ite (.bind (.of_setRest htail) fun _ => .of_pure _) (.refuse_bind _)
  · exact .ite (.refuse_bind _) (.of_pure _)

theorem reads_repeat (least : Nat) (most : Option Nat) (pieces : List Piece) :
    Reads text (repeatLatest least most pieces) := by
  cases pieces with
  | nil => exact .of_refuse
  | cons latest before =>
    have hend (body : Node) (isLazy isPossessive : Bool) : Reads text (do
        modify fun p => { p with hasRepetition := true }
        return .leaf ⟨.repetition least most
          (if isLazy then .lazy else if isPossessive then .possessive else .greedy) body,
          .repeated⟩ :: before) :=
      .bind (.of_modify fun _ hp => ⟨hp.rest, hp.letters⟩) fun _ => .of_pure _
    have hrest (body : Node) : Reads text (do
        let isLazy ← accept '?'
        let isPossessive ← if isLazy then pure false else accept '+'
        modify fun p => { p with hasRepetition := true }
        return .leaf ⟨.repetition least most
          (if isLazy then .lazy else if isPossessive then .possessive else .greedy) body,
          .repeated⟩ :: before) :=
      .bind (reads_accept '?') fun isLazy =>
        .ite (hend body isLazy false) (.bind (reads_accept '+') (hend body isLazy))
    cases latest with
    | leaf l => exact .ite (hrest l.node) (.refuse_bind _)
    | bundle ls => exact hrest (sequence ls)

theorem reads_bounds (mode : Mode) {s : List Char} (pieces : List Piece)
    (hs : ('\x7b' :: s) <:+ text) : Reads text (readBounds mode s pieces) := by
  have hrest : s <:+ text := (List.suffix_cons _ s).trans hs
  refine .bind (.of_setRest hrest) fun _ => ?_
  split
  · exact .of_pure _
  rename_i least most rest hbounds
  obtain ⟨htail, hleast, hmost⟩ := takeBounds_suffix hbounds
  refine .bind (.of_setRest (htail.trans hrest)) fun _ => ?_
  refine .ite (.refuse_bind _) ?_
  refine .bind (.of_count hs hleast) fun m => .bind (.of_count hs hmost) fun n => ?_
  split
  · exact .ite (.refuse_bind _) (reads_repeat _ _ pieces)
  · exact reads_repeat _ _ pieces

theorem reads_condition (name : List Char) : Reads text (conditionGroup name) := by
  refine .get_bind fun p hp => .ite (.of_demand _) ?_
  split
  · exact .of_refuse
  · exact .ite .of_refuse (.bind (.of_set ⟨hp.rest, hp.letters⟩) fun _ => .of_pure _)

theorem reads_open (name : Option (List Char)) : Reads text (openGroup name) := by
  refine .get_bind fun p hp => ?_
  cases name with
  | none => exact .bind (.of_set ⟨hp.rest, hp.letters⟩) fun _ => .of_pure _
  | some n =>
    exact .ite (.refuse_bind _) (.bind (.of_set ⟨hp.rest, hp.letters⟩) fun _ => .of_pure _)

/-- Every reading of a part of a pattern stays within the text, for so much fuel. -/
structure AllRead (text : List Char) (fuel : Nat) : Prop where
  alternatives : ∀ top mode, Reads text (readAlternatives fuel top mode)
  branches : ∀ top first mode, Reads text (readBranches fuel top first mode)
  parts : ∀ first mode pieces, Reads text (readParts fuel first mode pieces)
  group : ∀ atStart mode, Reads text (readGroup fuel atStart mode)
  capture : ∀ name mode, Reads text (readCapture fuel name mode)
  behind : ∀ negated mode, Reads text (readBehind fuel negated mode)

variable {fuel : Nat}

theorem reads_alternatives (h : AllRead text fuel) (top : Bool) (mode : Mode) :
    Reads text (readAlternatives (fuel + 1) top mode) := by
  rw [readAlternatives]
  exact .bind (h.branches _ _ _) fun _ => .get_bind fun _ _ => .of_pure _

theorem reads_branches (h : AllRead text fuel) (top first : Bool) (mode : Mode) :
    Reads text (readBranches (fuel + 1) top first mode) := by
  rw [readBranches]
  refine .get_bind fun p _ => .bind (h.parts _ _ _) fun _ => .bind (reads_accept '|') fun _ => ?_
  exact .ite (.bind (h.branches _ _ _) fun _ => .of_pure _) (.of_pure _)

theorem reads_parts (h : AllRead text fuel) (first : Bool) (mode : Mode) (pieces : List Piece) :
    Reads text (readParts (fuel + 1) first mode pieces) := by
  rw [readParts]
  refine .get_bind fun p hp => ?_
  have hsuffix := hp.rest
  split
  · exact .of_pure _
  · exact .of_refuse
  · rename_i c s hrest
    rw [hrest] at hsuffix
    have hs : s <:+ text := (List.suffix_append ['\\', c] s).trans hsuffix
    exact .bind (reads_escape mode hs) fun _ => h.parts _ _ _
  · rename_i c s _ _ hrest
    rw [hrest] at hsuffix
    have hs : s <:+ text := (List.suffix_cons c s).trans hsuffix
    have hnext (r : List Char) (hr : r <:+ text) (pieces : List Piece) :
        Reads text (setRest r >>= fun _ => readParts fuel first mode pieces) :=
      .bind (.of_setRest hr) fun _ => h.parts _ _ _
    have hrepeat (least : Nat) (most : Option Nat) :
        Reads text (setRest s >>= fun _ => repeatLatest least most pieces >>= fun pieces =>
          readParts fuel first mode pieces) :=
      .bind (.of_setRest hs) fun _ => .bind (reads_repeat _ _ _) fun _ => h.parts _ _ _
    refine .ite (.of_pure _) (.ite (hnext s hs pieces) ?_)
    refine .ite (hnext _ ((skipComment_suffix s).trans hs) pieces) (.ite ?_ ?_)
    · refine .demand_bind fun found hfound => ?_
      obtain ⟨test, rest⟩ := found
      exact hnext rest ((takeSet_suffix hfound).trans hs) _
    refine .ite (hrepeat 0 (some 1)) (.ite (hrepeat 0 none) (.ite (hrepeat 1 none) ?_))
    split
    · rename_i hbrace
      rw [eq_of_beq hbrace] at hsuffix
      exact .bind (reads_bounds mode pieces hsuffix) fun _ => h.parts _ _ _
    refine .ite (.bind (.of_setRest hs) fun _ => ?_) (hnext s hs _)
    refine .bind (h.group _ _) fun result => ?_
    cases result with
    | part piece => exact h.parts _ _ _
    | nothing newMode => exact h.parts _ _ _

theorem reads_capture (h : AllRead text fuel) (name : Option (List Char)) (mode : Mode) :
    Reads text (readCapture (fuel + 1) name mode) := by
  rw [readCapture]
  refine .bind (reads_open name) fun index => .bind (h.alternatives _ _) fun leaves => ?_
  refine .bind (reads_expect ')') fun _ => .bind (.of_modify fun _ hp => ?_) fun _ => .of_pure _
  exact ⟨hp.rest, hp.letters⟩

theorem reads_behind (h : AllRead text fuel) (negated : Bool) (mode : Mode) :
    Reads text (readBehind (fuel + 1) negated mode) := by
  rw [readBehind]
  refine .get_bind fun p _ => .of_modify_or (fun _ hp => ⟨hp.rest, hp.letters⟩) ?_
  refine .bind (h.alternatives _ _) fun leaves => ?_
  refine .of_modify_or (fun _ hp => ⟨hp.rest, hp.letters⟩) (.bind (reads_expect ')') fun _ => ?_)
  exact .of_modify_or (fun _ hp => ⟨hp.rest, hp.letters⟩) (.of_pure _)

/-- The alternatives in a group, up to its end. -/
theorem reads_body (h : AllRead text fuel) (mode : Mode) (result : List Leaf → GroupResult) :
    Reads text (do
      let leaves ← readAlternatives fuel false mode
      expect ')'
      return result leaves) :=
  .bind (h.alternatives _ _) fun _ => .bind (reads_expect ')') fun _ => .of_pure _

theorem reads_group (h : AllRead text fuel) (atStart : Bool) (mode : Mode) :
    Reads text (readGroup (fuel + 1) atStart mode) := by
  rw [readGroup]
  refine .bind (reads_accept '?') fun marked => .ite ?_ (h.capture _ _)
  refine .get_bind fun p hp => ?_
  have hafter (front : List Char) {s : List Char} (hrest : p.rest = front ++ s) : s <:+ text :=
    (List.suffix_append front s).trans (hrest ▸ hp.rest)
  have hbody (mode : Mode) (result : List Leaf → GroupResult) {s : List Char} (hs : s <:+ text) :=
    Reads.bind (.of_setRest hs) fun _ => reads_body h mode result
  split
  · -- a named group
    rename_i s hrest
    have hs := hafter ['P', '<'] hrest
    refine .demand_bind fun found hfound => ?_
    obtain ⟨name, rest⟩ := found
    have hrest := (takeName_suffix hfound).trans hs
    exact .ite (.bind (.of_setRest hrest) fun _ => h.capture _ _) (.refuse_bind _)
  · -- a reference by name
    rename_i s hrest
    have hs := hafter ['P', '='] hrest
    refine .demand_bind fun found hfound => ?_
    obtain ⟨name, rest⟩ := found
    have hrest := (takeName_suffix hfound).trans hs
    refine .ite (.bind (.of_setRest hrest) fun _ => .get_bind fun p _ => ?_) (.refuse_bind _)
    exact .bind (.of_demand _) fun index => .bind (reads_reference mode index) fun _ => .of_pure _
  · rename_i s hrest
    exact hbody mode _ (hafter [':'] hrest)
  · -- a comment
    rename_i s hrest
    have hs := hafter ['#'] hrest
    refine .demand_bind fun found hfound => ?_
    obtain ⟨comment, rest⟩ := found
    exact .bind (.of_setRest ((takeUntil_suffix hfound).trans hs)) fun _ => .of_pure _
  · rename_i s hrest
    exact hbody mode _ (hafter ['='] hrest)
  · rename_i s hrest
    exact hbody mode _ (hafter ['!'] hrest)
  · rename_i s hrest
    exact .bind (.of_setRest (hafter ['<', '='] hrest)) fun _ => h.behind _ _
  · rename_i s hrest
    exact .bind (.of_setRest (hafter ['<', '!'] hrest)) fun _ => h.behind _ _
  · -- a condition on a group, with one or two parts
    rename_i s hrest
    have hs := hafter ['('] hrest
    refine .demand_bind fun found hfound => ?_
    obtain ⟨name, rest⟩ := found
    have hrest := (takeName_suffix hfound).trans hs
    have hend (piece : Piece) :
        Reads text (expect ')' >>= fun _ => pure (GroupResult.part piece)) :=
      .bind (reads_expect ')') fun _ => .of_pure _
    refine .bind (reads_condition name) fun index => .get_bind fun p _ => ?_
    refine .ite (.bind (.of_setRest hrest) fun _ => .bind (h.parts _ _ _) fun yes => ?_)
      (.refuse_bind _)
    refine .bind (reads_accept '|') fun more => .ite ?_ (hend _)
    exact .bind (h.parts _ _ _) fun no => .get_bind fun p _ => .ite (.refuse_bind _) (hend _)
  · rename_i s hrest
    exact hbody mode _ (hafter ['>'] hrest)
  · -- letters for modes
    refine .demand_bind fun found hfound => ?_
    obtain ⟨group, rest⟩ := found
    obtain ⟨hrest, hletters⟩ := modesOn_suffix hfound
    rcases group with on | ⟨on, off⟩
    · refine .ite (.get_bind fun p' hp' => .bind (.of_set ⟨hrest.trans hp.rest, ?_⟩) fun _ =>
        .of_pure _) (.refuse_bind _)
      intro c hc
      rcases List.mem_append.1 hc with hc | hc
      · rcases hletters on rfl c hc with hc | hc
        · simp at hc
        · exact hp.rest.subset hc
      · exact hp'.letters c hc
    · exact hbody _ _ (hrest.trans hp.rest)

theorem allRead (text : List Char) (fuel : Nat) : AllRead text fuel := by
  induction fuel with
  | zero =>
    refine ⟨fun top mode => ?_, fun top first mode => ?_, fun first mode pieces => ?_,
      fun atStart mode => ?_, fun name mode => ?_, fun negated mode => ?_⟩
    · rw [readAlternatives]; exact .of_refuse
    · rw [readBranches]; exact .of_refuse
    · rw [readParts]; exact .of_refuse
    · rw [readGroup]; exact .of_refuse
    · rw [readCapture]; exact .of_refuse
    · rw [readBehind]; exact .of_refuse
  | succ fuel ih =>
    exact ⟨reads_alternatives ih, reads_branches ih, reads_parts ih, reads_group ih,
      reads_capture ih, reads_behind ih⟩

end Parts

/-! ## Refusals and their causes -/

/-- A count that is refused has at least ten digits. -/
theorem length_of_count?_error {digits : List Char} {e : Refusal}
    (hdigits : ∀ d ∈ digits, d.isDigit = true) (h : count? digits = .error e) :
    10 ≤ digits.length := by
  unfold count? at h
  split at h
  · simp at h
  · split at h
    · omega
    · dsimp only at h
      split at h
      · rename_i hlimit
        by_contra hshort
        have hlt : Decimal.ofDigits digits < Nat.pow 10 digits.length :=
          AllDigits.ofDigits_lt hdigits
        have hpow : Nat.pow 10 digits.length ≤ Nat.pow 10 9 :=
          Nat.pow_le_pow_right (by omega) (by omega)
        have hnine : Nat.pow 10 9 = 1000000000 := rfl
        rw [countLimit] at hlimit
        omega
      · simp at h

/-- The progress at the start of a text. -/
def Progress.start (text : List Char) : Progress :=
  { rest := text, groups := 0, closed := [], names := [], behindFrom := none, referred := [],
    mode := Mode.initial, letters := [], hasRepetition := false, indefiniteBehind := false }

theorem within_start (text : List Char) : Within text (.start text) :=
  ⟨List.suffix_rfl, fun _ hc => nomatch hc⟩

theorem bind_eq_error {α β ε : Type} {x : Except ε α} {f : α → Except ε β} {e : ε}
    (h : x >>= f = .error e) : x = .error e ∨ ∃ a, x = .ok a ∧ f a = .error e := by
  cases x with
  | error e' => exact .inl (congrArg Except.error (Except.error.inj h))
  | ok a => exact .inr ⟨a, rfl, h⟩

/-- **Why a text is refused.**  Unless it is malformed, either a count of at least ten digits that
stands in it after an opening brace is refused, or it has both letters that choose the classes. -/
theorem compile_error_cause {pattern : String} {e : Refusal} (h : compile pattern = .error e) :
    e = .malformed ∨ RefusesCount pattern.toList e ∨
      (e = .mixedClasses ∧ 'a' ∈ pattern.toList ∧ 'u' ∈ pattern.toList) := by
  have hread := (allRead pattern.toList (4 * pattern.toList.length + 8)).alternatives true
    Mode.initial (.start pattern.toList) (within_start _)
  unfold compile at h
  rcases bind_eq_error h with hrun | ⟨⟨leaves, p⟩, hrun, h⟩
  · rw [Progress.start, hrun] at hread
    exact hread.imp_right .inl
  · rw [Progress.start, hrun] at hread
    by_cases hmixed : (p.letters.contains 'a' && p.letters.contains 'u') = true
    · simp only [hmixed, if_true] at h
      obtain rfl := Except.error.inj h
      simp only [Bool.and_eq_true, List.contains_iff_mem] at hmixed
      exact .inr (.inr ⟨rfl, hread.letters _ hmixed.1, hread.letters _ hmixed.2⟩)
    · simp only [hmixed, Bool.false_eq_true, if_false] at h
      left
      -- whatever is left over, the text is malformed
      repeat' split at h
      all_goals first | exact (Except.error.inj h).symm | exact nomatch h

/-! ## Counts that are refused -/

section Count

variable {digits : List Char} {e : Refusal}

theorem takeBounds_count (hne : digits ≠ []) (hdigits : ∀ d ∈ digits, d.isDigit = true) :
    takeBounds (digits ++ ['\x7d']) = some (digits, digits, []) := by
  have hspan : Decimal.spanDigits (digits ++ ['\x7d']) = (digits, ['\x7d']) := by
    rw [Decimal.spanDigits, List.takeWhile_append_of_pos hdigits,
      List.dropWhile_append_of_pos hdigits]
    simp
  unfold takeBounds
  rw [hspan]
  cases digits with
  | nil => exact absurd rfl hne
  | cons d ds => rfl

theorem readBounds_count (hne : digits ≠ []) (hdigits : ∀ d ∈ digits, d.isDigit = true)
    (h : count? digits = .error e) (mode : Mode) (pieces : List Piece) (p : Progress) :
    (readBounds mode (digits ++ ['\x7d']) pieces).run p = .error e := by
  simp only [readBounds, takeBounds_count hne hdigits, h]
  rfl

theorem readParts_count (hne : digits ≠ []) (hdigits : ∀ d ∈ digits, d.isDigit = true)
    (h : count? digits = .error e) {fuel : Nat} {first : Bool} {pieces : List Piece}
    {mode : Mode} (hmode : mode.verbose = false) {p : Progress}
    (hp : p.rest = 'x' :: '\x7b' :: (digits ++ ['\x7d'])) :
    (readParts (fuel + 2) first mode pieces).run p = .error e := by
  have hbrace (pieces : List Piece) : (readParts (fuel + 1) first mode pieces).run
      { p with rest := '\x7b' :: (digits ++ ['\x7d']) } = .error e := by
    rw [readParts]
    simp [hmode, readBounds_count hne hdigits h]
    rfl
  rw [readParts]
  simp only [StateT.run_bind]
  simp [hp, hmode]
  exact hbrace _

theorem run_bind_error {α β : Type} {m : Parse α} {p : Progress} (h : m.run p = .error e)
    (f : α → Parse β) : (m >>= f).run p = .error e := by
  rw [StateT.run_bind, h]
  rfl

theorem run_get_bind {β : Type} (f : Progress → Parse β) (p : Progress) :
    (get >>= f).run p = (f p).run p :=
  rfl

theorem compile_of_run {pattern : String}
    (h : (readAlternatives (4 * pattern.toList.length + 8) true Mode.initial).run
      (.start pattern.toList) = .error e) : compile pattern = .error e := by
  rw [Progress.start] at h
  simp only [compile, h]
  rfl

/-- **Every count that is refused is a reason to refuse a text.** -/
theorem compile_count (hne : digits ≠ []) (hdigits : ∀ d ∈ digits, d.isDigit = true)
    (h : count? digits = .error e) :
    compile (String.ofList ('x' :: '\x7b' :: (digits ++ ['\x7d']))) = .error e := by
  have hparts (fuel : Nat) : (readParts (fuel + 2) true Mode.initial []).run
      (.start ('x' :: '\x7b' :: (digits ++ ['\x7d']))) = .error e :=
    readParts_count hne hdigits h rfl rfl
  have hrun (fuel : Nat) : (readAlternatives (fuel + 4) true Mode.initial).run
      (.start ('x' :: '\x7b' :: (digits ++ ['\x7d']))) = .error e := by
    rw [readAlternatives]
    refine run_bind_error ?_ _
    rw [readBranches, run_get_bind, if_pos rfl]
    exact run_bind_error (hparts fuel) _
  refine compile_of_run ?_
  rw [String.toList_ofList]
  exact hrun _

end Count

end BranchChoice.Pattern
