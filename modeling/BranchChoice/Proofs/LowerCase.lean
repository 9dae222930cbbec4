import BranchChoice.Condition
import Mathlib.Data.List.Infix
import Mathlib.Data.List.TakeWhile

/-!
# Lower case and parts of texts

The operator `contains` looks for one text in another when both are in lower case.  A part of a text
has the lower case that it has alone, character by character, unless it has a capital sigma: that
letter takes its final form where a word ends, and where a word ends is seen from the letters around
the part (`lowerBetween`).

Only a sigma at the edge of a part is concerned, as one that has letters of its own word on both
sides within the part sees nothing beyond them.  The texts that are found wherever they occur are
exactly those without such a sigma, and so are the texts in which nothing is lost when others are
put around them (`contains_between_iff`).
-/

namespace BranchChoice

/-- The one text is found in the other exactly if it occurs there in one piece. -/
theorem occursIn_iff (part whole : List Char) :
    occursIn part whole = true ↔ part <:+: whole := by
  induction whole with
  | nil => rw [occursIn, List.isEmpty_iff, List.infix_nil]
  | cons c rest ih =>
    rw [occursIn, Bool.or_eq_true, List.isPrefixOf_iff_prefix, ih, List.infix_cons_iff]

namespace Text

/-! ## Lower case between other characters -/

/-- Whether a capital sigma is in its final form, given the reversed text before it and the text
after it. -/
def endsWord (before after : List Char) : Bool :=
  meetsCased before && !meetsCased after

/-- The lower case of a character, given the reversed text before it and the text after it. -/
def lowerImage (before : List Char) (c : Char) (after : List Char) : List Char :=
  if c.toNat == 931 then [Char.ofNat (if endsWord before after then 962 else 963)]
  else if c.toNat == 304 then [Char.ofNat 105, Char.ofNat 775]
  else [lowerChar c]

theorem lowerAfter_cons (before : List Char) (c : Char) (rest : List Char) :
    lowerAfter before (c :: rest) = lowerImage before c rest ++ lowerAfter (c :: before) rest :=
  rfl

/-- The lower case of a part of a text, given the reversed text before it and the text after it. -/
def lowerBetween : List Char → List Char → List Char → List Char
  | _, [], _ => []
  | before, c :: rest, after =>
    lowerImage before c (rest ++ after) ++ lowerBetween (c :: before) rest after

theorem lowerAfter_append (before part after : List Char) :
    lowerAfter before (part ++ after) =
      lowerBetween before part after ++ lowerAfter (part.reverse ++ before) after := by
  induction part generalizing before with
  | nil => rfl
  | cons c rest ih =>
    rw [List.cons_append, lowerAfter_cons, ih, lowerBetween, List.append_assoc,
      List.reverse_cons, List.append_assoc, List.singleton_append]

theorem lowerBetween_nil (before part : List Char) :
    lowerBetween before part [] = lowerAfter before part := by
  have happend := lowerAfter_append before part []
  rw [List.append_nil, lowerAfter, List.append_nil] at happend
  exact happend.symm

/-- **What stands around a part matters only for its capital sigmas.** -/
theorem lowerBetween_congr {part : List Char} {before before' after after' : List Char}
    (h : ∀ x c y, part = x ++ c :: y → c.toNat = 931 →
      endsWord (x.reverse ++ before) (y ++ after) = endsWord (x.reverse ++ before') (y ++ after')) :
    lowerBetween before part after = lowerBetween before' part after' := by
  induction part generalizing before before' with
  | nil => rfl
  | cons c rest ih =>
    have himage : lowerImage before c (rest ++ after) = lowerImage before' c (rest ++ after') := by
      by_cases hsigma : c.toNat = 931
      · have hform : endsWord before (rest ++ after) = endsWord before' (rest ++ after') :=
          h [] c rest rfl hsigma
        rw [lowerImage, hform, lowerImage]
      · simp only [lowerImage, beq_iff_eq, hsigma, if_false]
    rw [lowerBetween, lowerBetween, himage]
    refine congrArg _ (ih fun x d y hrest hd => ?_)
    have hnext := h (c :: x) d y (by rw [hrest, List.cons_append]) hd
    simpa using hnext

/-! ## How far a sigma sees -/

/-- Whether a character is looked through in the search for a letter with case. -/
def isIgnorable (c : Char) : Bool :=
  caseIgnorableRanges.holds c.toNat

theorem meetsCased_eq (s : List Char) :
    meetsCased s = (s.dropWhile isIgnorable).head?.any fun c => casedRanges.holds c.toNat := by
  unfold meetsCased isIgnorable
  cases s.dropWhile fun c => caseIgnorableRanges.holds c.toNat with
  | nil => rfl
  | cons c rest => rw [List.head?_cons, Option.any_some]

/-- Characters that are looked through show what is behind them, and others hide it. -/
theorem meetsCased_append (x rest : List Char) :
    meetsCased (x ++ rest) = if x.all isIgnorable then meetsCased rest else meetsCased x := by
  have hempty : (x.dropWhile isIgnorable).isEmpty = x.all isIgnorable := by
    rw [Bool.eq_iff_iff, List.isEmpty_iff, List.dropWhile_eq_nil_iff, List.all_eq_true]
  rw [meetsCased_eq, meetsCased_eq, meetsCased_eq, List.dropWhile_append, hempty]
  split_ifs with hall
  · rfl
  · obtain ⟨c, more, hcons⟩ : ∃ c more, x.dropWhile isIgnorable = c :: more := by
      refine List.exists_cons_of_ne_nil fun hnil => hall ?_
      rw [← hempty, hnil]
      rfl
    rw [hcons]
    rfl

theorem meetsCased_of_all {x : List Char} (h : x.all isIgnorable = true) :
    meetsCased x = false := by
  have happend := meetsCased_append x []
  rw [List.append_nil, if_pos h] at happend
  exact happend

theorem isIgnorable_sigma {c : Char} (hc : c.toNat = 931) : isIgnorable c = false := by
  rw [isIgnorable, hc]
  decide +kernel

/-- A sigma is seen, and hides what is behind it. -/
theorem meetsCased_append_sigma {c : Char} (hc : c.toNat = 931) (x rest rest' : List Char) :
    meetsCased (x ++ c :: rest) = meetsCased (x ++ c :: rest') := by
  have hhides (more : List Char) : meetsCased (x ++ c :: more) = meetsCased (x ++ [c]) := by
    rw [List.append_cons, meetsCased_append, if_neg]
    simp [isIgnorable_sigma hc]
  rw [hhides, hhides rest']

theorem not_sigma_of_all {x : List Char} (h : x.all isIgnorable = true) {c : Char} (hc : c ∈ x) :
    c.toNat ≠ 931 := by
  intro hsigma
  have hkept := isIgnorable_sigma hsigma
  rw [List.all_eq_true.1 h c hc] at hkept
  exact Bool.noConfusion hkept

/-! ## Sigmas at an edge -/

/-- A capital sigma between `x` and `y` that can take another form when something stands around the
text: what is before the text can make it the end of a word, or what is after the text can make it
the inside of one. -/
def IsEdge (x y : List Char) : Prop :=
  x.all isIgnorable = true ∧ meetsCased y = false ∨
    y.all isIgnorable = true ∧ meetsCased x.reverse = true

/-- Some capital sigma of the text is at an edge. -/
def HasEdgeSigma (s : List Char) : Prop :=
  ∃ x c y, s = x ++ c :: y ∧ c.toNat = 931 ∧ IsEdge x y

theorem endsWord_append (x y before after : List Char) :
    endsWord (x.reverse ++ before) (y ++ after) =
      ((if x.all isIgnorable then meetsCased before else meetsCased x.reverse) &&
        !(if y.all isIgnorable then meetsCased after else meetsCased y)) := by
  rw [endsWord, meetsCased_append, meetsCased_append, List.all_reverse]

/-- A sigma has the form that it has alone, if no letter before the text can make it the end of a
word, and no letter after the text the inside of one. -/
theorem endsWord_eq_alone {x y before after : List Char}
    (hbefore : x.all isIgnorable = true → meetsCased y = false → meetsCased before = false)
    (hafter : y.all isIgnorable = true → meetsCased x.reverse = true → meetsCased after = false) :
    endsWord (x.reverse ++ before) (y ++ after) = endsWord x.reverse y := by
  have hx : x.all isIgnorable = true → meetsCased x.reverse = false := fun h =>
    meetsCased_of_all (by rwa [List.all_reverse])
  have hy : y.all isIgnorable = true → meetsCased y = false := meetsCased_of_all
  rw [endsWord_append, endsWord]
  cases hfollowed : meetsCased y with
  | true =>
    -- the letter in `y` decides on both sides
    have hkept : ¬ y.all isIgnorable = true := fun h => by simp [hy h] at hfollowed
    rw [if_neg hkept, Bool.not_true, Bool.and_false, Bool.and_false]
  | false =>
    have hnone : x.all isIgnorable = true → meetsCased before = false :=
      fun h => hbefore h hfollowed
    rw [Bool.not_false, Bool.and_true]
    split_ifs <;> simp_all

/-- A sigma that is at no edge sees nothing beyond the text. -/
theorem endsWord_of_not_isEdge {x y : List Char} (h : ¬ IsEdge x y) (before after : List Char) :
    endsWord (x.reverse ++ before) (y ++ after) = endsWord x.reverse y :=
  endsWord_eq_alone (fun hx hy => absurd (.inl ⟨hx, hy⟩) h) (fun hy hx => absurd (.inr ⟨hy, hx⟩) h)

/-! ## What is kept when something is put around a text -/

/-- The text keeps its lower case if its sigmas keep their forms. -/
theorem infix_lowerAfter {before s after : List Char}
    (h : ∀ x c y, s = x ++ c :: y → c.toNat = 931 →
      endsWord (x.reverse ++ before.reverse) (y ++ after) = endsWord x.reverse y) :
    lowerAfter [] s <:+: lowerAfter [] (before ++ s ++ after) := by
  have hsame : lowerBetween before.reverse s after = lowerAfter [] s := by
    rw [← lowerBetween_nil]
    exact lowerBetween_congr fun x c y hs hc => by simpa using h x c y hs hc
  rw [List.append_assoc, lowerAfter_append, List.append_nil, lowerAfter_append, hsame,
    ← List.append_assoc]
  exact List.infix_append _ _ _

theorem lowerAfter_split (before x : List Char) (c : Char) (y : List Char) :
    lowerAfter before (x ++ c :: y) =
      lowerBetween before x (c :: y) ++
        (lowerImage (x.reverse ++ before) c y ++ lowerAfter (c :: (x.reverse ++ before)) y) := by
  rw [lowerAfter_append, lowerAfter_cons]

/-- Characters that are looked through have the same lower case everywhere. -/
theorem lowerBetween_of_all {x : List Char} (h : x.all isIgnorable = true)
    (before before' after after' : List Char) :
    lowerBetween before x after = lowerBetween before' x after' :=
  lowerBetween_congr fun u c v hx hc => absurd hc (not_sigma_of_all h (by simp [hx]))

/-- Behind a sigma nothing is seen of what is before it. -/
theorem lowerAfter_sigma {c : Char} (hc : c.toNat = 931) (before before' y : List Char) :
    lowerAfter (c :: before) y = lowerAfter (c :: before') y := by
  rw [← lowerBetween_nil, ← lowerBetween_nil]
  refine lowerBetween_congr fun u d v _ _ => ?_
  rw [endsWord, endsWord, meetsCased_append_sigma hc]

/-- Before a sigma nothing is seen of what is after it. -/
theorem lowerBetween_sigma {c : Char} (hc : c.toNat = 931) (before x after after' : List Char) :
    lowerBetween before x (c :: after) = lowerBetween before x (c :: after') :=
  lowerBetween_congr fun u d v _ _ => by
    rw [endsWord, endsWord, meetsCased_append_sigma hc]

/-- A text cannot occur where one of its characters is too rare. -/
theorem not_infix_of_count {s t : List Char} {c : Char} (h : t.count c < s.count c) :
    ¬ s <:+: t := by
  intro hoccurs
  have hcount := hoccurs.sublist.count_le c
  omega

theorem lowerImage_sigma {c : Char} (hc : c.toNat = 931) (before after : List Char) :
    lowerImage before c after = [Char.ofNat (if endsWord before after then 962 else 963)] := by
  rw [lowerImage, hc]
  rfl

theorem lowerImage_letter (before after : List Char) : lowerImage before 'A' after = ['a'] := by
  have hlower : lowerChar 'A' = 'a' := by decide +kernel
  rw [lowerImage, hlower]
  rfl

section Lost

variable {x y : List Char} {c : Char}

theorem meetsCased_letter : meetsCased ['A'] = true := by
  decide +kernel

/-- Behind a letter a sigma ends a word that it does not end alone. -/
theorem not_infix_behind_letter (hc : c.toNat = 931) (hx : x.all isIgnorable = true)
    (hy : meetsCased y = false) :
    ¬ lowerAfter [] (x ++ c :: y) <:+: lowerAfter [] ('A' :: (x ++ c :: y)) := by
  have hfirst : x.reverse.all isIgnorable = true := by rwa [List.all_reverse]
  have halone : endsWord (x.reverse ++ []) y = false := by
    rw [List.append_nil, endsWord, meetsCased_of_all hfirst, Bool.false_and]
  have hends : endsWord (x.reverse ++ ['A']) y = true := by
    rw [endsWord, meetsCased_append, if_pos hfirst, meetsCased_letter, hy]
    rfl
  have hbefore : lowerBetween ['A'] x (c :: y) = lowerBetween [] x (c :: y) :=
    lowerBetween_of_all hx ..
  have hafter : lowerAfter (c :: (x.reverse ++ ['A'])) y = lowerAfter (c :: (x.reverse ++ [])) y :=
    lowerAfter_sigma hc ..
  -- the plain form is rarer by one
  refine not_infix_of_count (c := Char.ofNat 963) ?_
  rw [lowerAfter_cons, lowerImage_letter, lowerAfter_split, lowerAfter_split,
    lowerImage_sigma hc, lowerImage_sigma hc, halone, hends, hbefore, hafter]
  simp

/-- Before a letter a sigma does not end the word that it ends alone. -/
theorem not_infix_before_letter (hc : c.toNat = 931) (hy : y.all isIgnorable = true)
    (hx : meetsCased x.reverse = true) :
    ¬ lowerAfter [] (x ++ c :: y) <:+: lowerAfter [] (x ++ c :: (y ++ ['A'])) := by
  have halone : endsWord (x.reverse ++ []) y = true := by
    rw [List.append_nil, endsWord, hx, meetsCased_of_all hy]
    rfl
  have hinside : endsWord (x.reverse ++ []) (y ++ ['A']) = false := by
    rw [endsWord, meetsCased_append y, if_pos hy, meetsCased_letter, Bool.not_true, Bool.and_false]
  have hbefore : lowerBetween [] x (c :: (y ++ ['A'])) = lowerBetween [] x (c :: y) :=
    lowerBetween_sigma hc ..
  have hafter : lowerBetween (c :: (x.reverse ++ [])) y ['A'] =
      lowerAfter (c :: (x.reverse ++ [])) y := by
    rw [← lowerBetween_nil]
    exact lowerBetween_of_all hy ..
  -- the final form is rarer by one
  refine not_infix_of_count (c := Char.ofNat 962) ?_
  rw [lowerAfter_split, lowerAfter_split [] x c y, lowerImage_sigma hc, lowerImage_sigma hc,
    halone, hinside, hbefore, lowerAfter_append _ y, hafter, lowerAfter_cons, lowerImage_letter]
  simp [lowerAfter]

end Lost

/-- **A sigma at an edge can be lost.**  A letter put before the text makes it the end of a word, or
one put after it makes it the inside of one, and nothing takes its place. -/
theorem exists_not_infix_of_edge {s : List Char} (h : HasEdgeSigma s) :
    ∃ before after, ¬ lowerAfter [] s <:+: lowerAfter [] (before ++ s ++ after) := by
  obtain ⟨x, c, y, rfl, hc, ⟨hx, hy⟩ | ⟨hy, hx⟩⟩ := h
  · exact ⟨['A'], [], by simpa using not_infix_behind_letter hc hx hy⟩
  · exact ⟨[], ['A'], by simpa using not_infix_before_letter hc hy hx⟩

end Text

namespace Condition

/-! ## Texts that are found -/

/-- The one text is found in the other, whatever the case of the letters. -/
def IsFound (part whole : String) : Prop :=
  applies .contains (.text part) (some (.text whole)) = .ok true

theorem isFound_iff {part whole : String} :
    IsFound part whole ↔
      Text.lowerAfter [] part.toList <:+: Text.lowerAfter [] whole.toList := by
  rw [IsFound, applies, Except.ok.injEq, ← occursIn_iff, occursFolded, Text.lower, Text.lower,
    String.toList_ofList, String.toList_ofList]
  rfl

theorem IsFound.trans {s t u : String} (h : IsFound s t) (h' : IsFound t u) : IsFound s u := by
  rw [isFound_iff] at *
  exact h.trans h'

theorem isFound_self (s : String) : IsFound s s :=
  isFound_iff.2 List.infix_rfl

/-- A text is found in one that has it between others, if its sigmas keep their forms there. -/
theorem isFound_between {before s after : String}
    (h : ∀ x c y, s.toList = x ++ c :: y → c.toNat = 931 →
      Text.endsWord (x.reverse ++ before.toList.reverse) (y ++ after.toList) =
        Text.endsWord x.reverse y) :
    IsFound s (before ++ s ++ after) := by
  rw [isFound_iff, String.toList_append, String.toList_append]
  exact Text.infix_lowerAfter h

theorem isFound_between_iff (s : String) :
    (∀ before after : String, IsFound s (before ++ s ++ after)) ↔
      ¬ Text.HasEdgeSigma s.toList := by
  constructor
  · intro hfound hedge
    obtain ⟨before, after, hlost⟩ := Text.exists_not_infix_of_edge hedge
    have h := isFound_iff.1 (hfound (String.ofList before) (String.ofList after))
    rw [String.toList_append, String.toList_append, String.toList_ofList,
      String.toList_ofList] at h
    exact hlost h
  · intro hnone before after
    exact isFound_between fun x c y hs hc =>
      Text.endsWord_of_not_isEdge (fun hedge => hnone ⟨x, c, y, hs, hc, hedge⟩) _ _

/-- **Which texts are found wherever they occur.**  A text is found in every text that has it in one
piece exactly if it has no capital sigma at an edge.  These are also the texts around which others
can be put so that whatever was found before still is.  And where no letter is met on either side of
the place, as between words, everything that was found in a text is found in its surroundings, a
text itself always among it. -/
theorem contains_between_iff (s : String) :
    ((∀ before after : String, IsFound s (before ++ s ++ after)) ↔
      ¬ Text.HasEdgeSigma s.toList) ∧
    ((∀ part before after : String, IsFound part s → IsFound part (before ++ s ++ after)) ↔
      ¬ Text.HasEdgeSigma s.toList) ∧
    IsFound s s ∧
    ∀ part before after : String, Text.meetsCased before.toList.reverse = false →
      Text.meetsCased after.toList = false → IsFound part s →
      IsFound part (before ++ s ++ after) := by
  refine ⟨isFound_between_iff s, ?_, isFound_self s, ?_⟩
  · rw [← isFound_between_iff]
    constructor
    · intro hkept before after
      exact hkept s before after (isFound_self s)
    · intro hfound part before after hpart
      exact hpart.trans (hfound before after)
  · intro part before after hbefore hafter hpart
    refine hpart.trans (isFound_between fun x c y _ _ => ?_)
    exact Text.endsWord_eq_alone (fun _ _ => hbefore) (fun _ _ => hafter)

/-- A word that ends in a sigma keeps it between blanks, and so what is found in the word is found
in the sentence. -/
theorem contains_between_iff_word :
    Text.meetsCased "Η ".toList.reverse = false ∧ Text.meetsCased " ΜΟΥ".toList = false ∧
      IsFound "δος" "ΟΔΟΣ" ∧ IsFound "δος" ("Η " ++ "ΟΔΟΣ" ++ " ΜΟΥ") := by
  have hbefore : Text.meetsCased "Η ".toList.reverse = false := by decide +kernel
  have hafter : Text.meetsCased " ΜΟΥ".toList = false := by decide +kernel
  have hword : IsFound "δος" "ΟΔΟΣ" := congrArg Except.ok (by decide +kernel)
  exact ⟨hbefore, hafter, hword,
    (contains_between_iff "ΟΔΟΣ").2.2.2 "δος" "Η " " ΜΟΥ" hbefore hafter hword⟩

/-- A capital sigma is found in itself, and not behind a letter, where it ends a word.  A word that
ends in a sigma is not found in a longer word that starts with it. -/
theorem sigma_not_found :
    IsFound "Σ" "Σ" ∧
      (ofJson "f" (.object [("operator", .text "contains"), ("value", .text "Σ")])).holds
        (.object [("f", .text ("Α" ++ "Σ" ++ ""))]) = .ok false ∧
      (ofJson "f" (.object [("operator", .text "contains"), ("value", .text "ΟΔΟΣ")])).holds
        (.object [("f", .text ("" ++ "ΟΔΟΣ" ++ "ΗΜΑ"))]) = .ok false :=
  ⟨congrArg Except.ok (by decide +kernel), congrArg Except.ok (by decide +kernel),
    congrArg Except.ok (by decide +kernel)⟩

end Condition

end BranchChoice
