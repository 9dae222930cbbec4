import BranchChoice.Proofs.JsonText

/-!
# The grammar of documents

Which texts are documents at all, written down without looking at a writer or a reader: quoted texts
with their escapes, numbers with their parts, and values between blanks.  There is no spelling for
a number that is not finite.

* `isChars_escaped`: whichever way a character is written in quotes, the grammar has it.
* `isNumber_write`: whichever way a finite number is laid out, the grammar has it.
* `isDocument_render`: what is written in any layout is a document, if the numbers are left out that
  are not finite.
-/

namespace BranchChoice

namespace Json

/-! ## Tokens -/

/-- The characters of a text in quotes: an escape of one letter, an escape of four hexadecimal
digits, or a character that is no quote, begins no escape and is no control character. -/
inductive IsChars : List Char → Prop
  | nil : IsChars []
  | plain {c : Char} {rest : List Char} (hquote : c ≠ '"') (hescape : c ≠ '\\')
      (hcontrol : 32 ≤ c.toNat) (h : IsChars rest) : IsChars (c :: rest)
  | letter {l : Char} {rest : List Char} (hl : l ∈ ['"', '\\', '/', 'b', 'f', 'n', 'r', 't'])
      (h : IsChars rest) : IsChars ('\\' :: l :: rest)
  | unit {a b c d : Char} {rest : List Char}
      (hdigits : ∀ x ∈ [a, b, c, d], (Text.hexValue? x).isSome = true) (h : IsChars rest) :
      IsChars ('\\' :: 'u' :: a :: b :: c :: d :: rest)

/-- A text in quotes. -/
inductive IsQuoted : List Char → Prop
  | mk {s : List Char} (h : IsChars s) : IsQuoted ('"' :: s ++ ['"'])

/-- The fraction of a number, if it has one: a point and at least one digit. -/
inductive IsFraction : List Char → Prop
  | none : IsFraction []
  | digits {ds : List Char} (hdigits : AllDigits ds) (hne : ds ≠ []) : IsFraction ('.' :: ds)

/-- The exponent of a number, if it has one: its letter, a sign or none, and at least one digit. -/
inductive IsExponent : List Char → Prop
  | none : IsExponent []
  | unsigned {e : Char} {ds : List Char} (he : e ∈ ['e', 'E']) (hdigits : AllDigits ds)
      (hne : ds ≠ []) : IsExponent (e :: ds)
  | signed {e sign : Char} {ds : List Char} (he : e ∈ ['e', 'E']) (hsign : sign ∈ ['+', '-'])
      (hdigits : AllDigits ds) (hne : ds ≠ []) : IsExponent (e :: sign :: ds)

/-- A number without its sign. -/
inductive IsMagnitude : List Char → Prop
  | mk {whole fraction exponent : List Char} (hwhole : IsWhole whole)
      (hfraction : IsFraction fraction) (hexponent : IsExponent exponent) :
      IsMagnitude (whole ++ fraction ++ exponent)

/-- A number: a minus sign may stand in front, but no plus sign. -/
inductive IsNumberText : List Char → Prop
  | positive {s : List Char} (h : IsMagnitude s) : IsNumberText s
  | negative {s : List Char} (h : IsMagnitude s) : IsNumberText ('-' :: s)

/-! ## Values -/

mutual

/-- A value without blanks around it. -/
inductive IsValue : List Char → Prop
  | null : IsValue ['n', 'u', 'l', 'l']
  | true : IsValue ['t', 'r', 'u', 'e']
  | false : IsValue ['f', 'a', 'l', 's', 'e']
  | number {s : List Char} (h : IsNumberText s) : IsValue s
  | text {s : List Char} (h : IsQuoted s) : IsValue s
  | emptyList {gap : List Char} (h : AllBlank gap) : IsValue ('[' :: gap ++ [']'])
  | list {s : List Char} (h : IsElements s) : IsValue ('[' :: s ++ [']'])
  | emptyObject {gap : List Char} (h : AllBlank gap) : IsValue ('\x7b' :: gap ++ ['\x7d'])
  | object {s : List Char} (h : IsMembers s) : IsValue ('\x7b' :: s ++ ['\x7d'])

/-- A value between blanks. -/
inductive IsElement : List Char → Prop
  | mk {before s after : List Char} (hbefore : AllBlank before) (h : IsValue s)
      (hafter : AllBlank after) : IsElement (before ++ s ++ after)

/-- One value or several, parted by commas. -/
inductive IsElements : List Char → Prop
  | last {s : List Char} (h : IsElement s) : IsElements s
  | cons {s rest : List Char} (h : IsElement s) (hrest : IsElements rest) :
      IsElements (s ++ ',' :: rest)

/-- A name between blanks, a colon, and a value. -/
inductive IsMember : List Char → Prop
  | mk {before name between s : List Char} (hbefore : AllBlank before) (hname : IsQuoted name)
      (hbetween : AllBlank between) (h : IsElement s) :
      IsMember (before ++ name ++ between ++ ':' :: s)

/-- One member or several, parted by commas. -/
inductive IsMembers : List Char → Prop
  | last {s : List Char} (h : IsMember s) : IsMembers s
  | cons {s rest : List Char} (h : IsMember s) (hrest : IsMembers rest) :
      IsMembers (s ++ ',' :: rest)

end

/-- A document: a value between blanks. -/
abbrev IsDocument (s : List Char) : Prop := IsElement s

/-! ## Quoted texts -/

theorem mem_letters_of_escaped? {l c : Char} (h : escaped? l = some c) :
    l ∈ ['"', '\\', '/', 'b', 'f', 'n', 'r', 't'] := by
  unfold escaped? at h
  split at h <;> simp_all

theorem isSome_of_unit? {a b c d : Char} {n : Nat} (h : unit? a b c d = some n) :
    ∀ x ∈ [a, b, c, d], (Text.hexValue? x).isSome = true := by
  simp only [unit?, Option.bind_eq_bind, Option.bind_eq_some_iff] at h
  obtain ⟨i, ha, j, hb, k, hc, l, hd, -⟩ := h
  simp [ha, hb, hc, hd]

theorem isChars_unitEscape {n : Nat} (hn : n < 65536) {rest : List Char} (h : IsChars rest) :
    IsChars (unitEscape n ++ rest) := by
  obtain ⟨a, b, c, d, hescape, hunit⟩ := exists_unitEscape hn
  rw [hescape]
  exact .unit (isSome_of_unit? hunit) h

/-- A character as it is written in quotes, in front of others. -/
theorem isChars_escaped {c : Char} {s rest : List Char} (hs : Escaped c s) (h : IsChars rest) :
    IsChars (s ++ rest) := by
  have hvalid : c.toNat < 55296 ∨ 57343 < c.toNat ∧ c.toNat < 1114112 := c.valid
  cases hs with
  | letter hl => exact .letter (mem_letters_of_escaped? hl) h
  | unit hshort => exact isChars_unitEscape hshort h
  | pair hlong =>
    rw [List.append_assoc]
    exact isChars_unitEscape (by omega) (isChars_unitEscape (by omega) h)
  | plain hquote hescape hcontrol => exact .plain hquote hescape hcontrol h

theorem isQuoted_writeText (ascii : Bool) (s : String) : IsQuoted (writeText ascii s) := by
  have hchars : IsChars (s.toList.flatMap (escapeChar ascii)) := by
    induction s.toList with
    | nil => exact .nil
    | cons c cs ih => exact isChars_escaped (escaped_escapeChar ascii c) ih
  exact .mk hchars

/-! ## Numbers -/

theorem isExponent_exponentText (e : Int) : IsExponent (exponentText e) := by
  obtain ⟨ds, htext, hdigits, hne, -⟩ := exponentText_digits e
  rw [htext]
  refine .signed (by simp) ?_ hdigits hne
  split_ifs <;> simp

/-- The text of the parts of a number. -/
theorem isMagnitude_text {p : NumberParts} (hp : p.WellFormed) : IsMagnitude p.text := by
  obtain ⟨whole, fractional, exponent⟩ := p
  refine .mk hp.whole ?_ ?_
  · cases fractional with
    | nil => exact .none
    | cons d ds => exact .digits hp.fractional (List.cons_ne_nil d ds)
  · cases exponent with
    | none => exact .none
    | some e => exact isExponent_exponentText e

theorem isMagnitude_magnitudeText {style : NumberStyle} (hpoint : style.keepPoint = true)
    (rank : Nat) : IsMagnitude (Binary64.magnitudeText style rank) := by
  obtain ⟨d, ⟨p, hp, htext, -⟩, -⟩ := Binary64.exists_spells_magnitude style hpoint rank
  rw [htext]
  exact isMagnitude_text hp

/-- A finite number, in any style that keeps the point of whole numbers. -/
theorem isNumber_write {style : NumberStyle} (hpoint : style.keepPoint = true) {x : Binary64}
    (hx : x.isFinite = true) : IsNumberText (x.write style Decimal.shortest) := by
  cases x with
  | nan => exact nomatch hx
  | signed negative rank =>
    have hlt : rank.val < Binary64.infinityRank := by simpa [Binary64.isFinite] using hx
    have hmagnitude : IsMagnitude (Binary64.magnitudeText style rank.val) :=
      isMagnitude_magnitudeText hpoint rank.val
    rw [write_signed _ (Nat.ne_of_lt hlt)]
    cases negative with
    | true =>
      rw [if_pos rfl]
      exact .negative hmagnitude
    | false =>
      rw [if_neg (by simp)]
      exact .positive hmagnitude

theorem isNumber_writeInt (n : Int) : IsNumberText (writeInt n) := by
  have hmagnitude : IsMagnitude (Nat.toDigits 10 n.natAbs ++ [] ++ []) :=
    .mk (isWhole_toDigits n.natAbs) .none .none
  rw [List.append_nil, List.append_nil] at hmagnitude
  unfold writeInt
  split_ifs
  · exact .negative hmagnitude
  · exact .positive hmagnitude

/-! ## Writing -/

section Writing

variable (layout : Layout)

/-- A name as it is written, in front of a value. -/
theorem isMember_text (name : String) {before s after : List Char} (hbefore : AllBlank before)
    (h : IsValue s) (hafter : AllBlank after) :
    IsMember (before ++ writeText layout.ascii name ++ layout.colon ++ s ++ after) := by
  obtain ⟨gap, hcolon, hgap⟩ := exists_colon layout
  have hmember := IsMember.mk hbefore (isQuoted_writeText layout.ascii name) allBlank_nil
    (.mk hgap h hafter)
  rw [hcolon]
  simpa using hmember

mutual

/-- What is written is a value, if the numbers are left out that are not finite. -/
theorem isValue_write : ∀ (v : Json) (depth : Nat), IsValue (write layout depth v.withoutNonFinite)
  | .null, depth => by
    simpa [withoutNonFinite, write] using IsValue.null
  | .bool true, depth => by
    simpa [withoutNonFinite, write] using IsValue.true
  | .bool false, depth => by
    simpa [withoutNonFinite, write] using IsValue.false
  | .int n, depth => by
    simpa [withoutNonFinite, write] using IsValue.number (isNumber_writeInt n)
  | .float x, depth => by
    rw [withoutNonFinite]
    split_ifs with hx
    · rw [write]
      exact .number (isNumber_write rfl hx)
    · rw [write]
      exact .null
  | .text s, depth => by
    simpa [withoutNonFinite, write] using IsValue.text (isQuoted_writeText layout.ascii s)
  | .list [], depth => by
    rw [withoutNonFinite, withoutNonFiniteItems, write]
    exact .emptyList allBlank_nil
  | .list (v :: rest), depth => by
    have helements := isElements_items (v :: rest) (List.cons_ne_nil v rest) depth
      (allBlank_newline layout (depth + 1))
    rw [withoutNonFiniteItems, itemsText] at helements
    rw [withoutNonFinite, withoutNonFiniteItems, write]
    simpa using IsValue.list helements
  | .object [], depth => by
    rw [withoutNonFinite, withoutNonFiniteFields, write]
    exact .emptyObject allBlank_nil
  | .object ((k, v) :: rest), depth => by
    have hmembers := isMembers_fields ((k, v) :: rest) (List.cons_ne_nil _ rest) depth
      (allBlank_newline layout (depth + 1))
    rw [withoutNonFiniteFields, membersText] at hmembers
    rw [withoutNonFinite, withoutNonFiniteFields, write]
    simpa using IsValue.object hmembers

theorem isElements_items : ∀ (items : List Json), items ≠ [] → ∀ (depth : Nat) {gap : List Char},
    AllBlank gap →
    IsElements (gap ++ itemsText layout depth (withoutNonFiniteItems items) ++ layout.newline depth)
  | [], hne, _, _, _ => absurd rfl hne
  | [v], _, depth, gap, hgap => by
    rw [withoutNonFiniteItems, withoutNonFiniteItems, itemsText, writeItems, List.append_nil]
    exact .last (.mk hgap (isValue_write v (depth + 1)) (allBlank_newline layout depth))
  | v :: w :: rest, _, depth, gap, hgap => by
    obtain ⟨gap', hseparator, hgap'⟩ := exists_separator layout (depth + 1)
    have helement : IsElement (gap ++ write layout (depth + 1) v.withoutNonFinite ++ []) :=
      .mk hgap (isValue_write v (depth + 1)) allBlank_nil
    have hrest := isElements_items (w :: rest) (List.cons_ne_nil w rest) depth hgap'
    rw [withoutNonFiniteItems, itemsText] at hrest
    rw [withoutNonFiniteItems, withoutNonFiniteItems, itemsText, writeItems, hseparator]
    simpa using IsElements.cons helement hrest

theorem isMembers_fields : ∀ (fields : List (String × Json)), fields ≠ [] → ∀ (depth : Nat)
    {gap : List Char}, AllBlank gap →
    IsMembers (gap ++ membersText layout depth (withoutNonFiniteFields fields) ++
      layout.newline depth)
  | [], hne, _, _, _ => absurd rfl hne
  | [(k, v)], _, depth, gap, hgap => by
    have hmember := isMember_text layout k hgap (isValue_write v (depth + 1))
      (allBlank_newline layout depth)
    rw [withoutNonFiniteFields, withoutNonFiniteFields, membersText, writeFields]
    simpa using IsMembers.last hmember
  | (k, v) :: (l, w) :: rest, _, depth, gap, hgap => by
    obtain ⟨gap', hseparator, hgap'⟩ := exists_separator layout (depth + 1)
    have hmember := isMember_text layout k hgap (isValue_write v (depth + 1)) allBlank_nil
    have hrest := isMembers_fields ((l, w) :: rest) (List.cons_ne_nil _ rest) depth hgap'
    rw [withoutNonFiniteFields, membersText] at hrest
    rw [withoutNonFiniteFields, withoutNonFiniteFields, membersText, writeFields, hseparator]
    simpa using IsMembers.cons hmember hrest

end

/-- **What is written is a document**, if the numbers are left out that are not finite. -/
theorem isDocument_render (v : Json) : IsDocument (v.withoutNonFinite.render layout).toList := by
  have hdocument : IsElement ([] ++ write layout 0 v.withoutNonFinite ++ []) :=
    .mk allBlank_nil (isValue_write layout v 0) allBlank_nil
  rw [render, String.toList_ofList]
  simpa using hdocument

end Writing

end Json

end BranchChoice
