import BranchChoice.Proofs.NumberText

/-!
# Documents read back

What is written as a document, in whichever layout, is read back as the same value (`parse_render`),
if a document can hold it at all (`isReadable`): texts character by character
(`readChars_writeText`), whole numbers exactly, real numbers with the sign of zero, and members in
their order.

The reader goes down the text as the writer has put it together, so there is one lemma for each step
of the reader, and the proof for values, items and members follows the three functions of the
writer.  What follows a value matters only because a number must end somewhere.
-/

namespace BranchChoice

/-! ## Members with names of their own -/

namespace Fields

theorem put_of_not_mem {fields : Fields} {name : String} {value : Json}
    (h : name ∉ fields.map (·.1)) : fields.put name value = fields ++ [(name, value)] := by
  induction fields with
  | nil => rfl
  | cons member rest ih =>
    obtain ⟨k, v⟩ := member
    simp only [List.map_cons, List.mem_cons, not_or] at h
    rw [put, if_neg (fun hk => h.1 hk.symm), ih h.2, List.cons_append]

/-- Members whose names are all different spell the object that has them in their order. -/
theorem ofList_of_nodup {members : List (String × Json)} (h : (members.map (·.1)).Nodup) :
    ofList members = members := by
  suffices hfold : ∀ (rest before : List (String × Json)),
      ((before ++ rest).map (·.1)).Nodup →
      rest.foldl (fun (fields : Fields) m => fields.put m.1 m.2) before = before ++ rest from
    hfold members [] h
  intro rest
  induction rest with
  | nil => exact fun before _ => (List.append_nil before).symm
  | cons member rest ih =>
    intro before hnodup
    obtain ⟨k, v⟩ := member
    have hk : k ∉ before.map (·.1) := by
      rw [List.map_append, List.nodup_append] at hnodup
      intro hmem
      exact hnodup.2.2 k hmem k (by simp) rfl
    rw [List.foldl_cons, put_of_not_mem hk, ih, List.append_assoc, List.singleton_append]
    rw [List.append_assoc, List.singleton_append]
    exact hnodup

end Fields

namespace Json

/-! ## Quoted texts -/

theorem hexValue?_hexDigit : ∀ d < 16, Text.hexValue? (Text.hexDigit d) = some d := by
  decide

/-- The escape of a 16-bit unit has four digits that spell the unit. -/
theorem exists_unitEscape {n : Nat} (hn : n < 65536) :
    ∃ a b c d, unitEscape n = ['\\', 'u', a, b, c, d] ∧ unit? a b c d = some n := by
  refine ⟨_, _, _, _, rfl, ?_⟩
  have hdigit (k : Nat) := hexValue?_hexDigit (k % 16) (Nat.mod_lt k (by decide))
  simp only [unit?, hdigit, Option.bind_eq_bind, Option.bind_some]
  simp only [Option.pure_def, Option.some.injEq]
  omega

theorem unitChar_toNat (c : Char) : unitChar c.toNat = c := by
  have hvalid : c.toNat < 55296 ∨ 57343 < c.toNat ∧ c.toNat < 1114112 := c.valid
  rw [unitChar, if_neg (by simp; omega), Char.ofNat_toNat]

section Chars

variable {start : List Char}

/-- The escape of a unit that begins no pair is one character. -/
theorem readChars_unit {a b c d next : Char} {n : Nat} {rest : List Char}
    (hunit : unit? a b c d = some n) (hsingle : ¬ (55296 ≤ n ∧ n ≤ 56319)) :
    readChars start ('\\' :: 'u' :: a :: b :: c :: d :: next :: rest) =
      consRead (unitChar n) (readChars start (next :: rest)) := by
  have hno : (55296 ≤ n && n ≤ 56319 : Bool) = false := by
    simp only [Bool.and_eq_false_iff, decide_eq_false_iff_not]
    omega
  by_cases hescape : ∃ e f g h following more,
      next = '\\' ∧ rest = 'u' :: e :: f :: g :: h :: following :: more
  · obtain ⟨e, f, g, h, following, more, rfl, rfl⟩ := hescape
    rw [readChars, hunit]
    simp only [hno, Bool.false_eq_true, if_false]
  · rw [readChars, hunit]
    intro e f g h following more hnext hrest
    exact hescape ⟨e, f, g, h, following, more, hnext, hrest⟩

/-- The escapes of the two halves of a pair are one character. -/
theorem readChars_pair {a b c d e f g h next : Char} {high low : Nat} {rest : List Char}
    (hhigh : unit? a b c d = some high) (hlow : unit? e f g h = some low)
    (hfirst : 55296 ≤ high ∧ high ≤ 56319) (hsecond : 56320 ≤ low ∧ low ≤ 57343) :
    readChars start ('\\' :: 'u' :: a :: b :: c :: d :: '\\' :: 'u' :: e :: f :: g :: h ::
        next :: rest) =
      consRead (Char.ofNat (65536 + (high - 55296) * 1024 + (low - 56320)))
        (readChars start (next :: rest)) := by
  rw [readChars, hhigh]
  simp only [hfirst.1, hfirst.2, hsecond.1, hsecond.2, hlow, decide_true, Bool.and_true, if_true]

/-- A character that is neither a quote nor a control character nor begins an escape is itself. -/
theorem readChars_plain {c : Char} {rest : List Char} (hquote : c ≠ '"') (hescape : c ≠ '\\')
    (hcontrol : 32 ≤ c.toNat) :
    readChars start (c :: rest) = consRead c (readChars start rest) := by
  have hno : ¬ c.toNat < 32 := by omega
  rw [readChars] <;> simp_all

/-- The escape of one letter. -/
theorem readChars_letter {letter e : Char} {rest : List Char} (h : escaped? letter = some e) :
    readChars start ('\\' :: letter :: rest) = consRead e (readChars start rest) := by
  have hunit : letter ≠ 'u' := by
    rintro rfl
    cases h
  rw [readChars, h] <;> simp_all

/-- The ways in which a character is written as part of a text. -/
inductive Escaped (c : Char) : List Char → Prop
  | letter {l : Char} (h : escaped? l = some c) : Escaped c ['\\', l]
  | unit (h : c.toNat < 65536) : Escaped c (unitEscape c.toNat)
  | pair (h : 65536 ≤ c.toNat) : Escaped c (unitEscape (55296 + (c.toNat - 65536) / 1024) ++
      unitEscape (56320 + (c.toNat - 65536) % 1024))
  | plain (hquote : c ≠ '"') (hescape : c ≠ '\\') (hcontrol : 32 ≤ c.toNat) : Escaped c [c]

theorem escaped_escapeChar (ascii : Bool) (c : Char) : Escaped c (escapeChar ascii c) := by
  have hletter {l d : Char} (hescaped : escaped? l = some d) (hd : (c.toNat == d.toNat) = true) :
      Escaped c ['\\', l] := by
    obtain rfl : c = d := Char.toNat_inj.1 (eq_of_beq hd)
    exact .letter hescaped
  unfold escapeChar
  dsimp only
  refine iteInduction (fun h => ?_) fun hquote => ?_
  · obtain rfl := eq_of_beq h
    exact .letter rfl
  refine iteInduction (fun h => ?_) fun hslash => ?_
  · obtain rfl := eq_of_beq h
    exact .letter rfl
  refine iteInduction (fun h => hletter (d := '\n') rfl h) fun _ => ?_
  refine iteInduction (fun h => hletter (d := '\r') rfl h) fun _ => ?_
  refine iteInduction (fun h => hletter (d := '\t') rfl h) fun _ => ?_
  refine iteInduction (fun h => hletter (d := Char.ofNat 12) rfl h) fun _ => ?_
  refine iteInduction (fun h => hletter (d := Char.ofNat 8) rfl h) fun _ => ?_
  refine iteInduction (fun h => .unit (by omega)) fun hcontrol => ?_
  refine iteInduction (fun _ => ?_) fun _ => ?_
  · exact iteInduction (fun hshort => .unit hshort) fun hlong => .pair (by omega)
  · exact .plain (by simpa using hquote) (by simpa using hslash) (by omega)

/-- **A character that is written as part of a text is read back.** -/
theorem readChars_escaped {c : Char} {s : List Char} (h : Escaped c s) (next : Char)
    (rest : List Char) :
    readChars start (s ++ next :: rest) = consRead c (readChars start (next :: rest)) := by
  have hvalid : c.toNat < 55296 ∨ 57343 < c.toNat ∧ c.toNat < 1114112 := c.valid
  cases h with
  | letter h => exact readChars_letter h
  | unit h =>
    obtain ⟨x, y, z, w, hescape, hunit⟩ := exists_unitEscape h
    have hread := @readChars_unit start x y z w next c.toNat rest hunit (by omega)
    rw [unitChar_toNat] at hread
    rw [hescape]
    exact hread
  | pair h =>
    obtain ⟨x, y, z, w, hescape, hhigh⟩ :=
      @exists_unitEscape (55296 + (c.toNat - 65536) / 1024) (by omega)
    obtain ⟨x', y', z', w', hescape', hlow⟩ :=
      @exists_unitEscape (56320 + (c.toNat - 65536) % 1024) (by omega)
    have hread := @readChars_pair start x y z w x' y' z' w' next _ _ rest hhigh hlow (by omega)
      (by omega)
    have hsum : 65536 + (55296 + (c.toNat - 65536) / 1024 - 55296) * 1024 +
        (56320 + (c.toNat - 65536) % 1024 - 56320) = c.toNat := by omega
    rw [hsum, Char.ofNat_toNat] at hread
    rw [hescape, hescape']
    exact hread
  | plain hquote hescape hcontrol => exact readChars_plain hquote hescape hcontrol

/-- **A text that is written in quotes is read back.** -/
theorem readChars_writeText (ascii : Bool) (s : String) (rest : List Char) :
    readChars start (s.toList.flatMap (escapeChar ascii) ++ '"' :: rest) =
      .ok (s.toList, rest) := by
  generalize s.toList = chars
  induction chars with
  | nil => rw [List.flatMap_nil, List.nil_append, readChars]
  | cons c cs ih =>
    obtain ⟨next, more, hnext⟩ : ∃ next more,
        cs.flatMap (escapeChar ascii) ++ '"' :: rest = next :: more :=
      List.exists_cons_of_ne_nil (by simp)
    rw [List.flatMap_cons, List.append_assoc, hnext,
      readChars_escaped (escaped_escapeChar ascii c), ← hnext, ih]
    rfl

end Chars

/-! ## Values that documents hold -/

mutual

/-- Whether a document can hold the value: no object uses a name twice, and no whole number has more
digits than may be read. -/
def isReadable : Json → Bool
  | int n => Decimal.digitCount n.natAbs ≤ maxIntegerDigits
  | list items => isReadableItems items
  | object fields => (fields.map (·.1)).Nodup && isReadableFields fields
  | _ => true

/-- Whether every item is `isReadable`. -/
def isReadableItems : List Json → Bool
  | [] => true
  | v :: rest => v.isReadable && isReadableItems rest

/-- Whether the value of every member is `isReadable`. -/
def isReadableFields : List (String × Json) → Bool
  | [] => true
  | (_, v) :: rest => v.isReadable && isReadableFields rest

end

/-! ## Blanks -/

/-- Characters that may stand between the tokens of a document. -/
def AllBlank (s : List Char) : Prop :=
  ∀ c ∈ s, (c == ' ' || c == '\t' || c == '\n' || c == '\r') = true

theorem skipBlanks_append {blanks : List Char} (h : AllBlank blanks) (s : List Char) :
    skipBlanks (blanks ++ s) = skipBlanks s :=
  List.dropWhile_append_of_pos h

theorem allBlank_nil : AllBlank [] :=
  fun _ h => nomatch h

theorem allBlank_newline (layout : Layout) (depth : Nat) : AllBlank (layout.newline depth) := by
  intro c hc
  unfold Layout.newline at hc
  split at hc
  · simp at hc
  · rcases List.mem_cons.1 hc with rfl | hc
    · decide
    · obtain rfl := List.eq_of_mem_replicate hc
      decide

theorem exists_separator (layout : Layout) (depth : Nat) :
    ∃ gap, layout.separator depth = ',' :: gap ∧ AllBlank gap := by
  unfold Layout.separator
  split
  · split_ifs
    · exact ⟨[' '], rfl, by simp [AllBlank]⟩
    · exact ⟨[], rfl, allBlank_nil⟩
  · exact ⟨_, rfl, allBlank_newline layout depth⟩

theorem exists_colon (layout : Layout) : ∃ gap, layout.colon = ':' :: gap ∧ AllBlank gap := by
  unfold Layout.colon
  split_ifs
  · exact ⟨[' '], rfl, by simp [AllBlank]⟩
  · exact ⟨[], rfl, allBlank_nil⟩

/-- A character that no number has ends one. -/
theorem endsNumber_cons {c : Char} {s : List Char}
    (hc : c.isDigit = false ∧ c ≠ '.' ∧ c ≠ 'e' ∧ c ≠ 'E') : EndsNumber (c :: s) := by
  intro d hd
  obtain rfl : c = d := Option.some.inj hd
  exact hc

theorem endsNumber_append {blanks s : List Char} (h : AllBlank blanks) (hs : EndsNumber s) :
    EndsNumber (blanks ++ s) := by
  cases blanks with
  | nil => exact hs
  | cons c rest =>
    have hc := h c (by simp)
    simp only [Bool.or_eq_true, beq_iff_eq] at hc
    apply endsNumber_cons
    rcases hc with ((rfl | rfl) | rfl) | rfl <;> decide

/-! ## How a value starts -/

/-- The characters that a document can start with. -/
def StartsValue (c : Char) : Prop :=
  c.isDigit = true ∨ c ∈ ['-', 'n', 't', 'f', 'N', 'I', '"', '[', '\x7b']

theorem StartsValue.ne {c d : Char} (h : StartsValue c)
    (hd : d ∈ [' ', '\t', '\n', '\r', ']', '\x7d']) : c ≠ d := by
  rintro rfl
  revert h
  simp only [List.mem_cons, List.not_mem_nil, or_false] at hd
  rcases hd with rfl | rfl | rfl | rfl | rfl | rfl <;> simp [StartsValue]

theorem skipBlanks_start {c : Char} (h : StartsValue c) (s : List Char) :
    skipBlanks (c :: s) = c :: s := by
  have hblank : (c == ' ' || c == '\t' || c == '\n' || c == '\r') = false := by
    simp only [Bool.or_eq_false_iff, beq_eq_false_iff_ne]
    exact ⟨⟨⟨h.ne (by simp), h.ne (by simp)⟩, h.ne (by simp)⟩, h.ne (by simp)⟩
  simp only [skipBlanks, List.dropWhile_cons, hblank, Bool.false_eq_true, if_false]

/-! ## Numbers -/

theorem exists_digit_of_spells {s : List Char} {d : Decimal} (h : Spells s d) :
    ∃ c rest, s = c :: rest ∧ c.isDigit = true := by
  obtain ⟨p, hp, rfl, -⟩ := h
  obtain ⟨c, rest, hcons⟩ := List.exists_cons_of_ne_nil hp.whole.ne_nil
  have hc : c.isDigit = true := hp.whole.digits c (by simp [hcons])
  exact ⟨c, _, by rw [NumberParts.text, hcons]; rfl, hc⟩

theorem exists_digit_toDigits (n : Nat) :
    ∃ c rest, Nat.toDigits 10 n = c :: rest ∧ c.isDigit = true := by
  obtain ⟨c, rest, hcons⟩ := List.exists_cons_of_ne_nil (Nat.toDigits_ne_nil (n := n) (b := 10))
  exact ⟨c, rest, hcons, allDigits_toDigits n c (by simp [hcons])⟩

/-- A text that starts with a digit is read as a number. -/
theorem readValue_digit {c : Char} (hc : c.isDigit = true) (fuel : Nat) (rest : List Char) :
    readValue (fuel + 1) (c :: rest) = readNumber false (c :: rest) (c :: rest) := by
  -- no other kind of value starts with a digit
  rw [readValue] <;>
    · rintro _ h
      obtain ⟨rfl, -⟩ := List.cons.inj h
      cases hc

theorem readValue_minus {c : Char} (hc : c.isDigit = true) (fuel : Nat) (rest : List Char) :
    readValue (fuel + 1) ('-' :: c :: rest) = readNumber true ('-' :: c :: rest) (c :: rest) := by
  rw [readValue]
  rintro rest' h
  obtain ⟨rfl, -⟩ := List.cons.inj h
  cases hc

/-- **A whole number reads back.** -/
theorem readValue_writeInt {n : Int} (hn : Decimal.digitCount n.natAbs ≤ maxIntegerDigits)
    (fuel : Nat) {tail : List Char} (htail : EndsNumber tail) :
    readValue (fuel + 1) (writeInt n ++ tail) = .ok (.int n, tail) := by
  obtain ⟨c, rest, hcons, hc⟩ := exists_digit_toDigits n.natAbs
  have hread (negative : Bool) (start : List Char) :=
    @readNumber_digits negative start _ tail (isWhole_toDigits n.natAbs) htail hn
  rw [Decimal.ofDigits_toDigits] at hread
  unfold writeInt
  split_ifs with hneg
  · have hvalue : -(n.natAbs : Int) = n := by omega
    rw [List.cons_append, hcons, List.cons_append, readValue_minus hc, ← List.cons_append, ← hcons,
      hread, if_pos rfl, hvalue]
  · have hvalue : (n.natAbs : Int) = n := by omega
    rw [hcons, List.cons_append, readValue_digit hc, ← List.cons_append, ← hcons, hread,
      if_neg (by simp), hvalue]

/-- A finite number is a sign and a magnitude. -/
theorem write_signed (style : NumberStyle) {negative : Bool}
    {rank : Fin (Binary64.infinityRank + 1)} (hrank : rank.val ≠ Binary64.infinityRank) :
    (Binary64.signed negative rank).write style Decimal.shortest =
      if negative then '-' :: Binary64.magnitudeText style rank.val
      else Binary64.magnitudeText style rank.val := by
  rw [Binary64.write, if_neg hrank]
  rfl

/-- **A real number reads back**, and so do the three that are not finite. -/
theorem readValue_writeFloat (x : Binary64) (fuel : Nat) {tail : List Char}
    (htail : EndsNumber tail) :
    readValue (fuel + 1) (x.write Binary64.documentStyle Decimal.shortest ++ tail) =
      .ok (.float x, tail) := by
  cases x with
  | nan => rfl
  | signed negative rank =>
    by_cases hrank : rank.val = Binary64.infinityRank
    · have hinfinity : Binary64.signed negative rank = .infinity negative := by
        rw [Binary64.infinity, Binary64.ofRank]
        congr 1
        exact Fin.ext (by simpa using hrank)
      rw [hinfinity]
      cases negative <;> rfl
    · obtain ⟨d, hspells, hread⟩ :=
        Binary64.exists_spells_magnitude Binary64.documentStyle rfl rank.val
      obtain ⟨c, rest, hcons, hc⟩ := exists_digit_of_spells hspells
      have hnumber (start : List Char) := readNumber_spells hspells negative start htail
      rw [hread, Binary64.ofRank_val] at hnumber
      rw [write_signed _ hrank]
      cases negative with
      | true =>
        rw [if_pos rfl, List.cons_append, hcons, List.cons_append, readValue_minus hc,
          ← List.cons_append, ← hcons, hnumber]
      | false =>
        rw [if_neg (by simp), hcons, List.cons_append, readValue_digit hc, ← List.cons_append,
          ← hcons, hnumber]

/-! ## Steps of the reader -/

theorem exists_start_writeInt (n : Int) : ∃ c s, writeInt n = c :: s ∧ StartsValue c := by
  obtain ⟨c, rest, hcons, hc⟩ := exists_digit_toDigits n.natAbs
  unfold writeInt
  split_ifs
  · exact ⟨'-', _, rfl, by simp [StartsValue]⟩
  · exact ⟨c, rest, hcons, .inl hc⟩

theorem exists_start_writeFloat (x : Binary64) :
    ∃ c s, x.write Binary64.documentStyle Decimal.shortest = c :: s ∧ StartsValue c := by
  cases x with
  | nan => exact ⟨'N', _, rfl, by simp [StartsValue]⟩
  | signed negative rank =>
    by_cases hrank : rank.val = Binary64.infinityRank
    · rw [Binary64.write, if_pos hrank]
      cases negative
      · exact ⟨'I', _, rfl, by simp [StartsValue]⟩
      · exact ⟨'-', _, rfl, by simp [StartsValue]⟩
    · obtain ⟨d, hspells, -⟩ :=
        Binary64.exists_spells_magnitude Binary64.documentStyle rfl rank.val
      obtain ⟨c, rest, hcons, hc⟩ := exists_digit_of_spells hspells
      rw [write_signed _ hrank]
      cases negative
      · exact ⟨c, rest, by rw [if_neg (by simp), hcons], .inl hc⟩
      · exact ⟨'-', _, if_pos rfl, by simp [StartsValue]⟩

theorem exists_start_write (layout : Layout) (depth : Nat) (v : Json) :
    ∃ c s, write layout depth v = c :: s ∧ StartsValue c := by
  cases v with
  | null => exact ⟨'n', _, by rw [write], by simp [StartsValue]⟩
  | bool b => cases b <;> exact ⟨_, _, by rw [write], by simp [StartsValue]⟩
  | text s => exact ⟨'"', _, by rw [write, writeText]; rfl, by simp [StartsValue]⟩
  | list items => cases items <;> exact ⟨'[', _, by rw [write]; try rfl, by simp [StartsValue]⟩
  | object fields =>
    rcases fields with _ | ⟨⟨k, v⟩, rest⟩ <;>
      exact ⟨'\x7b', _, by rw [write]; try rfl, by simp [StartsValue]⟩
  | int n =>
    rw [write]
    exact exists_start_writeInt n
  | float x =>
    rw [write]
    exact exists_start_writeFloat x

theorem skipBlanks_write (layout : Layout) (depth : Nat) (v : Json) (s : List Char) :
    skipBlanks (write layout depth v ++ s) = write layout depth v ++ s := by
  obtain ⟨c, rest, hcons, hc⟩ := exists_start_write layout depth v
  rw [hcons, List.cons_append, skipBlanks_start hc]

section Steps

variable {fuel : Nat} {s rest tail : List Char} {v : Json}

theorem readValue_list {c : Char} (hstart : skipBlanks s = c :: rest) (hc : c ≠ ']') :
    readValue (fuel + 1) ('[' :: s) =
      (readItems fuel (c :: rest)).map fun (vs, tail) => (.list vs, tail) := by
  rw [readValue, hstart]
  split
  · next h => exact absurd (List.cons.inj h).1 hc
  · cases readItems fuel (c :: rest) <;> rfl

theorem readValue_object {c : Char} (hstart : skipBlanks s = c :: rest) (hc : c ≠ '\x7d') :
    readValue (fuel + 1) ('\x7b' :: s) =
      (readMembers fuel (c :: rest)).map fun (ms, tail) => (.object (Fields.ofList ms), tail) := by
  rw [readValue, hstart]
  split
  · next h => exact absurd (List.cons.inj h).1 hc
  · cases readMembers fuel (c :: rest) <;> rfl

theorem readItems_last (hread : readValue fuel s = .ok (v, rest))
    (hend : skipBlanks rest = ']' :: tail) : readItems (fuel + 1) s = .ok ([v], tail) := by
  simp only [readItems, hread, hend]

theorem readItems_more (hread : readValue fuel s = .ok (v, rest))
    (hmore : skipBlanks rest = ',' :: tail) :
    readItems (fuel + 1) s =
      (readItems fuel (skipBlanks tail)).map fun (vs, tail) => (v :: vs, tail) := by
  simp only [readItems, hread, hmore]
  cases readItems fuel (skipBlanks tail) <;> rfl

/-- Reading a member first reads its name and the colon. -/
theorem memberText_eq (layout : Layout) (name : String) (s : List Char) :
    ∃ gap, AllBlank gap ∧ writeText layout.ascii name ++ layout.colon ++ s =
      '"' :: (name.toList.flatMap (escapeChar layout.ascii) ++ '"' :: ':' :: (gap ++ s)) := by
  obtain ⟨gap, hcolon, hgap⟩ := exists_colon layout
  exact ⟨gap, hgap, by simp [writeText, hcolon]⟩

theorem skipBlanks_colon (s : List Char) : skipBlanks (':' :: s) = ':' :: s := rfl

theorem readMembers_last (layout : Layout) (name : String) (hstart : skipBlanks s = s)
    (hread : readValue fuel s = .ok (v, rest)) (hend : skipBlanks rest = '\x7d' :: tail) :
    readMembers (fuel + 1) (writeText layout.ascii name ++ layout.colon ++ s) =
      .ok ([(name, v)], tail) := by
  obtain ⟨gap, hgap, htext⟩ := memberText_eq layout name s
  rw [htext]
  simp only [readMembers, readChars_writeText, skipBlanks_colon, skipBlanks_append hgap, hstart,
    hread, hend, String.ofList_toList]

theorem readMembers_more (layout : Layout) (name : String) (hstart : skipBlanks s = s)
    (hread : readValue fuel s = .ok (v, rest)) (hmore : skipBlanks rest = ',' :: tail) :
    readMembers (fuel + 1) (writeText layout.ascii name ++ layout.colon ++ s) =
      (readMembers fuel (skipBlanks tail)).map fun (ms, tail) => ((name, v) :: ms, tail) := by
  obtain ⟨gap, hgap, htext⟩ := memberText_eq layout name s
  rw [htext]
  simp only [readMembers, readChars_writeText, skipBlanks_colon, skipBlanks_append hgap, hstart,
    hread, hmore, String.ofList_toList]
  cases readMembers fuel (skipBlanks tail) <;> rfl

end Steps

/-! ## Values -/

/-- The text of the items of a list after its opening bracket. -/
def itemsText (layout : Layout) (depth : Nat) : List Json → List Char
  | [] => []
  | v :: rest => write layout (depth + 1) v ++ writeItems layout depth rest

/-- The text of the members of an object after its opening brace. -/
def membersText (layout : Layout) (depth : Nat) : List (String × Json) → List Char
  | [] => []
  | (k, v) :: rest =>
    writeText layout.ascii k ++ layout.colon ++ write layout (depth + 1) v ++
      writeFields layout depth rest

theorem endsNumber_close (layout : Layout) (depth : Nat) {c : Char} {tail : List Char}
    (hc : c = ']' ∨ c = '\x7d') : EndsNumber (layout.newline depth ++ c :: tail) := by
  apply endsNumber_append (allBlank_newline layout depth)
  rcases hc with rfl | rfl <;> exact endsNumber_cons (by decide)

theorem endsNumber_separator (layout : Layout) (depth : Nat) (s : List Char) :
    EndsNumber (layout.separator depth ++ s) := by
  obtain ⟨gap, hgap, -⟩ := exists_separator layout depth
  rw [hgap]
  exact endsNumber_cons (by decide)

section RoundTrip

variable (layout : Layout)

theorem exists_fuel {layout : Layout} {depth fuel : Nat} {v : Json}
    (h : 2 * (write layout depth v).length ≤ fuel) : ∃ steps, fuel = steps + 1 := by
  obtain ⟨c, s, hcons, -⟩ := exists_start_write layout depth v
  rw [hcons, List.length_cons] at h
  exact ⟨fuel - 1, by omega⟩

mutual

/-- What is written is read back, whatever follows, if it does not go on with a number. -/
theorem readValue_write : ∀ (v : Json) (depth fuel : Nat) (tail : List Char),
    v.isReadable = true → EndsNumber tail → 2 * (write layout depth v).length ≤ fuel →
    readValue fuel (write layout depth v ++ tail) = .ok (v, tail)
  | null, _, fuel, tail, _, _, hfuel => by
    obtain ⟨fuel, rfl⟩ := exists_fuel hfuel
    rw [write]
    rfl
  | bool true, _, fuel, tail, _, _, hfuel => by
    obtain ⟨fuel, rfl⟩ := exists_fuel hfuel
    rw [write]
    rfl
  | bool false, _, fuel, tail, _, _, hfuel => by
    obtain ⟨fuel, rfl⟩ := exists_fuel hfuel
    rw [write]
    rfl
  | int n, _, fuel, tail, hv, htail, hfuel => by
    obtain ⟨fuel, rfl⟩ := exists_fuel hfuel
    rw [write]
    exact readValue_writeInt (by simpa [isReadable] using hv) fuel htail
  | float x, _, fuel, tail, _, htail, hfuel => by
    obtain ⟨fuel, rfl⟩ := exists_fuel hfuel
    rw [write]
    exact readValue_writeFloat x fuel htail
  | text s, _, fuel, tail, _, _, hfuel => by
    obtain ⟨fuel, rfl⟩ := exists_fuel hfuel
    rw [write, writeText, List.append_assoc, List.singleton_append, List.cons_append, readValue,
      readChars_writeText]
    simp only [String.ofList_toList]
  | list [], _, fuel, tail, _, _, hfuel => by
    obtain ⟨fuel, rfl⟩ := exists_fuel hfuel
    rw [write]
    rfl
  | list (v :: rest), depth, fuel, tail, hv, _, hfuel => by
    obtain ⟨fuel, rfl⟩ := exists_fuel hfuel
    obtain ⟨c, s, hcons, hc⟩ := exists_start_write layout (depth + 1) v
    have htext : write layout depth (list (v :: rest)) ++ tail = '[' ::
        (layout.newline (depth + 1) ++ (itemsText layout depth (v :: rest) ++
          layout.newline depth ++ ']' :: tail)) := by simp [write, itemsText]
    have hstart : itemsText layout depth (v :: rest) ++ layout.newline depth ++ ']' :: tail =
        c :: (s ++ writeItems layout depth rest ++ layout.newline depth ++ ']' :: tail) := by
      rw [itemsText, hcons]
      rfl
    have hskip : skipBlanks (layout.newline (depth + 1) ++ (itemsText layout depth (v :: rest) ++
        layout.newline depth ++ ']' :: tail)) =
          c :: (s ++ writeItems layout depth rest ++ layout.newline depth ++ ']' :: tail) := by
      rw [skipBlanks_append (allBlank_newline _ _), hstart, skipBlanks_start hc]
    have hitems := readItems_write (v :: rest) depth fuel tail (by simp) hv (by
      simp only [write, itemsText, List.length_append, List.length_cons] at hfuel ⊢
      omega)
    rw [htext, readValue_list hskip (hc.ne (by simp)), ← hstart, hitems]
    rfl
  | object [], _, fuel, tail, _, _, hfuel => by
    obtain ⟨fuel, rfl⟩ := exists_fuel hfuel
    rw [write]
    rfl
  | object ((k, v) :: rest), depth, fuel, tail, hv, _, hfuel => by
    obtain ⟨fuel, rfl⟩ := exists_fuel hfuel
    rw [isReadable, Bool.and_eq_true, decide_eq_true_eq] at hv
    have htext : write layout depth (object ((k, v) :: rest)) ++ tail = '\x7b' ::
        (layout.newline (depth + 1) ++ (membersText layout depth ((k, v) :: rest) ++
          layout.newline depth ++ '\x7d' :: tail)) := by simp [write, membersText]
    obtain ⟨s, hstart⟩ : ∃ s, membersText layout depth ((k, v) :: rest) ++ layout.newline depth ++
        '\x7d' :: tail = '"' :: s := ⟨_, by rw [membersText, writeText]; rfl⟩
    have hskip : skipBlanks (layout.newline (depth + 1) ++ (membersText layout depth
        ((k, v) :: rest) ++ layout.newline depth ++ '\x7d' :: tail)) = '"' :: s := by
      rw [skipBlanks_append (allBlank_newline _ _), hstart]
      rfl
    have hmembers := readMembers_write ((k, v) :: rest) depth fuel tail (by simp) hv.2 (by
      simp only [write, membersText, List.length_append, List.length_cons] at hfuel ⊢
      omega)
    rw [htext, readValue_object hskip (by decide), ← hstart, hmembers]
    simp only [Except.map, Fields.ofList_of_nodup hv.1]

theorem readItems_write : ∀ (items : List Json) (depth fuel : Nat) (tail : List Char),
    items ≠ [] → isReadableItems items = true →
    2 * (itemsText layout depth items).length + 1 ≤ fuel →
    readItems fuel (itemsText layout depth items ++ layout.newline depth ++ ']' :: tail) =
      .ok (items, tail)
  | [], _, _, _, hne, _, _ => absurd rfl hne
  | [v], depth, fuel, tail, _, hv, hfuel => by
    obtain ⟨fuel, rfl⟩ : ∃ steps, fuel = steps + 1 := ⟨fuel - 1, by omega⟩
    simp only [isReadableItems, Bool.and_true] at hv
    have hread := readValue_write v (depth + 1) fuel (layout.newline depth ++ ']' :: tail) hv
      (endsNumber_close layout depth (.inl rfl)) (by
        simp only [itemsText, writeItems, List.append_nil] at hfuel
        omega)
    have hend : skipBlanks (layout.newline depth ++ ']' :: tail) = ']' :: tail := by
      rw [skipBlanks_append (allBlank_newline _ _)]
      rfl
    rw [itemsText, writeItems, List.append_nil, List.append_assoc]
    exact readItems_last hread hend
  | v :: w :: rest, depth, fuel, tail, _, hv, hfuel => by
    obtain ⟨fuel, rfl⟩ : ∃ steps, fuel = steps + 1 := ⟨fuel - 1, by omega⟩
    rw [isReadableItems, Bool.and_eq_true] at hv
    obtain ⟨gap, hseparator, hgap⟩ := exists_separator layout (depth + 1)
    generalize hmore : itemsText layout depth (w :: rest) ++ layout.newline depth ++ ']' :: tail =
      more
    have hread := readValue_write v (depth + 1) fuel (layout.separator (depth + 1) ++ more) hv.1
      (endsNumber_separator _ _ _) (by
        simp only [itemsText, List.length_append] at hfuel
        omega)
    have hrest := readItems_write (w :: rest) depth fuel tail (by simp) hv.2 (by
      simp only [itemsText, writeItems, hseparator, List.length_append, List.length_cons]
        at hfuel ⊢
      omega)
    have htext : itemsText layout depth (v :: w :: rest) ++ layout.newline depth ++ ']' :: tail =
        write layout (depth + 1) v ++ (layout.separator (depth + 1) ++ more) := by
      simp [itemsText, writeItems, ← hmore]
    have hnext : skipBlanks (gap ++ more) = more := by
      rw [skipBlanks_append hgap, ← hmore, itemsText, List.append_assoc, List.append_assoc,
        skipBlanks_write]
    have hcomma : skipBlanks (layout.separator (depth + 1) ++ more) = ',' :: (gap ++ more) := by
      rw [hseparator]
      rfl
    rw [htext, readItems_more hread hcomma, hnext, ← hmore, hrest]
    rfl

theorem readMembers_write : ∀ (fields : List (String × Json)) (depth fuel : Nat)
    (tail : List Char), fields ≠ [] → isReadableFields fields = true →
    2 * (membersText layout depth fields).length + 1 ≤ fuel →
    readMembers fuel (membersText layout depth fields ++ layout.newline depth ++ '\x7d' :: tail) =
      .ok (fields, tail)
  | [], _, _, _, hne, _, _ => absurd rfl hne
  | [(k, v)], depth, fuel, tail, _, hv, hfuel => by
    obtain ⟨fuel, rfl⟩ : ∃ steps, fuel = steps + 1 := ⟨fuel - 1, by omega⟩
    simp only [isReadableFields, Bool.and_true] at hv
    have hread := readValue_write v (depth + 1) fuel (layout.newline depth ++ '\x7d' :: tail) hv
      (endsNumber_close layout depth (.inr rfl)) (by
        simp only [membersText, writeFields, List.length_append, List.length_nil] at hfuel
        omega)
    have hend : skipBlanks (layout.newline depth ++ '\x7d' :: tail) = '\x7d' :: tail := by
      rw [skipBlanks_append (allBlank_newline _ _)]
      rfl
    rw [membersText, writeFields, List.append_nil, List.append_assoc,
      List.append_assoc _ (write layout (depth + 1) v)]
    exact readMembers_last layout k (skipBlanks_write _ _ _ _) hread hend
  | (k, v) :: (l, w) :: rest, depth, fuel, tail, _, hv, hfuel => by
    obtain ⟨fuel, rfl⟩ : ∃ steps, fuel = steps + 1 := ⟨fuel - 1, by omega⟩
    rw [isReadableFields, Bool.and_eq_true] at hv
    obtain ⟨gap, hseparator, hgap⟩ := exists_separator layout (depth + 1)
    generalize hmore : membersText layout depth ((l, w) :: rest) ++ layout.newline depth ++
      '\x7d' :: tail = more
    have hread := readValue_write v (depth + 1) fuel (layout.separator (depth + 1) ++ more) hv.1
      (endsNumber_separator _ _ _) (by
        simp only [membersText, List.length_append] at hfuel
        omega)
    have hrest := readMembers_write ((l, w) :: rest) depth fuel tail (by simp) hv.2 (by
      simp only [membersText, writeFields, hseparator, List.length_append, List.length_cons]
        at hfuel ⊢
      omega)
    have htext : membersText layout depth ((k, v) :: (l, w) :: rest) ++ layout.newline depth ++
        '\x7d' :: tail = writeText layout.ascii k ++ layout.colon ++
          (write layout (depth + 1) v ++ (layout.separator (depth + 1) ++ more)) := by
      simp [membersText, writeFields, ← hmore]
    have hnext : skipBlanks (gap ++ more) = more := by
      rw [skipBlanks_append hgap, ← hmore, membersText, writeText]
      rfl
    have hcomma : skipBlanks (layout.separator (depth + 1) ++ more) = ',' :: (gap ++ more) := by
      rw [hseparator]
      rfl
    rw [htext, readMembers_more layout k (skipBlanks_write _ _ _ _) hread hcomma, hnext, ← hmore,
      hrest]
    rfl

end

/-- **A document reads back as the value that it was written for.** -/
theorem parse_render {v : Json} (hv : v.isReadable = true) : parse (v.render layout) = .ok v := by
  have hends : EndsNumber [] := by simp [EndsNumber]
  have hread := readValue_write layout v 0 (2 * (write layout 0 v).length + 2) [] hv hends
    (by omega)
  have hskip := skipBlanks_write layout 0 v []
  rw [List.append_nil] at hread hskip
  have hparse : parseChars (write layout 0 v) = .ok v := by
    rw [parseChars, hskip, hread]
    rfl
  rw [parse, render, String.toList_ofList, hparse]

end RoundTrip

end Json

end BranchChoice
