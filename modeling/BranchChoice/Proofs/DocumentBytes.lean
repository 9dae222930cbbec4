import BranchChoice.Proofs.JsonText
import BranchChoice.Rest.Stores

/-!
# Documents as bytes

A text that is encoded in UTF-8 is decoded as itself (`utf8Decode_utf8Encode`), sequence by
sequence: there is one lemma for each length of a sequence.  The document of a list or an object
starts with a bracket or a brace and goes on with something that is no zero, so its bytes are taken
for UTF-8, and a body that has them is read as the list or the object (`readBody_render`).
-/

namespace BranchChoice

namespace Text

/-! ## Sequences -/

section Sequences

variable (halves : Bool) {n : Nat} (rest : List UInt8)

theorem toNat_continuation (n : Nat) : (UInt8.ofNat (n % 64 + 128)).toNat = n % 64 + 128 := by
  rw [UInt8.toNat_ofNat']
  omega

theorem isContinuation_ofNat (n : Nat) :
    isContinuation (UInt8.ofNat (n % 64 + 128)) = true := by
  simp only [isContinuation, toNat_continuation, Bool.and_eq_true, decide_eq_true_eq]
  omega

/-- The second byte of a sequence that is no longer than it needs to be, of a character that there
is and that is no half of a pair. -/
theorem secondFits_ofNat {first : UInt8} (h₃ : first.toNat = 224 → 32 ≤ n % 64)
    (hhalf : first.toNat = 237 → n % 64 < 32) (h₄ : first.toNat = 240 → 16 ≤ n % 64)
    (hlast : first.toNat = 244 → n % 64 < 16) :
    secondFits first (UInt8.ofNat (n % 64 + 128)) = true := by
  simp only [secondFits, isContinuation_ofNat, toNat_continuation, Bool.true_and, Bool.and_eq_true,
    Bool.not_eq_true', Bool.and_eq_false_iff, beq_eq_false_iff_ne, decide_eq_false_iff_not]
  omega

theorem utf8Sequence_one (h : n ≤ 127) :
    utf8Sequence halves (UInt8.ofNat n) rest = (.ok (Char.ofNat n), 1) := by
  have hfirst : (UInt8.ofNat n).toNat = n := by
    rw [UInt8.toNat_ofNat']
    omega
  simp only [utf8Sequence, hfirst]
  rw [if_pos (by omega)]

theorem utf8Sequence_two (hlow : 127 < n) (hhigh : n ≤ 2047) :
    utf8Sequence halves (UInt8.ofNat (n / 64 % 32 + 192)) (UInt8.ofNat (n % 64 + 128) :: rest) =
      (.ok (Char.ofNat n), 2) := by
  have hfirst : (UInt8.ofNat (n / 64 % 32 + 192)).toNat = n / 64 + 192 := by
    rw [UInt8.toNat_ofNat']
    omega
  have hvalue : (n / 64 + 192) % 32 * 64 + (n % 64 + 128) % 64 = n := by omega
  simp only [utf8Sequence, hfirst, toNat_continuation, isContinuation_ofNat, hvalue, if_true]
  rw [if_neg (by omega), if_neg (by simp; omega), if_pos (by omega)]

theorem utf8Sequence_three (hlow : 2047 < n) (hhigh : n ≤ 65535)
    (hvalid : n < 55296 ∨ 57343 < n) :
    utf8Sequence halves (UInt8.ofNat (n / 4096 % 16 + 224))
        (UInt8.ofNat (n / 64 % 64 + 128) :: UInt8.ofNat (n % 64 + 128) :: rest) =
      (.ok (Char.ofNat n), 3) := by
  have hfirst : (UInt8.ofNat (n / 4096 % 16 + 224)).toNat = n / 4096 + 224 := by
    rw [UInt8.toNat_ofNat']
    omega
  have hfits : secondFits (UInt8.ofNat (n / 4096 % 16 + 224))
      (UInt8.ofNat (n / 64 % 64 + 128)) = true := by
    apply secondFits_ofNat <;> rw [hfirst] <;> omega
  have hvalue : ((n / 4096 + 224) % 16 * 64 + (n / 64 % 64 + 128) % 64) * 64 +
      (n % 64 + 128) % 64 = n := by omega
  simp only [utf8Sequence, hfirst, toNat_continuation, isContinuation_ofNat, hfits, hvalue, if_true]
  rw [if_neg (by omega), if_neg (by simp; omega), if_neg (by omega), if_pos (by omega)]

theorem utf8Sequence_four (hlow : 65535 < n) (hhigh : n < 1114112) :
    utf8Sequence halves (UInt8.ofNat (n / 262144 % 8 + 240))
        (UInt8.ofNat (n / 4096 % 64 + 128) :: UInt8.ofNat (n / 64 % 64 + 128) ::
          UInt8.ofNat (n % 64 + 128) :: rest) =
      (.ok (Char.ofNat n), 4) := by
  have hfirst : (UInt8.ofNat (n / 262144 % 8 + 240)).toNat = n / 262144 + 240 := by
    rw [UInt8.toNat_ofNat']
    omega
  have hfits : secondFits (UInt8.ofNat (n / 262144 % 8 + 240))
      (UInt8.ofNat (n / 4096 % 64 + 128)) = true := by
    apply secondFits_ofNat <;> rw [hfirst] <;> omega
  have hvalue : (((n / 262144 + 240) % 8 * 64 + (n / 4096 % 64 + 128) % 64) * 64 +
      (n / 64 % 64 + 128) % 64) * 64 + (n % 64 + 128) % 64 = n := by omega
  simp only [utf8Sequence, hfirst, toNat_continuation, isContinuation_ofNat, hfits, hvalue, if_true]
  rw [if_neg (by omega), if_neg (by simp; omega), if_neg (by omega), if_neg (by omega)]

/-- The bytes of a character are a sequence, whatever follows them. -/
theorem utf8Sequence_utf8EncodeChar (c : Char) :
    ∃ first more, String.utf8EncodeChar c = first :: more ∧
      ∀ rest, utf8Sequence halves first (more ++ rest) = (.ok c, more.length + 1) := by
  have hc : Char.ofNat c.val.toNat = c := Char.ofNat_toNat c
  have hvalid : c.val.toNat < 55296 ∨ 57343 < c.val.toNat ∧ c.val.toNat < 1114112 := c.valid
  unfold String.utf8EncodeChar
  generalize c.val.toNat = n at hc hvalid ⊢
  subst hc
  dsimp only
  split_ifs with h₁ h₂ h₃
  · exact ⟨_, _, rfl, fun rest => utf8Sequence_one halves rest h₁⟩
  · exact ⟨_, _, rfl, fun rest => utf8Sequence_two halves rest (by omega) h₂⟩
  · exact ⟨_, _, rfl, fun rest => utf8Sequence_three halves rest (by omega) h₃ (by omega)⟩
  · exact ⟨_, _, rfl, fun rest => utf8Sequence_four halves rest (by omega) (by omega)⟩

end Sequences

/-! ## Texts -/

theorem utf8DecodeFrom_skip (skipped rest : List UInt8) : ∀ offset,
    utf8DecodeFrom offset skipped.length (skipped ++ rest) =
      utf8DecodeFrom (offset + skipped.length) 0 rest := by
  induction skipped with
  | nil => exact fun offset => rfl
  | cons b skipped ih =>
    intro offset
    rw [List.cons_append, List.length_cons, utf8DecodeFrom, ih, Nat.add_right_comm, Nat.add_assoc]

theorem utf8DecodeFrom_utf8Encode (s : List Char) : ∀ offset,
    utf8DecodeFrom offset 0 (utf8Encode s) = .ok s := by
  induction s with
  | nil => exact fun offset => rfl
  | cons c s ih =>
    intro offset
    obtain ⟨first, more, hbytes, hsequence⟩ := utf8Sequence_utf8EncodeChar true c
    have hcons : utf8Encode (c :: s) = first :: (more ++ utf8Encode s) := by
      rw [utf8Encode, List.flatMap_cons, hbytes]
      rfl
    rw [hcons, utf8DecodeFrom, hsequence]
    simp only [Nat.add_sub_cancel, utf8DecodeFrom_skip, ih]
    rfl

/-- **A text that is encoded in UTF-8 is decoded as itself.** -/
theorem utf8Decode_utf8Encode (s : List Char) : utf8Decode (utf8Encode s) = .ok s :=
  utf8DecodeFrom_utf8Encode s 0

/-- A text is taken for UTF-8 if it starts with two plain characters that are no zeros. -/
theorem decodeDocument_utf8Encode {c d : Char} (s : List Char) (hc : c.toNat ≠ 0)
    (hd : d.toNat ≠ 0) (hc' : c.toNat < 128) (hd' : d.toNat < 128) :
    decodeDocument (utf8Encode (c :: d :: s)) = .ok (c :: d :: s) := by
  have hplain {e : Char} (he : e.toNat < 128) :
      String.utf8EncodeChar e = [UInt8.ofNat e.toNat] := by
    have hle : e.val.toNat ≤ 127 := Nat.le_of_lt_succ he
    unfold String.utf8EncodeChar
    rw [if_pos hle]
    rfl
  have hbytes : (utf8Encode (c :: d :: s)).map (·.toNat) =
      c.toNat :: d.toNat :: (utf8Encode s).map (·.toNat) := by
    have hsize {e : Char} (he : e.toNat < 128) : (UInt8.ofNat e.toNat).toNat = e.toNat :=
      UInt8.toNat_ofNat_of_lt' (he.trans (by decide))
    rw [utf8Encode, List.flatMap_cons, List.flatMap_cons, hplain hc', hplain hd', List.map_append,
      List.map_append, List.map_singleton, List.map_singleton, hsize hc', hsize hd']
    rfl
  unfold decodeDocument
  rw [hbytes]
  -- each form but the last shows in a first byte beyond the plain ones, or in a zero
  split
  case h_12 => exact utf8Decode_utf8Encode _
  all_goals
    next h =>
      simp only [List.cons.injEq] at h
      omega

end Text

/-! ## Lists and objects -/

/-- Lists and objects, whose documents are enclosed. -/
inductive Json.IsContainer : Json → Prop
  | list (items : List Json) : IsContainer (.list items)
  | object (fields : Fields) : IsContainer (.object fields)

namespace Rest

theorem plain_of_startsValue {c : Char} (h : Json.StartsValue c) :
    c.toNat ≠ 0 ∧ c.toNat < 128 := by
  rcases h with hdigit | hmem
  · simp only [Char.isDigit, Bool.and_eq_true, decide_eq_true_eq] at hdigit
    have hlow : 48 ≤ c.toNat := hdigit.1
    have hhigh : c.toNat ≤ 57 := hdigit.2
    omega
  · simp only [List.mem_cons, List.not_mem_nil, or_false] at hmem
    rcases hmem with rfl | rfl | rfl | rfl | rfl | rfl | rfl | rfl | rfl <;> decide

/-- The document of a list or an object starts with two plain characters that are no zeros. -/
theorem exists_start_container (layout : Json.Layout) {v : Json} (hv : v.IsContainer) :
    ∃ c d s, Json.write layout 0 v = c :: d :: s ∧ (c.toNat ≠ 0 ∧ c.toNat < 128) ∧
      d.toNat ≠ 0 ∧ d.toNat < 128 := by
  cases hv with
  | list items =>
    refine ⟨'[', ?_⟩
    cases items with
    | nil => exact ⟨']', [], by rw [Json.write], by decide, by decide⟩
    | cons v rest =>
      obtain ⟨c, s, hcons, hc⟩ := Json.exists_start_write layout (0 + 1) v
      rw [Json.write, hcons, Json.Layout.newline]
      cases layout.indent with
      | none => exact ⟨c, _, rfl, by decide, plain_of_startsValue hc⟩
      | some width => exact ⟨'\n', _, rfl, by decide, by decide⟩
  | object fields =>
    refine ⟨'\x7b', ?_⟩
    rcases fields with _ | ⟨⟨k, v⟩, rest⟩
    · exact ⟨'\x7d', [], by rw [Json.write], by decide, by decide⟩
    · rw [Json.write, Json.Layout.newline]
      cases layout.indent with
      | none => exact ⟨'"', _, rfl, by decide, by decide⟩
      | some width => exact ⟨'\n', _, rfl, by decide, by decide⟩

/-- **A body that has the bytes of a document is read as the list or the object that the document is
for.** -/
theorem readBody_render (layout : Json.Layout) {v : Json} (hv : v.IsContainer)
    (h : v.isReadable = true) :
    readBody (Text.utf8Encode (v.render layout).toList) = .ok v := by
  obtain ⟨c, d, s, hstart, hc, hd⟩ := exists_start_container layout hv
  have hdecode : Text.decodeDocument (Text.utf8Encode (Json.write layout 0 v)) =
      .ok (Json.write layout 0 v) := by
    rw [hstart]
    exact Text.decodeDocument_utf8Encode s hc.1 hd.1 hc.2 hd.2
  have hparse : Json.parse (String.ofList (Json.write layout 0 v)) = .ok v :=
    Json.parse_render layout h
  simp only [Json.render, String.toList_ofList, readBody, hdecode, hparse]

end Rest

end BranchChoice
