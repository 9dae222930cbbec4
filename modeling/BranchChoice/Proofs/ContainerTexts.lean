import BranchChoice.CommandLine.Program
import BranchChoice.Comparison
import BranchChoice.Proofs.DocumentBytes
import BranchChoice.Proofs.DocumentGrammar

/-!
# Lists and objects as texts

Where texts are compared, a list or an object stands for its document on one line.  Such a text
loses nothing: it is in plain characters, so it comes through a file and through a body as it is,
and it is read as the value that it stands for, numbers that are not finite among the rest.

* `allPlain_escapeChar` and `IsNumberText.allPlain`: characters in quotes and numbers.
* `allPlain_write`: the text of a value, by its parts.
* `ofText_read`: a file with a text in plain characters is read like the text.
* `toText_container`: the text of a list or an object.
-/

namespace BranchChoice

/-! ## Plain characters -/

/-- All characters are printable and in ASCII. -/
def AllPlain (s : List Char) : Prop :=
  ∀ c ∈ s, 32 ≤ c.toNat ∧ c.toNat < 127

instance (s : List Char) : Decidable (AllPlain s) :=
  List.decidableBAll (fun c : Char => 32 ≤ c.toNat ∧ c.toNat < 127) s

@[simp] theorem allPlain_nil : AllPlain [] :=
  List.forall_mem_nil _

@[simp] theorem allPlain_cons {c : Char} {s : List Char} :
    AllPlain (c :: s) ↔ (32 ≤ c.toNat ∧ c.toNat < 127) ∧ AllPlain s :=
  List.forall_mem_cons

@[simp] theorem allPlain_append {s t : List Char} : AllPlain (s ++ t) ↔ AllPlain s ∧ AllPlain t :=
  List.forall_mem_append

theorem AllDigits.allPlain {ds : List Char} (h : AllDigits ds) : AllPlain ds := by
  intro c hc
  have hdigit := h c hc
  simp only [Char.isDigit, Bool.and_eq_true, decide_eq_true_eq] at hdigit
  have hlow : 48 ≤ c.toNat := hdigit.1
  have hhigh : c.toNat ≤ 57 := hdigit.2
  omega

namespace Json

/-! ## Quoted texts -/

theorem plain_hexDigit : ∀ d < 16,
    32 ≤ (Text.hexDigit d).toNat ∧ (Text.hexDigit d).toNat < 127 := by
  decide

theorem allPlain_hexDigits (n : Nat) : ∀ width, AllPlain (Text.hexDigits width n) := by
  intro width
  induction width generalizing n with
  | zero => exact allPlain_nil
  | succ width ih =>
    have hdigit := plain_hexDigit (n % 16) (Nat.mod_lt n (by decide))
    simp [Text.hexDigits, ih, hdigit]

theorem allPlain_unitEscape (n : Nat) : AllPlain (unitEscape n) := by
  simp [unitEscape, allPlain_hexDigits]

/-- A character that is no plain one is written as an escape. -/
theorem allPlain_escapeChar (c : Char) : AllPlain (escapeChar true c) := by
  unfold escapeChar
  dsimp only
  -- the escapes of one letter come first
  iterate 7 refine iteInduction (fun _ => by decide) fun _ => ?_
  refine iteInduction (fun _ => allPlain_unitEscape _) fun hcontrol => ?_
  refine iteInduction (fun _ => ?_) fun hbeyond => ?_
  · refine iteInduction (fun _ => allPlain_unitEscape _) fun _ => ?_
    exact allPlain_append.2 ⟨allPlain_unitEscape _, allPlain_unitEscape _⟩
  · simp only [Bool.true_and, decide_eq_true_eq] at hbeyond
    exact allPlain_cons.2 ⟨by omega, allPlain_nil⟩

theorem allPlain_writeText (s : String) : AllPlain (writeText true s) := by
  have hchars : AllPlain (s.toList.flatMap (escapeChar true)) := by
    intro d hd
    obtain ⟨c, -, hc⟩ := List.mem_flatMap.1 hd
    exact allPlain_escapeChar c d hc
  simp [writeText, hchars]

/-! ## Numbers -/

theorem IsFraction.allPlain {s : List Char} (h : IsFraction s) : AllPlain s := by
  cases h with
  | none => exact allPlain_nil
  | digits hdigits => simp [hdigits.allPlain]

theorem IsExponent.allPlain {s : List Char} (h : IsExponent s) : AllPlain s := by
  have hletter : ∀ e ∈ ['e', 'E'], 32 ≤ e.toNat ∧ e.toNat < 127 := by simp
  have hsigns : ∀ sign ∈ ['+', '-'], 32 ≤ sign.toNat ∧ sign.toNat < 127 := by simp
  cases h with
  | none => exact allPlain_nil
  | unsigned he hdigits => simp [hletter _ he, hdigits.allPlain]
  | signed he hsign hdigits => simp [hletter _ he, hsigns _ hsign, hdigits.allPlain]

theorem IsMagnitude.allPlain {s : List Char} (h : IsMagnitude s) : AllPlain s := by
  obtain ⟨hwhole, hfraction, hexponent⟩ := h
  simp [hwhole.digits.allPlain, hfraction.allPlain, hexponent.allPlain]

theorem IsNumberText.allPlain {s : List Char} (h : IsNumberText s) : AllPlain s := by
  cases h with
  | positive h => exact h.allPlain
  | negative h => simp [h.allPlain]

/-- A number, finite or not, in any style with names in plain characters. -/
theorem allPlain_writeFloat {style : NumberStyle} (hpoint : style.keepPoint = true)
    (hnan : AllPlain style.nan.toList) (hinfinity : AllPlain style.infinity.toList)
    (x : Binary64) : AllPlain (x.write style Decimal.shortest) := by
  by_cases hx : x.isFinite = true
  · exact (isNumber_write hpoint hx).allPlain
  · cases x with
    | nan => exact hnan
    | signed negative rank =>
      have hrank : rank.val = Binary64.infinityRank := by
        have hlt : ¬ rank.val < Binary64.infinityRank := by simpa [Binary64.isFinite] using hx
        have hle := Nat.le_of_lt_succ rank.isLt
        omega
      rw [Binary64.write, if_pos hrank]
      cases negative with
      | true => exact allPlain_cons.2 ⟨by decide, hinfinity⟩
      | false => exact hinfinity

/-! ## Values -/

theorem newline_plain (depth : Nat) : Layout.plain.newline depth = [] := rfl

theorem separator_plain (depth : Nat) : Layout.plain.separator depth = [',', ' '] := rfl

theorem colon_plain : Layout.plain.colon = [':', ' '] := rfl

mutual

theorem allPlain_write : ∀ (v : Json) (depth : Nat), AllPlain (write .plain depth v)
  | .null, _ | .bool true, _ | .bool false, _ | .list [], _ | .object [], _ => by
    simp [write]
  | .int n, _ => by
    rw [write]
    exact (isNumber_writeInt n).allPlain
  | .float x, _ => by
    rw [write]
    exact allPlain_writeFloat rfl (by decide) (by decide) x
  | .text s, _ => by
    rw [write]
    exact allPlain_writeText s
  | .list (v :: rest), depth => by
    have hitem := allPlain_write v (depth + 1)
    have hrest := allPlain_writeItems rest depth
    simp [write, newline_plain, hitem, hrest]
  | .object ((k, v) :: rest), depth => by
    have hname : AllPlain (writeText Layout.plain.ascii k) := allPlain_writeText k
    have hvalue := allPlain_write v (depth + 1)
    have hrest := allPlain_writeFields rest depth
    simp [write, newline_plain, colon_plain, hname, hvalue, hrest]

theorem allPlain_writeItems : ∀ (items : List Json) (depth : Nat),
    AllPlain (writeItems .plain depth items)
  | [], _ => by
    simp [writeItems]
  | v :: rest, depth => by
    have hitem := allPlain_write v (depth + 1)
    have hrest := allPlain_writeItems rest depth
    simp [writeItems, separator_plain, hitem, hrest]

theorem allPlain_writeFields : ∀ (fields : List (String × Json)) (depth : Nat),
    AllPlain (writeFields .plain depth fields)
  | [], _ => by
    simp [writeFields]
  | (k, v) :: rest, depth => by
    have hname : AllPlain (writeText Layout.plain.ascii k) := allPlain_writeText k
    have hvalue := allPlain_write v (depth + 1)
    have hrest := allPlain_writeFields rest depth
    simp [writeFields, separator_plain, colon_plain, hname, hvalue, hrest]

end

end Json

/-! ## Files -/

namespace CommandLine

/-- A text without control characters has no line ends to be unified. -/
theorem unifyLineEnds_of_allPlain {s : List Char} (h : AllPlain s) : unifyLineEnds s = s := by
  induction s with
  | nil => rfl
  | cons c rest ih =>
    have hc : c ≠ '\r' := by
      rintro rfl
      exact absurd (h '\r' List.mem_cons_self).1 (by decide)
    rw [unifyLineEnds, if_neg (by simpa using hc), ih fun d hd => h d (List.mem_cons_of_mem c hd)]
    rintro _ rfl
    exact absurd rfl hc

/-- A file with a text in plain characters is read like the text. -/
theorem ofText_read (source : Source) {text : String} {v : Json} (hplain : AllPlain text.toList)
    (hread : Json.parse text = .ok v) : (Document.ofText source text).read = .ok v := by
  have hparse : Json.parseUnmarked text = .ok v := by
    unfold Json.parseUnmarked
    split
    · next c rest hcons =>
      have hc := hplain c (by simp [hcons])
      rw [if_neg (by simp; omega), hread]
    · exact hread
  have htext : (Document.ofText source text).text = text := by
    rw [Document.ofText, unifyLineEnds_of_allPlain hplain, String.ofList_toList]
  rw [Document.read, htext, hparse]

end CommandLine

/-! ## Lists and objects -/

namespace Json

theorem toText_of_isContainer {v : Json} (hv : v.IsContainer) : v.toText = v.render .plain := by
  cases hv <;> rfl

/-- **A list or an object as a text loses nothing**, if a document can hold it.  The text has plain
characters only; in a file, whatever its name, and in the body of a response it is read as the value
itself, with names in their order, whole numbers apart from others, and zeros with their sign.  So
no other list or object has the same text. -/
theorem toText_container {v : Json} (hv : v.IsContainer) (h : v.isReadable = true) :
    AllPlain v.toText.toList ∧
      (∀ source, (CommandLine.Document.ofText source v.toText).read = .ok v) ∧
      Rest.readBody (Text.utf8Encode v.toText.toList) = .ok v ∧
      ∀ w : Json, w.IsContainer → w.isReadable = true → w.toText = v.toText → w = v := by
  have hplain : AllPlain v.toText.toList := by
    rw [toText_of_isContainer hv, render, String.toList_ofList]
    exact allPlain_write v 0
  have hparse {w : Json} (hw : w.IsContainer) (hreadable : w.isReadable = true) :
      parse w.toText = .ok w := by
    rw [toText_of_isContainer hw]
    exact parse_render .plain hreadable
  refine ⟨hplain, fun source => CommandLine.ofText_read source hplain (hparse hv h), ?_, ?_⟩
  · rw [toText_of_isContainer hv]
    exact Rest.readBody_render .plain hv h
  · intro w hw hreadable heq
    have hsame := hparse hw hreadable
    rw [heq, hparse hv h] at hsame
    exact (Except.ok.inj hsame).symm

/-- A character beyond the first 65536, a quote in a name, an empty object, a long whole number, and
numbers that are not finite; a list with the other zero has another text. -/
theorem toText_container_nested :
    let nested (x : Json) : Json := .list [x, .float .nan, .object [("\"𝄞\u007f", .object []),
      ("é\n", .list [.int (-10 ^ 40), .float (.infinity true), .text "\\u0041"])]]
    let v := nested (.float (.ofRank true 0))
    v.IsContainer ∧ v.isReadable = true ∧ AllPlain v.toText.toList ∧
      (CommandLine.Document.ofText .standardInput v.toText).read = .ok v ∧
      Rest.readBody (Text.utf8Encode v.toText.toList) = .ok v ∧
      (nested (.float (.ofRank false 0))).toText ≠ v.toText ∧
      (nested (.int 0)).toText ≠ v.toText := by
  intro nested v
  have hcontainer (x : Json) : (nested x).IsContainer := .list _
  have hreadable : v.isReadable = true := by decide
  obtain ⟨hplain, hfile, hbody, honly⟩ := toText_container (hcontainer _) hreadable
  refine ⟨hcontainer _, hreadable, hplain, hfile _, hbody, fun heq => ?_, fun heq => ?_⟩
  · exact absurd (honly _ (hcontainer _) (by decide) heq) (by simp [nested, Binary64.ofRank])
  · exact absurd (honly _ (hcontainer _) (by decide) heq) (by simp [nested])

end Json

end BranchChoice
