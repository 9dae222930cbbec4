import BranchChoice.Proofs.DocumentGrammar
import BranchChoice.Proofs.StoreFailures

/-!
# What is written to the log

An entry of the log is sent as a document, and whoever reads the body as a response is read finds
the six fields of the entry again.  No document can hold a number that is not finite; in the context
of an entry there is null in the place of each, at whatever depth, and the rest of the context is as
it was.

* `Nulled`: a value and what is left of it without the numbers that are not finite.
* `Nulled.eq`: what is left of a value is told by the value.
* `append_document`: the request that writes an entry.
-/

namespace BranchChoice

namespace Json

/-! ## Null for numbers that are not finite -/

mutual

/-- A value, and the same with null in the place of each number that is not finite. -/
inductive Nulled : Json → Json → Prop
  | null : Nulled .null .null
  | bool (b : Bool) : Nulled (.bool b) (.bool b)
  | int (n : Int) : Nulled (.int n) (.int n)
  | finite {x : Binary64} (h : x.isFinite = true) : Nulled (.float x) (.float x)
  | nonFinite {x : Binary64} (h : x.isFinite = false) : Nulled (.float x) .null
  | text (s : String) : Nulled (.text s) (.text s)
  | list {items items' : List Json} (h : NulledItems items items') :
      Nulled (.list items) (.list items')
  | object {fields fields' : Fields} (h : NulledFields fields fields') :
      Nulled (.object fields) (.object fields')

/-- Items, each `Nulled` in its place. -/
inductive NulledItems : List Json → List Json → Prop
  | nil : NulledItems [] []
  | cons {v v' : Json} {rest rest' : List Json} (h : Nulled v v') (hrest : NulledItems rest rest') :
      NulledItems (v :: rest) (v' :: rest')

/-- Members, the value of each `Nulled` under the same name and in its place. -/
inductive NulledFields : Fields → Fields → Prop
  | nil : NulledFields [] []
  | cons {v v' : Json} {rest rest' : Fields} (name : String) (h : Nulled v v')
      (hrest : NulledFields rest rest') : NulledFields ((name, v) :: rest) ((name, v') :: rest')

end

mutual

theorem nulled_withoutNonFinite : ∀ v : Json, Nulled v v.withoutNonFinite
  | .null => .null
  | .bool b => .bool b
  | .int n => .int n
  | .float x => by
    rw [withoutNonFinite]
    split_ifs with hx
    · exact .finite hx
    · exact .nonFinite (Bool.eq_false_iff.2 hx)
  | .text s => .text s
  | .list items => .list (nulledItems_withoutNonFinite items)
  | .object fields => .object (nulledFields_withoutNonFinite fields)

theorem nulledItems_withoutNonFinite : ∀ items : List Json,
    NulledItems items (withoutNonFiniteItems items)
  | [] => .nil
  | v :: rest => .cons (nulled_withoutNonFinite v) (nulledItems_withoutNonFinite rest)

theorem nulledFields_withoutNonFinite : ∀ fields : List (String × Json),
    NulledFields fields (withoutNonFiniteFields fields)
  | [] => .nil
  | (name, v) :: rest =>
    .cons name (nulled_withoutNonFinite v) (nulledFields_withoutNonFinite rest)

end

mutual

/-- What is left of a value is told by the value. -/
theorem Nulled.eq : ∀ {v w : Json}, Nulled v w → w = v.withoutNonFinite
  | _, _, .null | _, _, .bool _ | _, _, .int _ | _, _, .text _ => rfl
  | _, _, .finite h => by rw [withoutNonFinite, if_pos h]
  | _, _, .nonFinite h => by rw [withoutNonFinite, h, if_neg Bool.false_ne_true]
  | _, _, .list h => by rw [withoutNonFinite, h.eq]
  | _, _, .object h => by rw [withoutNonFinite, h.eq]

theorem NulledItems.eq : ∀ {items items' : List Json}, NulledItems items items' →
    items' = withoutNonFiniteItems items
  | _, _, .nil => rfl
  | _, _, .cons h hrest => by rw [withoutNonFiniteItems, h.eq, hrest.eq]

theorem NulledFields.eq : ∀ {fields fields' : Fields}, NulledFields fields fields' →
    fields' = withoutNonFiniteFields fields
  | _, _, .nil => rfl
  | _, _, .cons _ h hrest => by rw [withoutNonFiniteFields, h.eq, hrest.eq]

end

end Json

namespace Rest

/-! ## The request of an entry -/

/-- **An entry of the log is written whole.**  Wherever there is a base, an entry that has been
dumped, whose own numbers are finite, and whose context a document can hold, is sent with one
request; and the log does nothing but this with an entry that can be dumped.  The body of the
request is a document, and it is read as the six fields of the entry: the names and the numbers as
they are, and the context with nothing changed but null for each number that is not finite. -/
theorem append_document (s : RestState) (hbase : HasBase s.settings) (e : LogEntry)
    (hfinite : e.IsFinite) (hcontext : (Json.object e.context).isReadable = true) :
    ∃ request context, Sends s [request] (post e s).2 ∧
      (e.context.isShallow = true → append e s = post e s) ∧ request.method = .post ∧
      Json.IsDocument request.body.toList ∧ Json.NulledFields e.context context ∧
      readBody (Text.utf8Encode request.body.toList) = .ok (.object [
        ("workflow_id", .text e.workflowId),
        ("contact_id", .text e.contactId),
        ("branch_selected", .text e.branchId),
        ("decision_context", .object context),
        ("confidence_score", .float e.confidence),
        ("execution_time_ms", .float e.elapsed)]) := by
  obtain ⟨address, haddress⟩ := exists_addressOf hbase .log
  have hbody := entryBody_eq hfinite.1 hfinite.2
  have hwritable := LogEntry.toJson_writable hfinite.1 hfinite.2
  have hreadable := Json.isReadable_withoutNonFinite (LogEntry.isReadable_toJson hcontext)
  have hsends := post_sends e s
  rw [entryRequest?, haddress, Option.bind_some, hbody, Option.map_some, Option.toList_some]
    at hsends
  refine ⟨_, _, hsends, fun h => append_of_isShallow h s, rfl, ?_, Json.nulledFields_withoutNonFinite e.context, ?_⟩
  · rw [hwritable]
    exact Json.isDocument_render .compact e.toJson
  · rw [← hwritable] at hreadable
    exact readBody_render .compact (.object _) hreadable

/-- Quotes, control characters and characters beyond ASCII in names, a long whole number, the least
positive number, a zero with its sign, and numbers that are not finite inside a list. -/
theorem append_document_nested :
    let settings : Settings :=
      ⟨some "http://localhost", none, "branches", "logs", "actions", "INFO", .ofInt 30⟩
    let s := RestState.start settings []
    let nested (x y : Json) : Fields := [("clé \"\\\n", .list
      [.int (10 ^ 40), x, .object [("", y), ("𝄞", .float (.ofRank true 0))]])]
    let e : LogEntry := ⟨"w\t\"", "c😀", "\u0001", nested (.float .nan) (.float (.infinity true)),
      .ofRank false 1, .ofRank true 0⟩
    HasBase settings ∧ e.IsFinite ∧ (Json.object e.context).isReadable = true ∧
      ∃ request, Sends s [request] (append e s).2 ∧ Json.IsDocument request.body.toList ∧
        readBody (Text.utf8Encode request.body.toList) = .ok (.object [
          ("workflow_id", .text "w\t\""), ("contact_id", .text "c😀"),
          ("branch_selected", .text "\u0001"), ("decision_context", .object (nested .null .null)),
          ("confidence_score", .float (.ofRank false 1)),
          ("execution_time_ms", .float (.ofRank true 0))]) := by
  intro settings s nested e
  have hbase : HasBase settings := ⟨_, rfl, by decide⟩
  have hfinite : e.IsFinite := ⟨by decide, by decide⟩
  have hcontext : (Json.object e.context).isReadable = true := by decide
  obtain ⟨request, context, hsends, hpost, -, hdocument, hnulled, hread⟩ :=
    append_document s hbase e hfinite hcontext
  rw [← hpost (by decide)] at hsends
  have hnull : context = nested .null .null := hnulled.eq
  rw [hnull] at hread
  exact ⟨hbase, hfinite, hcontext, request, hsends, hdocument, hread⟩

end Rest

end BranchChoice
