import BranchChoice.Proofs.AnswerDocuments
import BranchChoice.Proofs.DocumentRows
import BranchChoice.Proofs.Session
import BranchChoice.Proofs.SideEffects
import BranchChoice.Proofs.StableOrder
import BranchChoice.Proofs.WrittenNumbers

/-!
# The actions of an answer

An action is read from a row and written as one again.  What is read of the row are three columns,
which may give a text or a whole number in several ways (`StoredAction.gives`); all others are kept
as they are, and so what is written has these three columns as they were read, and then the others
as they were stored (`StoredAction.toFields_eq`).

The store keeps the actions of the selected branch, puts them in their order, and leaves those of one
place as they were added (`MemoryStore.listActions_eq`).  The answer writes exactly these
(`Session.decide_actions`), whatever became of the log.
-/

namespace BranchChoice

/-! ## What a row says of an action -/

namespace Fields

/-- The row gives a text: one, or a number, which stands for its text; or none, if it has no such
member or null. -/
def GivesText (row : Fields) (name : String) : Option String → Prop
  | some s => ∃ v, row.lookup name = some v ∧ (v = .text s ∨ v.IsNumber ∧ s = v.toText)
  | none => row.lookup name = none ∨ row.lookup name = some .null

/-- The row gives a whole number: one, a truth value, a real number that is whole, or a text that
spells one; and zero if it has no such member. -/
inductive GivesWhole (row : Fields) (name : String) : Int → Prop
  | absent (h : row.lookup name = none) : GivesWhole row name 0
  | int {n : Int} (h : row.lookup name = some (.int n)) : GivesWhole row name n
  | truth {b : Bool} (h : row.lookup name = some (.bool b)) :
      GivesWhole row name (if b then 1 else 0)
  | real {x : Binary64} {n : Int} (h : row.lookup name = some (.float x)) (hx : x.toInt? = some n) :
      GivesWhole row name n
  | text {s : String} {n : Int} (h : row.lookup name = some (.text s))
      (hs : Coercion.wholeText (.text s) s = .accept n) : GivesWhole row name n

end Fields

namespace Coercion

theorem of_textOrNumber {v : Json} {s : String} (h : textOrNumber v = .accept s) :
    v = .text s ∨ v.IsNumber ∧ s = v.toText := by
  cases v with
  | text t => exact .inl (congrArg Json.text (Except.ok.inj h))
  | int n => exact .inr ⟨.int n, (Except.ok.inj h).symm⟩
  | float x => exact .inr ⟨.float x, (Except.ok.inj h).symm⟩
  | _ => cases h

theorem of_orNull {α : Type} {check : Json → Checked α} {v : Json} {given : Option α}
    (h : orNull check v = .accept given) :
    v = .null ∧ given = none ∨ ∃ a, check v = .accept a ∧ given = some a := by
  cases v with
  | null => exact .inl ⟨rfl, (Except.ok.inj h).symm⟩
  | _ =>
    obtain ⟨a, ha, rfl⟩ := Checked.map_eq_accept h
    exact .inr ⟨a, ha, rfl⟩

theorem of_wholeFloat {v : Json} {x : Binary64} {n : Int} (h : wholeFloat v x = .accept n) :
    x.toInt? = some n := by
  unfold wholeFloat at h
  split at h
  · cases h
  · split at h
    · cases h
    · next m hm =>
      split at h
      · rw [hm, Except.ok.inj h]
      · cases h

end Coercion

namespace Fields

variable {row : Fields} {name : String}

theorem givesText_of_accepted {given : Option String}
    (h : row.optional name none (Coercion.orNull Coercion.textOrNumber) = .accept given) :
    row.GivesText name given := by
  rcases of_optional h with ⟨hv, rfl⟩ | ⟨v, hv, hgiven⟩
  · exact .inl hv
  · rcases Coercion.of_orNull hgiven with ⟨rfl, rfl⟩ | ⟨s, hs, rfl⟩
    · exact .inr hv
    · exact ⟨v, hv, Coercion.of_textOrNumber hs⟩

theorem givesWhole_of_accepted {n : Int}
    (h : row.optional name 0 Coercion.integer = .accept n) : row.GivesWhole name n := by
  rcases of_optional h with ⟨hv, rfl⟩ | ⟨v, hv, hn⟩
  · exact .absent hv
  · cases v with
    | int m =>
      obtain rfl := Except.ok.inj hn
      exact .int hv
    | bool b =>
      obtain rfl := Except.ok.inj hn
      exact .truth hv
    | float x => exact .real hv (Coercion.of_wholeFloat hn)
    | text s => exact .text hv hn
    | _ => cases hn

end Fields

/-! ## Rows with their actions -/

/-- A row with the action that it is read as. -/
structure StoredAction where
  row : Fields
  action : Action
  accepted : Action.read (.object row) = .ok action

namespace StoredAction

/-- Whether the action belongs to a branch. -/
def belongsTo (branchId : String) (a : StoredAction) : Bool :=
  a.action.branchId = some branchId

/-- Whether the action has a place in the order. -/
def isAt (n : Int) (a : StoredAction) : Bool :=
  a.action.order = n

/-- The object that is written for the row: three columns as they were read, and then all others of
the row as they are. -/
def written (a : StoredAction) : Fields :=
  [("id", .ofText? a.action.id), ("branch_id", .ofText? a.action.branchId),
    ("execution_order", .int a.action.order)] ++
      a.row.filter fun column => column.1 ∉ ["id", "branch_id", "execution_order"]

/-- **What is read of a row.** -/
theorem gives (a : StoredAction) :
    a.row.GivesText "id" a.action.id ∧ a.row.GivesText "branch_id" a.action.branchId ∧
      a.row.GivesWhole "execution_order" a.action.order ∧
      a.action.extra = a.row.without Action.ownNames := by
  obtain ⟨hid, hbranch, horder, hextra⟩ :=
    Action.check_eq_accept_iff.1 (Checked.of_orReject a.accepted)
  exact ⟨Fields.givesText_of_accepted hid, Fields.givesText_of_accepted hbranch,
    Fields.givesWhole_of_accepted horder, hextra.symm⟩

/-- **What is written of an action.** -/
theorem toFields_eq (a : StoredAction) : a.action.toFields = a.written := by
  have hothers : (a.row.without Action.ownNames) =
      a.row.filter fun column => column.1 ∉ ["id", "branch_id", "execution_order"] := by
    refine List.filter_congr fun column _ => ?_
    simp [Action.ownNames]
  rw [Action.toFields, a.gives.2.2.2, hothers, written]
  cases a.action.id <;> cases a.action.branchId <;> rfl

end StoredAction

/-! ## Listings of actions -/

namespace MemoryStore

/-- The actions of a branch as they are to be listed. -/
structure ListedActions (stored : List StoredAction) (branchId : String)
    (listed : List StoredAction) : Prop where
  /-- Each action of the branch is listed as often as it is stored, and no others are. -/
  perm : listed.Perm (stored.filter (·.belongsTo branchId))
  /-- They come in their order. -/
  ordered : listed.Pairwise fun a b => a.action.order ≤ b.action.order
  /-- Those of one place come as they were stored. -/
  stable : ∀ n, listed.filter (·.isAt n) =
    (stored.filter (·.belongsTo branchId)).filter (·.isAt n)

/-- **The actions of a branch are listed in their order.** -/
theorem listActions_eq {store : MemoryStore} {stored : List StoredAction}
    (h : store.actions = stored.map (·.action)) (branchId : String) :
    ∃ listed, ListedActions stored branchId listed ∧
      store.listActions branchId = listed.map (·.action) := by
  let le (a b : StoredAction) : Bool := a.action.order ≤ b.action.order
  have htrans (a b c : StoredAction) (hab : le a b = true) (hbc : le b c = true) :
      le a c = true := by
    simp only [le, decide_eq_true_eq] at *
    exact hab.trans hbc
  have htotal (a b : StoredAction) : (le a b || le b a) = true := by
    simp only [le, Bool.or_eq_true, decide_eq_true_eq]
    exact le_total _ _
  refine ⟨(stored.filter (·.belongsTo branchId)).mergeSort le, ⟨List.mergeSort_perm _ _, ?_, ?_⟩, ?_⟩
  · simpa only [le, decide_eq_true_eq] using List.pairwise_mergeSort htrans htotal
      (stored.filter (·.belongsTo branchId))
  · refine fun n => filter_mergeSort htrans htotal fun a _ ha b _ hb => ?_
    simp only [StoredAction.isAt, decide_eq_true_eq] at ha hb
    simp [le, ha, hb]
  · have hfilter : (stored.map (·.action)).filter (fun a => a.branchId == some branchId) =
        (stored.filter (·.belongsTo branchId)).map (·.action) := by
      rw [List.filter_map]
      refine congrArg _ (List.filter_congr fun a _ => ?_)
      rw [Bool.eq_iff_iff]
      simp [StoredAction.belongsTo]
    rw [listActions, h, hfilter]
    exact (List.map_mergeSort (f := StoredAction.action) (r := le) fun _ _ _ _ => rfl).symm

end MemoryStore

/-! ## Actions of answers -/

namespace Session

/-- A healthy store of actions lists the same before and after a change of the log. -/
theorem listActions_of_frame {s s' : Session} (hframe : Frame s s')
    (hhealthy : s.outages.lookup .actions = none) (branchId : String) :
    (asStores.listActions branchId s').1 =
      .ok ((s.stores.get .actions).listActions branchId) := by
  have hsame : (s'.stores.get .actions).listActions branchId =
      (s.stores.get .actions).listActions branchId := by
    rw [MemoryStore.listActions, MemoryStore.listActions, hframe.actions]
  have hcall : (asStores.listActions branchId s').1 =
      s'.guarded .actions ((s'.stores.get .actions).listActions branchId) := rfl
  rw [hcall, guarded, hframe.outages, hhealthy, hsame]

/-- The actions of an answer are those that the store in their role lists. -/
theorem actions_of_success {s : Session} {submission : Submission} {readings : Readings}
    {response : Response} (hhealthy : s.outages.lookup .actions = none)
    (hmade : ((submission.decide readings).run asStores s).1 = .success response) :
    response.actions =
      ((s.stores.get .actions).listActions response.branchId).map Action.toFields := by
  rcases decide_cases s submission readings with
    ⟨error, hrun⟩ | ⟨r, context, selected, -, -, hrun⟩
  · rw [hrun] at hmade
    cases hmade
  · rw [hrun, run_conclude] at hmade
    obtain rfl := Envelope.success.inj hmade
    have hframe : Frame s (asStores.append (entryOf r readings context selected) s).2 :=
      append_frame _ s
    simp only [responseOf, listActions_of_frame hframe hhealthy]
    rfl

/-- **The actions of an answer.**  A decision that is made while the actions can be fetched answers
with one object for each stored row whose action belongs to the selected branch, by ascending order,
and those of one place as they were stored.  Each object has the three columns of an action as they
were read of the row, and all others of the row as they are. -/
theorem decide_actions (s : Session) (stored : List StoredAction) (submission : Submission)
    (readings : Readings) (response : Response)
    (hstored : (s.stores.get .actions).actions = stored.map (·.action))
    (hhealthy : s.outages.lookup .actions = none)
    (hmade : ((submission.decide readings).run asStores s).1 = .success response) :
    ∃ listed : List StoredAction,
      response.actions = listed.map StoredAction.written ∧
      MemoryStore.ListedActions stored response.branchId listed ∧
      ∀ a ∈ listed, a.row.GivesText "id" a.action.id ∧
        a.row.GivesText "branch_id" a.action.branchId ∧
        a.row.GivesWhole "execution_order" a.action.order := by
  obtain ⟨listed, hlisted, hactions⟩ := MemoryStore.listActions_eq hstored response.branchId
  refine ⟨listed, ?_, hlisted, fun a _ => ⟨a.gives.1, a.gives.2.1, a.gives.2.2.1⟩⟩
  rw [actions_of_success hhealthy hmade, hactions, List.map_map]
  exact List.map_congr_left fun a _ => a.toFields_eq

/-- Of four rows, three are of the selected branch, which is given as a text or a number; two of
these have the same place, which is given as a truth value or a number, and the third is added
first.  That the log cannot be written does not matter. -/
theorem decide_actions_coerced :
    let late : StoredAction := ⟨[("z", .null), ("execution_order", .text " +1_0.0 "),
      ("branch_id", .int 1), ("a", .list [])], ⟨none, some "1", 10, [("z", .null), ("a", .list [])]⟩,
      rfl⟩
    let first : StoredAction := ⟨[("id", .int 7), ("branch_id", .text "1"),
      ("execution_order", .bool true)], ⟨some "7", some "1", 1, []⟩, rfl⟩
    let other : StoredAction := ⟨[("branch_id", .text "2")], ⟨none, some "2", 0, []⟩, rfl⟩
    let second : StoredAction := ⟨[("note", .text "x"), ("execution_order", .int 1),
      ("branch_id", .text "1"), ("id", .null)], ⟨none, some "1", 1, [("note", .text "x")]⟩, rfl⟩
    let stored := [late, first, other, second]
    let common : Branch := ⟨"1", "Common", [], none, true, none⟩
    let s : Session := ⟨.shared ⟨[common], stored.map (·.action), []⟩, [(.log, .crash "down")], 0⟩
    let submission := Submission.accepted ⟨"w", "c", none, none, none⟩
    let readings : Readings := ⟨.ok (.ofInstant 0), .zero, .zero⟩
    (s.stores.get .actions).actions = stored.map (·.action) ∧
      s.outages.lookup .actions = none ∧
      ∃ response, ((submission.decide readings).run asStores s).1 = .success response ∧
        ∃ listed : List StoredAction,
          response.actions = listed.map StoredAction.written ∧
          MemoryStore.ListedActions stored response.branchId listed ∧
          ∀ a ∈ listed, a.row.GivesText "id" a.action.id ∧
            a.row.GivesText "branch_id" a.action.branchId ∧
            a.row.GivesWhole "execution_order" a.action.order := by
  intro late first other second stored common s submission readings
  have hlist : (s.stores.get .branches).listBranches "w" = [common] := by
    have hvisible : (s.stores.get .branches).branches.filter (MemoryStore.isVisible "w") =
        [common] := rfl
    have hranked : ∀ b ∈ [common], b.rank ≠ .nan := by decide
    rw [MemoryStore.listBranches, hvisible, MemoryStore.byPriority_eq hranked,
      List.mergeSort_singleton]
  have hfetch : asStores.listBranches "w" s = (.ok [common], s) :=
    congrArg (fun branches => (Except.ok branches, s)) hlist
  have hok : (chooseBranch ⟨"w", "c", none, none, none⟩ readings [common]).isOk = true := by
    decide +kernel
  have hanswer : ∃ response,
      ((submission.decide readings).run asStores s).1 = .success response := by
    cases hchoose : chooseBranch ⟨"w", "c", none, none, none⟩ readings [common] with
    | error e =>
      rw [hchoose] at hok
      exact Bool.noConfusion hok
    | ok choice =>
      rw [Submission.decide_of_request rfl, run_of_chosen hfetch hchoose, run_conclude]
      exact ⟨_, rfl⟩
  obtain ⟨response, hmade⟩ := hanswer
  exact ⟨rfl, rfl, response, hmade,
    decide_actions s stored submission readings response rfl rfl hmade⟩

end Session

end BranchChoice
