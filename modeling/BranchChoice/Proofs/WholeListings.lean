import BranchChoice.Proofs.StoreFailures
import Mathlib.Data.List.Forall2

/-!
# Listings over the wire are whole

A listing asks for the rows of a table and makes something of each row.  It returns one part for
each row, in the place of the row, or nothing at all: a single row that cannot be read spoils the
listing, wherever it stands.

* `mapM_eq_ok_iff` and `refused_of_mapM`: reading all rows, place by place, up to the first that is
  refused.
* `answerTo`: what a listing makes of a reply, and `Spoils`: what can be wrong with the reply.
* `answerTo_eq_ok_iff` and `answerTo_eq_error_iff`: the reply decides between the two.
* `IsWholeListing`: all or nothing; `listings_whole`: either listing is so, whatever is replied.
-/

namespace BranchChoice.Rest

/-! ## Reading all rows -/

section Rows

variable {α : Type} {read : Json → Except Rejection α}

/-- All rows are read exactly if each is read as the part in its place. -/
theorem mapM_eq_ok_iff : ∀ {rows : List Json} {parts : List α},
    rows.mapM read = .ok parts ↔ List.Forall₂ (fun row part => read row = .ok part) rows parts
  | [], parts => by
    cases parts <;> simp [pure, Except.pure]
  | row :: rest, parts => by
    rw [MemoryStore.mapM_cons_eq_ok_iff, List.forall₂_cons_left_iff]
    simp only [mapM_eq_ok_iff, exists_and_left]

/-- All rows can be read exactly if each can. -/
theorem exists_mapM_iff {rows : List Json} :
    (∃ parts, rows.mapM read = .ok parts) ↔ ∀ row ∈ rows, ∃ part, read row = .ok part := by
  induction rows with
  | nil => simp [pure, Except.pure]
  | cons row rest ih =>
    rw [List.forall_mem_cons, ← ih]
    constructor
    · rintro ⟨parts, h⟩
      obtain ⟨part, others, hrow, hrest, -⟩ := MemoryStore.mapM_cons_eq_ok_iff.1 h
      exact ⟨⟨part, hrow⟩, others, hrest⟩
    · rintro ⟨⟨part, hrow⟩, others, hrest⟩
      exact ⟨part :: others, MemoryStore.mapM_cons_eq_ok_iff.2 ⟨part, others, hrow, hrest, rfl⟩⟩

/-- A row that is refused is what is told, if all rows before it can be read. -/
theorem mapM_of_refused {before after : List Json} {row : Json} {r : Rejection}
    (hbefore : ∀ earlier ∈ before, ∃ part, read earlier = .ok part) (hrow : read row = .error r) :
    (before ++ row :: after).mapM read = .error r := by
  induction before with
  | nil =>
    rw [List.nil_append, List.mapM_cons, hrow]
    rfl
  | cons first rest ih =>
    obtain ⟨⟨part, hpart⟩, hrest⟩ := List.forall_mem_cons.1 hbefore
    rw [List.cons_append, List.mapM_cons, hpart, ih hrest]
    rfl

/-- If some row cannot be read, the first of these is what is told. -/
theorem refused_of_mapM {r : Rejection} : ∀ {rows : List Json}, rows.mapM read = .error r →
    ∃ before row after, rows = before ++ row :: after ∧
      (∀ earlier ∈ before, ∃ part, read earlier = .ok part) ∧ read row = .error r
  | [], h => nomatch h
  | row :: rest, h => by
    rw [List.mapM_cons] at h
    cases hrow : read row with
    | error r' =>
      rw [hrow] at h
      obtain rfl := Except.error.inj h
      exact ⟨[], row, rest, rfl, by simp, hrow⟩
    | ok part =>
      rw [hrow] at h
      cases hrest : rest.mapM read with
      | ok others =>
        rw [hrest] at h
        exact nomatch h
      | error r' =>
        rw [hrest] at h
        obtain rfl := Except.error.inj h
        obtain ⟨before, other, after, rfl, hbefore, hother⟩ := refused_of_mapM hrest
        exact ⟨row :: before, other, after, rfl,
          List.forall_mem_cons.2 ⟨⟨part, hrow⟩, hbefore⟩, hother⟩

end Rows

/-! ## Replies -/

/-- The reply that the next request takes; without one the connection fails. -/
def Wire.next (w : Wire) : Reply :=
  w.replies.headD (.failure "")

theorem Wire.send_reply (w : Wire) (request : HttpRequest) : (w.send request).1 = w.next := by
  unfold Wire.send next
  cases w.replies <;> rfl

section Causes

variable {α : Type} (settings : Settings) (read : Json → Except Rejection α)
  (invalid : Rejection → Cause)

/-- What a listing makes of a reply: first its body, then the rows of the body. -/
def answerTo (reply : Reply) : Except Cause (List α) :=
  (outcomeOf settings reply).bind (readRows read invalid)

/-- Why a reply does not give rows that can all be read: there is no response, its status is no
success, its body is no document or not that of a list, or a row is refused, all before it being
fine. -/
inductive Spoils : Reply → Cause → Prop
  | timeout : Spoils .timeout (.timedOut settings.timeout)
  | failure (message : String) : Spoils (.failure message) (.connection message)
  | status {status : Nat} {body : List UInt8} (h : ¬ (200 ≤ status ∧ status ≤ 299)) :
      Spoils (.response status body)
        (.status status (String.ofList (Text.utf8DecodeLossy body)))
  | body {status : Nat} {body : List UInt8} {e : BodyError} (hstatus : 200 ≤ status ∧ status ≤ 299)
      (h : readBody body = .error e) : Spoils (.response status body) (.body e)
  | notList {status : Nat} {body : List UInt8} {v : Json} (hstatus : 200 ≤ status ∧ status ≤ 299)
      (h : readBody body = .ok v) (hv : ∀ rows, v ≠ .list rows) :
      Spoils (.response status body) .notList
  | row {reply : Reply} {before after : List Json} {row : Json} {r : Rejection}
      (h : Delivers reply (before ++ row :: after))
      (hbefore : ∀ earlier ∈ before, ∃ part, read earlier = .ok part)
      (hrow : read row = .error r) : Spoils reply (invalid r)

variable {settings read invalid}

/-- A reply gives parts exactly if it delivers rows that can all be read. -/
theorem answerTo_eq_ok_iff {reply : Reply} {parts : List α} :
    answerTo settings read invalid reply = .ok parts ↔
      ∃ rows, Delivers reply rows ∧ rows.mapM read = .ok parts := by
  rw [answerTo, bind_eq_ok_iff]
  constructor
  · rintro ⟨body, hbody, hparts⟩
    obtain ⟨status, rfl, hlow, hhigh⟩ := outcomeOf_eq_ok_iff.1 hbody
    obtain ⟨rows, hrows, hread⟩ := readRows_eq_ok_iff.1 hparts
    exact ⟨rows, ⟨status, body, rfl, hlow, hhigh, hrows⟩, hread⟩
  · rintro ⟨rows, ⟨status, body, rfl, hlow, hhigh, hrows⟩, hread⟩
    exact ⟨body, outcomeOf_response settings hlow hhigh body,
      readRows_eq_ok_iff.2 ⟨rows, hrows, hread⟩⟩

/-- A reply that does not come to a body spoils the listing. -/
theorem spoils_of_outcome {reply : Reply} {cause : Cause}
    (h : outcomeOf settings reply = .error cause) : Spoils settings read invalid reply cause := by
  cases reply with
  | timeout =>
    obtain rfl := Except.error.inj h
    exact .timeout
  | failure message =>
    obtain rfl := Except.error.inj h
    exact .failure message
  | response status body =>
    rw [outcomeOf] at h
    split_ifs at h with hstatus
    obtain rfl := Except.error.inj h
    refine .status fun hsuccess => hstatus ?_
    simpa using ⟨hsuccess.1, Nat.lt_succ_of_le hsuccess.2⟩

/-- A body whose rows cannot all be read spoils the listing. -/
theorem spoils_of_rows {status : Nat} {body : List UInt8} {cause : Cause}
    (hstatus : 200 ≤ status ∧ status ≤ 299) (h : readRows read invalid body = .error cause) :
    Spoils settings read invalid (.response status body) cause := by
  unfold readRows at h
  cases hbody : readBody body with
  | error e =>
    rw [hbody] at h
    obtain rfl := Except.error.inj h
    exact .body hstatus hbody
  | ok v =>
    rw [hbody] at h
    cases v with
    | list rows =>
      dsimp only at h
      cases hrows : rows.mapM read with
      | ok parts =>
        rw [hrows] at h
        exact nomatch h
      | error r =>
        rw [hrows] at h
        obtain rfl := Except.error.inj h
        obtain ⟨before, row, after, rfl, hbefore, hrow⟩ := refused_of_mapM hrows
        exact .row ⟨status, body, rfl, hstatus.1, Nat.lt_succ_of_le hstatus.2, hbody⟩ hbefore hrow
    | _ =>
      obtain rfl := Except.error.inj h
      exact .notList hstatus hbody (by simp)

theorem answerTo_success {status : Nat} (hstatus : 200 ≤ status ∧ status ≤ 299)
    (body : List UInt8) :
    answerTo settings read invalid (.response status body) = readRows read invalid body := by
  rw [answerTo, outcomeOf_response settings hstatus.1 (Nat.lt_succ_of_le hstatus.2)]
  rfl

/-- **A reply gives an error exactly for what is wrong with it.** -/
theorem answerTo_eq_error_iff {reply : Reply} {cause : Cause} :
    answerTo settings read invalid reply = .error cause ↔
      Spoils settings read invalid reply cause := by
  constructor
  · intro h
    cases houtcome : outcomeOf settings reply with
    | error cause' =>
      rw [answerTo, houtcome] at h
      obtain rfl := Except.error.inj h
      exact spoils_of_outcome houtcome
    | ok body =>
      rw [answerTo, houtcome] at h
      obtain ⟨status, rfl, hlow, hhigh⟩ := outcomeOf_eq_ok_iff.1 houtcome
      exact spoils_of_rows ⟨hlow, Nat.le_of_lt_succ hhigh⟩ h
  · intro h
    cases h with
    | timeout => rfl
    | failure message => rfl
    | status hstatus =>
      rw [answerTo, outcomeOf, if_neg]
      · rfl
      · intro hsuccess
        rw [Bool.and_eq_true, decide_eq_true_eq, decide_eq_true_eq] at hsuccess
        exact hstatus ⟨hsuccess.1, Nat.le_of_lt_succ hsuccess.2⟩
    | body hstatus hbody => rw [answerTo_success hstatus, readRows, hbody]
    | @notList status body v hstatus hbody hv =>
      rw [answerTo_success hstatus, readRows, hbody]
      cases v with
      | list rows => exact absurd rfl (hv rows)
      | _ => rfl
    | row hdelivers hbefore hrow =>
      obtain ⟨status, body, rfl, hlow, hhigh, hbody⟩ := hdelivers
      rw [answerTo_success ⟨hlow, Nat.le_of_lt_succ hhigh⟩, readRows, hbody]
      simp only [mapM_of_refused hbefore hrow]

end Causes

/-! ## Listings -/

section Listings

variable {α : Type} {role : Role} {filters : Parameters} {read : Json → Except Rejection α}
  {invalid : Rejection → Cause} {s : RestState}

/-- A listing comes to what it makes of the next reply, as an outcome of its store. -/
theorem select_answer (hbase : HasBase s.settings) :
    (select role filters read invalid s).1 =
      (answerTo s.settings read invalid s.wire.next).mapError (.store role) := by
  obtain ⟨request, hrun⟩ := select_outcome hbase role filters read invalid
  rw [hrun, sendFor_outcome, Wire.send_reply]
  -- a connection that is opened leaves the settings and the replies as they are
  change ((outcomeOf s.settings s.wire.next).mapError (CallError.store role)).bind _ = _
  rw [answerTo]
  cases outcomeOf s.settings s.wire.next <;> rfl

theorem mapError_eq_error_iff {ε δ : Type} {f : ε → δ} {outcome : Except ε α} {e : δ} :
    outcome.mapError f = .error e ↔ ∃ cause, e = f cause ∧ outcome = .error cause := by
  cases outcome <;> simp [Except.mapError, eq_comm]

/-- A listing is whole: it comes to all that the reply delivers, or to nothing. -/
structure IsWholeListing (role : Role) (settings : Settings) (read : Json → Except Rejection α)
    (invalid : Rejection → Cause) (reply : Reply) (outcome : Except CallError (List α)) :
    Prop where
  /-- It completes exactly if the reply delivers rows each of which can be read. -/
  completes : (∃ parts, outcome = .ok parts) ↔
    ∃ rows, Delivers reply rows ∧ ∀ row ∈ rows, ∃ part, read row = .ok part
  /-- It then has as many parts as there are rows, each read from the row in its place. -/
  inPlace : ∀ parts, outcome = .ok parts →
    ∃ rows, Delivers reply rows ∧ parts.length = rows.length ∧
      ∀ (i : Nat) (hpart : i < parts.length) (hrow : i < rows.length),
        read rows[i] = .ok parts[i]
  /-- Else it fails as its store, for what is wrong with the reply. -/
  fails : ∀ e, outcome = .error e ↔
    ∃ cause, e = .store role cause ∧ Spoils settings read invalid reply cause

/-- **A listing is whole**, of whichever rows. -/
theorem select_isWhole (hbase : HasBase s.settings) (role : Role) (filters : Parameters)
    (read : Json → Except Rejection α) (invalid : Rejection → Cause) :
    IsWholeListing role s.settings read invalid s.wire.next
      (select role filters read invalid s).1 := by
  rw [select_answer hbase]
  refine ⟨?_, ?_, ?_⟩
  · simp only [mapError_eq_ok_iff, answerTo_eq_ok_iff, ← exists_mapM_iff]
    exact ⟨fun ⟨parts, rows, hrows, hread⟩ => ⟨rows, hrows, parts, hread⟩,
      fun ⟨rows, hrows, parts, hread⟩ => ⟨parts, rows, hrows, hread⟩⟩
  · intro parts h
    obtain ⟨rows, hrows, hread⟩ := answerTo_eq_ok_iff.1 (mapError_eq_ok_iff.1 h)
    obtain ⟨hlength, hparts⟩ := List.forall₂_iff_get.1 (mapM_eq_ok_iff.1 hread)
    exact ⟨rows, hrows, hlength.symm, fun i hpart hrow => hparts i hrow hpart⟩
  · intro e
    simp only [mapError_eq_error_iff, answerTo_eq_error_iff]

end Listings

/-- **Listings over the wire are whole.**  Wherever there is a base, and whatever is replied, the
branches of a workflow and the actions of a branch are listed if the reply is a success whose body
is the document of a list of rows each of which can be read, and only then; there is one part for
each row, in its place.  In every other case the listing fails as its own store, for what is wrong
with the reply, and nothing is listed. -/
theorem listings_whole (s : RestState) (hbase : HasBase s.settings) :
    (∀ workflowId, IsWholeListing .branches s.settings Branch.read .invalidBranch s.wire.next
      (listBranches workflowId s).1) ∧
    ∀ branchId, IsWholeListing .actions s.settings Action.read .invalidAction s.wire.next
      (listActions branchId s).1 :=
  ⟨fun _ => select_isWhole hbase .., fun _ => select_isWhole hbase ..⟩

/-- The second of three rows has no name: no branch is listed, although the others are fine. -/
theorem listings_whole_nameless :
    let row (id : String) : Json := .object [("id", .text id), ("branch_name", .text "B")]
    let nameless : Json := .object [("id", .text "b")]
    let settings : Settings :=
      ⟨some "http://localhost", none, "branches", "logs", "actions", "INFO", .ofInt 30⟩
    let body := Text.utf8Encode ((Json.list [row "a", nameless, row "c"]).render .compact).toList
    let s := RestState.start settings [.response 200 body]
    HasBase settings ∧ Delivers s.wire.next [row "a", nameless, row "c"] ∧
      (∃ b, Branch.read (row "a") = .ok b) ∧ (∃ b, Branch.read (row "c") = .ok b) ∧
      IsWholeListing .branches settings Branch.read .invalidBranch s.wire.next
        (listBranches "w" s).1 ∧
      (listBranches "w" s).1 = .error (.store .branches
        (.invalidBranch ⟨"Branch", [⟨[.field "branch_name"], .missing, none⟩]⟩)) := by
  intro row nameless settings body s
  have hbase : HasBase settings := ⟨_, rfl, by decide⟩
  have hdelivers : Delivers s.wire.next ([row "a"] ++ nameless :: [row "c"]) :=
    delivers_of_render .compact (by decide) (by decide) (by decide)
  have hbefore : ∀ earlier ∈ [row "a"], ∃ b, Branch.read earlier = .ok b := by
    rintro earlier hearlier
    obtain rfl := List.mem_singleton.1 hearlier
    exact ⟨_, rfl⟩
  have hwhole := (listings_whole s hbase).1 "w"
  exact ⟨hbase, hdelivers, ⟨_, rfl⟩, ⟨_, rfl⟩, hwhole,
    (hwhole.fails _).2 ⟨_, rfl, .row hdelivers hbefore rfl⟩⟩

end BranchChoice.Rest
