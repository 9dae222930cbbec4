import BranchChoice.Decision
import BranchChoice.Json.Reader
import BranchChoice.Rest.Query
import BranchChoice.Rest.Transport
import BranchChoice.Settings
import BranchChoice.Store.Session

/-!
# Stores behind a REST interface

The three stores of a decision as tables of a remote database.  Each store opens a connection with
its first call and keeps it; a call sends one request and makes an outcome of the one reply.
-/

namespace BranchChoice.Rest

/-! ## Errors -/

/-- The name of the store in a role. -/
def storeName : Role → String
  | .branches => "branch_store"
  | .log => "log_sink"
  | .actions => "action_store"

/-- Why the body of a response is no value. -/
inductive BodyError where
  | bytes (e : Text.DecodeError)
  | document (e : Json.ReadError)
  deriving DecidableEq

/-- The wording of an error. -/
def BodyError.message : BodyError → String
  | bytes e => e.message
  | document e => e.message

/-- Why a call of a store fails. -/
inductive Cause where
  | notConfigured
  | timedOut (seconds : Binary64)
  | status (code : Nat) (body : String)
  | connection (message : String)
  | body (e : BodyError)
  | notList
  | invalidBranch (r : Rejection)
  | invalidAction (r : Rejection)

/-- How many characters of a body are quoted. -/
def quotedLength : Nat := 200

/-- The wording of a cause. -/
def Cause.message : Cause → String
  | notConfigured => "SUPABASE_URL is not configured"
  | timedOut seconds => "Request timed out after " ++ seconds.toText ++ "s"
  | status code text =>
    s!"HTTP error {code}: " ++ String.ofList (text.toList.take quotedLength)
  | connection message => "Request failed: " ++ message
  | body e => "Failed to parse response: " ++ e.message
  | notList => "Expected a list of rows"
  | invalidBranch r => "Invalid branch row: " ++ r.message
  | invalidAction r => "Invalid action row: " ++ r.message

/-- An error of a call: one of a store, or an entry that cannot be dumped, or that cannot be written
as a document. -/
inductive CallError where
  | store (role : Role) (cause : Cause)
  | tooDeep
  | notFinite

/-- The wording of an error. -/
def CallError.message : CallError → String
  | store _ cause => cause.message
  | tooDeep => Fields.depthMessage
  | notFinite => "Out of range float values are not JSON compliant"

/-! ## State -/

/-- The stores: their settings, their connections, and the transport. -/
structure RestState where
  settings : Settings
  /-- Which stores hold an open connection. -/
  opened : Role → Bool
  /-- How many connections each store has made and not closed. -/
  connections : Role → Nat
  wire : Wire

namespace RestState

/-- Stores without connections. -/
def start (settings : Settings) (replies : List Reply) : RestState :=
  ⟨settings, fun _ => false, fun _ => 0, ⟨replies, []⟩⟩

/-- The state with a connection of a store open: the one that the store holds, or else a new one. -/
def openFor (s : RestState) (role : Role) : RestState :=
  { s with
    opened := fun r => r == role || s.opened r
    connections := fun r =>
      if r == role && !s.opened r then s.connections r + 1 else s.connections r }

/-- The state with the connection closed that a store holds, if it holds one. -/
def closeFor (s : RestState) (role : Role) : RestState :=
  { s with
    opened := fun r => r != role && s.opened r
    connections := fun r =>
      if r == role && s.opened r then s.connections r - 1 else s.connections r }

/-- The state after each store has closed the connection that it holds. -/
def close (s : RestState) : RestState :=
  [Role.branches, .log, .actions].foldl closeFor s

end RestState

/-! ## Calls -/

/-- The table of the store in a role. -/
def tableOf (settings : Settings) : Role → String
  | .branches => settings.branchesTable
  | .log => settings.logsTable
  | .actions => settings.actionsTable

/-- The address of a store's table; none if no base is configured. -/
def addressOf (settings : Settings) (role : Role) : Option (List Char) :=
  match settings.baseUrl with
  | none => none
  | some base =>
    if base.isEmpty then none
    else
      let stem := (base.toList.reverse.dropWhile (· == '/')).reverse
      some (normalizeAddress (stem ++ "/rest/v1/".toList ++ (tableOf settings role).toList))

/-- The headers of every request. -/
def headersOf (settings : Settings) : List (String × String) :=
  let key := settings.key.getD ""
  [("apikey", key), ("authorization", "Bearer " ++ key), ("content-type", "application/json")]

/-- What a reply means for a call: the body of a successful response, or the cause of failure. -/
def outcomeOf (settings : Settings) : Reply → Except Cause (List UInt8)
  | .response status body =>
    if 200 ≤ status && status < 300 then .ok body
    else .error (.status status (String.ofList (Text.utf8DecodeLossy body)))
  | .timeout => .error (.timedOut settings.timeout)
  | .failure message => .error (.connection message)

/-- Sends a request of a store. -/
def sendFor (s : RestState) (role : Role) (request : HttpRequest) :
    Except CallError (List UInt8) × RestState :=
  let (reply, wire) := s.wire.send request
  let outcome := match outcomeOf s.settings reply with
    | .ok body => .ok body
    | .error cause => .error (.store role cause)
  (outcome, { s with wire := wire })

/-- The value of a body. -/
def readBody (bytes : List UInt8) : Except BodyError Json :=
  match Text.decodeDocument bytes with
  | .error e => .error (.bytes e)
  | .ok chars =>
    match Json.parse (String.ofList chars) with
    | .error e => .error (.document e)
    | .ok v => .ok v

/-- The rows of a body, each as what it describes. -/
def readRows {α : Type} (read : Json → Except Rejection α) (invalid : Rejection → Cause)
    (bytes : List UInt8) : Except Cause (List α) :=
  match readBody bytes with
  | .error e => .error (.body e)
  | .ok (.list rows) =>
    match rows.mapM read with
    | .error r => .error (invalid r)
    | .ok parts => .ok parts
  | .ok _ => .error .notList

/-- Fetches rows of a store's table by a query. -/
def select {α : Type} (role : Role) (filters : Parameters)
    (read : Json → Except Rejection α) (invalid : Rejection → Cause) (s : RestState) :
    Except CallError (List α) × RestState :=
  match addressOf s.settings role with
  | none => (.error (.store role .notConfigured), s)
  | some address =>
    let url := String.ofList (address ++ '?' :: encodeQuery (("select", "*") :: filters))
    let request : HttpRequest := ⟨.get, url, headersOf s.settings, ""⟩
    match sendFor (s.openFor role) role request with
    | (.error e, s') => (.error e, s')
    | (.ok body, s') =>
      match readRows read invalid body with
      | .error cause => (.error (.store role cause), s')
      | .ok rows => (.ok rows, s')

/-- The branches of a workflow, in the order in which they come. -/
def listBranches (workflowId : String) (s : RestState) :
    Except CallError (List Branch) × RestState :=
  select .branches [("workflow_id", "eq." ++ workflowId), ("order", "priority.desc")]
    Branch.read .invalidBranch s

/-- The actions of a branch, in the order in which they come. -/
def listActions (branchId : String) (s : RestState) :
    Except CallError (List Action) × RestState :=
  select .actions [("branch_id", "eq." ++ branchId), ("order", "execution_order.asc")]
    Action.read .invalidAction s

/-- The document of a log entry that has been dumped.  Its own numbers must be finite, and others
inside its context are written as null. -/
def entryBody (entry : LogEntry) : Option String :=
  if entry.confidence.isFinite && entry.elapsed.isFinite then
    some (entry.toJson.withoutNonFinite.render .compact)
  else none

/-- Posts an entry that has been dumped.  The connection is open before the entry is written as a
document. -/
def post (entry : LogEntry) (s : RestState) : Except CallError Unit × RestState :=
  match addressOf s.settings .log with
  | none => (.error (.store .log .notConfigured), s)
  | some address =>
    match entryBody entry with
    | none => (.error .notFinite, s.openFor .log)
    | some body =>
      let headers := headersOf s.settings ++ [("prefer", "return=minimal")]
      match sendFor (s.openFor .log) .log ⟨.post, String.ofList address, headers, body⟩ with
      | (.error e, s') => (.error e, s')
      | (.ok _, s') => (.ok (), s')

/-- Writes an entry to the log.  It is dumped first, before there is a look at the address; an entry
that cannot be leaves the store untouched. -/
def append (entry : LogEntry) (s : RestState) : Except CallError Unit × RestState :=
  if entry.context.isShallow then post entry s else (.error .tooDeep, s)

/-- The three tables as the stores of a decision. -/
def stores : Stores RestState CallError where
  listBranches := listBranches
  append := append
  listActions := listActions
  wording := CallError.message

/-! ## Steps -/

/-- A step of a run over the stores. -/
inductive RestStep where
  | decide (request : Json) (readings : Readings)
  | decideAccepted (request : Request) (readings : Readings)
  | listBranches (workflowId : String)
  | listActions (branchId : String)
  | append (entry : LogEntry)
  | close

/-- What a step returns. -/
inductive RestResult where
  | decided (envelope : Envelope)
  | branches (rows : List Branch)
  | actions (rows : List Action)
  | done
  | failed (error : CallError)

/-- The result of a call, if it succeeds, as the result of a step. -/
def RestResult.ofCall {α : Type} (f : α → RestResult) : Except CallError α → RestResult
  | .ok a => f a
  | .error e => .failed e

/-- One step over the stores. -/
def RestState.step (s : RestState) : RestStep → RestResult × RestState
  | .decide request readings =>
    let (envelope, s') := (BranchChoice.decide request readings).run stores s
    (.decided envelope, s')
  | .decideAccepted request readings =>
    let (envelope, s') := (request.decide readings).run stores s
    (.decided envelope, s')
  | .listBranches workflowId =>
    let (outcome, s') := Rest.listBranches workflowId s
    (.ofCall .branches outcome, s')
  | .listActions branchId =>
    let (outcome, s') := Rest.listActions branchId s
    (.ofCall .actions outcome, s')
  | .append entry =>
    let (outcome, s') := Rest.append entry s
    (.ofCall (fun _ => .done) outcome, s')
  | .close => (.done, s.close)

/-- The results of several steps, and the state after them. -/
def RestState.run (s : RestState) : List RestStep → List RestResult × RestState
  | [] => ([], s)
  | first :: rest =>
    let (result, s') := s.step first
    let (results, s'') := s'.run rest
    (result :: results, s'')

end BranchChoice.Rest
