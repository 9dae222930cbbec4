import BranchChoice.Store.Memory

/-!
# Sessions

A run of steps over stores in memory, of which one plays all three roles or each plays one.  A role
can be made to fail until it is healed; a call of a failing role changes nothing.
-/

namespace BranchChoice

/-- The roles of the stores of a decision. -/
inductive Role where
  | branches
  | log
  | actions
  deriving DecidableEq

/-- How a call of a failing role ends: with the store's own error, or with another one. -/
inductive Outage where
  | reported (text : String)
  | crash (text : String)
  deriving DecidableEq

/-- The text of an outage. -/
def Outage.text : Outage → String
  | reported text => text
  | crash text => text

/-- The error of a call: the role that failed, and how. -/
structure CallError where
  role : Role
  outage : Outage
  deriving DecidableEq

/-- The stores in their roles. -/
inductive RoleStores where
  | shared (store : MemoryStore)
  | separate (branches log actions : MemoryStore)

namespace RoleStores

/-- The store in a role. -/
def get : RoleStores → Role → MemoryStore
  | shared store, _ => store
  | separate branches _ _, .branches => branches
  | separate _ log _, .log => log
  | separate _ _ actions, .actions => actions

/-- The stores with the one in a role changed. -/
def modify (f : MemoryStore → MemoryStore) : RoleStores → Role → RoleStores
  | shared store, _ => shared (f store)
  | separate branches log actions, .branches => separate (f branches) log actions
  | separate branches log actions, .log => separate branches (f log) actions
  | separate branches log actions, .actions => separate branches log (f actions)

/-- Stores for the rows of one: itself, or one for each role. -/
def ofStore (separated : Bool) (store : MemoryStore) : RoleStores :=
  if separated then
    separate { store with actions := [] } ⟨[], [], []⟩ { store with branches := [] }
  else shared store

/-- How many stores there are. -/
def count : RoleStores → Nat
  | shared _ => 1
  | separate _ _ _ => 3

end RoleStores

/-- The state of a session. -/
structure Session where
  stores : RoleStores
  /-- The outages of the roles that fail. -/
  outages : List (Role × Outage)
  /-- How often each store has been closed. -/
  closes : Nat

namespace Session

/-- A session at its start. -/
def start (stores : RoleStores) : Session :=
  ⟨stores, [], 0⟩

/-- The log. -/
def logs (s : Session) : List LogEntry :=
  (s.stores.get .log).logs

/-- The result of a call in a role, unless the role fails. -/
def guarded {α : Type} (s : Session) (role : Role) (result : α) : Except CallError α :=
  match s.outages.lookup role with
  | some outage => .error ⟨role, outage⟩
  | none => .ok result

/-- The branches of a workflow. -/
def listBranches (workflowId : String) (s : Session) : Except CallError (List Branch) × Session :=
  (s.guarded .branches ((s.stores.get .branches).listBranches workflowId), s)

/-- Appends an entry to the log. -/
def append (entry : LogEntry) (s : Session) : Except CallError Unit × Session :=
  match s.guarded .log () with
  | .error e => (.error e, s)
  | .ok _ => (.ok (), { s with stores := s.stores.modify (·.append entry) .log })

/-- The actions of a branch. -/
def listActions (branchId : String) (s : Session) : Except CallError (List Action) × Session :=
  (s.guarded .actions ((s.stores.get .actions).listActions branchId), s)

/-- The session as the stores of a decision. -/
def asStores : Stores Session CallError where
  listBranches := listBranches
  append := append
  listActions := listActions
  wording e := e.outage.text

/-! ## Steps -/

/-- A step: a decision for any value or for an accepted request, a call, or a change. -/
inductive Step where
  | decide (request : Json) (readings : Readings)
  | decideAccepted (request : Request) (readings : Readings)
  | listBranches (workflowId : String)
  | listActions (branchId : String)
  | append (entry : LogEntry)
  | readLog
  | addBranch (branch : Branch)
  | addAction (action : Action)
  /-- From now on exactly the given roles fail. -/
  | fail (outages : List (Role × Outage))
  | close

/-- What a step returns. -/
inductive Result where
  | decided (envelope : Envelope)
  | branches (rows : List Branch)
  | actions (rows : List Action)
  | log (entries : List LogEntry)
  | count (n : Nat)
  | done
  | failed (error : CallError)

/-- The result of a call, if it succeeds, as the result of a step. -/
def Result.ofCall {α : Type} (f : α → Result) : Except CallError α → Result
  | .ok a => f a
  | .error e => .failed e

/-- One step of a session. -/
def step (s : Session) : Step → Result × Session
  | .decide request readings =>
    let (envelope, s') := (BranchChoice.decide request readings).run asStores s
    (.decided envelope, s')
  | .decideAccepted request readings =>
    let (envelope, s') := (request.decide readings).run asStores s
    (.decided envelope, s')
  | .listBranches workflowId =>
    let (outcome, s') := s.listBranches workflowId
    (.ofCall .branches outcome, s')
  | .listActions branchId =>
    let (outcome, s') := s.listActions branchId
    (.ofCall .actions outcome, s')
  | .append entry =>
    let (outcome, s') := s.append entry
    (.ofCall (fun _ => .done) outcome, s')
  | .readLog => (.log s.logs, s)
  | .addBranch b =>
    let stores := s.stores.modify (·.addBranch b) .branches
    (.count (stores.get .branches).branches.length, { s with stores := stores })
  | .addAction a =>
    let stores := s.stores.modify (·.addAction a) .actions
    (.count (stores.get .actions).actions.length, { s with stores := stores })
  | .fail outages => (.done, { s with outages := outages })
  | .close => (.done, { s with closes := s.closes + 1 })

/-- The results of several steps, and the session after them. -/
def run (s : Session) : List Step → List Result × Session
  | [] => ([], s)
  | first :: rest =>
    let (result, s') := s.step first
    let (results, s'') := s'.run rest
    (result :: results, s'')

end Session

end BranchChoice
