import BranchChoice.CommandLine.Document
import BranchChoice.CommandLine.Explanation
import BranchChoice.LogLevel
import BranchChoice.Rest.Stores
import BranchChoice.Text.Word

/-!
# The program

The two commands: `decide` asks the remote stores, and `simulate` a workflow document.  A run is a
function of the arguments and the surroundings; it gives what is printed, how it ends, and which
requests were sent.
-/

namespace BranchChoice.CommandLine

/-! ## Surroundings and outcomes -/

/-- What a run depends on beside its arguments. -/
structure Surroundings where
  environment : Environment
  files : Files
  /-- What the remote stores are going to reply. -/
  replies : List Rest.Reply
  readings : Readings

/-- An error that is not the caller's misuse and ends the run at once. -/
inductive Crash where
  | unknownLevel (e : UnknownLevel)
  | settings (e : SettingsError)
  | unreadable (e : Json.ReadError)
  | document (e : MemoryStore.DocumentError)
  | explanation (e : ExplanationError)
  /-- The answer cannot be dumped. -/
  | unwritable
  /-- The console refuses a text on account of its tags. -/
  | markup (message : String)

/-- The wording of a crash. -/
def Crash.message : Crash → String
  | unknownLevel e => e.message
  | settings e => e.message
  | unreadable e => e.message
  | document e => e.message
  | explanation (.clock e) => e.message
  | explanation (.unscored e) => e.message
  | unwritable => "Error serializing to JSON: ValueError: " ++ Fields.depthMessage
  | markup message => message

/-- How a run ends. -/
inductive Ending where
  | finished
  | undecided
  | misused (e : UsageError)
  | crashed (e : Crash)

/-- The exit code of a run, unless it crashes. -/
def Ending.code? : Ending → Option Nat
  | finished => some 0
  | undecided => some 1
  | misused _ => some 2
  | crashed _ => none

/-- What comes of a run. -/
structure Outcome where
  printed : List Printed
  ending : Ending
  sent : List Rest.HttpRequest

namespace Outcome

/-- A run that ends with a misuse. -/
def misuse (e : UsageError) : Outcome := ⟨[], .misused e, []⟩

/-- A run that ends with a crash. -/
def crash (e : Crash) : Outcome := ⟨[], .crashed e, []⟩

/-- A run that prints a line and is done. -/
def ofLine (text : String) : Outcome := ⟨[.plain text], .finished, []⟩

/-- A run that prints an answer, if the answer can be dumped. -/
def answer (before : List Printed) (envelope : Envelope) (sent : List Rest.HttpRequest) : Outcome :=
  if envelope.isShallow then
    ⟨before ++ [.answer envelope], if envelope.isSuccess then .finished else .undecided, sent⟩
  else ⟨before, .crashed .unwritable, sent⟩

/-- A run as a console shows it.  The first text that the console refuses ends the run. -/
def on (console : Console) (o : Outcome) : Outcome :=
  match console.showAll o.printed with
  | (shown, none) => { o with printed := shown }
  | (shown, some message) => { o with printed := shown, ending := .crashed (.markup message) }

end Outcome

/-! ## Reading documents -/

/-- The value of a document, or the outcome of a run that cannot read it. -/
def Document.read (d : Document) : Except Outcome Json :=
  match Json.parseUnmarked d.text with
  | .ok v => .ok v
  | .error (.integerTooLong digits) => .error (.crash (.unreadable (.integerTooLong digits)))
  | .error e => .error (.misuse (.malformedDocument d.name e.message))

/-- The store of a workflow document, or the outcome of a run that cannot use it. -/
def Document.readStore (d : Document) : Except Outcome MemoryStore :=
  match d.read with
  | .error o => .error o
  | .ok v =>
    match MemoryStore.ofDocument v with
    | .ok store => .ok store
    | .error (.rejected r) => .error (.misuse (.invalidWorkflow d.name r))
    | .error e => .error (.crash (.document e))

/-! ## Commands -/

/-- Decides a request with the remote stores that the environment names. -/
def decideRemotely (s : Surroundings) (request : Document) : Outcome :=
  match request.read with
  | .error o => o
  | .ok request =>
    match Settings.ofEnvironment s.environment with
    | .error e => .crash (.settings e)
    | .ok settings =>
      let (envelope, after) :=
        (BranchChoice.decide request s.readings).run Rest.stores (.start settings s.replies)
      .answer [] envelope after.wire.sent

/-- What is printed about a request before it is decided.  A request that is not valid is not
explained. -/
def explain (s : Surroundings) (store : MemoryStore) (request : Json) :
    Except ExplanationError (List Printed) :=
  match Request.ofJson request with
  | .error _ => .ok []
  | .ok accepted => (Explanation.ofRequest store accepted s.readings.clock).map (·.print)

/-- Decides a request with a workflow document as the stores. -/
def simulate (s : Surroundings) (workflow request : Document) (explained : Bool) : Outcome :=
  match workflow.readStore with
  | .error o => o
  | .ok store =>
    match request.read with
    | .error o => o
    | .ok request =>
      match if explained then explain s store request else .ok [] with
      | .error e => .crash (.explanation e)
      | .ok before =>
        .answer before ((BranchChoice.decide request s.readings).run MemoryStore.stores store).1 []

/-! ## Switches -/

/-- Shows how to call the program or a command. -/
def helpSwitch : Switch := ⟨"--help", false⟩

/-- Shows the version. -/
def versionSwitch : Switch := ⟨"--version", false⟩

/-- Sets the level of the log. -/
def logLevelSwitch : Switch := ⟨"--log-level", true⟩

/-- Shows the scores before the decision. -/
def explainSwitch : Switch := ⟨"--explain", false⟩

/-- The switches before the command. -/
def programSwitches : List Switch := [versionSwitch, logLevelSwitch, helpSwitch]

/-- The name of the program. -/
def programName : String := "decision-maker"

/-- The line with the version. -/
def versionLine : String := programName ++ ", version 1.0.0"

/-- The name of the argument for a request. -/
def requestArgument : String := "REQUEST_FILE"

/-- The name of the argument for a workflow. -/
def workflowArgument : String := "WORKFLOW_FILE"

/-- The commands. -/
inductive Command where
  | decide
  | simulate
  deriving DecidableEq

namespace Command

/-- The name of a command. -/
def name : Command → String
  | decide => "decide"
  | simulate => "simulate"

/-- All commands. -/
def all : List Command := [decide, simulate]

/-- The command of a name. -/
def ofName? (name : String) : Option Command :=
  all.find? (·.name == name)

/-- The switches of a command. -/
def switches : Command → List Switch
  | decide => [helpSwitch]
  | simulate => [explainSwitch, helpSwitch]

/-- The names of a command's documents. -/
def arguments : Command → List String
  | decide => [requestArgument]
  | simulate => [workflowArgument, requestArgument]

/-- The line that shows how to call a command. -/
def usage (c : Command) : String :=
  s!"Usage: {programName} {c.name} [OPTIONS] " ++ " ".intercalate c.arguments

end Command

/-- The line that shows how to call the program. -/
def programUsage : String :=
  s!"Usage: {programName} [OPTIONS] COMMAND [ARGS]..."

/-! ## Running -/

/-- The level of the log: the given one, or that of the settings if none is given. -/
def logLevel (s : Surroundings) (given : Option String) : Except Crash LogLevel :=
  let wanted : Except Crash String :=
    match given.filter (!·.isEmpty) with
    | some name => .ok name
    | none =>
      match Settings.ofEnvironment s.environment with
      | .ok settings => .ok settings.logLevel
      | .error e => .error (.settings e)
  match wanted with
  | .error e => .error e
  | .ok name =>
    match LogLevel.ofName name with
    | .ok level => .ok level
    | .error e => .error (.unknownLevel e)

/-- The outcome for arguments that are left over, or else a run. -/
def withoutExtra (args : List String) (outcome : Outcome) : Outcome :=
  if args.isEmpty then outcome else .misuse (.extraArguments args)

/-- Runs `decide` with its arguments. -/
def runDecide (s : Surroundings) (args : List String) : Outcome :=
  match s.files.takeDocument requestArgument args with
  | .error e => .misuse e
  | .ok (request, rest) => withoutExtra rest (decideRemotely s request)

/-- Runs `simulate` with its arguments. -/
def runSimulate (s : Surroundings) (explained : Bool) (args : List String) : Outcome :=
  match s.files.takeDocument workflowArgument args with
  | .error e => .misuse e
  | .ok (workflow, rest) =>
    match s.files.takeDocument requestArgument rest with
    | .error e => .misuse e
    | .ok (request, rest) =>
      withoutExtra rest (simulate s workflow (request.readAfter workflow) explained)

/-- Runs a command with the arguments after its name. -/
def runCommand (s : Surroundings) (command : Command) (args : List String) : Outcome :=
  match scan command.switches true args with
  | .error e => .misuse e
  | .ok scanned =>
    if scanned.has helpSwitch then .ofLine command.usage
    else
      match command with
      | .decide => runDecide s scanned.rest
      | .simulate => runSimulate s (scanned.has explainSwitch) scanned.rest

/-- The outcome of the first switch that ends the run, if there is one. -/
def shownFirst? (scanned : Scanned) : Option Outcome :=
  scanned.given.findSome? fun (switch, _) =>
    if switch == versionSwitch then some (.ofLine versionLine)
    else if switch == helpSwitch then some (.ofLine programUsage)
    else none

/-- The outcome for a name that is no command.  If it does not start with a letter or digit, it
may be a switch that stands after a double dash, and is taken for one. -/
def runUnknown (name : String) (rest : List String) : Outcome :=
  let close := Text.closeNames (Command.all.map (·.name)) name
  let unknown := Outcome.misuse (.noSuchCommand name close)
  match name.toList with
  | c :: _ =>
    if Text.wordRanges.holds c.toNat then unknown
    else
      match scan programSwitches false (name :: rest) with
      | .error e => .misuse e
      | .ok scanned => (shownFirst? scanned).getD unknown
  | [] => unknown

/-- Runs the program. -/
def run (s : Surroundings) (args : List String) : Outcome :=
  match scan programSwitches false args with
  | .error e => .misuse e
  | .ok scanned =>
    match shownFirst? scanned with
    | some shown => shown
    | none =>
      match scanned.rest with
      | [] => .misuse .missingCommand
      | name :: rest =>
        match Command.ofName? name with
        | none => runUnknown name rest
        | some command =>
          match logLevel s (scanned.value? logLevelSwitch) with
          | .error e => .crash e
          | .ok _ => runCommand s command rest

end BranchChoice.CommandLine
