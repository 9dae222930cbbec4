import BranchChoice.Row.Record
import BranchChoice.Text.Quoted

/-!
# Settings

Where the stores are and how they are spoken to, taken from a row or from the environment.  What has
been taken from the environment once is kept.
-/

namespace BranchChoice

/-- The settings. -/
structure Settings where
  baseUrl : Option String
  key : Option String
  branchesTable : String
  logsTable : String
  actionsTable : String
  logLevel : String
  timeout : Binary64

namespace Settings

/-- The name of this kind of row. -/
def kind : String := "Settings"

/-- The default table of branches. -/
def defaultBranchesTable : String := "decision_branches"

/-- The default table of log entries. -/
def defaultLogsTable : String := "decision_logs"

/-- The default table of actions. -/
def defaultActionsTable : String := "workflow_actions"

/-- The default level of the log. -/
def defaultLogLevel : String := "INFO"

/-- The default timeout as a text. -/
def defaultTimeout : String := "30"

/-- The settings that a row describes. -/
def check (v : Json) : Checked Settings :=
  v.checkRow fun row => Settings.mk
    <$> row.optional "supabase_url" none (Coercion.orNull Coercion.text)
    <*> row.optional "supabase_anon_key" none (Coercion.orNull Coercion.text)
    <*> row.optional "branches_table" defaultBranchesTable Coercion.text
    <*> row.optional "decision_logs_table" defaultLogsTable Coercion.text
    <*> row.optional "actions_table" defaultActionsTable Coercion.text
    <*> row.optional "log_level" defaultLogLevel Coercion.text
    <*> row.optional "request_timeout" (.ofInt 30) Coercion.positive

/-- The settings that a row describes, or why it describes none. -/
def read (v : Json) : Except Rejection Settings :=
  (check v).orReject kind

/-- The settings as a row. -/
def toJson (s : Settings) : Json :=
  .object [
    ("supabase_url", .ofText? s.baseUrl),
    ("supabase_anon_key", .ofText? s.key),
    ("branches_table", .text s.branchesTable),
    ("decision_logs_table", .text s.logsTable),
    ("actions_table", .text s.actionsTable),
    ("log_level", .text s.logLevel),
    ("request_timeout", .float s.timeout)]

end Settings

/-! ## The environment -/

/-- The variables of an environment. -/
abbrev Environment := List (String × String)

/-- Why an environment gives no settings. -/
inductive SettingsError where
  | timeout (text : String)
  | rejected (r : Rejection)

/-- The wording of an error. -/
def SettingsError.message : SettingsError → String
  | timeout text => "could not convert string to float: " ++ Text.quoted text
  | rejected r => r.message

namespace Settings

/-- The settings that an environment gives.  The timeout must be a number before anything else is
checked. -/
def ofEnvironment (env : Environment) : Except SettingsError Settings :=
  let value? (name : String) : Option String := env.lookup name
  let timeout := (value? "REQUEST_TIMEOUT").getD defaultTimeout
  match Numeral.read? timeout with
  | none => .error (.timeout timeout)
  | some seconds =>
    let row : Json := .object [
      ("supabase_url", .ofText? (value? "SUPABASE_URL")),
      ("supabase_anon_key", .ofText? (value? "SUPABASE_ANON_KEY")),
      ("branches_table", .text ((value? "BRANCHES_TABLE").getD defaultBranchesTable)),
      ("decision_logs_table", .text ((value? "DECISION_LOGS_TABLE").getD defaultLogsTable)),
      ("actions_table", .text ((value? "ACTIONS_TABLE").getD defaultActionsTable)),
      ("log_level", .text ((value? "LOG_LEVEL").getD defaultLogLevel)),
      ("request_timeout", .float seconds)]
    match read row with
    | .ok s => .ok s
    | .error r => .error (.rejected r)

end Settings

/-- The settings that have been taken from the environment, once they have been. -/
abbrev KeptSettings := Option Settings

/-- The kept settings, or those of the environment, which are kept from then on. -/
def KeptSettings.get (kept : KeptSettings) (env : Environment) :
    Except SettingsError (Settings × KeptSettings) :=
  match kept with
  | some s => .ok (s, kept)
  | none => (Settings.ofEnvironment env).map fun s => (s, some s)

end BranchChoice
