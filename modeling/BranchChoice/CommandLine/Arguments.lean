import BranchChoice.Row.Checked
import BranchChoice.Text.Quoted
import BranchChoice.Text.Similarity

/-!
# Arguments

How a list of arguments is taken apart: switches, of which some take a value, and what is left.
Before a command's name the switches end with the first other argument; after it they may stand
anywhere.  A double dash ends them in any case.
-/

namespace BranchChoice.CommandLine

/-! ## Misuse -/

/-- What is wrong with how the program was called. -/
inductive UsageError where
  | noSuchOption (name : String) (close : List String)
  | noValueAllowed (option : String)
  | valueRequired (option : String)
  | missingCommand
  | noSuchCommand (name : String) (close : List String)
  | missingArgument (argument : String)
  | unreadable (argument path reason : String)
  | extraArguments (arguments : List String)
  | malformedDocument (file reason : String)
  | invalidWorkflow (file : String) (rejection : Rejection)

/-- What to add about the names that a misspelt one is close to. -/
def suggestion : List String → String
  | [] => ""
  | [name] => s!" Did you mean {Text.quoted name}?"
  | names => " (Possible options: " ++ ", ".intercalate (names.map Text.quoted) ++ ")"

/-- The wording of an error. -/
def UsageError.message : UsageError → String
  | noSuchOption name close => s!"No such option {Text.quoted name}." ++ suggestion close
  | noValueAllowed option => s!"Option {Text.quoted option} does not take a value."
  | valueRequired option => s!"Option {Text.quoted option} requires an argument."
  | missingCommand => "Missing command."
  | noSuchCommand name close => s!"No such command {Text.quoted name}." ++ suggestion close
  | missingArgument argument => s!"Missing argument '{argument}'."
  | unreadable argument path reason => s!"Invalid value for '{argument}': '{path}': {reason}"
  | extraArguments [one] => s!"Got unexpected extra argument ({one})"
  | extraArguments several =>
    "Got unexpected extra arguments (" ++ " ".intercalate several ++ ")"
  | malformedDocument file reason => s!"Invalid value: {file}: invalid JSON ({reason})"
  | invalidWorkflow file rejection =>
    s!"Invalid value: {file}: invalid workflow ({rejection.message})"

/-! ## Switches -/

/-- A switch, and whether it takes a value. -/
structure Switch where
  name : String
  takesValue : Bool
  deriving DecidableEq

/-- Arguments taken apart: the switches with their values in the order in which they were given, and
all else. -/
structure Scanned where
  given : List (Switch × String)
  rest : List String

namespace Scanned

/-- The last value given for a switch. -/
def value? (s : Scanned) (switch : Switch) : Option String :=
  s.given.reverse.lookup switch

/-- The same with a switch given before all others. -/
def withGiven (s : Scanned) (switch : Switch) (value : String) : Scanned :=
  { s with given := (switch, value) :: s.given }

/-- The same with an argument before all others that are left. -/
def withRest (s : Scanned) (arg : String) : Scanned :=
  { s with rest := arg :: s.rest }

/-- Whether a switch was given. -/
def has (s : Scanned) (switch : Switch) : Bool :=
  (s.value? switch).isSome

end Scanned

/-- Whether an argument is a switch and not a file: it starts with a dash and goes on. -/
def isDashed (arg : String) : Bool :=
  match arg.toList with
  | '-' :: _ :: _ => true
  | _ => false

/-- An argument as a name and the value attached to it after an equals sign. -/
def splitAttached (arg : String) : String × Option String :=
  let chars := arg.toList
  let name := String.ofList (chars.takeWhile (· != '='))
  match chars.dropWhile (· != '=') with
  | [] => (name, none)
  | _ :: value => (name, some (String.ofList value))

/-- The error for a dashed argument that names no switch.  After a single dash every letter would
be a switch of its own, and the first one is none. -/
def unknownSwitch (switches : List Switch) (arg : String) : UsageError :=
  match arg.toList with
  | '-' :: '-' :: _ =>
    let name := (splitAttached arg).1
    .noSuchOption name (Text.closeNames (switches.map (·.name)) name)
  | dash :: letter :: _ => .noSuchOption (String.ofList [dash, letter]) []
  | _ => .noSuchOption arg []

/-- Takes arguments apart.  With `interspersed` the switches may stand after other arguments. -/
def scan (switches : List Switch) (interspersed : Bool) :
    List String → Except UsageError Scanned
  | [] => .ok ⟨[], []⟩
  | arg :: rest =>
    if arg == "--" then .ok ⟨[], rest⟩
    else if isDashed arg then
      let (name, attached) := splitAttached arg
      match switches.find? (·.name == name), attached with
      | none, _ => .error (unknownSwitch switches arg)
      | some switch, some value =>
        if switch.takesValue then
          (scan switches interspersed rest).map (·.withGiven switch value)
        else .error (.noValueAllowed name)
      | some switch, none =>
        if switch.takesValue then
          match rest with
          | [] => .error (.valueRequired name)
          | value :: rest => (scan switches interspersed rest).map (·.withGiven switch value)
        else (scan switches interspersed rest).map (·.withGiven switch "")
    else if interspersed then (scan switches interspersed rest).map (·.withRest arg)
    else .ok ⟨[], arg :: rest⟩

end BranchChoice.CommandLine
