import BranchChoice.CommandLine.Markup
import BranchChoice.CommandLine.Program
import Std.Time.DateTime.Timestamp

/-!
# The executable

Collects the surroundings of a run, makes it, and prints what comes of it on a console that reads
texts for tags.  There is no connection to remote stores here, so every request to one fails.
-/

namespace BranchChoice.CommandLine

/-- The variables of the environment that settings are taken from. -/
def variableNames : List String :=
  ["SUPABASE_URL", "SUPABASE_ANON_KEY", "BRANCHES_TABLE", "DECISION_LOGS_TABLE", "ACTIONS_TABLE",
    "LOG_LEVEL", "REQUEST_TIMEOUT"]

/-- Reads the variables that are set. -/
def readEnvironment : IO Environment := do
  let values ← variableNames.mapM fun name => do return (name, ← IO.getEnv name)
  return values.filterMap fun (name, value) => value.map (name, ·)

/-- Why a file cannot be opened. -/
def openingError : IO.Error → String
  | .noFileOrDirectory _ _ _ => "No such file or directory"
  | .permissionDenied _ _ _ => "Permission denied"
  | .inappropriateType _ _ _ => "Is a directory"
  | e => toString e

/-- Reads a file, or tells why it cannot be opened. -/
def readFile (path : String) : IO (Except String String) := do
  try return .ok (← IO.FS.readFile path)
  catch e => return .error (openingError e)

/-- Reads what is left of a stream. -/
partial def readStream (stream : IO.FS.Stream) (before : String) : IO String := do
  let line ← stream.getLine
  if line.isEmpty then return before else readStream stream (before ++ line)

/-- Reads the files that the arguments may name, and the standard input if one of them asks for
it. -/
def readFiles (args : List String) : IO Files := do
  let contents ← args.mapM fun arg => do return (arg, ← readFile arg)
  let input ← if args.contains "-" then readStream (← IO.getStdin) "" else pure ""
  return ⟨fun path => (contents.lookup path).getD (.error "No such file or directory"), input⟩

/-- The days from the start of the calendar to the first day of 1970. -/
def epochDay : Nat := Calendar.dayNumber 1970 1 1

/-- Reads the clock. -/
def readClock : IO ClockReading := do
  let now ← Std.Time.Timestamp.now
  let micros := now.toNanosecondsSinceUnixEpoch.val / 1000
  return .ofInstant (micros + (epochDay * Calendar.microsPerDay : Nat)).toNat

/-- Reads the stopwatch, in seconds. -/
def readStopwatch : IO Binary64 := do
  return .fraction (← IO.monoNanosNow) 1000000000

/-- Prints what comes of a run, and gives the exit code. -/
def Outcome.report (o : Outcome) : IO UInt32 := do
  for piece in o.printed do
    for line in piece.lines do
      IO.println line
  match o.ending with
  | .misused e => IO.eprintln ("Error: " ++ e.message)
  | .crashed e => IO.eprintln e.message
  | _ => pure ()
  return UInt32.ofNat (o.ending.code?.getD 1)

/-- Runs the program with the arguments.  A decision cannot look at the stopwatch itself, so it is
made once to be timed. -/
def runMain (args : List String) : IO UInt32 := do
  let environment ← readEnvironment
  let files ← readFiles args
  let clock ← readClock
  let started ← readStopwatch
  let surroundings : Surroundings := ⟨environment, files, [], ⟨.ok clock, started, started⟩⟩
  let rehearsed := run surroundings args
  if rehearsed.printed.isEmpty then (rehearsed.on .tags).report
  else
    let selected ← readStopwatch
    let timed := { surroundings with readings := ⟨.ok clock, started, selected⟩ }
    ((run timed args).on .tags).report

end BranchChoice.CommandLine

/-- The entry point. -/
def main (args : List String) : IO UInt32 :=
  BranchChoice.CommandLine.runMain args
