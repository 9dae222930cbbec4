import BranchChoice.CommandLine.Program

/-!
# How the commands are called

A line of arguments calls a command if the program finds the command's name after its own switches,
and the command finds nothing but documents among what follows it, and perhaps the switch that asks
for an explanation.  With a level of the log that is known, the run is then that of the command on
the documents.

* `Invokes`: what a line asks for, as the two scans of it say.
* `invokes_files` and `invokes_explained`: lines that call a command, the switch in any place.
* `Supplies`: the documents that a command is given.
* `run_decide` and `run_simulate`: the run of a line that calls a command.
-/

namespace BranchChoice.CommandLine

/-! ## Scans -/

/-- An argument that names a switch, and nothing else. -/
structure IsFlag (switches : List Switch) (switch : Switch) : Prop where
  ends : (switch.name == "--") = false
  dashed : isDashed switch.name = true
  alone : splitAttached switch.name = (switch.name, none)
  known : switches.find? (·.name == switch.name) = some switch

section Scans

variable {switches : List Switch} {switch : Switch} {interspersed : Bool} {arg value : String}
  {rest : List String} {scanned : Scanned}

theorem ne_of_not_dashed (h : isDashed arg = false) : (arg == "--") = false := by
  rw [beq_eq_false_iff_ne]
  rintro rfl
  exact absurd h (by decide)

/-- An argument that is no switch is left where switches may follow it. -/
theorem scan_file (h : isDashed arg = false) (hrest : scan switches true rest = .ok scanned) :
    scan switches true (arg :: rest) = .ok (scanned.withRest arg) := by
  simp [scan, ne_of_not_dashed h, h, hrest, Except.map]

/-- An argument that is no switch ends the scan where none may follow it. -/
theorem scan_stop (h : isDashed arg = false) :
    scan switches false (arg :: rest) = .ok ⟨[], arg :: rest⟩ := by
  simp [scan, ne_of_not_dashed h, h]

/-- Arguments among which there is no switch are all left. -/
theorem scan_files : ∀ {args : List String}, (∀ a ∈ args, isDashed a = false) →
    scan switches true args = .ok ⟨[], args⟩
  | [], _ => rfl
  | _ :: _, h => scan_file (h _ List.mem_cons_self)
      (scan_files fun a ha => h a (List.mem_cons_of_mem _ ha))

/-- A switch without a value is taken out. -/
theorem scan_flag (h : IsFlag switches switch) (hvalue : switch.takesValue = false)
    (hrest : scan switches interspersed rest = .ok scanned) :
    scan switches interspersed (switch.name :: rest) = .ok (scanned.withGiven switch "") := by
  rw [scan]
  simp [h.ends, h.dashed, h.alone, h.known, hvalue, hrest, Except.map]

/-- A switch with a value is taken out together with the argument after it. -/
theorem scan_valued (h : IsFlag switches switch) (hvalue : switch.takesValue = true)
    (hrest : scan switches interspersed rest = .ok scanned) :
    scan switches interspersed (switch.name :: value :: rest) =
      .ok (scanned.withGiven switch value) := by
  rw [scan]
  simp [h.ends, h.dashed, h.alone, h.known, hvalue, hrest, Except.map]

end Scans

/-- A switch without a value is taken out wherever it stands among the documents. -/
theorem scan_flag_among {switches : List Switch} {switch : Switch} (h : IsFlag switches switch)
    (hvalue : switch.takesValue = false) {after : List String}
    (hafter : ∀ a ∈ after, isDashed a = false) :
    ∀ {before : List String}, (∀ a ∈ before, isDashed a = false) →
      scan switches true (before ++ switch.name :: after) =
        .ok ⟨[(switch, "")], before ++ after⟩
  | [], _ => scan_flag h hvalue (scan_files hafter)
  | _ :: _, hbefore => scan_file (hbefore _ List.mem_cons_self)
      (scan_flag_among h hvalue hafter fun a ha => hbefore a (List.mem_cons_of_mem _ ha))

/-! ## Calling a command -/

/-- A line that calls a command: the level of the log that it names, whether it asks for an
explanation, and the paths of the documents. -/
def Invokes (line : List String) (c : Command) (level : Option String) (explained : Bool)
    (paths : List String) : Prop :=
  ∃ before args given,
    scan programSwitches false line = .ok ⟨before, c.name :: args⟩ ∧
    shownFirst? ⟨before, c.name :: args⟩ = none ∧
    Scanned.value? ⟨before, c.name :: args⟩ logLevelSwitch = level ∧
    scan c.switches true args = .ok ⟨given, paths⟩ ∧
    Scanned.has ⟨given, paths⟩ helpSwitch = false ∧
    Scanned.has ⟨given, paths⟩ explainSwitch = explained

theorem not_dashed_name (c : Command) : isDashed c.name = false := by
  cases c <;> decide

theorem ofName?_name (c : Command) : Command.ofName? c.name = some c := by
  cases c <;> decide

/-- The arguments that name a level of the log, if one is named. -/
def levelArguments : Option String → List String
  | some level => [logLevelSwitch.name, level]
  | none => []

/-- What the program makes of its own arguments before the name of a command. -/
theorem scan_level (level : Option String) (c : Command) (args : List String) :
    ∃ before, scan programSwitches false (levelArguments level ++ c.name :: args) =
        .ok ⟨before, c.name :: args⟩ ∧
      shownFirst? ⟨before, c.name :: args⟩ = none ∧
      Scanned.value? ⟨before, c.name :: args⟩ logLevelSwitch = level := by
  have hstop : scan programSwitches false (c.name :: args) = .ok ⟨[], c.name :: args⟩ :=
    scan_stop (not_dashed_name c)
  cases level with
  | none => exact ⟨[], hstop, rfl, rfl⟩
  | some level =>
    have hflag : IsFlag programSwitches logLevelSwitch := by constructor <;> decide
    exact ⟨_, scan_valued hflag rfl hstop, rfl, rfl⟩

/-- A level, the name of a command, and documents call the command. -/
theorem invokes_files (level : Option String) (c : Command) {paths : List String}
    (h : ∀ path ∈ paths, isDashed path = false) :
    Invokes (levelArguments level ++ c.name :: paths) c level false paths := by
  obtain ⟨before, hscan, hshown, hlevel⟩ := scan_level level c paths
  exact ⟨before, paths, [], hscan, hshown, hlevel, scan_files h, rfl, rfl⟩

/-- The switch for an explanation may stand anywhere among the documents. -/
theorem invokes_explained (level : Option String) {before after : List String}
    (hbefore : ∀ path ∈ before, isDashed path = false)
    (hafter : ∀ path ∈ after, isDashed path = false) :
    Invokes (levelArguments level ++
        Command.simulate.name :: (before ++ explainSwitch.name :: after))
      .simulate level true (before ++ after) := by
  obtain ⟨given, hscan, hshown, hlevel⟩ :=
    scan_level level .simulate (before ++ explainSwitch.name :: after)
  have hflag : IsFlag Command.simulate.switches explainSwitch := by constructor <;> decide
  exact ⟨given, _, _, hscan, hshown, hlevel, scan_flag_among hflag rfl hafter hbefore, rfl, rfl⟩

/-- A level that is named needs no settings. -/
theorem logLevel_of_ofName {s : Surroundings} {name : String} {l : LogLevel} (hname : name ≠ "")
    (h : LogLevel.ofName name = .ok l) : logLevel s (some name) = .ok l := by
  have hkept : (some name).filter (!·.isEmpty) = some name := by
    simp [Option.filter, hname]
  simp only [logLevel, hkept, h]

/-- The run of a line that calls a command is that of the command. -/
theorem exists_run_of_invokes {s : Surroundings} {line : List String} {c : Command}
    {level : Option String} {explained : Bool} {paths : List String} {l : LogLevel}
    (h : Invokes line c level explained paths) (hlevel : logLevel s level = .ok l) :
    ∃ given, Scanned.has ⟨given, paths⟩ helpSwitch = false ∧
      Scanned.has ⟨given, paths⟩ explainSwitch = explained ∧
      ∃ args, scan c.switches true args = .ok ⟨given, paths⟩ ∧ run s line = runCommand s c args := by
  obtain ⟨before, args, given, hprogram, hshown, hvalue, hcommand, hhelp, hexplain⟩ := h
  refine ⟨given, hhelp, hexplain, args, hcommand, ?_⟩
  simp only [run, hprogram, hshown, ofName?_name, hvalue, hlevel]

section Runs

variable {s : Surroundings} {line : List String} {level : Option String} {explained : Bool}
  {l : LogLevel}

theorem takeDocument_of_document {files : Files} {argument path : String} {rest : List String}
    {d : Document} (h : files.document (.ofArgument path) = .ok d) :
    files.takeDocument argument (path :: rest) = .ok (d, rest) := by
  rw [Files.takeDocument, h]

/-- The run of a line that calls `simulate`. -/
theorem run_simulate {workflowPath requestPath : String} {workflow request : Document}
    (h : Invokes line .simulate level explained [workflowPath, requestPath])
    (hlevel : logLevel s level = .ok l)
    (hworkflow : s.files.document (.ofArgument workflowPath) = .ok workflow)
    (hrequest : s.files.document (.ofArgument requestPath) = .ok request) :
    run s line = simulate s workflow (request.readAfter workflow) explained := by
  obtain ⟨given, hhelp, hexplain, args, hscan, hrun⟩ := exists_run_of_invokes h hlevel
  simp [hrun, runCommand, hscan, hhelp, hexplain, runSimulate, takeDocument_of_document hworkflow,
    takeDocument_of_document hrequest, withoutExtra]

end Runs

/-! ## What a command is given -/

/-- A path other than a single dash names the file there. -/
theorem document_of_openFile {files : Files} {path text : String} (hpath : path ≠ "-")
    (h : files.openFile path = .ok text) :
    files.document (.ofArgument path) = .ok (.ofText (.file path) text) := by
  simp [Source.ofArgument, hpath, Files.document, h, Except.map]

/-- The documents that a command is given by their paths: the request, and the workflow before it if
the command is to simulate.  The remote stores are found by the settings, which must be there. -/
inductive Supplies (s : Surroundings) :
    Command → List String → Option Document → Document → Prop where
  | decide {path : String} {request : Document} {settings : Settings}
      (hsettings : Settings.ofEnvironment s.environment = .ok settings)
      (hrequest : s.files.document (.ofArgument path) = .ok request) :
      Supplies s .decide [path] none request
  | simulate {workflowPath requestPath : String} {workflow request : Document}
      (hworkflow : s.files.document (.ofArgument workflowPath) = .ok workflow)
      (hrequest : s.files.document (.ofArgument requestPath) = .ok request) :
      Supplies s .simulate [workflowPath, requestPath] (some workflow)
        (request.readAfter workflow)

/-- Only the standard input is used up by what is read before it. -/
theorem readAfter_file (path text : String) (earlier : Document) :
    (Document.ofText (.file path) text).readAfter earlier = .ofText (.file path) text := by
  simp [Document.readAfter, Document.ofText]

/-- Two files are a workflow and a request to simulate. -/
theorem supplies_files {s : Surroundings} {workflowPath requestPath workflow request : String}
    (hworkflowPath : workflowPath ≠ "-") (hrequestPath : requestPath ≠ "-")
    (hworkflow : s.files.openFile workflowPath = .ok workflow)
    (hrequest : s.files.openFile requestPath = .ok request) :
    Supplies s .simulate [workflowPath, requestPath]
      (some (.ofText (.file workflowPath) workflow)) (.ofText (.file requestPath) request) := by
  have h := Supplies.simulate (document_of_openFile hworkflowPath hworkflow)
    (document_of_openFile hrequestPath hrequest)
  rwa [readAfter_file] at h

end BranchChoice.CommandLine
