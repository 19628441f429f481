import ConfigBar.Command.Arguments
import ConfigBar.Command.Listing
import ConfigBar.Narration.Controller
import ConfigBar.Narration.Project
/-!
# Running the program

A run is told what came of opening the file of the log and of reading the project file, and says
what is to be written: the output, the lines of the log, the error, and the exit code. Whoever
drives the run does the reading and the writing.
-/

namespace ConfigBar

/-- What a command does. -/
structure Performance where
  /-- What is printed. -/
  output : String
  /-- What is told to the log. -/
  records : List LogRecord
  /-- Why the command fails, if it does. -/
  error : Option String

namespace Command

/-- Takes over a project and prints what is made of the controller. -/
def withController (s : ProjectSnapshot) (listing : Controller → TextTable) : Performance :=
  let records := (Controller.initial false []).narrate (.start s.provider)
  match Controller.ofProvider s.provider with
  | .ok c => ⟨(listing c).text, records, none⟩
  | .error fault => ⟨"", records, some fault.message⟩

/-- What the requests for a selection tell the log. -/
def narrateSelection (p : Provider) (s : Selection) : List LogRecord :=
  (Controller.initial false []).narrate (.start p) ++
    match Controller.ofProvider p with
    | .ok c => (c.trail s.choices).flatMap fun step => step.1.narrate step.2
    | .error _ => []

/-- What a report tells the log. -/
def narrateReport (r : Report) : List LogRecord :=
  [⟨.debug, "layoutcfg_cli::report", "configuration resolved",
      [("configuration", .shown (Text.quotedOption r.configuration))]⟩,
    ⟨.info, "layoutcfg::commands", "resolved",
      [("device", .shown (Text.quotedOption r.device)),
        ("config", .shown (Text.quotedOption r.variant))]⟩]

/-- A report in a format. -/
def reportText (r : Report) : ReportFormat → String
  | .table => Listing.report r
  | .json => r.toJson.pretty ++ "\n"

/-- Performs a command on a project. -/
def perform (s : ProjectSnapshot) : Command → Performance
  | devices => ⟨(Listing.devices s.devices).text, [], none⟩
  | themes => withController s fun c => Listing.themes c.themes
  | locales => withController s fun c => Listing.locales c.locales
  | resolve selection format =>
    let records := narrateSelection s.provider selection
    match Report.resolve s.provider selection with
    | .ok r => ⟨reportText r format, records ++ narrateReport r, none⟩
    | .error fault => ⟨"", records, some fault.message⟩

end Command

/-- What the program is told by its environment. -/
structure Environment where
  /-- The value of the variable that names the project file. -/
  project : Option String
  /-- The value of the variable that holds a filter of the log. -/
  logFilter : Option String
  deriving DecidableEq, Repr

/-- An entry of the log: a line of text or a JSON object. -/
inductive LogEntry where
  | line (text : String)
  | object (value : Json)

/-- What a run leaves behind. -/
structure Session where
  exitCode : Nat
  output : String
  log : List LogEntry
  /-- The file to which the log is appended; without one it goes where the error goes. -/
  logFile : Option String
  error : Option String

/-- The text of an error with that of the error behind it. -/
def ProjectError.chain (e : ProjectError) : String :=
  e.message ++ (e.cause?.elim "" fun cause => ": " ++ cause)

namespace Job

/-- The path of the project file. -/
def projectPath (j : Job) (env : Environment) : String :=
  j.project.getD (defaultProjectPath env.project)

/-- The filter of the log. -/
def filter (j : Job) (env : Environment) : LogFilter :=
  let own := LogFilter.ofThreshold j.log.threshold
  if j.log.isChosen then own else (env.logFilter.bind LogFilter.parse?).getD own

/-- A record in the format of the log. -/
def entry (j : Job) (r : LogRecord) : LogEntry :=
  match j.log.format with
  | .json => .object r.toJson
  | _ => .line (r.line j.log.coloured)

/-- Loads the project from what reading its file gave, and performs the command. -/
def perform (j : Job) (path : String) (content : Except FileError String) : Performance :=
  let told := ProjectSnapshot.narrateLoad path content
  match ProjectSnapshot.load path content with
  | .error e => ⟨"", told, some ("load project " ++ path ++ ": " ++ e.chain)⟩
  | .ok s =>
    let done := j.command.perform s
    { done with records := told ++ done.records }

/-- Runs the program from what opening the file of the log and reading the project file gave. -/
def run (j : Job) (env : Environment) (opened : Except FileError Unit)
    (content : Except FileError String) : Session :=
  match opened with
  | .error e => ⟨1, "", [], none, some ("failed to initialize logging: " ++ e.message)⟩
  | .ok _ =>
    let done := j.perform (j.projectPath env) content
    let log := (done.records.filter (j.filter env).passes).map j.entry
    ⟨if done.error.isSome then 1 else 0, done.output, log, j.log.file, done.error⟩

end Job

/-- What is printed for the version. -/
def versionText : String := "layoutcfg 0.1.0\n"

/-- The exit code for wrong arguments. -/
def usageExitCode : Nat := 2

end ConfigBar
