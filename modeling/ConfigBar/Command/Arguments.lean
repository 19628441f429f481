import ConfigBar.Command.Option
import ConfigBar.Log.Filter
import ConfigBar.Log.Line
import ConfigBar.Report.Selection
/-!
# The arguments of the program

The program takes options, the name of a command, and the options of the command. Some options may
stand on both sides of the name; then the one after it counts. `Invocation.read` turns arguments
into a job, or says that they ask for the version or for help, or are wrong.
-/

namespace ConfigBar

open CommandLine (OptionSpec Given Scan scan)

/-- How a report is printed. -/
inductive ReportFormat where
  | table
  | json
  deriving DecidableEq, Repr

/-- What the program is to do. -/
inductive Command where
  | devices
  | themes
  | locales
  | resolve (selection : Selection) (format : ReportFormat)
  deriving DecidableEq, Repr

/-- How the log is kept. -/
structure LogSettings where
  /-- The most that passes. -/
  threshold : Threshold
  /-- Did the user choose the threshold? If not, the environment may give another filter. -/
  isChosen : Bool
  format : LogFormat
  coloured : Bool
  /-- The path of the file to which the log is appended. -/
  file : Option String
  deriving DecidableEq, Repr

/-- What the arguments ask for. -/
structure Job where
  command : Command
  /-- The path of the project file, if it is given. -/
  project : Option String
  log : LogSettings
  deriving DecidableEq, Repr

/-- The meaning of the arguments of the program. -/
inductive Invocation where
  | job (job : Job)
  | version
  | help
  | fault
  deriving DecidableEq, Repr

namespace Invocation

/-! ## Options -/

/-- An option with any value. -/
def textOption (name : String) : OptionSpec := ⟨name, none, .value fun _ => true⟩

/-- An option with a path, which is not empty. -/
def pathOption (name : String) : OptionSpec := ⟨name, none, .value fun v => !v.isEmpty⟩

/-- An option with one of some words. -/
def wordOption (name : String) (words : List String) : OptionSpec :=
  ⟨name, none, .value words.contains⟩

/-- A number of 32 bits after an optional sign. -/
def apiLevel? (s : String) : Option UInt32 :=
  match s.toList with
  | '-' :: cs => if Text.natOfDigits? cs = some 0 then some 0 else none
  | cs => (Text.natOfSigned? cs).bind Text.word32?

/-- The options that may stand on both sides of the command. -/
def sharedOptions : List OptionSpec :=
  [pathOption "project", ⟨"verbose", some 'v', .counted⟩, ⟨"quiet", some 'q', .counted⟩,
    wordOption "color" ["auto", "always", "never"],
    wordOption "log-level" (LogLevel.all.map LogLevel.word),
    wordOption "log-format" ["pretty", "compact", "json"], pathOption "log-file",
    ⟨"help", some 'h', .help⟩]

/-- The options before the command. -/
def programOptions : List OptionSpec := ⟨"version", some 'V', .version⟩ :: sharedOptions

/-- The options of the command that resolves a selection. -/
def resolveOptions : List OptionSpec :=
  sharedOptions ++
    [textOption "device", textOption "config", textOption "locale",
      ⟨"api-level", none, .value fun v => (apiLevel? v).isSome⟩, textOption "theme",
      ⟨"no-clipping", none, .flag⟩, wordOption "format" ["table", "json"]]

/-- The options of a command, by its name. -/
def commandOptions? : String → Option (List OptionSpec)
  | "devices" => some sharedOptions
  | "themes" => some sharedOptions
  | "locales" => some sharedOptions
  | "resolve" => some resolveOptions
  | _ => none

/-! ## Meaning -/

/-- Options for more and for less output exclude each other. -/
def isConsistent (g : Given) : Bool := !(g.has "verbose" && g.has "quiet")

/-- The options that count: those after the command, then those before it that it does not
repeat. -/
def combine (before after : Given) : Given :=
  after ++ before.filter fun e => !after.has e.1

/-- The most steps that count on either side. -/
def stepLimit : Nat := 255

/-- The threshold that is `more` steps above warnings and `less` steps below. -/
def thresholdAfter (more less : Nat) : Threshold :=
  LogLevel.ofRank? (min (2 + min more stepLimit - min less stepLimit) 5)

/-- How the log is kept. -/
def logSettings (g : Given) : LogSettings where
  threshold :=
    match (g.value? "log-level").bind LogLevel.ofWord? with
    | some level => some level
    | none => thresholdAfter (g.count "verbose") (g.count "quiet")
  isChosen := g.has "log-level" || g.has "verbose" || g.has "quiet"
  format := ((g.value? "log-format").bind LogFormat.ofWord?).getD .pretty
  coloured := g.value? "color" = some "always"
  file := g.value? "log-file"

/-- What is to be selected. -/
def selection (g : Given) : Selection where
  device := g.value? "device"
  variant := g.value? "config"
  locale := g.value? "locale"
  theme := g.value? "theme"
  version := (g.value? "api-level").bind apiLevel?
  clipping := if g.has "no-clipping" then some false else none

/-- The command with a name and its options. -/
def command? (g : Given) : String → Option Command
  | "devices" => some .devices
  | "themes" => some .themes
  | "locales" => some .locales
  | "resolve" =>
    some (.resolve (selection g) (if g.value? "format" = some "json" then .json else .table))
  | _ => none

/-- The job of a command and the options on both sides of it. -/
def ofGiven (before : Given) (name : String) (after : Given) : Invocation :=
  let g := combine before after
  if isConsistent before && isConsistent after then
    match command? after name with
    | some command => .job ⟨command, g.value? "project", logSettings g⟩
    | none => .fault
  else .fault

/-- Is there help on what these words name: the program or one of its commands? -/
def isHelpTopic : List String → Bool
  | [] => true
  | [name] => name = "help" || (commandOptions? name).isSome
  | _ => false

/-- Reads the arguments after the name of the command. -/
def readCommand (before : Given) (name : String) (args : List String) : Invocation :=
  match (commandOptions? name).map fun specs => scan specs [] args with
  | some (.finished after) => ofGiven before name after
  | some .help => .help
  | _ => if name = "help" && isHelpTopic args then .help else .fault

/-- Reads the arguments of the program. -/
def read (args : List String) : Invocation :=
  match scan programOptions [] args with
  | .finished _ => .fault
  | .word before name rest => readCommand before name rest
  | .version => .version
  | .help => .help
  | .fault => .fault

end Invocation

end ConfigBar
