import ConfigBar.Log.Record
import ConfigBar.Json.Printer
import ConfigBar.Text.Quoted
/-!
# Lines of the log

A record becomes a line of text (`LogRecord.line`), with colours on demand, or a JSON object
(`LogRecord.toJson`). A text is written between quotes or as it is, control characters included.
-/

namespace ConfigBar

/-- How records are written. -/
inductive LogFormat where
  | pretty
  | compact
  | json
  deriving DecidableEq, Repr

namespace LogFormat

/-- The name of a format on the command line. -/
def word : LogFormat → String
  | pretty => "pretty"
  | compact => "compact"
  | json => "json"

/-- The format with a given name. -/
def ofWord? (s : String) : Option LogFormat := [pretty, compact, json].find? fun f => f.word = s

end LogFormat

namespace LogLine

/-- The code that starts a style of a terminal. -/
def styleCode (code : Nat) : String := "\x1b[" ++ toString code ++ "m"

/-- A text in a style of a terminal, if colours are on. -/
def styled (coloured : Bool) (code : Nat) (s : String) : String :=
  if coloured then styleCode code ++ s ++ styleCode 0 else s

/-- The style of a level. -/
def levelStyle : LogLevel → Nat
  | .error => 31
  | .warn => 33
  | .info => 32
  | .debug => 34
  | .trace => 35

/-- The name of a level, aligned to the right in five columns. -/
def levelText (l : LogLevel) : String :=
  String.ofList (List.replicate (5 - l.title.length) ' ') ++ l.title

/-- A value in a line. -/
def valueText : LogValue → String
  | .text s => Text.quoted s
  | .shown s => s
  | .number n => toString n
  | .flag b => toString b

/-- A value in JSON. -/
def valueJson : LogValue → Json
  | .text s => .str s
  | .shown s => .str s
  | .number n => .nat n
  | .flag b => .bool b

end LogLine

namespace LogRecord

open LogLine

/-- A record as a line of text. -/
def line (coloured : Bool) (r : LogRecord) : String :=
  styled coloured (levelStyle r.level) (levelText r.level) ++ " " ++ r.message ++
    String.join (r.values.map fun v =>
      " " ++ styled coloured 3 v.1 ++ styled coloured 2 "=" ++ valueText v.2)

/-- A record in JSON. -/
def toJson (r : LogRecord) : Json :=
  .obj [("level", .str r.level.title),
    ("fields", .obj (("message", .str r.message) :: r.values.map fun v => (v.1, valueJson v.2)))]

end LogRecord

end ConfigBar
