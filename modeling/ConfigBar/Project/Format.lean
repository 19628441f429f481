import ConfigBar.Project.File
import ConfigBar.Json.Parser
import ConfigBar.Toml.Parser
import ConfigBar.Text.Pieces
/-!
# Formats of project files

A project file is written in TOML or in JSON; the extension of its path says in which.
-/

namespace ConfigBar

/-- A format of project files. -/
inductive ProjectFormat where
  | toml
  | json
  deriving DecidableEq, Repr

namespace ProjectFormat

/-- The name of a format. -/
def name : ProjectFormat → String
  | toml => "toml"
  | json => "json"

/-- The format with a given name. -/
def ofName? (s : String) : Option ProjectFormat := [toml, json].find? fun f => f.name == s

/-- The name of a format in error messages. -/
def title : ProjectFormat → String
  | toml => "TOML"
  | json => "JSON"

/-- The last part of a path that is more than a point. There is none if it leads upward. -/
def fileName? (path : List Char) : Option (List Char) :=
  (((Text.pieces '/' path).filter fun p => p ≠ [] ∧ p ≠ ['.']).getLast?).filter (· ≠ ['.', '.'])

/-- The part of a file name after its last point, unless the point comes first. -/
def extension? (name : List Char) : Option (List Char) :=
  match Text.beforeLast? '.' name with
  | some (c :: front) => some (name.drop ((c :: front).length + 1))
  | _ => none

/-- The format of the file at a path, by its extension, whatever the case of its ASCII letters. -/
def ofPath? (path : String) : Option ProjectFormat :=
  ((fileName? path.toList).bind extension?).bind fun ext =>
    ofName? (String.ofList (ext.map Char.toLower))

end ProjectFormat

/-- Reads the text of a project file. -/
def ProjectFile.parse? : ProjectFormat → String → Option ProjectFile
  | .json, text => ((Json.parse? text).bind Document.ofJson?).bind (ofDocument? false)
  | .toml, text =>
    ((Toml.parse? text).bind Toml.entries?).bind fun es =>
      ofDocument? true (.table (Document.ofEntries es))

end ConfigBar
