import ConfigBar.Theme.Chain
import ConfigBar.Order.Sorting
/-!
# The list of themes

The themes to choose from: those of the framework, those of the project, and a separator between
the two blocks if neither is empty. Each block is sorted by name.
-/

namespace ConfigBar

/-- The label of the entry between the framework themes and the project themes. -/
def themeSeparator : String := "----------"

/-- An entry of the list of themes. -/
inductive ThemeEntry where
  | framework (name : String)
  | separator
  | project (name : String)
  deriving DecidableEq, Repr

namespace ThemeEntry

/-- The text that is shown for an entry. -/
def label : ThemeEntry → String
  | framework name => name
  | separator => themeSeparator
  | project name => name

/-- Is the entry the separator? -/
def isSeparator : ThemeEntry → Bool
  | separator => true
  | _ => false

end ThemeEntry

/-- The themes of the framework and of the project, by name. -/
structure ThemeList where
  framework : List String
  project : List String
  deriving DecidableEq, Repr

/-- The names of the framework themes, in order. -/
def frameworkThemes (styles : ResourceMap) : List String :=
  Sorting.sort ((styles.values.map ResourceValue.name).filter isFrameworkThemeName)

/-- The names of the project themes, in order. -/
def projectThemes (styles : ResourceMap) : List String :=
  Sorting.sort ((styles.values.filter (ResourceMap.isTheme styles)).map ResourceValue.name)

namespace ThemeList

/-- The list without themes. -/
def empty : ThemeList := ⟨[], []⟩

instance : EmptyCollection ThemeList := ⟨empty⟩

/-- The list of the given names. -/
def ofNames (framework project : List String) : ThemeList :=
  ⟨Sorting.sort framework, Sorting.sort project⟩

/-- The list of the themes among the given styles; an absent map has none. -/
def ofStyles (framework project : Option ResourceMap) : ThemeList :=
  ofNames (framework.elim [] frameworkThemes) (project.elim [] projectThemes)

/-- The separator, if both blocks have themes. -/
def separators (l : ThemeList) : List ThemeEntry :=
  if l.framework.isEmpty || l.project.isEmpty then [] else [.separator]

/-- The entries in order. -/
def entries (l : ThemeList) : List ThemeEntry :=
  l.framework.map .framework ++ l.separators ++ l.project.map .project

/-- The number of entries. -/
def size (l : ThemeList) : Nat := l.entries.length

/-- The number of framework themes. -/
def frameworkCount (l : ThemeList) : Nat := l.framework.length

/-- The number of project themes. -/
def projectCount (l : ThemeList) : Nat := l.project.length

/-- Are there no entries? -/
def isEmpty (l : ThemeList) : Bool := l.entries.isEmpty

/-- The entry at an index. -/
def get? (l : ThemeList) (i : Nat) : Option ThemeEntry := l.entries[i]?

/-- The labels of the entries. -/
def labels (l : ThemeList) : List String := l.entries.map ThemeEntry.label

/-- The index of the theme with a name. The separator is never found. -/
def position? (l : ThemeList) (name : String) : Option Nat :=
  l.entries.findIdx? fun e => !e.isSeparator && e.label == name

/-- Everything from the end of the framework block on belongs to the project. -/
def isProjectTheme (l : ThemeList) (i : Nat) : Bool := l.framework.length ≤ i

/-- The selection after the list has changed, by the selection before: it stays if it is an entry
other than the separator, else the first entry is selected. An empty list has no selection. -/
def restore (l : ThemeList) (previous : Option Nat) : Option Nat :=
  if l.isEmpty then none
  else
    match previous with
    | none => some 0
    | some i =>
      match l.get? i with
      | some e => if e.isSeparator then some 0 else some i
      | none => some 0

end ThemeList

end ConfigBar
