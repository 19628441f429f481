import ConfigBar.Log.Record
import ConfigBar.Theme.List
/-!
# What the list of themes tells the log

A chain of parents that runs into a cycle is worth a warning; one that ends at a parent that is not
there is noted. The chains of all project styles are followed, in the order of their keys.
-/

namespace ConfigBar

/-- What the end of a chain tells. -/
def ChainEnd.narrate : ChainEnd → List LogRecord
  | missing style parent =>
    [⟨.debug, "layoutcfg_core::themes", "parent style not found",
      [("style", .text style), ("parent", .shown parent)]⟩]
  | cycle style parent =>
    [⟨.warn, "layoutcfg_core::themes", "style parent cycle",
      [("style", .text style), ("parent", .shown parent)]⟩]
  | _ => []

/-- What making the list of themes tells. -/
def ThemeList.narrate (framework project : Option ResourceMap) : List LogRecord :=
  (project.elim [] fun styles =>
    styles.values.flatMap fun v => (styles.chain v).ending.narrate) ++
  [⟨.debug, "layoutcfg_core::themes", "theme list rebuilt",
    [("framework", .number (framework.elim [] frameworkThemes).length),
      ("project", .number (project.elim [] projectThemes).length)]⟩]

end ConfigBar
