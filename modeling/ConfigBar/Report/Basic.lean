import ConfigBar.Report.Selection
import ConfigBar.Json.Number
/-!
# Reports

A report says how a layout would be rendered: the selected device and variant, the effective
configuration, and what follows from it. `Report.resolve` makes one for a selection; it is written
as plain text (`Report.text`) or as JSON (`Report.toJson`).
-/

namespace ConfigBar

open ConfigBar.Number (Single)

/-- What a controller shows. -/
structure Report where
  device : Option String
  variant : Option String
  /-- The folder name of the effective configuration. -/
  configuration : Option String
  qualifiers : List Qualifier
  density : Density
  xdpi : Single
  ydpi : Single
  bounds : Bounds
  theme : Option String
  isProjectTheme : Bool
  /-- The label of the selected locale. -/
  locale : Option String
  clipping : Bool
  deriving DecidableEq, Repr

namespace Report

/-- The report of what a controller shows. -/
def ofController (c : Controller) : Report where
  device := c.resolver.device?.map Device.name
  variant := c.resolver.variant?
  configuration := c.resolver.current.folder?
  qualifiers := c.resolver.current.toList
  density := c.resolver.density
  xdpi := c.resolver.xdpi
  ydpi := c.resolver.ydpi
  bounds := c.resolver.bounds
  theme := c.theme?
  isProjectTheme := c.theme?.isSome && c.isProjectTheme
  locale := (c.localeIndex.bind c.locales.get?).map LocaleEntry.label
  clipping := c.clipping

/-- The report of a selection from the resources of a provider. -/
def resolve (p : Provider) (s : Selection) : Except SelectionFault Report :=
  (Controller.select p s).map ofController

/-- A text that may be missing, with a dash for nothing. -/
def orDash (s : Option String) : String := s.getD "-"

/-- The label of the configuration. -/
def configurationLabel (r : Report) : String := r.configuration.getD defaultLabel

/-- The dots per inch in both directions. -/
def dpiText (r : Report) : String := r.xdpi.plainText ++ " x " ++ r.ydpi.plainText

/-- The width and the height of the screen. -/
def screenText (r : Report) : String :=
  toString r.bounds.width.toNat ++ " x " ++ toString r.bounds.height.toNat

/-- The theme and its owner. -/
def themeText (r : Report) : String :=
  orDash r.theme ++ if r.isProjectTheme then " (project)" else ""

/-- Whether the layout is clipped. -/
def clippingText (r : Report) : String := if r.clipping then "on" else "off"

/-- The lines of the plain text. -/
def lines (r : Report) : List String :=
  ["device: " ++ orDash r.device, "config: " ++ orDash r.variant,
    "configuration: " ++ r.configurationLabel, "qualifiers:"] ++
  r.qualifiers.map (fun q => "  " ++ q.kind.label ++ ": " ++ q.segment) ++
  ["density: " ++ Spelling.segment r.density, "dpi: " ++ r.dpiText, "screen: " ++ r.screenText,
    "theme: " ++ r.themeText, "locale: " ++ orDash r.locale, "clipping: " ++ r.clippingText]

/-- The plain text, in which every line ends with a line feed. -/
def text (r : Report) : String := String.join (r.lines.map (· ++ "\n"))

/-- The report in JSON. -/
def toJson (r : Report) : Json :=
  .obj [("device", .opt .str r.device), ("config", .opt .str r.variant),
    ("configuration", .opt .str r.configuration),
    ("qualifiers", .array (r.qualifiers.map fun q =>
      .obj [("kind", .str q.kind.label), ("value", .str q.segment)])),
    ("density", .str (Spelling.segment r.density)), ("xdpi", Json.ofSingle r.xdpi),
    ("ydpi", Json.ofSingle r.ydpi), ("width", .nat r.bounds.width.toNat),
    ("height", .nat r.bounds.height.toNat), ("theme", .opt .str r.theme),
    ("project_theme", .bool r.isProjectTheme), ("locale", .opt .str r.locale),
    ("clipping", .bool r.clipping)]

end Report

end ConfigBar
