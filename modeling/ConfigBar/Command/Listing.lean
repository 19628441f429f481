import ConfigBar.Report.Basic
import ConfigBar.Text.Table
/-!
# Listings

The tables that the commands print. A dash stands for what is missing.
-/

namespace ConfigBar.Listing

open ConfigBar.Number (Single)
open ConfigBar.Report (orDash)

/-- A column of texts. -/
def leftColumn (title : String) : Column := ⟨title, false⟩

/-- A column of numbers. -/
def rightColumn (title : String) : Column := ⟨title, true⟩

/-- A number that may be missing. -/
def dpiCell (x : Option Single) : String := orDash (x.map Single.plainText)

/-- The rows of a device, one for each variant. Only the first one names the device. -/
def deviceRows (d : Device) : List (List String) :=
  d.variants.zipIdx.map fun (v, i) =>
    let qualifiers := v.qualifiers.folder?.getD defaultLabel
    if i = 0 then [d.name, v.name, qualifiers, dpiCell d.finiteXdpi, dpiCell d.finiteYdpi]
    else ["", v.name, qualifiers, "", ""]

/-- The devices with their variants. -/
def devices (ds : List Device) : TextTable where
  columns := [leftColumn "Device", leftColumn "Config", leftColumn "Qualifiers",
    rightColumn "xdpi", rightColumn "ydpi"]
  rows := ds.flatMap deviceRows

/-- The owner of a theme. -/
def themeOwner : ThemeEntry → String
  | .framework _ => "framework"
  | .separator => "-"
  | .project _ => "project"

/-- The themes with their owners. -/
def themes (l : ThemeList) : TextTable where
  columns := [rightColumn "#", leftColumn "Theme", leftColumn "Owner"]
  rows := l.entries.zipIdx.map fun (e, i) => [toString i, e.label, themeOwner e]

/-- The row of a locale. -/
def localeRow (e : LocaleEntry) (i : Nat) : List String :=
  if e.isSentinel then [toString i, e.label, "any", "any"]
  else [toString i, e.label, e.language, orDash e.region]

/-- The locales with their languages and regions. -/
def locales (c : LocaleCatalog) : TextTable where
  columns := [rightColumn "#", leftColumn "Locale", leftColumn "Language", leftColumn "Region"]
  rows := c.entries.zipIdx.map fun (e, i) => localeRow e i

/-- The settings of a report. -/
def settings (r : Report) : TextTable where
  columns := [leftColumn "Setting", leftColumn "Value"]
  rows := [["Device", orDash r.device], ["Config", orDash r.variant]] ++
    r.qualifiers.map (fun q => [q.kind.label, q.segment]) ++
    [["Density", Spelling.segment r.density], ["DPI", r.dpiText], ["Screen", r.screenText],
      ["Theme", r.themeText], ["Locale", orDash r.locale], ["Clipping", r.clippingText]]

/-- A report: a line with the configuration and the table of the settings. -/
def report (r : Report) : String :=
  "Configuration: " ++ r.configurationLabel ++ "\n" ++ (settings r).text

end ConfigBar.Listing
