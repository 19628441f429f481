import ConfigBar.Device
import ConfigBar.Resource.Value
import ConfigBar.Locale.Catalog
/-!
# Providers of resources

What the host hands in at a rebuild: the locales and the values of the framework and of the project,
any of which may be missing, and the catalog of devices.
-/

namespace ConfigBar

/-- A source of resources and devices. -/
structure Provider where
  /-- The languages of the framework repository, if it is loaded. -/
  framework : Option Languages
  /-- The languages of the project repository, if a project is linked. -/
  project : Option Languages
  frameworkValues : Option ConfiguredResources
  projectValues : Option ConfiguredResources
  devices : List Device
  deriving DecidableEq

namespace Provider

/-- The styles among resource values, if their repository is there. -/
def stylesOf (repository : Option Languages) (values : Option ConfiguredResources) :
    Option ResourceMap :=
  if repository.isSome then values.bind fun r => r.get? .style else none

/-- The styles of the framework. -/
def frameworkStyles (p : Provider) : Option ResourceMap := stylesOf p.framework p.frameworkValues

/-- The styles of the project. -/
def projectStyles (p : Provider) : Option ResourceMap := stylesOf p.project p.projectValues

end Provider

end ConfigBar
