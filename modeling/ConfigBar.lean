import ConfigBar.Device.Json
import ConfigBar.File.Tree
import ConfigBar.Main
import ConfigBar.Resource.Json
import ConfigBar.Proofs.Controller.Deferral
import ConfigBar.Proofs.Controller.Independence
import ConfigBar.Proofs.Controller.Refresh
import ConfigBar.Proofs.Controller.Refusal
import ConfigBar.Proofs.Controller.Told
import ConfigBar.Proofs.Json.Model
import ConfigBar.Proofs.Locale.Grammar
import ConfigBar.Proofs.Locale.Index
import ConfigBar.Proofs.Project.Configurations
import ConfigBar.Proofs.Project.RoundTrip
import ConfigBar.Proofs.Qualifier.Canonical
import ConfigBar.Proofs.Qualifier.Disjoint
import ConfigBar.Proofs.Qualifier.Edits
import ConfigBar.Proofs.Qualifier.FolderRoundTrip
import ConfigBar.Proofs.Report.Locales
import ConfigBar.Proofs.Report.Names
import ConfigBar.Proofs.Report.Resolution
import ConfigBar.Proofs.Resolver.History
import ConfigBar.Proofs.Resolver.Identity
import ConfigBar.Proofs.Resolver.Indices
import ConfigBar.Proofs.Theme.Styles
import ConfigBar.Proofs.Theme.Walk
