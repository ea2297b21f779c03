import ConfigAudit.CommandLine.Run
import ConfigAudit.Main
import ConfigAudit.Proofs.Check.Default
import ConfigAudit.Proofs.Report.RoundTrip
import ConfigAudit.Proofs.Schedule
import ConfigAudit.Tree.ToJson
import ConfigAudit.Proofs.Tree.Address
import ConfigAudit.Proofs.Check.Fingerprints
import ConfigAudit.Proofs.Settings.Resolve
import ConfigAudit.Proofs.Suppressions
import ConfigAudit.Proofs.Check.Failure
import ConfigAudit.Proofs.Check.Consistency
import ConfigAudit.Proofs.Check.Listing
import ConfigAudit.Proofs.Engine.Independence
import ConfigAudit.Proofs.Check.Severity
import ConfigAudit.Proofs.Check.WarnProfile
import ConfigAudit.Proofs.Check.Locality
import ConfigAudit.Proofs.Engine.Allowance
import ConfigAudit.Proofs.Workspace
import ConfigAudit.Proofs.CommandLine.Check
import ConfigAudit.Proofs.CommandLine.Rerendering
import ConfigAudit.Proofs.Engine.Lifecycle
import ConfigAudit.Proofs.Rule.Registration
import ConfigAudit.Proofs.Rule.Assembly
import ConfigAudit.Proofs.Settings.Refusal
import ConfigAudit.Proofs.Toml.Canonical
import ConfigAudit.Proofs.Settings.File
import ConfigAudit.Proofs.Settings.Merge
import ConfigAudit.Proofs.Tree.Shape
import ConfigAudit.Proofs.Tree.RoundTrip
import ConfigAudit.Proofs.Tree.Naming
import ConfigAudit.Proofs.Rule.NetworkExposure.Decision
import ConfigAudit.Proofs.Rule.NetworkExposure.Masking
import ConfigAudit.Proofs.Rule.Inspection
import ConfigAudit.Proofs.ResultSet.Verdict
import ConfigAudit.Proofs.Report.Page
import ConfigAudit.Proofs.ResultSet.Selection
import ConfigAudit.Proofs.Suppressions.History
import ConfigAudit.Delegation
import ConfigAudit.Proofs.Delegation
import ConfigAudit.Proofs.Engine.Budget
import ConfigAudit.Proofs.Tree.Accessors
import ConfigAudit.Proofs.Rule.NetworkExposure.Ports
import ConfigAudit.Proofs.Check.Forgery
