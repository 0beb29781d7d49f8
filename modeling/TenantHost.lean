import TenantHost.Rehearsal.Session
import TenantHost.Proofs.Account.NetTable
import TenantHost.Proofs.Account.NetListing
import TenantHost.Proofs.Account.Steps
import TenantHost.Proofs.Command.Line
import TenantHost.Proofs.Account.Group
import TenantHost.Proofs.Account.Ensuring
import TenantHost.Proofs.Account.Provisioning
import TenantHost.Proofs.Account.Arguments
import TenantHost.Proofs.Account.Records
import TenantHost.Proofs.Account.Sessions
import TenantHost.Proofs.Double.Rounding
import TenantHost.Proofs.Double.Shortest
import TenantHost.Proofs.Double.Hundredths
import TenantHost.Proofs.Agent.Events
import TenantHost.Proofs.Resource.Admission
import TenantHost.Proofs.Agent.Coherence
import TenantHost.Proofs.Settings.Faults
import TenantHost.Proofs.Double.Settled
import TenantHost.Proofs.Number.Rounding
import TenantHost.Proofs.Resource.Memory
import TenantHost.Proofs.Resource.Monotone
import TenantHost.Proofs.Journal.Mirror
import TenantHost.Proofs.Account.Mirroring
import TenantHost.Proofs.Account.Retries
import TenantHost.Proofs.Double.Thresholds
import TenantHost.Proofs.Resource.Ranges
import TenantHost.Proofs.Resource.Consistency
import TenantHost.Proofs.Account.Refusals
import TenantHost.Proofs.Account.Testimony
import TenantHost.Proofs.Account.Lookups
import TenantHost.Proofs.Agent.Directories
import TenantHost.Proofs.Account.Database
import TenantHost.Proofs.Resource.Loads
import TenantHost.Proofs.Double.Gaps
import TenantHost.Proofs.Resource.Bytes
import TenantHost.Proofs.Resource.Documented
import TenantHost.Proofs.Resource.Recovery
import TenantHost.Proofs.Double.Nearest
import TenantHost.Proofs.Double.Written
import TenantHost.Proofs.Resource.Rounded
import TenantHost.Proofs.Account.TableRows
import TenantHost.Proofs.Text.LineFeeds
import TenantHost.Proofs.Account.GroupLine
import TenantHost.Proofs.Settings.Frame
import TenantHost.Proofs.Settings.Admissible
import TenantHost.Proofs.Account.TableStart
import TenantHost.Proofs.Command.Contract
import TenantHost.Proofs.Command.Verdict
import TenantHost.Proofs.Text.OutputLines
import TenantHost.Proofs.Account.NameListing
import TenantHost.Proofs.Rehearsal.Files
import TenantHost.Proofs.Rehearsal.Machine
import TenantHost.Proofs.Rehearsal.Patterns
