import Healing.Main
import Healing.Proofs.Engine.Accounting
import Healing.Proofs.Engine.Isolation
import Healing.Proofs.Engine.Namespace
import Healing.Proofs.Engine.Order
import Healing.Proofs.Engine.Throttling
import Healing.Proofs.Expansion.ForeignText
import Healing.Proofs.Memory.History
import Healing.Proofs.Reload.Convergence
import Healing.Proofs.Reload.Repetition
import Healing.Proofs.Service.Handover
import Healing.Proofs.WorkQueue.Conservation
import Healing.Proofs.RuleStore
import Healing.Proofs.Engine.Creation
import Healing.Proofs.ActiveJobs.Schedule
import Healing.Proofs.ActiveJobs.Retirement
import Healing.Proofs.Settings.Merging
import Healing.Proofs.Metrics.Exposition
import Healing.Proofs.Settings.Credential
import Healing.Proofs.Expansion.Actions
import Healing.Proofs.Rule.Serialization
import Healing.Proofs.Expansion.Rewriting
import Healing.Proofs.ActiveJobs.Polling
import Healing.Proofs.Matching
import Healing.Proofs.Settings.Folders
import Healing.Proofs.Expansion.Pairs
import Healing.Proofs.Duration
import Healing.Proofs.Alert
import Healing.Proofs.Settings.Certificates
import Healing.Proofs.WorkQueue.Backoff
