import Provision.Cluster.Remote
import Provision.Cluster.Timeouts
import Provision.DataBag
import Provision.Feature.Check
import Provision.Json.Parse
import Provision.Manifest.Basic
import Provision.Object.Transform
import Provision.Poll
import Provision.Rehearsal.Session
import Provision.ResourceType
import Provision.Settings
import Provision.Template.Render
import Provision.Tracker.Format
import Provision.Yaml.Documents
import Provision.Yaml.Value
import Provision.Proofs.Keyed
import Provision.Proofs.Failures
import Provision.Proofs.Store.Operations
import Provision.Proofs.Store.Versions
import Provision.Proofs.Store.Numbering
import Provision.Proofs.Store.Deletion
import Provision.Proofs.Store.Trackers
import Provision.Proofs.Store.Applied
import Provision.Proofs.Store.Accounted
import Provision.Proofs.Store.Reapplied
import Provision.Proofs.Store.Ownership
import Provision.Proofs.Process
import Provision.Proofs.StatusUpdates
import Provision.Proofs.Feature.Parts
import Provision.Proofs.Feature.Provided
import Provision.Proofs.Overwriting
import Provision.Proofs.Isolation
import Provision.Proofs.EnsuredTrackers
import Provision.Proofs.Feature.Perform
import Provision.Proofs.Feature.StageOrder
import Provision.Proofs.Feature.Outcome
import Provision.Proofs.Tracker.StatusHistory
import Provision.Proofs.Feature.Cleanup
import Provision.Proofs.Feature.Applying
import Provision.Proofs.Feature.Idempotence
import Provision.Proofs.Handler.Order
import Provision.Proofs.Handler.Undo
import Provision.Proofs.Handler.Making
import Provision.Proofs.Manifest.WellFormed
import Provision.Proofs.Json.Ordered
import Provision.Proofs.Object.NormalForm
import Provision.Proofs.Manifest.Patches
import Provision.Proofs.Disk
import Provision.Proofs.Manifest.SameFiles
import Provision.Proofs.Collecting
import Provision.Proofs.Feature.Counting
import Provision.Proofs.Store.Garbage
import Provision.Proofs.Json.Merging
import Provision.Proofs.Retrying
import Provision.Proofs.Tracker.ConditionHistory
import Provision.Proofs.Converging
import Provision.Proofs.Manifest.Roots
import Provision.Proofs.Manifest.LoadedOnce
import Provision.Proofs.Manifest.Confinement
import Provision.Proofs.Manifest.Spellings
import Provision.Proofs.Waiting
import Provision.Proofs.Polling
import Provision.Proofs.Handler.Enrichment
import Provision.Proofs.Text.Lines
import Provision.Proofs.Yaml.Splitting
import Provision.Proofs.Yaml.Structure
import Provision.Proofs.Manifest.SingleFiles
import Provision.Proofs.Manifest.Scopes
import Provision.Proofs.Base64
import Provision.Proofs.Feature.Disabling
import Provision.Proofs.Handler.Registering
import Provision.Proofs.Store.Identity
import Provision.Proofs.Binary64.Rounding
import Provision.Proofs.Binary64.Arithmetic
import Provision.Proofs.Binary64.Powers
import Provision.Proofs.Delays
