import HealControl.Admin.Endpoint
import HealControl.Cluster.Progress
import HealControl.Log.Filter
import HealControl.Monitor
import HealControl.Session.Operation
import HealControl.Proofs.Cluster.MergedSets
import HealControl.Proofs.Session.Liveness
import HealControl.Proofs.Session.Reports
import HealControl.Setup
import HealControl.Proofs.Monitor.Survey
import HealControl.Proofs.Json.ReadBack
import HealControl.Proofs.Json.RoundTrip
import HealControl.Proofs.Admin.Replies
import HealControl.Proofs.Monitor.ReportedErrors
import HealControl.Proofs.Admin.Paths
import HealControl.Proofs.Session.SharedPaths
import HealControl.Proofs.Session.Endings
import HealControl.Proofs.Session.Control
import HealControl.Proofs.Session.Frame
import HealControl.Proofs.Cluster.Batches
import HealControl.Proofs.Cluster.Repetition
import HealControl.Proofs.Cluster.Reordering
import HealControl.Proofs.Cluster.Growth
import HealControl.Proofs.Cluster.Ownership
import HealControl.Proofs.Time.ReadBack
import HealControl.Proofs.Json.Codecs
import HealControl.Proofs.Json.WireTypes
import HealControl.Proofs.Session.RepeatedPolls
import HealControl.Proofs.Session.SentRequests
import HealControl.Proofs.Text.Trimming
import HealControl.Proofs.Settings.FieldStarts
import HealControl.Proofs.Settings.ParsedFields
import HealControl.Proofs.Settings.TextRoundTrip
import HealControl.Proofs.Settings.ParsedTexts
import HealControl.Proofs.Session.AnsweredRecords
import HealControl.Proofs.Cluster.Accumulation
import HealControl.Proofs.Admin.HealRequests
import HealControl.Proofs.Admin.DedicatedCalls
import HealControl.Proofs.Json.Grammar
import HealControl.Proofs.Json.FieldChanges
import HealControl.Proofs.Json.Members
import HealControl.Proofs.Json.EmptyCollections
import HealControl.Proofs.Json.NestedChanges
import HealControl.Proofs.Heal.ScanModes
import HealControl.Proofs.Heal.NewerServers
import HealControl.Proofs.Cluster.HealingProgress
import HealControl.Proofs.Heal.DriveTransitions
import HealControl.Proofs.Settings.Configurations
import HealControl.Proofs.Url.Decoding
import HealControl.Proofs.Admin.RequestUrls
import HealControl.Proofs.Cluster.PartialReports
import HealControl.Proofs.Settings.InsertionOrder
