import EtcdFleet.Cluster.Address
import EtcdFleet.Cluster.Descriptor
import EtcdFleet.Cluster.Drift
import EtcdFleet.Cluster.EnvVar
import EtcdFleet.Cluster.Gates
import EtcdFleet.Cluster.Health
import EtcdFleet.Cluster.Imported
import EtcdFleet.Cluster.MemberHealth
import EtcdFleet.Cluster.Operated
import EtcdFleet.Cluster.Spec
import EtcdFleet.Cluster.Status
import EtcdFleet.Cluster.Strategy
import EtcdFleet.Document
import EtcdFleet.Document.Fields
import EtcdFleet.Document.Numeral
import EtcdFleet.Document.Path
import EtcdFleet.Document.Printer
import EtcdFleet.Document.Reader
import EtcdFleet.Document.Shortest
import EtcdFleet.Document.Token
import EtcdFleet.Document.Written
import EtcdFleet.Failure
import EtcdFleet.Inspection.Backend
import EtcdFleet.Inspection.Feature
import EtcdFleet.Inspection.Manager
import EtcdFleet.Inspection.Task
import EtcdFleet.Journal
import EtcdFleet.Kubernetes.Answer
import EtcdFleet.Kubernetes.Client
import EtcdFleet.Kubernetes.Metadata
import EtcdFleet.Kubernetes.Object
import EtcdFleet.Kubernetes.Request
import EtcdFleet.Kubernetes.Selection
import EtcdFleet.Logging.Filter
import EtcdFleet.Logging.Output
import EtcdFleet.NameMap
import EtcdFleet.Pattern
import EtcdFleet.Pattern.Bracket
import EtcdFleet.Pattern.Escape
import EtcdFleet.Program
import EtcdFleet.Proofs.Assurance
import EtcdFleet.Proofs.BuiltinFeatures
import EtcdFleet.Proofs.ByteOrder
import EtcdFleet.Proofs.CalendarDays
import EtcdFleet.Proofs.CertificateNames
import EtcdFleet.Proofs.ClusterCreation
import EtcdFleet.Proofs.ClusterLives
import EtcdFleet.Proofs.Confinement
import EtcdFleet.Proofs.Convergence
import EtcdFleet.Proofs.Creations
import EtcdFleet.Proofs.DescriptorDrift
import EtcdFleet.Proofs.DesiredSpecs
import EtcdFleet.Proofs.DocumentEdits
import EtcdFleet.Proofs.DocumentPaths
import EtcdFleet.Proofs.DriftComparison
import EtcdFleet.Proofs.EnvVarRoundTrip
import EtcdFleet.Proofs.ExactTexts
import EtcdFleet.Proofs.Execution
import EtcdFleet.Proofs.FailureContract
import EtcdFleet.Proofs.FeatureCalls
import EtcdFleet.Proofs.FeatureGates
import EtcdFleet.Proofs.FeatureHistory
import EtcdFleet.Proofs.FeatureTerms
import EtcdFleet.Proofs.GatedTasks
import EtcdFleet.Proofs.IndependentClusters
import EtcdFleet.Proofs.InspectionRuns
import EtcdFleet.Proofs.InstantTexts
import EtcdFleet.Proofs.Interleaving
import EtcdFleet.Proofs.JoinedTexts
import EtcdFleet.Proofs.KubernetesCalls
import EtcdFleet.Proofs.KubernetesMetadata
import EtcdFleet.Proofs.KubernetesObjects
import EtcdFleet.Proofs.LostUpdates
import EtcdFleet.Proofs.MakerTable
import EtcdFleet.Proofs.MemberAddresses
import EtcdFleet.Proofs.NameMaps
import EtcdFleet.Proofs.OperatedRuns
import EtcdFleet.Proofs.OptimisticVersions
import EtcdFleet.Proofs.OwnNames
import EtcdFleet.Proofs.PhaseHistory
import EtcdFleet.Proofs.RacingRegistrations
import EtcdFleet.Proofs.ReadModifyWrite
import EtcdFleet.Proofs.ReconcilesInTurn
import EtcdFleet.Proofs.RecordRoundTrips
import EtcdFleet.Proofs.Registrations
import EtcdFleet.Proofs.ResourceNames
import EtcdFleet.Proofs.Scanning
import EtcdFleet.Proofs.ScheduledCount
import EtcdFleet.Proofs.Scheduling
import EtcdFleet.Proofs.SettingLayers
import EtcdFleet.Proofs.SharedFeatures
import EtcdFleet.Proofs.StatusReports
import EtcdFleet.Proofs.StoreRuns
import EtcdFleet.Proofs.StoreWrites
import EtcdFleet.Proofs.TaskNames
import EtcdFleet.Proofs.TaskRoundTrip
import EtcdFleet.Proofs.TrimmedTexts
import EtcdFleet.Proofs.WriteBack
import EtcdFleet.Proofs.WritesInPlace
import EtcdFleet.Proofs.WrittenFields
import EtcdFleet.Registry
import EtcdFleet.Rehearsal.ClusterStage
import EtcdFleet.Rehearsal.FaultyStore
import EtcdFleet.Rehearsal.FeatureStage
import EtcdFleet.Rehearsal.Inspection
import EtcdFleet.Rehearsal.Lifecycle
import EtcdFleet.Resource.Call
import EtcdFleet.Resource.Kind
import EtcdFleet.Resource.Store
import EtcdFleet.Settings
import EtcdFleet.Settings.Layers
import EtcdFleet.Settings.Machine
import EtcdFleet.Settings.Sample
import EtcdFleet.Text.Blank
import EtcdFleet.Text.Letters
import EtcdFleet.Text.Numeral
import EtcdFleet.Text.Pieces
import EtcdFleet.Text.Quoted
import EtcdFleet.Text.Runs
import EtcdFleet.Text.Scanner
import EtcdFleet.Text.Shapeless
import EtcdFleet.Time.Calendar
import EtcdFleet.Time.Instant
import EtcdFleet.Toml.Reader
import EtcdFleet.Toml.Scalar
import EtcdFleet.Toml.Scanner
import EtcdFleet.Toml.Table
