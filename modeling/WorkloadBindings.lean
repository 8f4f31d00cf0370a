import WorkloadBindings.Admission.Decision
import WorkloadBindings.Admission.Request
import WorkloadBindings.Admission.Response
import WorkloadBindings.Admission.Service
import WorkloadBindings.Admission.Validation
import WorkloadBindings.Api.Client
import WorkloadBindings.Api.EventRecorder
import WorkloadBindings.Api.Failure
import WorkloadBindings.Api.Reply
import WorkloadBindings.Api.Request
import WorkloadBindings.Binding.Basic
import WorkloadBindings.Binding.Kind
import WorkloadBindings.Binding.Spec
import WorkloadBindings.Binding.Status
import WorkloadBindings.Cluster.Basic
import WorkloadBindings.Cluster.LeaseServer
import WorkloadBindings.Cluster.Simulation
import WorkloadBindings.Cluster.WebhookServer
import WorkloadBindings.CommandLine.Arguments
import WorkloadBindings.CommandLine.LogFilter
import WorkloadBindings.CommandLine.SocketAddress
import WorkloadBindings.Dialogue
import WorkloadBindings.Index.Dispatch
import WorkloadBindings.Index.Rule
import WorkloadBindings.Index.Store
import WorkloadBindings.Index.Tracker
import WorkloadBindings.Json.Basic
import WorkloadBindings.Json.DecodeError
import WorkloadBindings.Json.Patch
import WorkloadBindings.Json.PatchReader
import WorkloadBindings.Json.Pointer
import WorkloadBindings.Json.Printer
import WorkloadBindings.Json.Reader
import WorkloadBindings.Json.Real
import WorkloadBindings.Json.Rest
import WorkloadBindings.Json.Shape
import WorkloadBindings.Json.ShapeReader
import WorkloadBindings.Json.Skip
import WorkloadBindings.Label.Selector
import WorkloadBindings.Lease.Basic
import WorkloadBindings.Lease.Election
import WorkloadBindings.Main
import WorkloadBindings.Metrics
import WorkloadBindings.Mutation
import WorkloadBindings.Reconcile.Call
import WorkloadBindings.Reconcile.Memory
import WorkloadBindings.Reconcile.Pass
import WorkloadBindings.Resource.Kind
import WorkloadBindings.Resource.Metadata
import WorkloadBindings.SortedMap
import WorkloadBindings.Subject.Basic
import WorkloadBindings.Subject.Reference
import WorkloadBindings.Text.Alphanumeric
import WorkloadBindings.Text.Base64
import WorkloadBindings.Text.Basic
import WorkloadBindings.Text.Pattern
import WorkloadBindings.Text.Quoted
import WorkloadBindings.Text.Sha256
import WorkloadBindings.Timestamp.Basic
import WorkloadBindings.Timestamp.Reader
import WorkloadBindings.Webhook.Configuration
import WorkloadBindings.Webhook.Loop
import WorkloadBindings.Webhook.Pass
import WorkloadBindings.Workload.Basic
import WorkloadBindings.Workload.Pod
import WorkloadBindings.Workload.Schema
import WorkloadBindings.Proofs.Json.Ordered
import WorkloadBindings.Proofs.Json.Difference
import WorkloadBindings.Proofs.Json.Transfer
import WorkloadBindings.Proofs.Json.Conform
import WorkloadBindings.Proofs.Json.Written
import WorkloadBindings.Proofs.Workload.Written
import WorkloadBindings.Proofs.Workload.Mutation
import WorkloadBindings.Proofs.Workload.Stored
import WorkloadBindings.Proofs.Admission.Patch
import WorkloadBindings.Proofs.Workload.Edit
import WorkloadBindings.Proofs.Workload.Carried
import WorkloadBindings.Proofs.Reconcile.World
import WorkloadBindings.Proofs.Reconcile.Safe
import WorkloadBindings.Proofs.Reconcile.Guarded
import WorkloadBindings.Proofs.Reconcile.Located
import WorkloadBindings.Proofs.Reconcile.Fanout
import WorkloadBindings.Proofs.Reconcile.Bound
import WorkloadBindings.Proofs.Reconcile.Obligation
import WorkloadBindings.Proofs.Reconcile.Ending
import WorkloadBindings.Proofs.Reconcile.Edited
import WorkloadBindings.Proofs.Reconcile.Concurrent
import WorkloadBindings.Proofs.Index.Store
import WorkloadBindings.Proofs.Index.Dispatch
import WorkloadBindings.Proofs.Index.History
import WorkloadBindings.Proofs.Admission.Stable
import WorkloadBindings.Proofs.Label.Query
import WorkloadBindings.Proofs.Label.Selection
import WorkloadBindings.Proofs.Index.Rule
import WorkloadBindings.Proofs.Dialogue
import WorkloadBindings.Proofs.Webhook.Pass
import WorkloadBindings.Proofs.Webhook.Run
import WorkloadBindings.Proofs.Json.Outcome
import WorkloadBindings.Proofs.Json.Merge
import WorkloadBindings.Proofs.Workload.Patched
import WorkloadBindings.Proofs.Binding.Status
import WorkloadBindings.Proofs.Binding.Merged
import WorkloadBindings.Proofs.Reconcile.Contents
import WorkloadBindings.Proofs.Reconcile.Transcript
import WorkloadBindings.Proofs.Reconcile.Ways
import WorkloadBindings.Proofs.Reconcile.Quiescent
import WorkloadBindings.Proofs.Reconcile.Deeds
import WorkloadBindings.Proofs.Reconcile.Released
import WorkloadBindings.Proofs.Reconcile.Partial
import WorkloadBindings.Proofs.Binding.VolumeName
import WorkloadBindings.Proofs.Admission.Validation
import WorkloadBindings.Proofs.Index.Exclusive
import WorkloadBindings.Proofs.Workload.Reversal
import WorkloadBindings.Proofs.Workload.Injected
import WorkloadBindings.Proofs.Text.ByteOrder
import WorkloadBindings.Proofs.Index.Canonical
import WorkloadBindings.Proofs.Json.Within
import WorkloadBindings.Proofs.Workload.Within
import WorkloadBindings.Proofs.Json.Read
import WorkloadBindings.Proofs.Admission.Confined
import WorkloadBindings.Proofs.Webhook.Held
import WorkloadBindings.Proofs.Label.Unambiguous
import WorkloadBindings.Proofs.Text.ByteWidth
import WorkloadBindings.Proofs.Text.DomainName
import WorkloadBindings.Proofs.Binding.SharedVolume
import WorkloadBindings.Proofs.Binding.VolumeLabel
import WorkloadBindings.Proofs.Binding.VolumeBytes
import WorkloadBindings.Proofs.Binding.Conditions
import WorkloadBindings.Proofs.Binding.RoundTrip
import WorkloadBindings.Proofs.Label.Validity
import WorkloadBindings.Proofs.Subject.Resolution
import WorkloadBindings.Proofs.Reconcile.Remembered
import WorkloadBindings.Proofs.Reconcile.Controllers
import WorkloadBindings.Proofs.Reconcile.Tracking
import WorkloadBindings.Proofs.Reconcile.Backoff
import WorkloadBindings.Proofs.Timestamp.Calendar
import WorkloadBindings.Proofs.Timestamp.Reading
