import NodeImages.Api.Call
import NodeImages.Api.Fault
import NodeImages.Api.Http
import NodeImages.Api.Page
import NodeImages.Api.Reporter
import NodeImages.Api.Watcher
import NodeImages.Cluster.Event
import NodeImages.Cluster.ImageCache
import NodeImages.Cluster.Job
import NodeImages.Cluster.Meta
import NodeImages.Cluster.Node
import NodeImages.Cluster.Part.Basic
import NodeImages.Cluster.Part.Container
import NodeImages.Cluster.Part.Job
import NodeImages.Cluster.Part.PodSpec
import NodeImages.Cluster.Part.Volume
import NodeImages.Cluster.Pod
import NodeImages.Cluster.Time
import NodeImages.Code
import NodeImages.Config.Basic
import NodeImages.Config.File
import NodeImages.Config.Setting
import NodeImages.Decimal.Shortest
import NodeImages.Dictionary
import NodeImages.Duration
import NodeImages.Environment
import NodeImages.Failure
import NodeImages.Image.Name
import NodeImages.Image.Reference
import NodeImages.Image.Runtime
import NodeImages.Integer
import NodeImages.Json.Basic
import NodeImages.Json.Cursor
import NodeImages.Json.Literal
import NodeImages.Json.MergePatch
import NodeImages.Json.Misfit
import NodeImages.Json.Passing
import NodeImages.Json.Printer
import NodeImages.Json.Reader
import NodeImages.Json.Record
import NodeImages.Json.Schema
import NodeImages.Json5.Reader
import NodeImages.Logging
import NodeImages.Proofs.Abort
import NodeImages.Proofs.Arrival
import NodeImages.Proofs.Backoff
import NodeImages.Proofs.Balance
import NodeImages.Proofs.Batch
import NodeImages.Proofs.Calls
import NodeImages.Proofs.Commutation
import NodeImages.Proofs.Completion
import NodeImages.Proofs.Conclusion
import NodeImages.Proofs.Configuration
import NodeImages.Proofs.Confinement
import NodeImages.Proofs.Course
import NodeImages.Proofs.Deadline
import NodeImages.Proofs.Deletion
import NodeImages.Proofs.Delivery
import NodeImages.Proofs.Dictionary
import NodeImages.Proofs.Digits
import NodeImages.Proofs.Dispatch
import NodeImages.Proofs.Encodings
import NodeImages.Proofs.Ending
import NodeImages.Proofs.Evidence
import NodeImages.Proofs.ExactlyOnce
import NodeImages.Proofs.Exclusive
import NodeImages.Proofs.Expiry
import NodeImages.Proofs.Fates
import NodeImages.Proofs.Freshness
import NodeImages.Proofs.ImageCaches
import NodeImages.Proofs.Items
import NodeImages.Proofs.Keys
import NodeImages.Proofs.Ledger
import NodeImages.Proofs.Memory
import NodeImages.Proofs.Names
import NodeImages.Proofs.News
import NodeImages.Proofs.Outstanding
import NodeImages.Proofs.Patches
import NodeImages.Proofs.Permutation
import NodeImages.Proofs.Phase
import NodeImages.Proofs.Pulls
import NodeImages.Proofs.Queue
import NodeImages.Proofs.Records
import NodeImages.Proofs.References
import NodeImages.Proofs.Relist
import NodeImages.Proofs.Resolution
import NodeImages.Proofs.Retries
import NodeImages.Proofs.Settings
import NodeImages.Proofs.Shutdown
import NodeImages.Proofs.Stage
import NodeImages.Proofs.Startup
import NodeImages.Proofs.Success
import NodeImages.Proofs.Summary
import NodeImages.Proofs.Surroundings
import NodeImages.Proofs.Table
import NodeImages.Proofs.Turn
import NodeImages.Proofs.Waiting
import NodeImages.Proofs.Writes
import NodeImages.Queue
import NodeImages.Simulation.ApiSession
import NodeImages.Simulation.Client
import NodeImages.Simulation.Clock
import NodeImages.Simulation.EngineSession
import NodeImages.Simulation.FileSystem
import NodeImages.Simulation.QueueSession
import NodeImages.Task
import NodeImages.Text.Characters
import NodeImages.Text.Cut
import NodeImages.Text.GraphemeExtend
import NodeImages.Text.Identifier
import NodeImages.Text.Lossy
import NodeImages.Text.Printable
import NodeImages.Text.Quoted
import NodeImages.Work.Basic
import NodeImages.Work.Dispatch
import NodeImages.Work.Engine
import NodeImages.Work.Manager
import NodeImages.Work.Observer
import NodeImages.Work.Reporting
import NodeImages.Work.Run
import NodeImages.Work.Summary
import NodeImages.Work.Table
