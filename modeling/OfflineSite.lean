import OfflineSite.FileTree
import OfflineSite.Main
import OfflineSite.Proofs.Asset.ContentRoot
import OfflineSite.Proofs.Proxy.Reception
import OfflineSite.Proofs.Worker.CacheSoundness
import OfflineSite.Proofs.Worker.Fleet
import OfflineSite.Rehearsal
import OfflineSite.Worker.Answered
import OfflineSite.Proofs.Worker.Interleaving
import OfflineSite.Proofs.Worker.Rollover
import OfflineSite.Proofs.Worker.Overlap
import OfflineSite.Proofs.Worker.Waiting
import OfflineSite.Proofs.Worker.Refreshing
import OfflineSite.Proofs.Cache.Snapshot
import OfflineSite.Proofs.Cache.Persistence
import OfflineSite.Proofs.Cache.Document
import OfflineSite.Proofs.FileTree
import OfflineSite.Proofs.Cache.Replacement
import OfflineSite.Proofs.Cache.Reloading
import OfflineSite.Proofs.Worker.Offline
import OfflineSite.Proofs.Worker.Restart
import OfflineSite.Proofs.Proxy.Transparency
import OfflineSite.Proofs.Http.Header
import OfflineSite.Proofs.Proxy.Filtering
import OfflineSite.Proofs.Proxy.Tagging
import OfflineSite.Proofs.Worker.Conservation
import OfflineSite.Proofs.Worker.Phases
import OfflineSite.Proofs.Worker.Retirement
import OfflineSite.Proofs.Worker.Lifecycle
import OfflineSite.Proofs.Worker.Completion
import OfflineSite.Proofs.Asset.Query
import OfflineSite.Proofs.Asset.Resolution
import OfflineSite.Proofs.Asset.Routing
import OfflineSite.Proofs.Json.Literal
import OfflineSite.Proofs.Script
import OfflineSite.Proofs.Cache.History
import OfflineSite.Proofs.Cache.Sharing
import OfflineSite.Proofs.Asset.Nameable
import OfflineSite.Proofs.Worker.Deletion
import OfflineSite.Proofs.Worker.Policy
import OfflineSite.Proofs.Worker.Report
import OfflineSite.Proofs.Worker.Warming
import OfflineSite.Proofs.Asset.ContentType
import OfflineSite.Proofs.CommandLine
import OfflineSite.Proofs.Net.Address
import OfflineSite.Proofs.Control.Message
