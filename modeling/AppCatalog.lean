import AppCatalog.Archive.Packing
import AppCatalog.Artifact.Callers
import AppCatalog.Main
import AppCatalog.Pool.Drill
import AppCatalog.Web.Service
import AppCatalog.Proofs.Store.Mirror
import AppCatalog.Proofs.Catalog.Acceptance
import AppCatalog.Proofs.Catalog.Bulk
import AppCatalog.Proofs.Pool.Drain
import AppCatalog.Proofs.Prefetch.Account
import AppCatalog.Proofs.Json.Cut
import AppCatalog.Proofs.Pool.Lifecycle
import AppCatalog.Proofs.Store.FailedWrite
import AppCatalog.Proofs.Metadata.Standard
import AppCatalog.Proofs.Artifact.Download
import AppCatalog.Proofs.Artifact.Breakdown
import AppCatalog.Proofs.Catalog.Reached
import AppCatalog.Proofs.Catalog.Breakdown
import AppCatalog.Proofs.Artifact.Cache
import AppCatalog.Proofs.Artifact.Sharing
import AppCatalog.Proofs.Catalog.Offline
import AppCatalog.Proofs.Catalog.Transparency
import AppCatalog.Proofs.Catalog.Orders
import AppCatalog.Proofs.Store.Clients
import AppCatalog.Proofs.Web.Address
import AppCatalog.Proofs.Json.Document
import AppCatalog.Proofs.Metadata.Forms
import AppCatalog.Proofs.Catalog.Paging
import AppCatalog.Proofs.Catalog.Interleaving
import AppCatalog.Proofs.Metadata.Visibility
import AppCatalog.Proofs.Properties.Composition
import AppCatalog.Proofs.Properties.Continuation
import AppCatalog.Proofs.Properties.Separator
import AppCatalog.Proofs.Properties.Strict
import AppCatalog.Proofs.Page.Count
import AppCatalog.Proofs.Uri.Grammar
import AppCatalog.Proofs.Pool.District
import AppCatalog.Proofs.Shell.Entries
import AppCatalog.Proofs.Artifact.Coordinates
import AppCatalog.Proofs.Artifact.Confinement
import AppCatalog.Proofs.Artifact.FileUri
import AppCatalog.Proofs.Pool.Ledger
import AppCatalog.Proofs.Properties.Alignment
