import DaemonPki.Foundation.FiniteMap
import DaemonPki.Foundation.Text
import DaemonPki.Foundation.Bytes
import DaemonPki.Foundation.Hex
import DaemonPki.Foundation.IpAddr
import DaemonPki.Foundation.Index
import DaemonPki.Foundation.Transition
import DaemonPki.Foundation.Checks
import DaemonPki.Foundation.Interleaving
import DaemonPki.Foundation.FileSystem
import DaemonPki.Certificate.Metadata
import DaemonPki.Certificate.Lifecycle
import DaemonPki.Certificate.Inventory
import DaemonPki.Certificate.InventoryRuns
import DaemonPki.Certificate.Renewal
import DaemonPki.Certificate.LifecycleRuns
import DaemonPki.Certificate.Issuance
import DaemonPki.Revocation.Crl
import DaemonPki.Api.Certificates
import DaemonPki.Api.CrlManager
import DaemonPki.Api.Server
import DaemonPki.Api.ConcurrentStore
import DaemonPki.Api.ConcurrentRevocation
import DaemonPki.Identity.Registry
import DaemonPki.Api.Issuance
import DaemonPki.Api.Http
import DaemonPki.Api.IssuedRecords
import DaemonPki.Api.StoreRuns
import DaemonPki.Api.RevocationRuns
import DaemonPki.Api.ConcurrentPersist
import DaemonPki.Api.ConcurrentCrl
import DaemonPki.Api.Connections
import DaemonPki.Validation.Trust
import DaemonPki.Validation.Chain
import DaemonPki.Api.Auditing
import DaemonPki.Api.CrlNumbers
import DaemonPki.Ca.Authority
import DaemonPki.Api.Startup
import DaemonPki.Api.SignedCertificates
import DaemonPki.Certificate.RenewalRuns
import DaemonPki.Certificate.RenewalEffect
import DaemonPki.Certificate.LifecyclePass
import DaemonPki.Certificate.Fingerprints
import DaemonPki.Validation.ChainLimits
import DaemonPki.Validation.Leaf
import DaemonPki.Validation.Expiry
import DaemonPki.Api.ClientIdentity
import DaemonPki.Api.IssuanceAgreement
import DaemonPki.Api.ReasonCodes
import DaemonPki.Certificate.LifecycleErrors
import DaemonPki.Certificate.RenewalRequest
import DaemonPki.Revocation.SerialNumbers
import DaemonPki.Foundation.Fields
import DaemonPki.Foundation.HttpMessage
import DaemonPki.Api.Authorization
import DaemonPki.Api.Responses
import DaemonPki.Api.ServerRuns
import DaemonPki.Foundation.Simulation
import DaemonPki.Validation.GeneratedChains
import DaemonPki.Api.RegistryRefinement
import DaemonPki.Certificate.EvaluationSchedules
import DaemonPki.Foundation.Independence
import DaemonPki.Certificate.IndependentCalls
import DaemonPki.Certificate.InventoryHistory
import DaemonPki.Api.Preparation
import DaemonPki.Api.ConcurrentIssuance
import DaemonPki.Api.Wire
import DaemonPki.Api.CrashSafety
import DaemonPki.Api.Recovery
