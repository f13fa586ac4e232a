import TrustAnchor.Binary64
import TrustAnchor.Duration
import TrustAnchor.Text.Blank
import TrustAnchor.Text.Utf8
import TrustAnchor.Text.Quoted
import TrustAnchor.Text.Number
import TrustAnchor.Text.Similarity
import TrustAnchor.Pem
import TrustAnchor.Instant
import TrustAnchor.Der
import TrustAnchor.Certificate.Reader
import TrustAnchor.PrivateKey
import TrustAnchor.Json.Reader
import TrustAnchor.Json.Printer
import TrustAnchor.Authority.Basic
import TrustAnchor.Resource.Kind
import TrustAnchor.Error
import TrustAnchor.Settings
import TrustAnchor.Script.Together
import TrustAnchor.Retry.Loop
import TrustAnchor.Store
import TrustAnchor.Rotation.Reconcile
import TrustAnchor.Signature.P256
import TrustAnchor.Authority.Issuer
import TrustAnchor.Certificate.View
import TrustAnchor.Cluster
import TrustAnchor.Api.Server
import TrustAnchor.Log.Record
import TrustAnchor.CommandLine.Start
import TrustAnchor.Main
import TrustAnchor.Proofs.Landing
import TrustAnchor.Proofs.Withdrawal
import TrustAnchor.Proofs.Conclusion
import TrustAnchor.Proofs.Footprint
import TrustAnchor.Proofs.Operations
import TrustAnchor.Proofs.Clear
import TrustAnchor.Proofs.Success
import TrustAnchor.Proofs.Turns
import TrustAnchor.Proofs.Convergence
import TrustAnchor.Proofs.Looking
import TrustAnchor.Proofs.Repetition
import TrustAnchor.Proofs.Composition
import TrustAnchor.Proofs.Separation
import TrustAnchor.Proofs.Bootstrap
import TrustAnchor.Proofs.Secrecy
import TrustAnchor.Proofs.Versions
import TrustAnchor.Proofs.Errands
import TrustAnchor.Proofs.Aggregation
import TrustAnchor.Proofs.Acceptance
import TrustAnchor.Proofs.Surfacing
import TrustAnchor.Proofs.Wakeup
import TrustAnchor.Proofs.Reading
import TrustAnchor.Proofs.Truthfulness
import TrustAnchor.Proofs.Sources
