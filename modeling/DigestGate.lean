import DigestGate.Http.Json.Read
import DigestGate.Log.Sink
import DigestGate.Proofs.Body.Independence
import DigestGate.Proofs.Body.Tiling
import DigestGate.Proofs.Channel.Agreement
import DigestGate.Proofs.Channel.Draining
import DigestGate.Proofs.Channel.Stacking
import DigestGate.Proofs.Check.Effects
import DigestGate.Proofs.Check.Misplaced
import DigestGate.Proofs.Field.Canonical
import DigestGate.Proofs.Field.Joining
import DigestGate.Proofs.Field.Respelling
import DigestGate.Proofs.Gate.Enforcement
import DigestGate.Proofs.Gate.Labels
import DigestGate.Proofs.Metrics.Visits
import DigestGate.Proofs.Request.Acceptance
import DigestGate.Proofs.Request.Digests
import DigestGate.Proofs.Request.Exclusion
import DigestGate.Proofs.Request.SinglePass
import DigestGate.Proofs.Service.Echo
import DigestGate.Proofs.Session.Wholeness
import DigestGate.Proofs.Session.Wrapping
import DigestGate.Proofs.Settings.Loading
import DigestGate.Text.Quoted
