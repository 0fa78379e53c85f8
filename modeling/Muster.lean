import Muster.Agent.Backoff
import Muster.Agent.CommandLine
import Muster.Agent.Execution
import Muster.Agent.Tags
import Muster.Auth.Authenticator
import Muster.Auth.Bootstrap
import Muster.Auth.Message
import Muster.Auth.Nonce
import Muster.Auth.SignedHeaders
import Muster.Bytes.Base64
import Muster.Bytes.Der
import Muster.Bytes.Digest
import Muster.Bytes.Digits
import Muster.Bytes.Entropy
import Muster.Bytes.Pem
import Muster.Bytes.Uuid
import Muster.ControlPlane.ApiError
import Muster.ControlPlane.Registry
import Muster.ControlPlane.TaskQueue
import Muster.ControlPlane.Validation
import Muster.Http.Headers
import Muster.Json.Codec
import Muster.Json.Doc
import Muster.Json.Fault
import Muster.Json.Number
import Muster.Json.Reader
import Muster.Json.Shape
import Muster.Json.Value
import Muster.Rsa.Generation
import Muster.Rsa.Power
import Muster.Rsa.PrivateKey
import Muster.Rsa.PublicKey
import Muster.Rsa.Signature
import Muster.Store.AgentStore
import Muster.Store.Error
import Muster.Store.NonceCache
import Muster.Store.Outage
import Muster.Store.Repository
import Muster.Store.Table
import Muster.Store.TaskStore
import Muster.Text.Blank
import Muster.Text.Decimal
import Muster.Text.Hidden
import Muster.Text.Quoted
import Muster.Text.Shortest
import Muster.Text.Utf8
import Muster.Text.Words
import Muster.Time.Calendar
import Muster.Time.Clock
import Muster.Time.Duration
import Muster.Time.Instant
import Muster.Time.Stamp.Reader
import Muster.Time.Stamp.Writer
import Muster.Wire.AgentRecord
import Muster.Wire.Registration
import Muster.Wire.Tag
import Muster.Wire.Task
import Muster.Wire.TaskStatus
import Muster.Agent.CommandRun
import Muster.Agent.Config
import Muster.Agent.Enrolment
import Muster.Agent.KeyStore
import Muster.Agent.Poll
import Muster.Agent.Program
import Muster.ControlPlane.Body
import Muster.ControlPlane.Config
import Muster.ControlPlane.Program
import Muster.Files.Tree
import Muster.Http.Message
import Muster.Main
import Muster.Proofs.ExactSeconds
import Muster.Proofs.ReplayGate
import Muster.Proofs.TaskLifecycle
import Muster.Proofs.AdmittedRequest
import Muster.Proofs.AgentIndex
import Muster.Proofs.LaterInstant
import Muster.Proofs.RacingRegistrations
import Muster.Proofs.RegistrationDecision
import Muster.Proofs.CreationOrder
import Muster.Proofs.DecimalReading
import Muster.Proofs.FailedRequests
import Muster.Proofs.OverlappingUpdates
import Muster.Proofs.Utf8Reading
import Muster.Proofs.JsonReading
import Muster.Proofs.CodecReading
import Muster.Proofs.InstantReading
import Muster.Proofs.HeaderReading
import Muster.Proofs.TaskReading
import Muster.Proofs.ServerRun
import Muster.Proofs.ClaimRequests
import Muster.Proofs.FleetRun
import Muster.Proofs.OctetDigits
import Muster.Proofs.Base64Reading
import Muster.Proofs.DerReading
import Muster.Proofs.KeyText
import Muster.Proofs.KeyIdentity
import Muster.Proofs.WireReading
import Muster.Proofs.MessageReading
import Muster.Proofs.SaltedEncoding
import Muster.Proofs.SignatureVerification
import Muster.Proofs.SignedRequest
import Muster.Proofs.ForgedRequests
import Muster.Proofs.ReportRequests
import Muster.Proofs.GenuineRequest
import Muster.Proofs.GrantedClaim
import Muster.Proofs.ClaimAttribution
import Muster.Proofs.FleetReports
import Muster.Proofs.ReportAnswers
import Muster.Proofs.ClaimOrder
import Muster.Proofs.AdvancingTimes
import Muster.Proofs.InternalErrors
import Muster.Proofs.RegistrationTraffic
import Muster.Proofs.EnrolmentAgreement
import Muster.Proofs.AgentWrites
import Muster.Proofs.StaleScans
import Muster.Proofs.ReportLoop
import Muster.Proofs.ExactBackoff
import Muster.Proofs.RequestAge
import Muster.Proofs.BoundedCache
import Muster.Proofs.Trimming
import Muster.Proofs.PaddedRegistration
import Muster.Proofs.RepeatedTokens
