import RouteAccess.Text.Blank
import RouteAccess.Text.Case
import RouteAccess.Text.CharClass
import RouteAccess.Text.Quoted
import RouteAccess.Json.Reader
import RouteAccess.Json.Display
import RouteAccess.Pattern.Matching
import RouteAccess.Pattern.Expression
import RouteAccess.Pattern.Cache
import RouteAccess.Policy.Statement
import RouteAccess.Policy.Decision
import RouteAccess.Guardian.Session
import RouteAccess.Digest.Mac
import RouteAccess.Text.Base64
import RouteAccess.Number.Whole
import RouteAccess.Token.Signed
import RouteAccess.Time.Moment
import RouteAccess.Subject.Resolver
import RouteAccess.Vault.File
import RouteAccess.Metrics.Exposition
import RouteAccess.Log.Line
import RouteAccess.Settings.Lookup
import RouteAccess.Settings.Source
import RouteAccess.Fixture
import RouteAccess.Service.Session
import RouteAccess.Proofs.Text.Blank
import RouteAccess.Proofs.Text.Case
import RouteAccess.Proofs.Pattern.Cut
import RouteAccess.Proofs.Pattern.Matching
import RouteAccess.Proofs.Pattern.Recency
import RouteAccess.Proofs.Policy.Tier
import RouteAccess.Proofs.Policy.Subjects
import RouteAccess.Proofs.Policy.Decision
import RouteAccess.Proofs.Policy.Expansion
import RouteAccess.Proofs.Guardian.Run
import RouteAccess.Proofs.Guardian.Statement
import RouteAccess.Proofs.Guardian.Normal
import RouteAccess.Proofs.Guardian.Grant
import RouteAccess.Proofs.Guardian.Effect
import RouteAccess.Proofs.Guardian.Replay
import RouteAccess.Proofs.Guardian.Load
import RouteAccess.Proofs.Guardian.Reload
import RouteAccess.Proofs.Guard.Judging
import RouteAccess.Proofs.Guard.Admission
import RouteAccess.Proofs.Service.Answer
import RouteAccess.Proofs.Service.Run
import RouteAccess.Proofs.Service.Management
import RouteAccess.Proofs.Service.LastLoad
import RouteAccess.Proofs.Result
import RouteAccess.Proofs.Token.Claims
import RouteAccess.Proofs.Token.Acceptance
import RouteAccess.Proofs.Subject.Joining
import RouteAccess.Proofs.Token.Lifetime
import RouteAccess.Proofs.Token.Opening
import RouteAccess.Proofs.Subject.Bearer
import RouteAccess.Proofs.Subject.Marker
import RouteAccess.Proofs.Token.Breakdown
import RouteAccess.Proofs.Text.Base64
import RouteAccess.Proofs.Text.Bytes
import RouteAccess.Proofs.Json.Texts
import RouteAccess.Proofs.Json.Values
import RouteAccess.Proofs.Token.Issuing
import RouteAccess.Proofs.Token.RoundTrip
import RouteAccess.Proofs.Service.Starting
import RouteAccess.Proofs.Vault.Registration
import RouteAccess.Proofs.Vault.Expiry
import RouteAccess.Proofs.Access.Writing
import RouteAccess.Proofs.Policy.Content
import RouteAccess.Proofs.Guardian.Repetition
import RouteAccess.Proofs.Metrics.Counting
import RouteAccess.Proofs.Service.Recording
import RouteAccess.Proofs.Service.Visits
import RouteAccess.Proofs.Service.Decisions
import RouteAccess.Proofs.Service.Requests
import RouteAccess.Proofs.Text.Letters
import RouteAccess.Proofs.Policy.Wording
import RouteAccess.Proofs.Subject.Reading
import RouteAccess.Proofs.Pattern.Widening
import RouteAccess.Proofs.Subject.Searching
import RouteAccess.Proofs.Text.Lowering
import RouteAccess.Proofs.Pattern.Filling
import RouteAccess.Proofs.Text.Words
import RouteAccess.Proofs.Access.Describing
import RouteAccess.Proofs.Pattern.Expression
import RouteAccess.Proofs.Service.Listing
