import AgqlAuth.Service.Login
import AgqlAuth.Refresh.Grants
import AgqlAuth.Refresh.Atomicity
import AgqlAuth.Refresh.Grace
import AgqlAuth.Refresh.Provenance
import AgqlAuth.RateLimit.Transition
import AgqlAuth.RateLimit.Calls
import AgqlAuth.RateLimit.Store
import AgqlAuth.RateLimit.System
import AgqlAuth.RateLimit.MemoryStore
import AgqlAuth.RateLimit.Counters
import AgqlAuth.RateLimit.Lockout
import AgqlAuth.RateLimit.Admission
import AgqlAuth.Pattern.Segments
import AgqlAuth.Pattern.Wildcard
import AgqlAuth.Scope.Match
import AgqlAuth.Scope.Subsume
import AgqlAuth.Service.Delegate
import AgqlAuth.Delegation.Authority
import AgqlAuth.RateLimit.BoundedMemory
import AgqlAuth.Refresh.Identity
import AgqlAuth.Interaction.Sum
import AgqlAuth.Service.Challenge
import AgqlAuth.Challenge.Store
import AgqlAuth.Challenge.MemoryStore
import AgqlAuth.Challenge.Safety
import AgqlAuth.Model.Principal
import AgqlAuth.Service.Revalidate
import AgqlAuth.Delegation.Revalidation
import AgqlAuth.Json.Record
import AgqlAuth.Delegation.Session
import AgqlAuth.OAuth.Binding
import AgqlAuth.Base.UuidText
import AgqlAuth.Token.Wire
import AgqlAuth.Token.Claims
import AgqlAuth.Token.Decode
import AgqlAuth.Interaction.Yields
import AgqlAuth.Token.Issued
import AgqlAuth.Token.Service
import AgqlAuth.Token.Recovery
import AgqlAuth.Json.Equality
import AgqlAuth.Token.Table
import AgqlAuth.Token.RoundTrip
import AgqlAuth.Token.FixedAudience
import AgqlAuth.Token.Purpose
import AgqlAuth.Token.Separation
import AgqlAuth.Token.Confinement
import AgqlAuth.Validator.Builder
import AgqlAuth.Validator.Agreement
import AgqlAuth.Assurance.Policy
import AgqlAuth.Assurance.RecentMfa
import AgqlAuth.Assurance.Sessions
import AgqlAuth.RateLimit.Counting
import AgqlAuth.RateLimit.RetryAfter
import AgqlAuth.Token.ScopeClaims
import AgqlAuth.Scope.Normative
import AgqlAuth.RateLimit.LoginPhases
import AgqlAuth.RateLimit.LoginExits
import AgqlAuth.RateLimit.LoginAccounting
import AgqlAuth.Graphql.RefreshCookie
import AgqlAuth.Graphql.Extraction
import AgqlAuth.OAuth.ExternalIdentity
import AgqlAuth.Validator.AlgorithmBinding
import AgqlAuth.Assurance.Reauthorization
import AgqlAuth.RateLimit.Backoff
import AgqlAuth.Scope.RoleCatalogue
import AgqlAuth.Scope.RoleExpansion
import AgqlAuth.OAuth.Endpoint
import AgqlAuth.Validator.Rotation
import AgqlAuth.Service.Totp
import AgqlAuth.Totp.Window
import AgqlAuth.Totp.Replay
import AgqlAuth.Credential.Bearer
import AgqlAuth.Service.ApiToken
import AgqlAuth.Credential.Routing
import AgqlAuth.OAuth.AuthorizationUrl
import AgqlAuth.OAuth.Profile
import AgqlAuth.OAuth.PolicyRoundTrip
import AgqlAuth.PasswordWork.Progress
import AgqlAuth.PasswordReset.SingleUse
import AgqlAuth.OAuth.KeyRotation
import AgqlAuth.ApiToken.Lifecycle
import AgqlAuth.OAuth.ClientAssertion
import AgqlAuth.Totp.Enrolment
import AgqlAuth.OAuth.ExternalLogin
import AgqlAuth.OAuth.LoginCalls
import AgqlAuth.OAuth.LoginRuns
