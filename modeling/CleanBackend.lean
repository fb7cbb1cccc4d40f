import CleanBackend.Core.PoolUse
import CleanBackend.Database.RotationInvariant
import CleanBackend.Database.SessionHistory
import CleanBackend.Database.RevokeAllRace
import CleanBackend.Database.RotationExclusive
import CleanBackend.Database.Linearizable
import CleanBackend.Auth.AsyncpgSessionRepository
import CleanBackend.Auth.JwksClient
import CleanBackend.Auth.SessionStoresAgree
import CleanBackend.Authorization.AuthorizationService
import CleanBackend.Authorization.ShippedPolicy
import CleanBackend.Database.MapIdentity
import CleanBackend.Database.ProvisioningRace
import CleanBackend.Auth.AuthRoutes
import CleanBackend.Auth.LogoutFinal
import CleanBackend.Auth.RevokedTokens
import CleanBackend.Database.ExpiryPermanent
import CleanBackend.Database.Retention
import CleanBackend.Lib.FixedWindow
import CleanBackend.Lib.IpAddress
import CleanBackend.Lib.PyStr
import CleanBackend.Lib.Redis
import CleanBackend.RateLimiting.ClientIp
import CleanBackend.RateLimiting.FakeRateLimiterBackend
import CleanBackend.RateLimiting.RedisRateLimiterBackend
import CleanBackend.RateLimiting.RetryAfter
import CleanBackend.Auth.RefreshStranding
import CleanBackend.Core.DbTransaction
import CleanBackend.Auth.TokenBlind
import CleanBackend.Authorization.AnyPolicy
import CleanBackend.Database.LoginAdmission
import CleanBackend.RateLimiting.Keys
import CleanBackend.Auth.JwtVerifier
import CleanBackend.Core.Redaction
import CleanBackend.Bootstrap.Lifecycle
import CleanBackend.Lib.PyJson
import CleanBackend.Lib.Base64
import CleanBackend.Auth.Pkce
import CleanBackend.Database.LoginTenant
import CleanBackend.Database.Migrations
import CleanBackend.Auth.ServedRuns
import CleanBackend.Auth.JwksFreshness
import CleanBackend.RateLimiting.UnreliableBackend
import CleanBackend.Database.LoginSpan
import CleanBackend.Core.GlobalCeiling
import CleanBackend.Modules.ExampleRepositories
import CleanBackend.Api.Health
import CleanBackend.Modules.AuthzDemo
