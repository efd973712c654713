import AnoPki.Store.AuditTamper
import AnoPki.Lifecycle.OutboxAccounts
import AnoPki.Lifecycle.DeadLetters
import AnoPki.Lifecycle.IssuerChain
import AnoPki.Core.NameConstraints
import AnoPki.Lifecycle.CaaClimb
import AnoPki.Lifecycle.ValidityRuns
import AnoPki.Lifecycle.ResponderRuns
import AnoPki.Lifecycle.Guarantees
import AnoPki.Lifecycle.IssuerRollover
import AnoPki.Lifecycle.ExpirationScan
import AnoPki.Lifecycle.ApiKeyRuns
import AnoPki.Lifecycle.ProfileLimits
import AnoPki.Lifecycle.CrlSafety
import AnoPki.Httpapi.ClientIp
import AnoPki.Httpapi.Nonces
import AnoPki.Httpapi.Jwk
import AnoPki.Store.AuditMigration
import AnoPki.Store.Paging
import AnoPki.Store.Publications
import AnoPki.Core.AddressText
import AnoPki.Httpapi.FinalizeSubject
