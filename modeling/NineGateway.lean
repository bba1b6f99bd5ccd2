import NineGateway.Budget.Safety
import NineGateway.Token.Opening
import NineGateway.Token.Deferred
import NineGateway.Request.Bound
import NineGateway.Resource.Coverage
import NineGateway.Proxy.Modes
import NineGateway.Proxy.Terminal
import NineGateway.Admin.Update
import NineGateway.Trace.History
import NineGateway.Persistence.BudgetBatches
import NineGateway.Persistence.Restart
import NineGateway.Session.LoginLimiter
import NineGateway.OpenAI.Request
import NineGateway.Observation.Parse
import NineGateway.Observation.Expiry
import NineGateway.Observability.Body
import NineGateway.Auth.Policy
import NineGateway.Storage.Breakdown
import NineGateway.Storage.Cursor
import NineGateway.Budget.Retry
import NineGateway.Budget.Restore
import NineGateway.Token.Retry
