import Cachegate.Inflight.MapInvariant
import Cachegate.Inflight.Wakeup
import Cachegate.Handler.Coherence
import Cachegate.Handler.Agreement
import Cachegate.Handler.FetchOnce
import Cachegate.Handler.ReadAfterWrite
import Cachegate.Handler.ReadYourWrites
import Cachegate.Handler.ContentType
import Cachegate.Auth.Gateway
import Cachegate.Handler.Uploads
import Cachegate.Handler.Conservation
import Cachegate.Handler.Accounting
import Cachegate.Handler.Cacheable
import Cachegate.Library.PercentEncoding
import Cachegate.Store.Location
import Cachegate.Handler.Isolation
import Cachegate.Cache.Memory
import Cachegate.Handler.HeadGet
import Cachegate.Library.History
import Cachegate.Inflight.Verdict
import Cachegate.Handler.FailedPut
import Cachegate.Auth.Bearer
import Cachegate.Store.Azure
import Cachegate.Store.Rendering
import Cachegate.Handler.Head
import Cachegate.Handler.Prefetch
import Cachegate.Handler.Stats
import Cachegate.Handler.Rest
import Cachegate.Handler.Late
import Cachegate.Handler.Ledger
import Cachegate.Handler.Versions
import Cachegate.Handler.Origins
import Cachegate.Handler.Independence
import Cachegate.Handler.Lives
import Cachegate.Handler.Warm
import Cachegate.Inflight.Shared
import Cachegate.Auth.Refusals
import Cachegate.Auth.Integrity
import Cachegate.Auth.Served
import Cachegate.Auth.Keys
import Cachegate.Store.Build
import Cachegate.Startup
