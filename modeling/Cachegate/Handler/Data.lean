import Mathlib.Logic.Function.Basic

/-! The data the handlers share: cache keys and entries, the cache backend,
upstream errors, and the request counters. -/

namespace Cachegate

abbrev Bytes := List UInt8

structure CacheKey where
  bucketId : String
  path : String
deriving DecidableEq, Repr

structure CacheEntry where
  bytes : Bytes
  contentType : Option String
deriving DecidableEq, Repr

/-- `FoyerCache`: the entries that a `get` can return and the insert counter.
Foyer may forget an entry at any time, which is a step of the environment. -/
structure FoyerCache where
  entries : CacheKey → Option CacheEntry
  inserts : Nat

namespace FoyerCache

def empty : FoyerCache := ⟨fun _ => none, 0⟩

/-- A backend error is logged and answered as a miss. -/
def get (cache : FoyerCache) (key : CacheKey) (backendFails : Bool) : Option CacheEntry :=
  if backendFails then none else cache.entries key

def put (cache : FoyerCache) (key : CacheKey) (bytes : Bytes) (contentType : Option String) : FoyerCache where
  entries := Function.update cache.entries key (some ⟨bytes, contentType⟩)
  inserts := cache.inserts + 1

def evict (cache : FoyerCache) (key : CacheKey) : FoyerCache :=
  { cache with entries := Function.update cache.entries key none }

end FoyerCache

/-- The variants of `object_store::Error` that the code tells apart. -/
inductive StoreError where
  | notFound
  | permissionDenied
  | unauthenticated
  | notSupported
  | precondition
  | other
deriving DecidableEq, Repr

inductive UpstreamErrorKind where
  | notFound
  | permissionDenied
  | unauthenticated
  | notSupported
  | precondition
  | other
deriving DecidableEq, Repr

def UpstreamErrorKind.fromStoreError : StoreError → UpstreamErrorKind
  | .notFound => .notFound
  | .permissionDenied => .permissionDenied
  | .unauthenticated => .unauthenticated
  | .notSupported => .notSupported
  | .precondition => .precondition
  | .other => .other

/-- The labels `"GET"`, `"HEAD"` and `"PUT"` of the handlers. -/
inductive Method where
  | get
  | head
  | put
deriving DecidableEq, Repr

/-- The status codes the code answers with. -/
inductive StatusCode where
  | ok
  | badRequest
  | unauthorized
  | notFound
  | methodNotAllowed
  | badGateway
deriving DecidableEq, Repr

/-- Counters by their labels; of the latency histogram, the number of samples. -/
structure Metrics where
  requestsTotal : Method × StatusCode → Nat
  authFailTotal : String → Nat
  cacheHitTotal : Method → Nat
  cacheMissTotal : Method → Nat
  upstreamOkTotal : Method → Nat
  upstreamErrTotal : Method × UpstreamErrorKind → Nat
  upstreamLatencyMs : Method → Nat

namespace Metrics

def new : Metrics := ⟨fun _ => 0, fun _ => 0, fun _ => 0, fun _ => 0, fun _ => 0, fun _ => 0, fun _ => 0⟩

/-- `counter(labels).increase(1)`. -/
def bump {Label : Type} [DecidableEq Label] (counter : Label → Nat) (label : Label) : Label → Nat :=
  Function.update counter label (counter label + 1)

def incRequests (m : Metrics) (method : Method) (status : StatusCode) : Metrics :=
  { m with requestsTotal := bump m.requestsTotal (method, status) }

def incAuthFail (m : Metrics) (method : String) : Metrics :=
  { m with authFailTotal := bump m.authFailTotal method }

def incCacheHit (m : Metrics) (method : Method) : Metrics :=
  { m with cacheHitTotal := bump m.cacheHitTotal method }

def incCacheMiss (m : Metrics) (method : Method) : Metrics :=
  { m with cacheMissTotal := bump m.cacheMissTotal method }

def incUpstreamOk (m : Metrics) (method : Method) : Metrics :=
  { m with upstreamOkTotal := bump m.upstreamOkTotal method }

def incUpstreamErr (m : Metrics) (method : Method) (kind : UpstreamErrorKind) : Metrics :=
  { m with upstreamErrTotal := bump m.upstreamErrTotal (method, kind) }

def observeUpstreamLatencyMs (m : Metrics) (method : Method) : Metrics :=
  { m with upstreamLatencyMs := bump m.upstreamLatencyMs method }

end Metrics

end Cachegate
