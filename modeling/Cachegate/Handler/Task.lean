import Cachegate.Handler.Response
import Cachegate.Inflight.Model
import Cachegate.Library.TaskPool
import Mathlib.Algebra.Group.Nat.Defs

/-! The handlers and the prefetch task as state machines over their await
points. Each transition runs the code from one await to the next, with the
reply of the awaited call given by the environment. -/

namespace Cachegate

inductive PointerWidth where
  | w32
  | w64
deriving DecidableEq, Repr

def PointerWidth.bits : PointerWidth → Nat
  | .w32 => 32
  | .w64 => 64

/-- A remote bucket or container, behind one or several bucket ids. -/
abbrev StoreId := Nat

/-- A stored object: its store and its location there. -/
structure ObjectId where
  store : StoreId
  location : String
deriving DecidableEq, Repr

/-- The parts of `AppState` that never change, and the libraries called. -/
structure AppConfig where
  stores : String → Option StoreId
  /-- `object_store::path::Path::from`. -/
  location : String → String
  cacheMaxObjectBytes : UInt64
  pointerWidth : PointerWidth
  mime : MimeRules
  /-- Whether a failed `WriteMultipart::finish` has aborted its upload, as it does
  when `complete` fails, or left it open, as it does when a part has failed. -/
  finishAborts : Nat → StoreError → Bool

namespace AppConfig

/-- `state.cache_max_object_bytes as usize`, which truncates on 32 bits. -/
def capBytes (cfg : AppConfig) : Nat := cfg.cacheMaxObjectBytes.toNat % 2 ^ cfg.pointerWidth.bits

/-- The object that a key names, when its bucket is configured. -/
def object (cfg : AppConfig) (key : CacheKey) : Option ObjectId :=
  (cfg.stores key.bucketId).map fun store => ⟨store, cfg.location key.path⟩

end AppConfig

abbrev InflightResult := Except AppError CacheEntry

/-- A multipart upload, from `put_multipart` on. -/
inductive Upload where
  | open
  | completed
  | aborted
deriving DecidableEq, Repr

/-- What all tasks share: the rest of `AppState`, and the stores themselves.
`getCalls` counts the calls of `store.get` made on behalf of each key. -/
structure Shared where
  cache : FoyerCache
  upstream : ObjectId → Option Bytes
  flights : Inflight CacheKey InflightResult
  metrics : Metrics
  uploads : Nat → Option Upload
  nextUpload : Nat
  getCalls : CacheKey → Nat

/-- How an awaited call ends. `ready` is success where the call can fail. -/
inductive Reply where
  | ready
  | failed (err : StoreError)
  | cacheError
  | streamError
deriving DecidableEq, Repr

/-- A task is suspended at an await point, has returned, or was dropped there. -/
inductive Phase (Await Result : Type) where
  | running (at_ : Await)
  | returned (result : Result)
  | dropped (at_ : Await)

/-- The await points of `fetch_and_cache_entry`: `store.get`, `result.bytes`
with the body under way, and `cache.put`. In `missing` the store has looked and
its `NotFound` is under way. -/
inductive FetchAwait where
  | get (object : ObjectId)
  | missing (object : ObjectId)
  | bytes (object : ObjectId) (data : Bytes)
  | put (data : Bytes) (contentType : Option String)

/-- A leader fetches, then awaits the two locks of `complete`. -/
inductive LeaderAwait where
  | fetch (stage : FetchAwait)
  | store (result : InflightResult)
  | release (result : InflightResult)

/-- The await points of `get_object`. `follow` is the gap between `acquire`
returning an entry and `wait` creating its future. -/
inductive GetAwait where
  | lookup
  | acquire
  | leader (guard : EntryId) (stage : LeaderAwait)
  | follow (entry : EntryId)
  | notified (wait : WaitId)
  | result (wait : WaitId)
  | recheck (leaderEntry : CacheEntry)
  | fallback (stage : FetchAwait)

/-- The await points of `head_object`; `answered` has the size from upstream. -/
inductive HeadAwait where
  | lookup
  | head (object : ObjectId)
  | answered (size : Nat)

/-- The await points of the task spawned by `spawn_head_prefetch`. -/
inductive PrefetchAwait where
  | acquire
  | leader (guard : EntryId) (stage : LeaderAwait)

/-- The await points of `put_object`. In `aborted` and `committed` the stores have
closed the upload and the handler has yet to see it. -/
inductive PutAwait where
  | head (object : ObjectId)
  | init (object : ObjectId)
  | next (object : ObjectId) (upload : Nat) (rest : List Bytes) (loop : UploadLoop)
  | abort (upload : Nat)
  | aborted
  | finish (object : ObjectId) (upload : Nat) (loop : UploadLoop)
  | committed (object : ObjectId) (loop : UploadLoop)
  | insert (object : ObjectId) (loop : UploadLoop)

structure PutRequest where
  key : CacheKey
  headers : HeaderMap
  /-- The chunks that the body stream would yield. -/
  body : List Bytes
deriving DecidableEq, Repr

/-- A request that has passed the middleware and reached its handler. -/
inductive Request where
  | get (key : CacheKey)
  | head (key : CacheKey) (params : Query)
  | put (request : PutRequest)

def Request.key : Request → CacheKey
  | .get key | .head key _ => key
  | .put request => request.key

inductive Task where
  | get (key : CacheKey) (phase : Phase GetAwait HandlerResult)
  | head (key : CacheKey) (params : Query) (phase : Phase HeadAwait HandlerResult)
  | put (request : PutRequest) (phase : Phase PutAwait HandlerResult)
  | prefetch (key : CacheKey) (phase : Phase PrefetchAwait Unit)

namespace Shared

def count (s : Shared) (update : Metrics → Metrics) : Shared := { s with metrics := update s.metrics }

/-- `state.cache.get`; a backend error reads as a miss. -/
def lookup (s : Shared) (key : CacheKey) : Reply → Option (Option CacheEntry)
  | .ready => some (s.cache.get key false)
  | .cacheError => some (s.cache.get key true)
  | _ => none

/-- `state.cache.put`. -/
def insert (s : Shared) (key : CacheKey) (bytes : Bytes) (contentType : Option String) : Shared :=
  { s with cache := s.cache.put key bytes contentType }

/-- The last lines of a handler count the answer under its method and status. -/
def answered (s : Shared) (method : Method) (result : HandlerResult) : Shared :=
  s.count (·.incRequests method (statusOf result))

def respond {Await : Type} (s : Shared) (method : Method) (result : HandlerResult) :
    Shared × Phase Await HandlerResult :=
  (s.answered method result, .returned result)

/-- An upstream call has failed: its latency and its error kind are counted. -/
def upstreamFailed (s : Shared) (method : Method) (err : StoreError) : Shared :=
  s.count fun m =>
    (m.observeUpstreamLatencyMs method).incUpstreamErr method (.fromStoreError err)

def upstreamSucceeded (s : Shared) (method : Method) : Shared :=
  s.count fun m => (m.observeUpstreamLatencyMs method).incUpstreamOk method

/-- An upload becomes visible: the object is replaced as a whole. -/
def commit (s : Shared) (object : ObjectId) (bytes : Bytes) : Shared :=
  { s with upstream := Function.update s.upstream object (some bytes) }

def setUpload (s : Shared) (upload : Nat) (state : Upload) : Shared :=
  { s with uploads := Function.update s.uploads upload (some state) }

end Shared

/-- What a part of a handler comes to: a further await, or its own result. -/
abbrev Outcome (Await Result : Type) := Shared × (Await ⊕ Result)

section Fetch

variable (cfg : AppConfig)

/-- `fetch_and_cache_entry` up to its first await. -/
def fetchStart (s : Shared) (key : CacheKey) : Outcome FetchAwait InflightResult :=
  match cfg.object key with
  | none => (s, .inr (.error (.notFound "unknown bucket")))
  | some object => ({ s with getCalls := Metrics.bump s.getCalls key }, .inl (.get object))

/-- `fetch_and_cache_entry` from one await to the next. -/
def fetchPoll (s : Shared) (key : CacheKey) (method : Method) :
    FetchAwait → Reply → Option (Outcome FetchAwait InflightResult)
  | .get object, .ready =>
      match s.upstream object with
      | some data => some (s, .inl (.bytes object data))
      | none => some (s, .inl (.missing object))
  | .missing _, .ready =>
      some (s.upstreamFailed method .notFound, .inr (.error (.fromStore .notFound)))
  | .get _, .failed err => some (s.upstreamFailed method err, .inr (.error (.fromStore err)))
  | .bytes _ data, .ready =>
      let s := s.upstreamSucceeded method
      let contentType := some (resolveContentType cfg.mime key.path data)
      if cfg.capBytes = 0 ∨ cfg.capBytes < data.length then
        some (s, .inr (.ok ⟨data, contentType⟩))
      else some (s, .inl (.put data contentType))
  | .bytes _ _, .failed err => some (s.upstreamFailed method err, .inr (.error (.fromStore err)))
  | .put data contentType, .ready =>
      some (s.insert key data contentType, .inr (.ok ⟨data, contentType⟩))
  | _, _ => none

/-- The leader's fetch has a further await, or `complete` is called. -/
def leaderNext (guard : EntryId) : Outcome FetchAwait InflightResult → Shared × LeaderAwait
  | (s, .inl stage) => (s, .fetch stage)
  | (s, .inr result) => ({ s with flights := s.flights.beginComplete guard result }, .store result)

/-- The leader branch of `get_object` and of the prefetch task. -/
def leaderPoll (s : Shared) (key : CacheKey) (method : Method) (guard : EntryId) :
    LeaderAwait → Reply → Option (Outcome LeaderAwait InflightResult)
  | .fetch stage, reply =>
      (fetchPoll cfg s key method stage reply).map fun outcome =>
        let (s, stage) := leaderNext guard outcome
        (s, .inl stage)
  | .store result, .ready =>
      some ({ s with flights := s.flights.storeResult guard result }, .inl (.release result))
  | .release result, .ready => some ({ s with flights := s.flights.finishRelease guard }, .inr result)
  | _, _ => none

end Fetch

section Handlers

variable (cfg : AppConfig)

/-- `get_object` up to its first await. -/
def getStart (s : Shared) (key : CacheKey) : Shared × Phase GetAwait HandlerResult :=
  if invalidPath key.path then s.respond .get (.error (.badRequest "invalid object path"))
  else (s, .running .lookup)

def getPoll (s : Shared) (key : CacheKey) :
    GetAwait → Reply → Option (Shared × Phase GetAwait HandlerResult)
  | .lookup, reply =>
      (s.lookup key reply).map fun
        | some entry => (s.count (·.incCacheHit .get)).respond .get (.ok (buildResponse entry true))
        | none => (s.count (·.incCacheMiss .get), .running .acquire)
  | .acquire, .ready =>
      match s.flights.acquire key with
      | (.leader guard, flights) =>
          let (s, stage) := leaderNext guard (fetchStart cfg { s with flights } key)
          some (s, .running (.leader guard stage))
      | (.follower entry, flights) => some ({ s with flights }, .running (.follow entry))
  | .leader guard stage, reply =>
      (leaderPoll cfg s key .get guard stage reply).map fun
        | (s, .inl stage) => (s, .running (.leader guard stage))
        | (s, .inr result) => s.respond .get (result.map (buildResponse · false))
  | .follow entry, .ready =>
      let (wait, flights) := s.flights.callWait entry
      some ({ s with flights }, .running (.notified wait))
  | .notified wait, .ready =>
      (s.flights.wake wait).map fun flights => ({ s with flights }, .running (.result wait))
  | .result wait, .ready =>
      (s.flights.readResult wait).map fun
        | (some (.ok leaderEntry), flights) => ({ s with flights }, .running (.recheck leaderEntry))
        | (some (.error err), flights) => { s with flights }.respond .get (.error err)
        | (none, flights) =>
            match fetchStart cfg { s with flights } key with
            | (s, .inl stage) => (s, .running (.fallback stage))
            | (s, .inr result) => s.respond .get (result.map (buildResponse · false))
  | .recheck leaderEntry, reply =>
      (s.lookup key reply).map fun
        | some cached => s.respond .get (.ok (buildResponse cached true))
        | none => s.respond .get (.ok (buildResponse leaderEntry false))
  | .fallback stage, reply =>
      (fetchPoll cfg s key .get stage reply).map fun
        | (s, .inl stage) => (s, .running (.fallback stage))
        | (s, .inr result) => s.respond .get (result.map (buildResponse · false))
  | _, _ => none

/-- `head_object` up to its first await. -/
def headStart (s : Shared) (key : CacheKey) : Shared × Phase HeadAwait HandlerResult :=
  if invalidPath key.path then s.respond .head (.error (.badRequest "invalid object path"))
  else (s, .running .lookup)

/-- `head_object`; the flag says whether the prefetch task is spawned. The `?`
and the `return` leave the handler before its answer is counted. -/
def headPoll (s : Shared) (key : CacheKey) (params : Query) :
    HeadAwait → Reply → Option (Shared × Phase HeadAwait HandlerResult × Bool)
  | .lookup, reply =>
      (s.lookup key reply).map fun
        | some entry =>
            let (s, phase) := (s.count (·.incCacheHit .head)).respond .head (.ok (buildHeadResponse entry))
            (s, phase, false)
        | none =>
            let s := s.count (·.incCacheMiss .head)
            match cfg.object key with
            | none => (s, .returned (.error (.notFound "unknown bucket")), false)
            | some object => (s, .running (.head object), false)
  | .head object, .ready => (s.upstream object).map fun data => (s, .running (.answered data.length), false)
  | .head _, .failed err =>
      some (s.upstreamFailed .head err, .returned (.error (.fromStore err)), false)
  | .answered size, .ready =>
      let response := buildHeadResponseWithMeta size (cfg.mime.fromPath key.path)
      let (s, phase) := (s.upstreamSucceeded .head).respond .head (.ok response)
      some (s, phase, parsePrefetch params)
  | _, _ => none

def prefetchPoll (s : Shared) (key : CacheKey) :
    PrefetchAwait → Reply → Option (Shared × Phase PrefetchAwait Unit)
  | .acquire, .ready =>
      match s.flights.acquire key with
      | (.leader guard, flights) =>
          let (s, stage) := leaderNext guard (fetchStart cfg { s with flights } key)
          some (s, .running (.leader guard stage))
      | (.follower _, flights) => some ({ s with flights }, .returned ())
  | .leader guard stage, reply =>
      (leaderPoll cfg s key .head guard stage reply).map fun
        | (s, .inl stage) => (s, .running (.leader guard stage))
        | (s, .inr _) => (s, .returned ())
  | _, _ => none

/-- `put_object` up to its first await. The `?` on an unknown bucket leaves the
handler before its answer is counted. -/
def putStart (s : Shared) (request : PutRequest) : Shared × Phase PutAwait HandlerResult :=
  if invalidPath request.key.path then s.respond .put (.error (.badRequest "invalid object path"))
  else
    match cfg.object request.key with
    | none => (s, .returned (.error (.notFound "unknown bucket")))
    | some object => (s, .running (.head object))

def putPoll (s : Shared) (request : PutRequest) :
    PutAwait → Reply → Option (Shared × Phase PutAwait HandlerResult)
  -- Whatever the preliminary head check answers is only logged.
  | .head object, .ready => some (s, .running (.init object))
  | .head object, .failed _ => some (s, .running (.init object))
  | .init object, .ready =>
      let upload := s.nextUpload
      some ({ s.setUpload upload .open with nextUpload := upload + 1 },
        .running (.next object upload request.body (.start cfg.capBytes)))
  | .init _, .failed err => some ((s.upstreamFailed .put err).respond .put (.error (.fromStore err)))
  | .next object upload (chunk :: rest) loop, .ready =>
      some (s, .running (.next object upload rest (loop.push cfg.capBytes chunk)))
  | .next object upload [] loop, .ready => some (s, .running (.finish object upload loop))
  | .next _ upload _ _, .streamError => some (s, .running (.abort upload))
  -- The result of the abort is ignored.
  | .abort upload, .ready => some (s.setUpload upload .aborted, .running .aborted)
  | .abort _, .failed _ => some (s.respond .put (.error (.badRequest "invalid request body")))
  | .aborted, .ready => some (s.respond .put (.error (.badRequest "invalid request body")))
  | .finish object upload loop, .ready =>
      some ((s.commit object loop.uploaded).setUpload upload .completed, .running (.committed object loop))
  -- A `finish` that fails has stored nothing.
  | .finish _ upload _, .failed err =>
      let s := if cfg.finishAborts upload err then s.setUpload upload .aborted else s
      some ((s.upstreamFailed .put err).respond .put (.error (.fromStore err)))
  | .committed object loop, .ready =>
      let s := s.upstreamSucceeded .put
      if loop.capped then some (s.respond .put (.ok buildPutResponse))
      else some (s, .running (.insert object loop))
  | .insert _ loop, .ready =>
      let contentType := contentTypeFromHeaders cfg.mime request.headers request.key.path
      some ((s.insert request.key loop.buffer contentType).respond .put (.ok buildPutResponse))
  | _, _ => none

end Handlers

namespace Inflight

/-- Dropping a future drops the guard or the call of `wait` it holds. -/
def dropGet (s : Inflight CacheKey InflightResult) : GetAwait → Inflight CacheKey InflightResult
  | .leader guard _ => s.dropGuard guard
  | .notified wait | .result wait => (s.cancelWait wait).getD s
  | _ => s

def dropPrefetch (s : Inflight CacheKey InflightResult) : PrefetchAwait → Inflight CacheKey InflightResult
  | .leader guard _ => s.dropGuard guard
  | .acquire => s

end Inflight

namespace Task

/-- The key that the task works for. -/
def key : Task → CacheKey
  | .get key _ | .head key _ _ | .prefetch key _ => key
  | .put request _ => request.key

variable (cfg : AppConfig)

def spawn (s : Shared) : Request → Shared × Task
  | .get key =>
      let (s, phase) := getStart s key
      (s, .get key phase)
  | .head key params =>
      let (s, phase) := headStart s key
      (s, .head key params phase)
  | .put request =>
      let (s, phase) := putStart cfg s request
      (s, .put request phase)

/-- One segment of a task. After a PUT was dropped the store may still carry out
the call that was under way: open the upload, abort it or commit it. -/
def poll (s : Shared) : Task → Reply → Option (Shared × Task × Option Task)
  | .get key (.running at_), reply =>
      (getPoll cfg s key at_ reply).map fun (s, phase) => (s, .get key phase, none)
  | .head key params (.running at_), reply =>
      (headPoll cfg s key params at_ reply).map fun (s, phase, spawned) =>
        (s, .head key params phase, if spawned then some (.prefetch key (.running .acquire)) else none)
  | .put request (.running at_), reply =>
      (putPoll cfg s request at_ reply).map fun (s, phase) => (s, .put request phase, none)
  | .prefetch key (.running at_), reply =>
      (prefetchPoll cfg s key at_ reply).map fun (s, phase) => (s, .prefetch key phase, none)
  | .put request (.dropped (.init object)), .ready =>
      let upload := s.nextUpload
      some ({ s.setUpload upload .open with nextUpload := upload + 1 },
        .put request (.dropped (.next object upload request.body (.start cfg.capBytes))), none)
  | .put request (.dropped (.abort upload)), .ready =>
      some (s.setUpload upload .aborted, .put request (.dropped .aborted), none)
  | .put request (.dropped (.finish object upload loop)), .ready =>
      some ((s.commit object loop.uploaded).setUpload upload .completed,
        .put request (.dropped (.committed object loop)), none)
  | _, _ => none

def drop (s : Shared) : Task → Option (Shared × Task)
  | .get key (.running at_) => some ({ s with flights := s.flights.dropGet at_ }, .get key (.dropped at_))
  | .head key params (.running at_) => some (s, .head key params (.dropped at_))
  | .put request (.running at_) => some (s, .put request (.dropped at_))
  | .prefetch key (.running at_) =>
      some ({ s with flights := s.flights.dropPrefetch at_ }, .prefetch key (.dropped at_))
  | _ => none

end Task

/-- Steps that no request takes: the cache evicts, or the task spawned by a
dropped guard gets the map lock. -/
inductive Event where
  | evict (key : CacheKey)
  | release (guard : EntryId)

def Shared.env (s : Shared) : Event → Option Shared
  | .evict key => some { s with cache := s.cache.evict key }
  | .release guard =>
      match s.flights.guards guard with
      | some ⟨_, .dropped⟩ => some { s with flights := s.flights.finishRelease guard }
      | _ => none

abbrev Proxy := TaskPool.State Shared Task

abbrev ProxyAction := TaskPool.Action Request Reply Event

/-- The proxy: every request becomes a task of the pool. -/
def proxy (cfg : AppConfig) : TaskPool.Program Shared Request Task Reply Event where
  spawn := Task.spawn cfg
  poll := Task.poll cfg
  drop := Task.drop
  env := Shared.env

/-- The proxy as it starts: no request yet. The cache may hold what foyer has
recovered from disk. -/
def Shared.initial (upstream : ObjectId → Option Bytes) (cache : FoyerCache) : Shared where
  cache
  upstream
  flights := .new
  metrics := .new
  uploads := fun _ => none
  nextUpload := 0
  getCalls := fun _ => 0

def Proxy.initial (upstream : ObjectId → Option Bytes) (cache : FoyerCache) : Proxy :=
  .start (.initial upstream cache)

/-- One bucket id, with locations as they are written, and a `finish` that aborts
what it cannot complete. -/
def AppConfig.single (bucketId : String) (cacheMaxObjectBytes : UInt64) (mime : MimeRules) : AppConfig where
  stores := fun name => if name = bucketId then some 0 else none
  location := id
  cacheMaxObjectBytes
  pointerWidth := .w64
  mime
  finishAborts := fun _ _ => true

theorem AppConfig.single_injective {bucketId : String} {cap : UInt64} {mime : MimeRules} {key key' : CacheKey}
    {at_ : ObjectId} (known : (single bucketId cap mime).object key = some at_)
    (known' : (single bucketId cap mime).object key' = some at_) : key = key' := by
  obtain ⟨name, path⟩ := key
  obtain ⟨name', path'⟩ := key'
  simp only [object, single, id, Option.map_eq_some_iff] at known known'
  obtain ⟨_, named, rfl⟩ := known
  obtain ⟨_, named', same⟩ := known'
  split at named <;> cases named
  split at named' <;> cases named'
  cases same
  simp_all

end Cachegate
