import Cachegate.Auth.Presign
import Cachegate.Handler.Runs

/-! The middleware in front of the handlers, and the service as a whole: what
reaches a handler was authorised, and what did not left nothing but a count. -/

namespace Cachegate

open Transition TaskPool

structure PathParams where
  bucketId : String
  path : String
deriving DecidableEq, Repr

/-- A request for a protected route, before any extraction. -/
structure HttpRequest where
  method : String
  uri : String
  headers : HeaderMap
  body : List Bytes
deriving DecidableEq, Repr

/-- What is given to the middleware: `state.auth`, and axum's `Path` and `Query`
extractors, which read nothing but the request's URI. -/
structure Gate where
  auth : AuthState
  libs : AuthLibraries
  path : String → Option PathParams
  query : String → Option Query

/-- The bearer token first, then the `sig` parameter; the later error is kept. -/
def Gate.authenticate (gate : Gate) (now : Int) (request : HttpRequest) (params : PathParams) (query : Query) :
    Except AuthError AuthMethod :=
  let bearer := (parseBearerToken request.headers).map gate.auth.verifyBearer
  match bearer with
  | some (.ok _) => .ok .bearer
  | _ =>
      match query.get "sig" with
      | some sig =>
          (gate.auth.verify gate.libs now request.method params.bucketId params.path sig).map fun _ => .presign
      | none =>
          match bearer with
          | some (.error err) => .error err
          | _ => .error .missingAuth

/-- `auth_middleware` up to `next.run`. -/
def authMiddleware (gate : Gate) (now : Int) (s : Shared) (request : HttpRequest) :
    Shared × Except AppError AuthMethod :=
  match gate.path request.uri with
  | none => (s, .error (.badRequest "invalid path"))
  | some params =>
      match gate.query request.uri with
      | none => (s, .error (.badRequest "invalid query"))
      | some query =>
          match gate.authenticate now request params query with
          | .ok method => (s, .ok method)
          | .error _ => (s.count (·.incAuthFail request.method), .error (.unauthorized "invalid auth"))

/-- `next.run`: the route's handlers extract from the same URI once more. -/
def Gate.route (gate : Gate) (request : HttpRequest) : Except StatusCode Request :=
  match request.method, gate.path request.uri, gate.query request.uri with
  | "GET", some params, _ => .ok (.get ⟨params.bucketId, params.path⟩)
  | "HEAD", some params, some query => .ok (.head ⟨params.bucketId, params.path⟩ query)
  | "PUT", some params, _ => .ok (.put ⟨⟨params.bucketId, params.path⟩, request.headers, request.body⟩)
  | "GET", _, _ | "HEAD", _, _ | "PUT", _, _ => .error .badRequest
  | _, _, _ => .error .methodNotAllowed

/-- What became of a request. -/
inductive Verdict where
  | refused (err : AppError)
  | handled (method : AuthMethod) (index : Nat)
  | unrouted (status : StatusCode)
deriving DecidableEq, Repr

structure Arrival where
  now : Int
  request : HttpRequest
  verdict : Verdict
deriving DecidableEq, Repr

/-- The running handlers, and the requests that have arrived, latest first. -/
structure Service where
  pool : Proxy
  arrivals : List Arrival

inductive ServiceAction where
  | arrive (now : Int) (request : HttpRequest)
  | inner (action : ProxyAction)

namespace Service

variable (gate : Gate) (cfg : AppConfig)

def arrive (s : Service) (now : Int) (request : HttpRequest) : Service :=
  match authMiddleware gate now s.pool.shared request with
  | (shared, .error err) => ⟨s.pool.reshare shared, ⟨now, request, .refused err⟩ :: s.arrivals⟩
  | (_, .ok method) =>
      match gate.route request with
      | .error status => ⟨s.pool, ⟨now, request, .unrouted status⟩ :: s.arrivals⟩
      | .ok job =>
          let (shared, task) := (proxy cfg).spawn s.pool.shared job
          ⟨(s.pool.reshare shared).push task, ⟨now, request, .handled method s.pool.next⟩ :: s.arrivals⟩

/-- No handler starts but through the middleware. -/
def step (s : Service) : ServiceAction → Option Service
  | .arrive now request => some (s.arrive gate cfg now request)
  | .inner (.start _) => none
  | .inner action => ((proxy cfg).step s.pool action).map ({ s with pool := · })

def system : System Service ServiceAction := ⟨step gate cfg⟩

def initial (upstream : ObjectId → Option Bytes) (cache : FoyerCache) : Service := ⟨.initial upstream cache, []⟩

end Service

/-- The request's bearer token is the configured one. -/
def BearerAuthorised (gate : Gate) (request : HttpRequest) : Prop :=
  ∃ token, gate.auth.bearerToken = some token ∧ parseBearerToken request.headers = some token

/-- The request's own `sig` carries a payload that was signed and grants it. -/
def PresignAuthorised (gate : Gate) (signed : Bytes → Prop) (now : Int) (request : HttpRequest)
    (bucketId path : String) : Prop :=
  ∃ query sig payload64 signature64 message payload, gate.query request.uri = some query ∧
    query.get "sig" = some sig ∧ splitOnce '.' sig = some (payload64, signature64) ∧
    gate.libs.decode payload64 = some message ∧ signed message ∧ gate.libs.fromSlice message = some payload ∧
    payload.Grants gate.libs now request.method bucketId path

def Authorised (gate : Gate) (signed : Bytes → Prop) (now : Int) (request : HttpRequest) (bucketId path : String) :
    Prop :=
  BearerAuthorised gate request ∨ PresignAuthorised gate signed now request bucketId path

/-- The request that a handler works on. -/
def Task.request? : Task → Option Request
  | .get key _ => some (.get key)
  | .head key params _ => some (.head key params)
  | .put request _ => some (.put request)
  | .prefetch _ _ => none

section Middleware

variable {gate : Gate} {cfg : AppConfig} {now : Int} {request : HttpRequest} {s t : Service}

/-- What the service does with a request, by what the middleware finds. -/
inductive Arrives (gate : Gate) (cfg : AppConfig) (s : Service) (now : Int) (request : HttpRequest) : Service → Prop
  | malformed (message : String) :
      Arrives gate cfg s now request ⟨s.pool, ⟨now, request, .refused (.badRequest message)⟩ :: s.arrivals⟩
  | unauthorised :
      Arrives gate cfg s now request ⟨s.pool.reshare (s.pool.shared.count (·.incAuthFail request.method)),
        ⟨now, request, .refused (.unauthorized "invalid auth")⟩ :: s.arrivals⟩
  | unrouted (extracted : gate.path request.uri = some params) (queried : gate.query request.uri = some query)
      (authentic : gate.authenticate now request params query = .ok method) (status : StatusCode) :
      Arrives gate cfg s now request ⟨s.pool, ⟨now, request, .unrouted status⟩ :: s.arrivals⟩
  | handled (extracted : gate.path request.uri = some params) (queried : gate.query request.uri = some query)
      (authentic : gate.authenticate now request params query = .ok method) (routed : gate.route request = .ok job)
      (spawned : Spawned cfg s.pool.shared job shared task) :
      Arrives gate cfg s now request ⟨(s.pool.reshare shared).push task,
        ⟨now, request, .handled method s.pool.next⟩ :: s.arrivals⟩

theorem arrive_cases (gate : Gate) (cfg : AppConfig) (s : Service) (now : Int) (request : HttpRequest) :
    Arrives gate cfg s now request (s.arrive gate cfg now request) := by
  unfold Service.arrive authMiddleware
  cases extracted : gate.path request.uri with
  | none => exact .malformed "invalid path"
  | some params =>
    cases queried : gate.query request.uri with
    | none => exact .malformed "invalid query"
    | some query =>
      cases authentic : gate.authenticate now request params query with
      | error why =>
        simp only [authentic]
        exact .unauthorised
      | ok method =>
        simp only [authentic]
        cases routed : gate.route request with
        | error status => exact .unrouted extracted queried authentic status
        | ok job => exact .handled extracted queried authentic routed (spawn_step cfg s.pool.shared job)

theorem map_ok {ε α : Type} {f : Unit → α} {value : α} {result : Except ε Unit} (mapped : result.map f = .ok value) :
    result = .ok () := by
  cases result with
  | error err => cases mapped
  | ok passed => rfl

/-- A request that is authenticated presents the token or an accepted `sig`. -/
theorem authenticate_ok (authentic : gate.authenticate now request params query = .ok method) :
    BearerAuthorised gate request ∨ ∃ sig, query.get "sig" = some sig ∧
      gate.auth.verify gate.libs now request.method params.bucketId params.path sig = .ok () := by
  unfold Gate.authenticate at authentic
  cases parsed : parseBearerToken request.headers with
  | none =>
    simp only [parsed, Option.map_none] at authentic
    refine .inr ?_
    split at authentic
    · rename_i sig found
      exact ⟨sig, found, map_ok authentic⟩
    · cases authentic
  | some token =>
    cases verified : gate.auth.verifyBearer token with
    | ok passed => exact .inl ⟨token, (verifyBearer_ok gate.auth token).mp verified, parsed⟩
    | error why =>
      simp only [parsed, Option.map_some, verified] at authentic
      refine .inr ?_
      split at authentic
      · rename_i sig found
        exact ⟨sig, found, map_ok authentic⟩
      · cases authentic

theorem authenticate_authorised {signed : Bytes → Prop}
    (ideal : ∀ message signature, gate.libs.verifyStrict gate.auth.verifyingKey message signature = true →
      signed message)
    (queried : gate.query request.uri = some query)
    (authentic : gate.authenticate now request params query = .ok method) :
    Authorised gate signed now request params.bucketId params.path := by
  rcases authenticate_ok authentic with bearer | ⟨sig, found, verified⟩
  · exact .inl bearer
  · obtain ⟨message, payload, signature, accepts⟩ := verify_ok.mp verified
    obtain ⟨payload64, signature64, parts, decoded, _⟩ := accepts.parts
    exact .inr ⟨query, sig, payload64, signature64, message, payload, queried, found, parts, decoded,
      ideal message signature accepts.verified, accepts.parsed, accepts.grants⟩

/-- The handler works on the bucket and path that were authorised. -/
theorem route_key (extracted : gate.path request.uri = some params) (routed : gate.route request = .ok job) :
    job.key = ⟨params.bucketId, params.path⟩ := by
  unfold Gate.route at routed
  split at routed <;> cases routed <;> simp_all [Request.key]

end Middleware

section Inner

variable {cfg : AppConfig} {key : CacheKey} {s s' : Shared} {guard : EntryId}

/-- The handlers leave the failures that the middleware has counted alone. -/
def SameFailures (s s' : Shared) : Prop := s'.metrics.authFailTotal = s.metrics.authFailTotal

theorem PutStep.failures (step : PutStep cfg request s at_ reply s' phase) : SameFailures s s' := by
  cases step <;> rfl

theorem Spawned.failures (spawned : Spawned cfg s job s' task) :
    SameFailures s s' ∧ task.request? = some job := by
  cases spawned <;> exact ⟨rfl, rfl⟩

/-- A step of the proxy that starts no handler: every handler was there before,
with the same request. -/
theorem handlers_step {s t : Proxy} (taken : (proxy cfg).step s action = some t)
    (started : ∀ job, action ≠ .start job) :
    SameFailures s.shared t.shared ∧ ∀ index task job, t.tasks index = some task → task.request? = some job →
      ∃ before, s.tasks index = some before ∧ before.request? = some job := by
  have replaced {shared : Shared} {index : Nat} {task task' : Task} (present : s.tasks index = some task)
      (same : task'.request? = task.request?) : ∀ i other job,
      (s.replace index shared task').tasks i = some other → other.request? = some job →
        ∃ before, s.tasks i = some before ∧ before.request? = some job := by
    intro i other job found requested
    rcases State.replace_tasks found with ⟨rfl, rfl⟩ | ⟨_, before⟩
    · exact ⟨task, present, same ▸ requested⟩
    · exact ⟨other, before, requested⟩
  cases proxy_step taken with
  | start => exact absurd rfl (started _)
  | get present polled => exact ⟨polled.untouched.failures, replaced present rfl⟩
  | put present polled => exact ⟨polled.failures, replaced present rfl⟩
  | prefetch present polled => exact ⟨polled.untouched.failures, replaced present rfl⟩
  | @head index key params at_ reply shared phase spawned present polled =>
    refine ⟨by rw [State.pushAll_shared]; exact polled.untouched.failures, ?_⟩
    have kept : ∀ i other job, (s.replace index shared (.head key params phase)).tasks i = some other →
        other.request? = some job → ∃ before, s.tasks i = some before ∧ before.request? = some job :=
      replaced present rfl
    split
    · intro i other job found requested
      rcases State.push_tasks found with ⟨_, rfl⟩ | ⟨_, before⟩
      · cases requested
      · exact kept i other job before requested
    · exact kept
  | late present landed => exact ⟨landed.step.failures, replaced present rfl⟩
  | dropGet present | dropHead present | dropPut present | dropPrefetch present =>
    exact ⟨rfl, replaced present rfl⟩
  | evict | release => exact ⟨rfl, fun _ other _ found requested => ⟨other, found, requested⟩⟩

end Inner

/-- Refused with a 401, of a method. -/
def Arrival.failed (label : String) (arrival : Arrival) : Bool :=
  match arrival.verdict with
  | .refused err => err.status == .unauthorized && arrival.request.method == label
  | _ => false

/-- Every handler was let through, and every failure was counted. -/
structure Admitted (gate : Gate) (signed : Bytes → Prop) (s : Service) : Prop where
  handlers : ∀ index task job, s.pool.tasks index = some task → task.request? = some job →
    ∃ arrival ∈ s.arrivals, ∃ method, arrival.verdict = .handled method index ∧
      gate.route arrival.request = .ok job ∧
      Authorised gate signed arrival.now arrival.request job.key.bucketId job.key.path
  failures : ∀ label, s.pool.shared.metrics.authFailTotal label = s.arrivals.countP (·.failed label)

section Runs

variable {gate : Gate} {cfg : AppConfig} {signed : Bytes → Prop} {s t : Service}

theorem Admitted.arrive
    (ideal : ∀ message signature, gate.libs.verifyStrict gate.auth.verifyingKey message signature = true →
      signed message)
    (admitted : Admitted gate signed s) (arrives : Arrives gate cfg s now request t) : Admitted gate signed t := by
  have older {arrival : Arrival} {index : Nat} {job : Request} (found : ∃ arrival ∈ s.arrivals, ∃ method,
      arrival.verdict = .handled method index ∧ gate.route arrival.request = .ok job ∧
        Authorised gate signed arrival.now arrival.request job.key.bucketId job.key.path) :
      ∃ arrival' ∈ arrival :: s.arrivals, ∃ method, arrival'.verdict = .handled method index ∧
        gate.route arrival'.request = .ok job ∧
          Authorised gate signed arrival'.now arrival'.request job.key.bucketId job.key.path :=
    found.imp fun _ own => And.intro (List.mem_cons_of_mem _ own.1) own.2
  cases arrives with
  | malformed message =>
    refine ⟨fun index task job found requested => older (admitted.handlers index task job found requested), ?_⟩
    intro label
    simp [admitted.failures label, Arrival.failed, AppError.badRequest]
  | unauthorised =>
    refine ⟨fun index task job found requested => older (admitted.handlers index task job found requested), ?_⟩
    intro label
    by_cases same : label = request.method
    · subst same
      simp [admitted.failures request.method, Arrival.failed, AppError.unauthorized, Shared.count, Metrics.incAuthFail,
        Metrics.bump]
    · simp [admitted.failures label, Arrival.failed, AppError.unauthorized, Shared.count, Metrics.incAuthFail,
        Metrics.bump, same, Ne.symm same]
  | unrouted =>
    refine ⟨fun index task job found requested => older (admitted.handlers index task job found requested), ?_⟩
    intro label
    simp [admitted.failures label, Arrival.failed]
  | handled extracted queried authentic routed spawned =>
    constructor
    · intro index task job found requested
      rcases State.push_tasks found with ⟨rfl, rfl⟩ | ⟨_, before⟩
      · cases spawned.failures.2.symm.trans requested
        refine ⟨_, List.mem_cons_self, _, rfl, routed, ?_⟩
        rw [route_key extracted routed]
        exact authenticate_authorised ideal queried authentic
      · exact older (admitted.handlers index task job before requested)
    · intro label
      have same := (congrFun spawned.failures.1 label).trans (admitted.failures label)
      simpa [Arrival.failed] using same

theorem admitted_reaches
    (ideal : ∀ message signature, gate.libs.verifyStrict gate.auth.verifyingKey message signature = true →
      signed message)
    (reach : (Service.system gate cfg).Reaches allowed (Service.initial upstream cache) s) :
    Admitted gate signed s := by
  refine reach.invariant (motive := Admitted gate signed) ?_ ?_
  · exact ⟨by rintro index task job ⟨⟩, fun _ => rfl⟩
  · intro source action next admitted _ taken
    cases action with
    | arrive now request =>
      cases taken
      exact admitted.arrive ideal (arrive_cases gate cfg source now request)
    | inner action =>
      have inner : (∀ job, action ≠ .start job) ∧
          ∃ pool, (proxy cfg).step source.pool action = some pool ∧ { source with pool } = next := by
        cases action with
        | start job => cases taken
        | poll | cancel | env => exact ⟨by rintro job ⟨⟩, Option.map_eq_some_iff.mp taken⟩
      obtain ⟨started, pool, stepped, rfl⟩ := inner
      obtain ⟨failures, handlers⟩ := handlers_step stepped started
      constructor
      · intro index task job found requested
        obtain ⟨before, present, requested⟩ := handlers index task job found requested
        exact admitted.handlers index before job present requested
      · intro label
        exact (congrFun failures label).trans (admitted.failures label)

end Runs

/-- Whatever reaches a handler was authorised for the bucket and path that the
handler acts on. A request that is not authorised is answered 400, or 401 with
one more failure counted, and leaves everything else as it was. -/
theorem handlers_authorised (gate : Gate) (cfg : AppConfig) (signed : Bytes → Prop)
    (ideal : ∀ message signature, gate.libs.verifyStrict gate.auth.verifyingKey message signature = true →
      signed message)
    (upstream : ObjectId → Option Bytes) (cache : FoyerCache) (s : Service)
    (reach : (Service.system gate cfg).Reaches System.Always (Service.initial upstream cache) s) :
    Admitted gate signed s ∧
      ∀ now request t, (Service.system gate cfg).step s (.arrive now request) = some t →
        (∀ params, gate.path request.uri = some params →
          ¬ Authorised gate signed now request params.bucketId params.path) →
        ∃ err, t.arrivals = ⟨now, request, .refused err⟩ :: s.arrivals ∧
          (err.status = .badRequest ∧ t.pool = s.pool ∨
            err.status = .unauthorized ∧
              t.pool = s.pool.reshare (s.pool.shared.count (·.incAuthFail request.method))) := by
  refine ⟨admitted_reaches ideal reach, ?_⟩
  intro now request t taken refused
  have arrives : Arrives gate cfg s now request t := Option.some.inj taken ▸ arrive_cases gate cfg s now request
  cases arrives with
  | malformed message => exact ⟨_, rfl, .inl ⟨rfl, rfl⟩⟩
  | unauthorised => exact ⟨_, rfl, .inr ⟨rfl, rfl⟩⟩
  | unrouted extracted queried authentic =>
    exact absurd (authenticate_authorised ideal queried authentic) (refused _ extracted)
  | handled extracted queried authentic =>
    exact absurd (authenticate_authorised ideal queried authentic) (refused _ extracted)

/-- A gate that knows one key, and routes every request to `b/p`. -/
private def sampleGate : Gate where
  auth := ⟨sampleKey, none⟩
  libs := sampleLibraries
  path := fun _ => some ⟨"b", "p"⟩
  query := fun _ => some [("sig", samplePayload64 ++ "." ++ sampleSignature64)]

private def sampleRequest : HttpRequest where
  method := "GET"
  uri := "/b/p?sig=" ++ samplePayload64 ++ "." ++ sampleSignature64
  headers := ⟨none, none⟩
  body := []

set_option maxRecDepth 8000 in
/-- The same presigned request in time, and a second too late. -/
theorem handlers_authorised_presigned :
    ∃ s, (Service.system sampleGate (.single "b" 4 .unknown)).Reaches System.Always
        (Service.initial (fun _ => none) .empty) s ∧
      Admitted sampleGate (· = samplePayload) s ∧ (s.pool.tasks 0).isSome ∧ s.pool.tasks 1 = none ∧
      s.pool.shared.metrics.authFailTotal "GET" = 1 := by
  have replayed : (Service.system sampleGate (.single "b" 4 .unknown)).run (Service.initial (fun _ => none) .empty)
      [.arrive 100 sampleRequest, .inner (.poll 0 .ready), .arrive 101 sampleRequest] = some _ := rfl
  have reach := System.reaches_of_run replayed
  refine ⟨_, reach, (handlers_authorised sampleGate (.single "b" 4 .unknown) (· = samplePayload) ?_ _ _ _ reach).1,
    rfl, rfl, rfl⟩
  intro message signature verified
  simp only [sampleGate, sampleLibraries, Bool.and_eq_true, beq_iff_eq] at verified
  exact verified.1.2

end Cachegate
