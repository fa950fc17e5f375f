import Cachegate.Auth.Refusals
import Cachegate.Library.TaskHistory

/-! Which requests are served: exactly those with a credential that is accepted,
each by one handler of its own. -/

namespace Cachegate

open Transition TaskPool

/-- The request presents the configured token, or a `sig` that verifies. -/
def Credited (gate : Gate) (now : Int) (request : HttpRequest) (params : PathParams) (query : Query) : Prop :=
  BearerAuthorised gate request ∨ ∃ sig, query.get "sig" = some sig ∧
    gate.auth.verify gate.libs now request.method params.bucketId params.path sig = .ok ()

/-- What may become of a request, by what the middleware finds in it. -/
inductive Judged (gate : Gate) : Arrival → Prop
  | malformedPath (unread : gate.path request.uri = none) :
      Judged gate ⟨now, request, .refused (.badRequest "invalid path")⟩
  | malformedQuery (extracted : gate.path request.uri = some params) (unread : gate.query request.uri = none) :
      Judged gate ⟨now, request, .refused (.badRequest "invalid query")⟩
  | unauthorised (extracted : gate.path request.uri = some params) (queried : gate.query request.uri = some query)
      (uncredited : ¬ Credited gate now request params query) :
      Judged gate ⟨now, request, .refused (.unauthorized "invalid auth")⟩
  | handled (extracted : gate.path request.uri = some params) (queried : gate.query request.uri = some query)
      (credited : Credited gate now request params query) (routed : gate.route request = .ok job)
      (named : method = .bearer ↔ BearerAuthorised gate request) (index : Nat) :
      Judged gate ⟨now, request, .handled method index⟩
  | unrouted (extracted : gate.path request.uri = some params) (queried : gate.query request.uri = some query)
      (credited : Credited gate now request params query) (unrouted : gate.route request = .error status) :
      Judged gate ⟨now, request, .unrouted status⟩

/-- The number of the handler that the request was given to. -/
def Arrival.handler? (arrival : Arrival) : Option Nat :=
  match arrival.verdict with
  | .handled _ index => some index
  | .refused _ | .unrouted _ => none

/-- Every request was judged rightly, and those let through have the handlers of
the pool, one each. -/
structure Served (gate : Gate) (s : Service) : Prop where
  judged : ∀ arrival ∈ s.arrivals, Judged gate arrival
  handlers : ∀ arrival ∈ s.arrivals, ∀ index, arrival.handler? = some index →
    ∃ task job, s.pool.tasks index = some task ∧ task.request? = some job ∧ gate.route arrival.request = .ok job
  distinct : (s.arrivals.filterMap Arrival.handler?).Nodup
  started : ∀ index task job, s.pool.tasks index = some task → task.request? = some job →
    index ∈ s.arrivals.filterMap Arrival.handler?

section Gate

variable {gate : Gate} {now : Int} {request : HttpRequest} {params : PathParams} {query : Query}

theorem BearerAuthorised.verified (bearer : BearerAuthorised gate request) :
    (parseBearerToken request.headers).map gate.auth.verifyBearer = some (.ok ()) := by
  obtain ⟨token, configured, parsed⟩ := bearer
  rw [parsed]
  exact congrArg some ((verifyBearer_ok gate.auth token).mpr configured)

theorem authenticate_bearer (bearer : BearerAuthorised gate request) :
    gate.authenticate now request params query = .ok .bearer := by
  simp only [Gate.authenticate, bearer.verified]

/-- Without the bearer token the `sig` decides. -/
theorem authenticate_sig (unborne : ¬ BearerAuthorised gate request) (found : query.get "sig" = some sig) :
    gate.authenticate now request params query =
      (gate.auth.verify gate.libs now request.method params.bucketId params.path sig).map fun _ => .presign := by
  unfold Gate.authenticate
  cases parsed : parseBearerToken request.headers with
  | none => simp only [Option.map_none, found]
  | some token =>
    cases verified : gate.auth.verifyBearer token with
    | ok => exact absurd ⟨token, (verifyBearer_ok gate.auth token).mp verified, parsed⟩ unborne
    | error => simp only [Option.map_some, verified, found]

/-- A request is authenticated exactly if it is credited, by the token if it has it. -/
theorem authenticate_credited (authentic : gate.authenticate now request params query = .ok method) :
    Credited gate now request params query ∧ (method = .bearer ↔ BearerAuthorised gate request) := by
  refine ⟨authenticate_ok authentic, ?_⟩
  constructor
  · rintro rfl
    by_contra unborne
    rcases authenticate_ok authentic with bearer | ⟨sig, found, verified⟩
    · exact unborne bearer
    · rw [authenticate_sig unborne found, verified] at authentic
      cases authentic
  · intro bearer
    rw [authenticate_bearer bearer] at authentic
    cases authentic
    rfl

theorem authenticate_uncredited (refused : gate.authenticate now request params query = .error err) :
    ¬ Credited gate now request params query := by
  rintro (bearer | ⟨sig, found, verified⟩)
  · rw [authenticate_bearer bearer] at refused
    cases refused
  · by_cases bearer : BearerAuthorised gate request
    · rw [authenticate_bearer bearer] at refused
      cases refused
    · rw [authenticate_sig bearer found, verified] at refused
      cases refused

end Gate

/-- An arrival starts its handler, or none. -/
inductive Admission (gate : Gate) (s : Service) (arrival : Arrival) : Service → Prop
  | declined (judged : Judged gate arrival) (unhandled : arrival.handler? = none) (shared : Shared) :
      Admission gate s arrival ⟨s.pool.reshare shared, arrival :: s.arrivals⟩
  | started (judged : Judged gate arrival) (handled : arrival.handler? = some s.pool.next)
      (routed : gate.route arrival.request = .ok job) (requested : task.request? = some job) (shared : Shared) :
      Admission gate s arrival ⟨(s.pool.reshare shared).push task, arrival :: s.arrivals⟩

theorem arrive_admission (gate : Gate) (cfg : AppConfig) (s : Service) (now : Int) (request : HttpRequest) :
    ∃ arrival, Admission gate s arrival (s.arrive gate cfg now request) := by
  unfold Service.arrive authMiddleware
  cases extracted : gate.path request.uri with
  | none => exact ⟨_, .declined (.malformedPath extracted) rfl s.pool.shared⟩
  | some params =>
    cases queried : gate.query request.uri with
    | none => exact ⟨_, .declined (.malformedQuery extracted queried) rfl s.pool.shared⟩
    | some query =>
      cases authentic : gate.authenticate now request params query with
      | error err =>
        simp only [authentic]
        exact ⟨_, .declined (.unauthorised extracted queried (authenticate_uncredited authentic)) rfl _⟩
      | ok method =>
        obtain ⟨credited, named⟩ := authenticate_credited authentic
        simp only [authentic]
        cases routed : gate.route request with
        | error status => exact ⟨_, .declined (.unrouted extracted queried credited routed) rfl s.pool.shared⟩
        | ok job =>
          have requested := (spawn_step cfg s.pool.shared job).failures.2
          exact ⟨_, .started (.handled extracted queried credited routed named _) rfl routed requested _⟩

/-- A well-formed request is refused exactly if it is not credited. -/
theorem arrive_credited (gate : Gate) (cfg : AppConfig) (s : Service) (now : Int) (request : HttpRequest)
    (extracted : gate.path request.uri = some params) (queried : gate.query request.uri = some query) :
    ∃ arrival, (s.arrive gate cfg now request).arrivals = arrival :: s.arrivals ∧
      (arrival.refused = false ↔ Credited gate now request params query) := by
  unfold Service.arrive authMiddleware
  cases authentic : gate.authenticate now request params query with
  | error err =>
    simp only [extracted, queried, authentic]
    refine ⟨_, rfl, ?_⟩
    simp [Arrival.refused, authenticate_uncredited authentic]
  | ok method =>
    simp only [extracted, queried, authentic]
    have credited := (authenticate_credited authentic).1
    cases gate.route request with
    | error status => exact ⟨_, rfl, by simp [Arrival.refused, credited]⟩
    | ok job => exact ⟨_, rfl, by simp [Arrival.refused, credited]⟩

section Runs

variable {gate : Gate} {cfg : AppConfig} {s t : Service}

theorem Served.admit (served : Served gate s) (numbered : s.pool.Numbered) (admission : Admission gate s arrival t) :
    Served gate t ∧ t.pool.Numbered := by
  cases admission with
  | declined judged unhandled shared =>
    refine ⟨⟨?_, ?_, ?_, ?_⟩, numbered⟩
    · exact List.forall_mem_cons.mpr ⟨judged, served.judged⟩
    · refine List.forall_mem_cons.mpr ⟨?_, served.handlers⟩
      intro index given
      cases unhandled.symm.trans given
    · rw [List.filterMap_cons_none unhandled]
      exact served.distinct
    · rw [List.filterMap_cons_none unhandled]
      exact served.started
  | @started job task judged handled routed requested shared =>
    have fresh : s.pool.next ∉ s.arrivals.filterMap Arrival.handler? := by
      intro listed
      obtain ⟨older, member, given⟩ := List.mem_filterMap.mp listed
      obtain ⟨before, _, present, _⟩ := served.handlers older member _ given
      exact Nat.lt_irrefl _ (numbered _ before present)
    refine ⟨⟨?_, ?_, ?_, ?_⟩, State.Numbered.push (s := s.pool.reshare shared) numbered task⟩
    · exact List.forall_mem_cons.mpr ⟨judged, served.judged⟩
    · refine List.forall_mem_cons.mpr ⟨?_, ?_⟩
      · intro index given
        cases handled.symm.trans given
        exact ⟨task, job, Function.update_self .., requested, routed⟩
      · intro older member index given
        obtain ⟨before, job, present, requested, routed⟩ := served.handlers older member index given
        have old : index ≠ s.pool.next := Nat.ne_of_lt (numbered index before present)
        exact ⟨before, job, (Function.update_of_ne old ..).trans present, requested, routed⟩
    · rw [List.filterMap_cons_some handled]
      exact List.nodup_cons.mpr ⟨fresh, served.distinct⟩
    · rw [List.filterMap_cons_some handled]
      intro index other job found asked
      rcases State.push_tasks found with ⟨rfl, _⟩ | ⟨_, before⟩
      · exact List.mem_cons_self
      · exact List.mem_cons_of_mem _ (served.started index other job before asked)

theorem poll_request (polled : Task.poll cfg shared task reply = some (shared', task', child)) :
    task'.request? = task.request? := by
  unfold Task.poll at polled
  split at polled
  · obtain ⟨_, _, result⟩ := Option.map_eq_some_iff.mp polled
    cases result
    rfl
  · obtain ⟨_, _, result⟩ := Option.map_eq_some_iff.mp polled
    cases result
    rfl
  · obtain ⟨_, _, result⟩ := Option.map_eq_some_iff.mp polled
    cases result
    rfl
  · obtain ⟨_, _, result⟩ := Option.map_eq_some_iff.mp polled
    cases result
    rfl
  · cases polled
    rfl
  · cases polled
    rfl
  · cases polled
    rfl
  · cases polled

theorem drop_request (dropped : Task.drop shared task = some (shared', task')) : task'.request? = task.request? := by
  unfold Task.drop at dropped
  split at dropped <;> cases dropped <;> rfl

theorem Served.inner (served : Served gate s) (numbered : s.pool.Numbered) {pool : Proxy}
    (stepped : (proxy cfg).step s.pool action = some pool) (started : ∀ job, action ≠ .start job) :
    Served gate { s with pool } := by
  obtain ⟨_, before⟩ := handlers_step stepped started
  refine ⟨served.judged, ?_, served.distinct, ?_⟩
  · intro arrival member index given
    obtain ⟨task, job, present, requested, routed⟩ := served.handlers arrival member index given
    obtain ⟨task', now, same⟩ := Program.step_keeps Task.request?
      (fun _ _ _ _ _ _ polled => poll_request polled) (fun _ _ _ _ dropped => drop_request dropped)
      numbered present stepped
    exact ⟨task', job, now, same.trans requested, routed⟩
  · intro index task job present requested
    obtain ⟨older, found, asked⟩ := before index task job present requested
    exact served.started index older job found asked

end Runs

/-- In every run each request is judged by its credentials alone: it is refused
exactly if it has none, and otherwise has one handler, its own, if there is one
for its method. No handler runs for anything else. -/
theorem arrivals_served (gate : Gate) (cfg : AppConfig) (upstream : ObjectId → Option Bytes) (cache : FoyerCache)
    (s : Service)
    (reach : (Service.system gate cfg).Reaches System.Always (Service.initial upstream cache) s) : Served gate s := by
  suffices both : Served gate s ∧ s.pool.Numbered from both.1
  refine reach.invariant (motive := fun s => Served gate s ∧ s.pool.Numbered) ?_ ?_
  · refine ⟨⟨?_, ?_, List.nodup_nil, ?_⟩, ?_⟩
    · intro arrival listed
      cases listed
    · intro arrival listed
      cases listed
    · intro index task job present
      cases present
    · intro index task present
      cases present
  · rintro source action next ⟨served, numbered⟩ _ taken
    cases action with
    | arrive now request =>
      cases taken
      obtain ⟨arrival, admission⟩ := arrive_admission gate cfg source now request
      exact served.admit numbered admission
    | inner action =>
      cases action with
      | start job => cases taken
      | poll | cancel | env =>
        obtain ⟨pool, stepped, rfl⟩ := Option.map_eq_some_iff.mp taken
        exact ⟨served.inner numbered stepped (by rintro job ⟨⟩), Program.numbered_step numbered stepped⟩

/-- A gate with a token, in front of one path. -/
private def borneGate : Gate where
  auth := ⟨[], some "abc"⟩
  libs := ⟨fun _ => none, fun _ => none, fun _ _ _ => false, fun char => [char]⟩
  path := fun _ => some ⟨"b", "p"⟩
  query := fun _ => some []

private def borneRequest (method : String) (authorization : Option HeaderValue) : HttpRequest where
  method
  uri := "/b/p"
  headers := ⟨none, authorization⟩
  body := []

set_option maxRecDepth 8000 in
/-- One request without the token, one with it, and one with a method that has no handler. -/
theorem arrivals_served_token :
    ∃ s : Service, Served borneGate s ∧
      s.arrivals.map Arrival.verdict =
        [.unrouted .methodNotAllowed, .handled .bearer 0, .refused (.unauthorized "invalid auth")] := by
  have replayed : (Service.system borneGate (.single "b" 4 .unknown)).run (Service.initial (fun _ => none) .empty)
      [.arrive 0 (borneRequest "GET" none),
        .arrive 0 (borneRequest "GET" (some "Bearer abc".toByteArray.data.toList)),
        .arrive 0 (borneRequest "POST" (some "Bearer abc".toByteArray.data.toList))] = some _ := rfl
  exact ⟨_, arrivals_served _ _ _ _ _ (System.reaches_of_run replayed), rfl⟩

end Cachegate
