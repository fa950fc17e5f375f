import Cachegate.Auth.Gateway
import Cachegate.Library.TaskErasure

/-! Requests that are refused leave the service as it would be without them, but
for their own counter. What is left is a run of the proxy. -/

namespace Cachegate

open Transition TaskPool

/-- The shared state with these counts of refused requests. -/
def Shared.setFailures (failures : String → Nat) (s : Shared) : Shared :=
  s.count ({ · with authFailTotal := failures })

section Blind

variable (cfg : AppConfig) (failures : String → Nat) (s : Shared) (key : CacheKey)

theorem fetchPoll_failures (method : Method) (at_ : FetchAwait) (reply : Reply) :
    fetchPoll cfg (s.setFailures failures) key method at_ reply =
      (fetchPoll cfg s key method at_ reply).map (Prod.map (Shared.setFailures failures) id) := by
  cases at_ with
  | get object =>
    cases reply with
    | ready =>
      have same : (s.setFailures failures).upstream object = s.upstream object := rfl
      simp only [fetchPoll, same]
      cases s.upstream object <;> rfl
    | failed | cacheError | streamError => rfl
  | bytes object data =>
    cases reply with
    | ready =>
      simp only [fetchPoll]
      split <;> rfl
    | failed | cacheError | streamError => rfl
  | missing | put => cases reply <;> rfl

theorem fetchStart_failures :
    fetchStart cfg (s.setFailures failures) key = (fetchStart cfg s key).map (Shared.setFailures failures) id := by
  unfold fetchStart
  cases cfg.object key <;> rfl

theorem leaderPoll_failures (method : Method) (guard : EntryId) (at_ : LeaderAwait) (reply : Reply) :
    leaderPoll cfg (s.setFailures failures) key method guard at_ reply =
      (leaderPoll cfg s key method guard at_ reply).map (Prod.map (Shared.setFailures failures) id) := by
  cases at_ with
  | fetch stage =>
    simp only [leaderPoll, fetchPoll_failures, Option.map_map]
    congr 1
    funext outcome
    obtain ⟨next, onward | result⟩ := outcome <;> rfl
  | store | release => cases reply <;> rfl

theorem leaderNext_failures (guard : EntryId) (outcome : Outcome FetchAwait InflightResult) :
    leaderNext guard (outcome.map (Shared.setFailures failures) id) =
      (leaderNext guard outcome).map (Shared.setFailures failures) id := by
  obtain ⟨next, onward | result⟩ := outcome <;> rfl

/-- A leader's first segment, from the permit on. -/
theorem lead_failures (guard : EntryId) (flights : Flights) :
    leaderNext guard (fetchStart cfg { s.setFailures failures with flights } key) =
      (leaderNext guard (fetchStart cfg { s with flights } key)).map (Shared.setFailures failures) id := by
  rw [← leaderNext_failures]
  exact congrArg (leaderNext guard) (fetchStart_failures cfg failures { s with flights } key)

theorem getPoll_failures (at_ : GetAwait) (reply : Reply) :
    getPoll cfg (s.setFailures failures) key at_ reply =
      (getPoll cfg s key at_ reply).map (Prod.map (Shared.setFailures failures) id) := by
  have looked : (s.setFailures failures).lookup key reply = s.lookup key reply := by cases reply <;> rfl
  have flights : (s.setFailures failures).flights = s.flights := rfl
  cases at_ with
  | lookup | recheck =>
    simp only [getPoll, looked, Option.map_map]
    congr 1
    funext found
    cases found <;> rfl
  | acquire =>
    cases reply with
    | ready =>
      simp only [getPoll, flights]
      obtain ⟨permit, opened⟩ := s.flights.acquire key
      cases permit with
      | leader guard =>
        simp only [lead_failures]
        rfl
      | follower => rfl
    | failed | cacheError | streamError => rfl
  | leader guard stage =>
    simp only [getPoll, leaderPoll_failures, Option.map_map]
    congr 1
    funext outcome
    obtain ⟨next, onward | result⟩ := outcome <;> rfl
  | follow => cases reply <;> rfl
  | notified wait =>
    cases reply with
    | ready =>
      simp only [getPoll, flights]
      cases s.flights.wake wait <;> rfl
    | failed | cacheError | streamError => rfl
  | result wait =>
    cases reply with
    | ready =>
      simp only [getPoll, flights, Option.map_map]
      congr 1
      funext read
      obtain ⟨_ | (err | entry), read⟩ := read
      · simp only [fetchStart]
        cases cfg.object key <;> rfl
      · rfl
      · rfl
    | failed | cacheError | streamError => rfl
  | fallback =>
    simp only [getPoll, fetchPoll_failures, Option.map_map]
    congr 1
    funext outcome
    obtain ⟨next, onward | result⟩ := outcome <;> rfl

theorem headPoll_failures (params : Query) (at_ : HeadAwait) (reply : Reply) :
    headPoll cfg (s.setFailures failures) key params at_ reply =
      (headPoll cfg s key params at_ reply).map (Prod.map (Shared.setFailures failures) id) := by
  have looked : (s.setFailures failures).lookup key reply = s.lookup key reply := by cases reply <;> rfl
  cases at_ with
  | lookup =>
    simp only [headPoll, looked, Option.map_map]
    congr 1
    funext found
    cases found with
    | some entry => rfl
    | none =>
      simp only [Function.comp]
      cases cfg.object key <;> rfl
  | head object =>
    have same : (s.setFailures failures).upstream object = s.upstream object := rfl
    cases reply with
    | ready =>
      simp only [headPoll, same]
      cases s.upstream object <;> rfl
    | failed | cacheError | streamError => rfl
  | answered => cases reply <;> rfl

theorem prefetchPoll_failures (at_ : PrefetchAwait) (reply : Reply) :
    prefetchPoll cfg (s.setFailures failures) key at_ reply =
      (prefetchPoll cfg s key at_ reply).map (Prod.map (Shared.setFailures failures) id) := by
  cases at_ with
  | acquire =>
    have flights : (s.setFailures failures).flights = s.flights := rfl
    cases reply with
    | ready =>
      simp only [prefetchPoll, flights]
      obtain ⟨permit, opened⟩ := s.flights.acquire key
      cases permit with
      | leader guard =>
        simp only [lead_failures]
        rfl
      | follower => rfl
    | failed | cacheError | streamError => rfl
  | leader guard stage =>
    simp only [prefetchPoll, leaderPoll_failures, Option.map_map]
    congr 1
    funext outcome
    obtain ⟨next, onward | result⟩ := outcome <;> rfl

theorem putPoll_failures (request : PutRequest) (at_ : PutAwait) (reply : Reply) :
    putPoll cfg (s.setFailures failures) request at_ reply =
      (putPoll cfg s request at_ reply).map (Prod.map (Shared.setFailures failures) id) := by
  cases at_ with
  | next object upload rest loop => cases rest <;> cases reply <;> rfl
  | committed object loop =>
    cases reply with
    | ready =>
      simp only [putPoll]
      split <;> rfl
    | failed | cacheError | streamError => rfl
  | finish object upload loop =>
    cases reply with
    | failed err =>
      simp only [putPoll]
      split <;> rfl
    | ready | cacheError | streamError => rfl
  | head | init | abort | aborted | insert => cases reply <;> rfl

theorem spawn_failures (request : Request) :
    Task.spawn cfg (s.setFailures failures) request =
      (Task.spawn cfg s request).map (Shared.setFailures failures) id := by
  cases request with
  | get key =>
    simp only [Task.spawn, getStart]
    split <;> rfl
  | head key =>
    simp only [Task.spawn, headStart]
    split <;> rfl
  | put request =>
    simp only [Task.spawn, putStart]
    split
    · rfl
    · cases cfg.object request.key <;> rfl

theorem poll_failures (task : Task) (reply : Reply) :
    Task.poll cfg (s.setFailures failures) task reply =
      (Task.poll cfg s task reply).map (Prod.map (Shared.setFailures failures) id) := by
  cases task with
  | get key phase =>
    cases phase with
    | running at_ =>
      simp only [Task.poll, getPoll_failures, Option.map_map]
      rfl
    | returned | dropped => rfl
  | head key params phase =>
    cases phase with
    | running at_ =>
      simp only [Task.poll, headPoll_failures, Option.map_map]
      rfl
    | returned | dropped => rfl
  | put request phase =>
    cases phase with
    | running at_ =>
      simp only [Task.poll, putPoll_failures, Option.map_map]
      rfl
    | returned => rfl
    | dropped at_ => cases at_ <;> cases reply <;> rfl
  | prefetch key phase =>
    cases phase with
    | running at_ =>
      simp only [Task.poll, prefetchPoll_failures, Option.map_map]
      rfl
    | returned | dropped => rfl

theorem drop_failures (task : Task) :
    Task.drop (s.setFailures failures) task = (Task.drop s task).map (Prod.map (Shared.setFailures failures) id) := by
  cases task with
  | get _ phase | head _ _ phase | put _ phase | prefetch _ phase => cases phase <;> rfl

theorem env_failures (event : Event) :
    (s.setFailures failures).env event = (s.env event).map (Shared.setFailures failures) := by
  cases event with
  | evict => rfl
  | release guard =>
    have flights : (s.setFailures failures).flights = s.flights := rfl
    simp only [Shared.env, flights]
    split <;> rfl

/-- The handlers never look at the counts of refused requests. -/
theorem blind_failures : (proxy cfg).Blind (Shared.setFailures failures) where
  spawn := spawn_failures cfg failures
  poll := poll_failures cfg failures
  drop := drop_failures failures
  env := env_failures failures

end Blind

/-- The middleware lets the request pass, or the action is not one. -/
def Gate.admits (gate : Gate) : ServiceAction → Bool
  | .arrive now request =>
      match gate.path request.uri, gate.query request.uri with
      | some params, some query => (gate.authenticate now request params query).isOk
      | _, _ => false
  | .inner _ => true

/-- The request did not get past the middleware. -/
def Arrival.refused (arrival : Arrival) : Bool :=
  match arrival.verdict with
  | .refused _ => true
  | .handled _ _ | .unrouted _ => false

/-- The pool as if no request had been refused. -/
def Proxy.unrefused (s : Proxy) : Proxy := s.mapShared (Shared.setFailures fun _ => 0)

/-- The service without the requests that were refused. -/
def Service.unrefused (s : Service) : Service := ⟨s.pool.unrefused, s.arrivals.filter (!·.refused)⟩

section Service

variable (gate : Gate) (cfg : AppConfig) (s : Service)

theorem authMiddleware_refused (shared : Shared) (refused : gate.admits (.arrive now request) = false) :
    ∃ counted err, authMiddleware gate now shared request = (counted, .error err) ∧
      ∀ failures, counted.setFailures failures = shared.setFailures failures := by
  simp only [Gate.admits] at refused
  unfold authMiddleware
  cases extracted : gate.path request.uri with
  | none => exact ⟨_, _, rfl, fun _ => rfl⟩
  | some params =>
    cases queried : gate.query request.uri with
    | none => exact ⟨_, _, rfl, fun _ => rfl⟩
    | some query =>
      simp only [extracted, queried] at refused
      cases authentic : gate.authenticate now request params query with
      | error err =>
        simp only [authentic]
        exact ⟨_, _, rfl, fun _ => rfl⟩
      | ok method =>
        rw [authentic] at refused
        cases refused

theorem authMiddleware_admitted (admitted : gate.admits (.arrive now request) = true) :
    ∃ method, ∀ shared, authMiddleware gate now shared request = (shared, .ok method) := by
  simp only [Gate.admits] at admitted
  unfold authMiddleware
  split at admitted
  · rename_i params query extracted queried
    cases authentic : gate.authenticate now request params query with
    | error err =>
      rw [authentic] at admitted
      cases admitted
    | ok method => exact ⟨method, fun shared => by simp only [extracted, queried, authentic]⟩
  · cases admitted

theorem arrive_refused (refused : gate.admits (.arrive now request) = false) :
    (s.arrive gate cfg now request).unrefused = s.unrefused := by
  obtain ⟨counted, err, gated, same⟩ := authMiddleware_refused gate s.pool.shared refused
  simp only [Service.arrive, gated]
  have pool : Proxy.unrefused (s.pool.reshare counted) = s.pool.unrefused :=
    congrArg s.pool.reshare (same fun _ => 0)
  simp only [Service.unrefused, pool]
  rfl

theorem arrive_admitted (admitted : gate.admits (.arrive now request) = true) :
    s.unrefused.arrive gate cfg now request = (s.arrive gate cfg now request).unrefused := by
  obtain ⟨method, gated⟩ := authMiddleware_admitted gate admitted
  simp only [Service.arrive, gated]
  cases gate.route request with
  | error status => rfl
  | ok job =>
    have started : (proxy cfg).spawn s.unrefused.pool.shared job = _ :=
      (blind_failures cfg fun _ => 0).spawn s.pool.shared job
    simp only [started]
    rfl

theorem inner_unrefused (action : ProxyAction) :
    s.unrefused.step gate cfg (.inner action) = (s.step gate cfg (.inner action)).map Service.unrefused := by
  have stepped : (proxy cfg).step s.unrefused.pool action = _ := (blind_failures cfg fun _ => 0).step s.pool action
  cases action with
  | start => rfl
  | poll | cancel | env =>
    simp only [Service.step, stepped, Option.map_map]
    rfl

end Service

/-- In every run the requests that were refused might as well not have come: taking
them out leaves the same steps open, and everything but their count as it is. -/
theorem refusals_erased (gate : Gate) (cfg : AppConfig) (s : Service) (actions : List ServiceAction) :
    (Service.system gate cfg).run s.unrefused (actions.filter gate.admits) =
      ((Service.system gate cfg).run s actions).map Service.unrefused := by
  apply System.run_erase
  · intro source action admitted
    cases action with
    | arrive now request => exact congrArg some (arrive_admitted gate cfg source admitted)
    | inner action => exact inner_unrefused gate cfg source action
  · intro source action refused
    cases action with
    | arrive now request => exact congrArg some (arrive_refused gate cfg source refused)
    | inner action => cases refused

/-- A request that passes starts a handler, or finds none for its method. -/
theorem arrive_starts (gate : Gate) (cfg : AppConfig) (s : Service) (now : Int) (request : HttpRequest) :
    (s.arrive gate cfg now request).pool.unrefused = s.pool.unrefused ∨
      ∃ job, (proxy cfg).step s.pool.unrefused (.start job) =
        some (s.arrive gate cfg now request).pool.unrefused := by
  cases admitted : gate.admits (.arrive now request) with
  | false => exact .inl (congrArg Service.pool (arrive_refused gate cfg s admitted))
  | true =>
    obtain ⟨method, gated⟩ := authMiddleware_admitted gate admitted
    simp only [Service.arrive, gated]
    cases gate.route request with
    | error status => exact .inl rfl
    | ok job => exact .inr ⟨job, (blind_failures cfg fun _ => 0).step s.pool (.start job)⟩

/-- A step of the service is one of the proxy, or none, up to the refused requests. -/
theorem unrefused_step {gate : Gate} {cfg : AppConfig} {s t : Service}
    (taken : (Service.system gate cfg).step s action = some t) :
    (proxy cfg).system.Reaches System.Always s.pool.unrefused t.pool.unrefused := by
  cases action with
  | arrive now request =>
    cases taken
    rcases arrive_starts gate cfg s now request with same | ⟨job, started⟩
    · rw [same]
      exact .refl
    · exact Relation.ReflTransGen.single ⟨.start job, trivial, started⟩
  | inner action =>
    have stepped := inner_unrefused gate cfg s action
    have moved : s.step gate cfg (.inner action) = some t := taken
    rw [moved, Option.map_some] at stepped
    have advanced : (proxy cfg).step s.pool.unrefused action = some t.pool.unrefused := by
      cases action with
      | start => cases stepped
      | poll | cancel | env =>
        obtain ⟨pool, polled, same⟩ := Option.map_eq_some_iff.mp stepped
        exact polled.trans (congrArg some (congrArg Service.pool same))
    exact Relation.ReflTransGen.single ⟨action, trivial, advanced⟩

/-- The handlers behind the middleware run as the proxy would alone: whatever
requests come, let through or not, the pool is one that the proxy reaches. -/
theorem service_refines (gate : Gate) (cfg : AppConfig) (upstream : ObjectId → Option Bytes) (cache : FoyerCache)
    (s : Service) (reach : (Service.system gate cfg).Reaches System.Always (Service.initial upstream cache) s) :
    (proxy cfg).system.Reaches System.Always (Proxy.initial upstream cache) s.pool.unrefused := by
  change (proxy cfg).system.Reaches System.Always (Service.initial upstream cache).pool.unrefused s.pool.unrefused
  exact reach.project (fun s => s.pool.unrefused) (fun _ _ => trivial) fun _ _ _ _ _ taken => unrefused_step taken

/-- A gate with a token, in front of one path. -/
private def tokenGate : Gate where
  auth := ⟨[], some "abc"⟩
  libs := ⟨fun _ => none, fun _ => none, fun _ _ _ => false, fun char => [char]⟩
  path := fun _ => some ⟨"b", "p"⟩
  query := fun _ => some []

private def tokenRequest (authorization : Option HeaderValue) : HttpRequest where
  method := "GET"
  uri := "/b/p"
  headers := ⟨none, authorization⟩
  body := []

set_option maxRecDepth 8000 in
/-- One request without the token, and one with it. -/
theorem service_refines_token :
    ∃ s : Service, (proxy (.single "b" 4 .unknown)).system.Reaches System.Always
        (Proxy.initial (fun _ => none) .empty) s.pool.unrefused ∧
      s.pool.shared.metrics.authFailTotal "GET" = 1 ∧ (s.pool.tasks 0).isSome = true := by
  have replayed : (Service.system tokenGate (.single "b" 4 .unknown)).run (Service.initial (fun _ => none) .empty)
      [.arrive 0 (tokenRequest none), .arrive 0 (tokenRequest (some "Bearer abc".toByteArray.data.toList)),
        .inner (.poll 0 .ready)] = some _ := rfl
  exact ⟨_, service_refines _ _ _ _ _ (System.reaches_of_run replayed), rfl, rfl⟩

end Cachegate
