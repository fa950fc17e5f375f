import Cachegate.Handler.Counters

/-! `requests_total`. Every handler ends in the lines that count its answer,
except where `head_object` and `put_object` leave before them. -/

namespace Cachegate

open Transition TaskPool

/-- The method and the status of a request whose handler has returned. -/
def Task.answered? : Task → Option (Method × StatusCode)
  | .get _ (.returned result) => some (.get, statusOf result)
  | .head _ _ (.returned result) => some (.head, statusOf result)
  | .put _ (.returned result) => some (.put, statusOf result)
  | _ => none

/-- The task has such an answer. -/
def Task.answers (label : Method × StatusCode) (task : Task) : Bool := task.answered? = some label

/-- The counter of each method and status is the number of such answers. -/
def RequestsCounted (s : Proxy) : Prop :=
  ∀ label, s.shared.metrics.requestsTotal label = s.count (Task.answers label)

/-- The next segment of the task is not one that leaves by `?` or `return`: no
HEAD misses under an unknown bucket or fails upstream. -/
def Task.Stays (cfg : AppConfig) (s : Shared) (reply : Reply) : Task → Prop
  | .head key _ (.running .lookup) => s.lookup key reply = some none → (cfg.object key).isSome = true
  | .head _ _ (.running (.head _)) => ∀ err, reply ≠ .failed err
  | _ => True

/-- No handler leaves early. A PUT does where its bucket is unknown. -/
def NoEarlyExit (cfg : AppConfig) (s : Proxy) : ProxyAction → Prop
  | .start (.put request) => invalidPath request.key.path = false → (cfg.object request.key).isSome = true
  | .poll index reply => ∀ task, s.tasks index = some task → task.Stays cfg s.shared reply
  | _ => True

section Steps

variable {cfg : AppConfig} {key : CacheKey} {s s' : Shared} {guard : EntryId} {label : Method × StatusCode}

/-- No answer has been counted. -/
def SameRequests (s s' : Shared) : Prop := s'.metrics.requestsTotal = s.metrics.requestsTotal

/-- What the segment counts is the answer that the task then has. -/
def CountsAnswer (label : Method × StatusCode) (s s' : Shared) (task : Task) : Prop :=
  s'.metrics.requestsTotal label = s.metrics.requestsTotal label + (task.answers label).toNat

/-- The lines at the end of a handler. -/
theorem answered_counts (same : SameRequests s s') (method : Method) (result : HandlerResult)
    (own : task.answered? = some (method, statusOf result)) :
    CountsAnswer label s (s'.answered method result) task := by
  have kept : s'.metrics.requestsTotal = s.metrics.requestsTotal := same
  have bumped := bump_apply s.metrics.requestsTotal (method, statusOf result) label
  simpa [CountsAnswer, Task.answers, own, kept, Shared.answered, Shared.count, Metrics.incRequests] using bumped

theorem SameRequests.silent (same : SameRequests s s') (silent : task.answered? = none) :
    CountsAnswer label s s' task := by
  have kept : s'.metrics.requestsTotal = s.metrics.requestsTotal := same
  simp [CountsAnswer, Task.answers, silent, kept]

theorem FetchStep.requests (step : FetchStep cfg key method s at_ reply s' next) : SameRequests s s' := by
  obtain ⟨_, calls, _⟩ := step.calls
  exact calls.requests

theorem LeaderStep.requests (step : LeaderStep cfg key method guard s at_ reply s' next) : SameRequests s s' := by
  obtain ⟨_, calls, _⟩ := step.calls
  exact calls.requests

/-- `get_object` counts on every way out. -/
theorem GetStep.requests (step : GetStep cfg key s at_ reply s' phase) :
    CountsAnswer label s s' (.get key phase) := by
  cases step with
  | hit | joinedError | recheckHit | recheckMiss => exact answered_counts rfl _ _ rfl
  | led led => exact answered_counts led.requests _ _ rfl
  | abandonedEnds _ started => exact answered_counts (congrArg _ started.metrics) _ _ rfl
  | fallbackEnds fetched => exact answered_counts fetched.requests _ _ rfl
  | lead _ started => exact SameRequests.silent (congrArg _ started.metrics) rfl
  | leader led => exact led.requests.silent rfl
  | abandoned _ started => exact SameRequests.silent (congrArg _ started.metrics) rfl
  | fallback fetched => exact fetched.requests.silent rfl
  | miss | follow | wait | wake | joined => exact SameRequests.silent rfl rfl

/-- `put_object` counts on every way out but the one before its first await. -/
theorem PutStep.requests (step : PutStep cfg request s at_ reply s' phase) :
    CountsAnswer label s s' (.put request phase) := by
  cases step with
  | initFailed | abortFailed | refused | finishFailed | finishAborted | uncached | inserted =>
    exact answered_counts rfl _ _ rfl
  | checked | opened | chunk | ended | bodyFailed | aborted | committed | caching => exact SameRequests.silent rfl rfl

theorem PrefetchStep.requests (step : PrefetchStep cfg key s at_ reply s' phase) : SameRequests s s' := by
  cases step with
  | lead _ started => exact congrArg _ started.metrics
  | follow => rfl
  | leader led => exact led.requests
  | led led => exact led.requests

theorem HeadStep.requests (step : HeadStep cfg key params s at_ reply s' phase spawned)
    (stays : (Task.head key params (.running at_)).Stays cfg s reply) :
    CountsAnswer label s s' (.head key params phase) := by
  cases step with
  | hit | answer => exact answered_counts rfl _ _ rfl
  | miss | sized => exact SameRequests.silent rfl rfl
  | unknown found absent => simp [Task.Stays, found, absent] at stays
  | headFailed err => exact absurd rfl (stays err)

/-- Where `head_object` leaves early it has an answer and has not counted it. -/
theorem HeadStep.uncounted (step : HeadStep cfg key params s at_ reply s' phase spawned)
    (leaves : ¬ (Task.head key params (.running at_)).Stays cfg s reply) :
    spawned = false ∧ SameRequests s s' ∧ ∃ label, (Task.head key params phase).answered? = some label := by
  cases step with
  | unknown | headFailed => exact ⟨rfl, rfl, _, rfl⟩
  | miss found known => exact absurd (fun _ => by simp [known]) leaves
  | hit found => exact absurd (fun missed => by simp [found] at missed) leaves
  | sized => exact absurd (by rintro err ⟨⟩) leaves
  | answer => exact absurd trivial leaves

theorem Spawned.requests (spawned : Spawned cfg s job s' task)
    (stays : ∀ request, job = .put request → invalidPath request.key.path = false →
      (cfg.object request.key).isSome = true) : CountsAnswer label s s' task := by
  cases spawned with
  | getInvalid | headInvalid | putInvalid => exact answered_counts rfl _ _ rfl
  | get | head | put => exact SameRequests.silent rfl rfl
  | putUnknown valid absent =>
    have known := stays _ rfl valid
    simp [absent] at known

end Steps

section Runs

variable {cfg : AppConfig} {s t : Proxy}

/-- A step by which no handler leaves early counts what it answers. -/
theorem requests_balanced (links : linked.Holds s) (stays : NoEarlyExit cfg s action)
    (taken : (proxy cfg).step s action = some t) (label : Method × StatusCode) :
    Balanced (·.metrics.requestsTotal label) (Task.answers label) s t := by
  have moves {index : Nat} {task task' : Task} {shared : Shared} (present : s.tasks index = some task)
      (silent : task.answered? = none) (counts : CountsAnswer label s.shared shared task') :
      Balanced (·.metrics.requestsTotal label) (Task.answers label) s
        (s.replace index shared task') := by
    apply Balanced.replace present (links.bounded index task present)
    simpa [CountsAnswer, Task.answers, silent] using counts
  cases proxy_step taken with
  | @start request shared task spawned =>
    apply Balanced.spawn
    apply spawned.requests
    rintro request' rfl valid
    exact stays valid
  | get present polled => exact moves present rfl polled.requests
  | put present polled => exact moves present rfl polled.requests
  | prefetch present polled => exact moves present rfl (polled.requests.silent rfl)
  | @head index key params at_ reply shared phase spawned present polled =>
    have moved := moves present rfl (polled.requests (stays _ present))
    split
    · exact moved.push rfl
    · exact moved
  | late present landed => exact moves present rfl (SameRequests.silent (congrArg _ landed.metrics) rfl)
  | dropGet present | dropHead present | dropPut present | dropPrefetch present =>
    exact moves present rfl (SameRequests.silent rfl rfl)
  | evict | release => exact Balanced.reshare rfl

theorem requestsCounted_reaches
    (reach : (proxy cfg).system.Reaches (NoEarlyExit cfg) (Proxy.initial upstream cache) s) : RequestsCounted s := by
  intro label
  exact Balanced.counted reach rfl fun _ _ _ prior stays taken =>
    requests_balanced (linked_reaches prior) stays taken label

/-- An early exit is one answer more, and none is counted. -/
theorem exit_uncounted (links : linked.Holds s) (exits : ¬ NoEarlyExit cfg s action)
    (taken : (proxy cfg).step s action = some t) :
    SameRequests s.shared t.shared ∧ ∃ label,
      t.count (Task.answers label) = s.count (Task.answers label) + 1 := by
  have leaves {index : Nat} {task : Task} {reply : Reply} (present : s.tasks index = some task)
      (same : action = .poll index reply) : ¬ task.Stays cfg s.shared reply := by
    subst same
    intro stays
    apply exits
    intro other found
    cases found.symm.trans present
    exact stays
  cases proxy_step taken with
  | start spawned =>
    cases spawned with
    | putUnknown =>
      refine ⟨rfl, (.put, .notFound), ?_⟩
      rw [State.count_push]
      rfl
    | put valid known => exact absurd (fun _ => by simp [known]) exits
    | putInvalid invalid => exact absurd (fun valid => by simp [invalid] at valid) exits
    | getInvalid | get | headInvalid | head => exact absurd trivial exits
  | @head index key params at_ reply shared phase spawned present polled =>
    obtain ⟨rfl, same, label, answer⟩ := polled.uncounted (leaves present rfl)
    refine ⟨same, label, ?_⟩
    have replaced : (s.replace index shared (.head key params phase)).count (Task.answers label) + 0 =
        s.count (Task.answers label) + (Task.answers label (.head key params phase)).toNat :=
      State.count_replace present (links.bounded index _ present)
    simpa [State.pushAll, Task.answers, answer] using replaced
  | get present | put present | prefetch present | late present => exact absurd trivial (leaves present rfl)
  | dropGet | dropHead | dropPut | dropPrefetch | evict | release => exact absurd trivial exits

end Runs

/-- As long as no handler leaves early every answer is counted once, and the
first early exit is not counted. -/
theorem requestsCounted_of_noEarlyExit (cfg : AppConfig) (upstream : ObjectId → Option Bytes) (cache : FoyerCache) :
    (∀ s, (proxy cfg).system.Reaches (NoEarlyExit cfg) (Proxy.initial upstream cache) s → RequestsCounted s) ∧
      ∀ s t action, (proxy cfg).system.Reaches (NoEarlyExit cfg) (Proxy.initial upstream cache) s →
        (proxy cfg).step s action = some t → (RequestsCounted t ↔ NoEarlyExit cfg s action) := by
  refine ⟨fun s reach => requestsCounted_reaches reach, ?_⟩
  intro s t action reach taken
  constructor
  · intro counted
    by_contra exits
    obtain ⟨same, label, more⟩ := exit_uncounted (linked_reaches reach) exits taken
    have before := requestsCounted_reaches reach label
    have after := counted label
    rw [same, more, before] at after
    omega
  · intro stays
    exact requestsCounted_reaches (reach.step stays taken)

/-- A HEAD under a bucket that is not configured is answered 404 and counted nowhere. -/
theorem uncounted_reachable :
    ¬ ∀ s, (proxy (.single "b" 4 .unknown)).system.Reaches System.Always (Proxy.initial (fun _ => none) .empty) s →
      RequestsCounted s := by
  intro counted
  have replayed : (proxy (.single "b" 4 .unknown)).system.run (Proxy.initial (fun _ => none) .empty)
      [.start (.head ⟨"x", "p"⟩ []), .poll 0 .ready] = some _ := rfl
  have total := counted _ (System.reaches_of_run replayed) (.head, .notFound)
  exact absurd total (by decide)

end Cachegate
