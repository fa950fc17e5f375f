import Cachegate.Handler.Counters

/-! The cache and upstream counters. Each first lookup is a hit or a miss, each
upstream call that ends is one latency sample and one outcome, and no GET has an
outcome without a miss of its own. -/

namespace Cachegate

open Transition TaskPool

/-- The method of a request that has passed the path check and finished its
first lookup. -/
def Task.lookedUp? : Task → Option Method
  | .get _ (.running .lookup) | .get _ (.dropped .lookup) => none
  | .head _ _ (.running .lookup) | .head _ _ (.dropped .lookup) => none
  | .get key _ => if invalidPath key.path then none else some .get
  | .head key _ _ => if invalidPath key.path then none else some .head
  | .put _ _ | .prefetch _ _ => none

def Task.lookedUp (method : Method) (task : Task) : Bool := task.lookedUp? = some method

namespace Metrics

/-- The first lookups counted. -/
def lookups (m : Metrics) (method : Method) : Nat := m.cacheHitTotal method + m.cacheMissTotal method

/-- The outcomes of upstream calls counted. -/
def outcomes (m : Metrics) (method : Method) : Nat := m.upstreamOkTotal method + m.upstreamErrs method

/-- There are as many latency samples as outcomes. -/
def Paired (m : Metrics) : Prop := ∀ method, m.upstreamLatencyMs method = m.outcomes method

end Metrics

/-- The three laws of the counters. -/
structure Conserved (s : Proxy) : Prop where
  lookups : ∀ method, s.shared.metrics.cacheHitTotal method + s.shared.metrics.cacheMissTotal method =
    s.count (Task.lookedUp method)
  outcomes : ∀ method, s.shared.metrics.upstreamLatencyMs method =
    s.shared.metrics.upstreamOkTotal method + s.shared.metrics.upstreamErrs method
  fetches : s.shared.metrics.upstreamOkTotal .get + s.shared.metrics.upstreamErrs .get ≤
    s.shared.metrics.cacheMissTotal .get

/-- The handler goes on only where the path check has passed. -/
def Task.Checked : Task → Prop
  | .get key (.running _) | .head key _ (.running _) => invalidPath key.path = false
  | _ => True

/-- The GET has missed, and the outcome of a fetch of its own is still to come. -/
def GetAwait.mayFetch : GetAwait → Bool
  | .acquire | .follow _ | .notified _ | .result _ => true
  | .leader _ stage => stage.reading
  | .fallback stage => stage.reading
  | .lookup | .recheck _ => false

def Task.mayFetch : Task → Bool
  | .get _ (.running at_) => at_.mayFetch
  | _ => false

section Metrics

variable {m m' : Metrics} {method other : Method} {ends : Bool}

theorem Calls.lookups (calls : Calls method m m' ends) (other : Method) : m'.lookups other = m.lookups other := by
  cases calls <;> rfl

theorem Calls.misses (calls : Calls method m m' ends) : m'.cacheMissTotal = m.cacheMissTotal := by
  cases calls <;> rfl

theorem Calls.outcomes (calls : Calls method m m' ends) (other : Method) :
    m'.outcomes other = m.outcomes other + (ends && decide (method = other)).toNat := by
  cases calls with
  | silent => rfl
  | failed kind =>
    have errs := upstreamErrs_bump (m.observeUpstreamLatencyMs method) method other kind
    simp only [Metrics.outcomes, errs, Bool.true_and]
    exact (Nat.add_assoc ..).symm
  | succeeded =>
    have ok := bump_apply m.upstreamOkTotal method other
    simp only [Metrics.outcomes, Metrics.incUpstreamOk, Metrics.observeUpstreamLatencyMs, Metrics.upstreamErrs, ok,
      Bool.true_and]
    omega

theorem Calls.latency (calls : Calls method m m' ends) (other : Method) :
    m'.upstreamLatencyMs other = m.upstreamLatencyMs other + (ends && decide (method = other)).toNat := by
  cases calls with
  | silent => rfl
  | failed | succeeded => exact bump_apply m.upstreamLatencyMs method other

/-- Every branch pairs its latency sample with one outcome. -/
theorem Calls.paired (calls : Calls method m m' ends) (paired : m.Paired) : m'.Paired := by
  intro other
  rw [calls.latency, calls.outcomes, paired other]

theorem lookups_hit (m : Metrics) (method other : Method) :
    (m.incCacheHit method).lookups other = m.lookups other + (decide (method = other)).toNat := by
  have hit := bump_apply m.cacheHitTotal method other
  simp only [Metrics.lookups, Metrics.incCacheHit, hit]
  omega

theorem lookups_miss (m : Metrics) (method other : Method) :
    (m.incCacheMiss method).lookups other = m.lookups other + (decide (method = other)).toNat := by
  have miss := bump_apply m.cacheMissTotal method other
  simp only [Metrics.lookups, Metrics.incCacheMiss, miss]
  omega

end Metrics

/-- What a segment does to the counters agrees with what it does to its task. -/
structure Agree (before after : Task) (m m' : Metrics) : Prop where
  lookups : ∀ method, m'.lookups method + (before.lookedUp method).toNat =
    m.lookups method + (after.lookedUp method).toNat
  paired : m.Paired → m'.Paired
  fetches : m'.outcomes .get + after.mayFetch.toNat + m.cacheMissTotal .get ≤
    m.outcomes .get + before.mayFetch.toNat + m'.cacheMissTotal .get

section Steps

variable {cfg : AppConfig} {key : CacheKey} {s s' : Shared} {guard : EntryId} {m m' : Metrics}
variable {before after : Task} {method : Method}

/-- A segment after the first lookup. -/
theorem Calls.agree (calls : Calls method m m' ends) (same : after.lookedUp? = before.lookedUp?)
    (spends : after.mayFetch.toNat + (ends && decide (method = .get)).toNat ≤ before.mayFetch.toNat) :
    Agree before after m m' where
  lookups := by
    intro other
    simp [Task.lookedUp, same, calls.lookups other]
  paired := calls.paired
  fetches := by
    rw [calls.outcomes, calls.misses]
    omega

/-- A segment after the first lookup that makes no upstream call. -/
theorem agree_silent (silent : m' = m) (same : after.lookedUp? = before.lookedUp?)
    (spends : after.mayFetch = true → before.mayFetch = true) : Agree before after m m' := by
  subst silent
  refine Calls.agree (.silent : Calls .get m' m' false) same ?_
  cases may : after.mayFetch with
  | false => simp
  | true => simp [spends may]

/-- Counting the answer leaves the other counters alone. -/
theorem Agree.answered (agree : Agree before after s.metrics s'.metrics) (method : Method) (result : HandlerResult) :
    Agree before after s.metrics (s'.answered method result).metrics :=
  ⟨agree.lookups, agree.paired, agree.fetches⟩

theorem agree_hit (unseen : before.lookedUp? = none) (seen : after.lookedUp? = some method)
    (idle : after.mayFetch = false) : Agree before after m (m.incCacheHit method) where
  lookups := by
    intro other
    simp [Task.lookedUp, unseen, seen, lookups_hit]
  paired := id
  fetches := by
    rw [idle]
    exact Nat.add_le_add_right (Nat.le_add_right ..) _

/-- A miss of a GET pays for the fetch that may follow. -/
theorem agree_miss (unseen : before.lookedUp? = none) (seen : after.lookedUp? = some method)
    (pays : after.mayFetch = true → method = .get) : Agree before after m (m.incCacheMiss method) where
  lookups := by
    intro other
    simp [Task.lookedUp, unseen, seen, lookups_miss]
  paired := id
  fetches := by
    have miss := bump_apply m.cacheMissTotal method .get
    have same : (m.incCacheMiss method).outcomes .get = m.outcomes .get := rfl
    simp only [Metrics.incCacheMiss, miss] at same ⊢
    rw [same]
    cases may : after.mayFetch with
    | false => simp; omega
    | true => simp [pays may]; omega

theorem GetStep.agree (step : GetStep cfg key s at_ reply s' phase) (valid : invalidPath key.path = false) :
    Agree (.get key (.running at_)) (.get key phase) s.metrics s'.metrics := by
  cases step with
  | hit =>
    refine Agree.answered ?_ _ _
    exact agree_hit rfl (by simp [Task.lookedUp?, valid]) rfl
  | miss => exact agree_miss rfl (by simp [Task.lookedUp?, valid]) fun _ => rfl
  | lead _ started => exact agree_silent started.metrics rfl fun _ => rfl
  | leader led =>
    obtain ⟨ends, calls, spends⟩ := led.calls
    refine calls.agree rfl ?_
    simpa [Task.mayFetch, GetAwait.mayFetch] using Nat.le_of_eq spends
  | led led =>
    obtain ⟨ends, calls, spends⟩ := led.calls
    refine Agree.answered ?_ _ _
    refine calls.agree rfl ?_
    simpa [Task.mayFetch, GetAwait.mayFetch] using Nat.le_of_eq spends
  | abandoned _ started => exact agree_silent started.metrics rfl fun _ => rfl
  | abandonedEnds _ started =>
    refine Agree.answered ?_ _ _
    exact agree_silent started.metrics rfl fun _ => rfl
  | fallback fetched =>
    obtain ⟨ends, calls, spends⟩ := fetched.calls
    refine calls.agree rfl ?_
    simpa [Task.mayFetch, GetAwait.mayFetch] using Nat.le_of_eq spends
  | fallbackEnds fetched =>
    obtain ⟨ends, calls, spends⟩ := fetched.calls
    refine Agree.answered ?_ _ _
    refine calls.agree rfl ?_
    simpa [Task.mayFetch, GetAwait.mayFetch] using Nat.le_of_eq spends
  | follow | wait | wake | joined => exact agree_silent rfl rfl fun _ => rfl
  | joinedError | recheckHit | recheckMiss =>
    refine Agree.answered ?_ _ _
    exact agree_silent rfl rfl fun may => by cases may

theorem HeadStep.agree (step : HeadStep cfg key params s at_ reply s' phase spawned)
    (valid : invalidPath key.path = false) :
    Agree (.head key params (.running at_)) (.head key params phase) s.metrics s'.metrics := by
  cases step with
  | hit =>
    refine Agree.answered ?_ _ _
    exact agree_hit rfl (by simp [Task.lookedUp?, valid]) rfl
  | unknown | miss => exact agree_miss rfl (by simp [Task.lookedUp?, valid]) fun may => by cases may
  | sized => exact agree_silent rfl rfl id
  | headFailed err => exact Calls.agree (.failed (.fromStoreError err)) rfl (Nat.le_refl _)
  | answer =>
    refine Agree.answered ?_ _ _
    exact Calls.agree .succeeded rfl (Nat.le_refl _)

theorem PrefetchStep.agree (step : PrefetchStep cfg key s at_ reply s' phase) :
    Agree (.prefetch key (.running at_)) (.prefetch key phase) s.metrics s'.metrics := by
  cases step with
  | lead _ started => exact agree_silent started.metrics rfl id
  | follow => exact agree_silent rfl rfl id
  | leader led =>
    obtain ⟨ends, calls, _⟩ := led.calls
    refine calls.agree rfl ?_
    simp [Task.mayFetch]
  | led led =>
    obtain ⟨ends, calls, _⟩ := led.calls
    refine calls.agree rfl ?_
    simp [Task.mayFetch]

theorem PutStep.agree (step : PutStep cfg request s at_ reply s' phase) :
    Agree (.put request (.running at_)) (.put request phase) s.metrics s'.metrics := by
  cases step with
  | initFailed err | finishFailed err | finishAborted err =>
    refine Agree.answered ?_ _ _
    exact Calls.agree (.failed (.fromStoreError err)) rfl (Nat.le_refl _)
  | uncached =>
    refine Agree.answered ?_ _ _
    exact Calls.agree .succeeded rfl (Nat.le_refl _)
  | caching => exact Calls.agree .succeeded rfl (Nat.le_refl _)
  | abortFailed | refused | inserted =>
    refine Agree.answered ?_ _ _
    exact agree_silent rfl rfl id
  | checked | opened | chunk | ended | bodyFailed | aborted | committed => exact agree_silent rfl rfl id

end Steps

section Runs

variable {cfg : AppConfig} {s t : Proxy}

theorem checked_get (valid : invalidPath key.path = false) (phase : Phase GetAwait HandlerResult) :
    (Task.get key phase).Checked := by
  cases phase with
  | running => exact valid
  | returned | dropped => trivial

theorem checked_head (valid : invalidPath key.path = false) (params : Query) (phase : Phase HeadAwait HandlerResult) :
    (Task.head key params phase).Checked := by
  cases phase with
  | running => exact valid
  | returned | dropped => trivial

theorem checked_reaches (reach : (proxy cfg).system.Reaches allowed (Proxy.initial upstream cache) s) :
    s.All Task.Checked := by
  refine reach.invariant (motive := fun s => s.All Task.Checked) (State.all_start _) ?_
  intro source action next checked _ taken
  cases proxy_step taken with
  | start spawned =>
    refine State.All.push checked ?_
    cases spawned with
    | get valid | head valid => exact valid
    | getInvalid | headInvalid | putInvalid | putUnknown | put => trivial
  | get present => exact checked.replace (checked_get (checked _ _ present :) _)
  | head present => exact all_head (checked.replace (checked_head (checked _ _ present :) _ _)) trivial
  | put | prefetch | late | dropGet | dropHead | dropPut | dropPrefetch => exact checked.replace trivial
  | evict | release => exact checked

/-- The laws with what is still under way. -/
structure Laws (s : Proxy) : Prop where
  lookups : ∀ method, s.shared.metrics.lookups method = s.count (Task.lookedUp method)
  paired : s.shared.metrics.Paired
  fetches : s.shared.metrics.outcomes .get + s.count Task.mayFetch ≤ s.shared.metrics.cacheMissTotal .get

theorem Laws.replace {shared : Shared} {task task' : Task} (laws : Laws s) (present : s.tasks index = some task)
    (bounded : index < s.next)
    (agree : Agree task task' s.shared.metrics shared.metrics) : Laws (s.replace index shared task') where
  lookups := by
    intro method
    have moved : (s.replace index shared task').count (Task.lookedUp method) + (task.lookedUp method).toNat =
      s.count (Task.lookedUp method) + (task'.lookedUp method).toNat := State.count_replace present bounded
    have counts := agree.lookups method
    have before := laws.lookups method
    simp only [State.replace_shared]
    omega
  paired := agree.paired laws.paired
  fetches := by
    have moved : (s.replace index shared task').count Task.mayFetch + task.mayFetch.toNat =
      s.count Task.mayFetch + task'.mayFetch.toNat := State.count_replace present bounded
    have spends := agree.fetches
    have before := laws.fetches
    simp only [State.replace_shared]
    omega

/-- A new task: what its first segment counts concerns its answer only. -/
theorem Laws.spawn (laws : Laws s) (spawned : Spawned cfg s.shared job shared task) :
    Laws ((s.reshare shared).push task) := by
  have fresh : task.lookedUp? = none ∧ task.mayFetch = false := by
    cases spawned with
    | getInvalid invalid | headInvalid invalid => simp [Task.lookedUp?, Task.mayFetch, invalid]
    | get | head | putInvalid | putUnknown | put => exact ⟨rfl, rfl⟩
  have same : ∀ method, shared.metrics.lookups method = s.shared.metrics.lookups method ∧
      (s.shared.metrics.Paired → shared.metrics.Paired) ∧
      shared.metrics.outcomes method = s.shared.metrics.outcomes method ∧
      shared.metrics.cacheMissTotal = s.shared.metrics.cacheMissTotal := by
    cases spawned <;> exact fun _ => ⟨rfl, id, rfl, rfl⟩
  obtain ⟨unseen, idle⟩ := fresh
  refine ⟨?_, (same .get).2.1 laws.paired, ?_⟩
  · intro method
    have before := laws.lookups method
    simp only [State.push_shared, State.reshare_shared, State.count_push, State.count_reshare, Task.lookedUp, unseen,
      (same method).1]
    simpa using before
  · have before := laws.fetches
    simp only [State.push_shared, State.reshare_shared, State.count_push, State.count_reshare, idle, (same .get).2.2.1,
      (same .get).2.2.2]
    simpa using before

theorem Laws.prefetch (laws : Laws s) (key : CacheKey) : Laws (s.push (.prefetch key (.running .acquire))) := by
  refine ⟨?_, laws.paired, ?_⟩
  · intro method
    simpa [State.count_push, Task.lookedUp, Task.lookedUp?] using laws.lookups method
  · simpa [State.count_push, Task.mayFetch] using laws.fetches

theorem Laws.step (laws : Laws s) (links : linked.Holds s) (checked : s.All Task.Checked)
    (taken : (proxy cfg).step s action = some t) : Laws t := by
  cases proxy_step taken with
  | start spawned => exact laws.spawn spawned
  | get present polled => exact laws.replace present (links.bounded _ _ present) (polled.agree (checked _ _ present))
  | @head index key params at_ reply shared phase spawned present polled =>
    have moved : Laws (s.replace index shared (.head key params phase)) :=
      laws.replace present (links.bounded _ _ present) (polled.agree (checked _ _ present))
    split
    · exact moved.prefetch key
    · exact moved
  | put present polled => exact laws.replace present (links.bounded _ _ present) polled.agree
  | prefetch present polled => exact laws.replace present (links.bounded _ _ present) polled.agree
  | late present landed =>
    exact laws.replace present (links.bounded _ _ present) (agree_silent landed.metrics rfl id)
  | dropPut present | dropPrefetch present =>
    exact laws.replace present (links.bounded _ _ present) (agree_silent rfl rfl id)
  | @dropGet index key at_ present =>
    refine laws.replace present (links.bounded _ _ present) (agree_silent rfl ?_ fun may => by cases may)
    cases at_ <;> rfl
  | @dropHead index key params at_ present =>
    refine laws.replace present (links.bounded _ _ present) (agree_silent rfl ?_ id)
    cases at_ <;> rfl
  | evict | release => exact ⟨laws.lookups, laws.paired, laws.fetches⟩

theorem laws_reaches (reach : (proxy cfg).system.Reaches allowed (Proxy.initial upstream cache) s) : Laws s := by
  refine reach.invariantWith (motive := Laws)
    (fun _ prior => And.intro (linked_reaches prior) (checked_reaches prior)) ?_ ?_
  · exact ⟨fun _ => rfl, fun _ => rfl, Nat.le_refl _⟩
  · rintro source action next ⟨links, checked⟩ - laws _ taken
    exact laws.step links checked taken

end Runs

/-- The counters are conserved in every state of every run. -/
theorem conserved_reaches (cfg : AppConfig) (upstream : ObjectId → Option Bytes) (cache : FoyerCache) (s : Proxy)
    (reach : (proxy cfg).system.Reaches System.Always (Proxy.initial upstream cache) s) : Conserved s := by
  have laws := laws_reaches reach
  refine ⟨laws.lookups, laws.paired, ?_⟩
  exact Nat.le_trans (Nat.le_add_right ..) laws.fetches

private def storedByte (_ : ObjectId) : Option Bytes := some [1]

/-- A leader is dropped, its follower fetches, and a HEAD prefetches: three
first lookups, two outcomes, and a miss left without one. -/
theorem conserved_reaches_fallback :
    ∃ s, (proxy (.single "b" 4 .unknown)).system.Reaches System.Always (Proxy.initial storedByte .empty) s ∧
      Conserved s ∧ s.shared.metrics.cacheMissTotal .get = 2 ∧ s.shared.metrics.upstreamOkTotal .get = 1 ∧
      s.shared.metrics.upstreamOkTotal .head = 2 := by
  have replayed : (proxy (.single "b" 4 .unknown)).system.run (Proxy.initial storedByte .empty)
      [.start (.get ⟨"b", "p"⟩), .start (.get ⟨"b", "p"⟩), .poll 0 .ready, .poll 0 .ready, .poll 1 .ready,
        .poll 1 .ready, .poll 1 .ready, .cancel 0, .env (.release 0), .poll 1 .ready, .poll 1 .ready,
        .poll 1 .ready, .poll 1 .ready, .start (.head ⟨"b", "p"⟩ [("prefetch", "1")]), .poll 2 .ready,
        .poll 2 .ready, .poll 2 .ready, .poll 3 .ready, .poll 3 .ready, .poll 3 .ready] = some _ := rfl
  have reach := System.reaches_of_run replayed
  exact ⟨_, reach, conserved_reaches _ _ _ _ reach, rfl, rfl, rfl⟩

end Cachegate
