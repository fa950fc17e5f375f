import Cachegate.Handler.Formed

/-! What changes the stores and the cache. The stores change by the commit of a
PUT, in its handler or after it was dropped; the cache by the insertions at the
end of a fetch and of a PUT. Under write-once objects what is stored stays. -/

namespace Cachegate

open Transition TaskPool

/-- The commit that a task's next reply may be: its object and its bytes. -/
def Task.commits? : Task → Option (ObjectId × Bytes)
  | .put _ (.running (.finish object _ loop)) => some (object, loop.uploaded)
  | .put _ (.dropped (.finish object _ loop)) => some (object, loop.uploaded)
  | _ => none

def FetchAwait.inserts? (key : CacheKey) : FetchAwait → Option (CacheKey × Bytes)
  | .put data _ => some (key, data)
  | _ => none

def LeaderAwait.inserts? (key : CacheKey) : LeaderAwait → Option (CacheKey × Bytes)
  | .fetch stage => stage.inserts? key
  | _ => none

/-- The insertion in the cache that a task's next reply may be. -/
def Task.inserts? : Task → Option (CacheKey × Bytes)
  | .get key (.running (.leader _ stage)) => stage.inserts? key
  | .get key (.running (.fallback stage)) => stage.inserts? key
  | .prefetch key (.running (.leader _ stage)) => stage.inserts? key
  | .put request (.running (.insert _ loop)) => some (request.key, loop.buffer)
  | _ => none

/-- The cache is as it was, or has one more insertion. -/
def Caches (insertion : Option (CacheKey × Bytes)) (reply : Reply) (s s' : Shared) : Prop :=
  s'.cache = s.cache ∨ ∃ key bytes contentType, insertion = some (key, bytes) ∧ reply = .ready ∧
    s'.cache = s.cache.put key bytes contentType

section Steps

variable {cfg : AppConfig} {key : CacheKey} {s s' : Shared} {guard : EntryId}

theorem PutStep.upstream (step : PutStep cfg request s at_ reply s' phase) :
    s'.upstream = s.upstream ∨
      ∃ object upload loop, at_ = .finish object upload loop ∧ reply = .ready ∧
        phase = .running (.committed object loop) ∧
        s'.upstream = Function.update s.upstream object (some loop.uploaded) := by
  cases step with
  | committed => exact .inr ⟨_, _, _, rfl, rfl, rfl, rfl⟩
  | checked | opened | initFailed | chunk | ended | bodyFailed | aborted | abortFailed | refused | finishFailed
  | finishAborted | uncached | caching | inserted => exact .inl rfl

theorem FetchStart.cache (start : FetchStart cfg key s s' next) : s'.cache = s.cache := by
  cases start <;> rfl

theorem LeaderStart.cache (start : LeaderStart cfg key guard s s' stage) : s'.cache = s.cache := by
  cases start with
  | fetch started => exact started.cache
  | complete started => exact started.cache

theorem FetchStep.caches (step : FetchStep cfg key method s at_ reply s' next) :
    Caches (at_.inserts? key) reply s s' := by
  cases step with
  | cached => exact .inr ⟨_, _, _, rfl, rfl, rfl⟩
  | got | absent | missed | getFailed | skipped | read | readFailed => exact .inl rfl

theorem LeaderStep.caches (step : LeaderStep cfg key method guard s at_ reply s' next) :
    Caches (at_.inserts? key) reply s s' := by
  cases step with
  | fetch step => exact step.caches
  | complete step => exact step.caches
  | store | release => exact .inl rfl

theorem GetStep.caches (step : GetStep cfg key s at_ reply s' phase) :
    Caches (Task.get key (.running at_)).inserts? reply s s' := by
  cases step with
  | lead _ started => exact .inl started.cache
  | leader led => exact led.caches
  | led led => exact led.caches
  | abandoned _ started => exact .inl started.cache
  | abandonedEnds _ started => exact .inl started.cache
  | fallback step => exact step.caches
  | fallbackEnds step => exact step.caches
  | hit | miss | follow | wait | wake | joined | joinedError | recheckHit | recheckMiss => exact .inl rfl

theorem HeadStep.cache (step : HeadStep cfg key params s at_ reply s' phase spawned) : s'.cache = s.cache := by
  cases step <;> rfl

theorem PrefetchStep.caches (step : PrefetchStep cfg key s at_ reply s' phase) :
    Caches (Task.prefetch key (.running at_)).inserts? reply s s' := by
  cases step with
  | lead _ started => exact .inl started.cache
  | leader led => exact led.caches
  | led led => exact led.caches
  | follow => exact .inl rfl

theorem PutStep.caches (step : PutStep cfg request s at_ reply s' phase) :
    Caches (Task.put request (.running at_)).inserts? reply s s' := by
  cases step with
  | inserted => exact .inr ⟨_, _, _, rfl, rfl, rfl⟩
  | checked | opened | initFailed | chunk | ended | bodyFailed | aborted | abortFailed | refused | committed
  | finishFailed | finishAborted | uncached | caching => exact .inl rfl

theorem Spawned.cache (spawned : Spawned cfg s request s' task) : s'.cache = s.cache := by
  cases spawned <;> rfl

theorem Spawned.upstream (spawned : Spawned cfg s request s' task) : s'.upstream = s.upstream := by
  cases spawned <;> rfl

end Steps

section Runs

variable {cfg : AppConfig} {s t : Proxy}

theorem upstream_step (taken : (proxy cfg).step s action = some t) :
    t.shared.upstream = s.shared.upstream ∨
      ∃ index task object bytes, action = .poll index .ready ∧ s.tasks index = some task ∧
        task.commits? = some (object, bytes) ∧
        t.shared.upstream = Function.update s.shared.upstream object (some bytes) := by
  cases proxy_step taken with
  | start spawned => exact .inl spawned.upstream
  | get _ polled => exact .inl polled.untouched.upstream
  | head _ polled => exact .inl ((congrArg Shared.upstream (State.pushAll_shared _ _)).trans polled.untouched.upstream)
  | prefetch _ polled => exact .inl polled.untouched.upstream
  | put present polled =>
    rcases polled.upstream with same | ⟨object, upload, loop, rfl, rfl, rfl, changed⟩
    · exact .inl same
    · exact .inr ⟨_, _, object, loop.uploaded, rfl, present, rfl, changed⟩
  | late present landed =>
    cases landed with
    | opened | aborted => exact .inl rfl
    | committed => exact .inr ⟨_, _, _, _, rfl, present, rfl, rfl⟩
  | dropGet | dropHead | dropPut | dropPrefetch | evict | release => exact .inl rfl

/-- A step leaves the cache as it is, or is the insertion of the task that takes
it, or the eviction of an entry. -/
theorem cache_moves (taken : (proxy cfg).step s action = some t) :
    t.shared.cache = s.shared.cache ∨
      (∃ index task key bytes contentType, action = .poll index .ready ∧ s.tasks index = some task ∧
        task.inserts? = some (key, bytes) ∧ t.shared.cache = s.shared.cache.put key bytes contentType) ∨
      ∃ key, action = .env (.evict key) ∧ t.shared.cache = s.shared.cache.evict key := by
  have inserted {index : Nat} {task : Task} {reply : Reply} {shared : Shared} (present : s.tasks index = some task)
      (caches : Caches task.inserts? reply s.shared shared) :
      shared.cache = s.shared.cache ∨
        ∃ i task key bytes contentType, (Action.poll index reply : ProxyAction) = .poll i .ready ∧
          s.tasks i = some task ∧ task.inserts? = some (key, bytes) ∧
          shared.cache = s.shared.cache.put key bytes contentType := by
    rcases caches with same | ⟨key, bytes, contentType, inserts, rfl, changed⟩
    · exact .inl same
    · exact .inr ⟨index, task, key, bytes, contentType, rfl, present, inserts, changed⟩
  cases proxy_step taken with
  | start spawned => exact .inl spawned.cache
  | get present polled => exact (inserted present polled.caches).imp_right .inl
  | put present polled => exact (inserted present polled.caches).imp_right .inl
  | prefetch present polled => exact (inserted present polled.caches).imp_right .inl
  | head _ polled => exact .inl ((congrArg Shared.cache (State.pushAll_shared _ _)).trans polled.cache)
  | late _ landed => exact .inl landed.cache
  | dropGet | dropHead | dropPut | dropPrefetch | release => exact .inl rfl
  | evict key => exact .inr (.inr ⟨key, rfl, rfl⟩)

/-- A fetch inserts what it has read, when it awaits `cache.put`. -/
theorem FetchAwait.inserts_put {stage : FetchAwait} (inserts : stage.inserts? own = some (key, data)) :
    own = key ∧ ∃ contentType, stage = .put data contentType := by
  cases stage with
  | put =>
    cases inserts
    exact ⟨rfl, _, rfl⟩
  | get | missing | bytes => cases inserts

theorem LeaderAwait.inserts_put {stage : LeaderAwait} (inserts : stage.inserts? own = some (key, data)) :
    own = key ∧ ∃ contentType, stage = .fetch (.put data contentType) := by
  cases stage with
  | fetch stage =>
    obtain ⟨same, contentType, rfl⟩ := FetchAwait.inserts_put inserts
    exact ⟨same, contentType, rfl⟩
  | store | release => cases inserts

/-- A reply to a task that inserts is the insertion. -/
theorem poll_inserts {task : Task} (inserts : task.inserts? = some (key, bytes))
    (polled : task.poll cfg shared .ready = some (shared', task', child)) :
    ∃ contentType, shared'.cache = shared.cache.put key bytes contentType := by
  unfold Task.inserts? at inserts
  split at inserts
  · obtain ⟨rfl, contentType, rfl⟩ := LeaderAwait.inserts_put inserts
    cases polled
    exact ⟨contentType, rfl⟩
  · obtain ⟨rfl, contentType, rfl⟩ := FetchAwait.inserts_put inserts
    cases polled
    exact ⟨contentType, rfl⟩
  · obtain ⟨rfl, contentType, rfl⟩ := LeaderAwait.inserts_put inserts
    cases polled
    exact ⟨contentType, rfl⟩
  · cases inserts
    cases polled
    exact ⟨_, rfl⟩
  · cases inserts

/-- Every commit is the first of its object: an object that exists is never
written, and no object is written twice. -/
def WriteOnce (s : Proxy) : ProxyAction → Prop
  | .poll index .ready =>
      ∀ task ∈ s.tasks index, ∀ commit ∈ task.commits?, s.shared.upstream commit.1 = none
  | _ => True

instance (s : Proxy) : (action : ProxyAction) → Decidable (WriteOnce s action)
  | .poll index .ready =>
      inferInstanceAs (Decidable (∀ task ∈ s.tasks index, ∀ commit ∈ task.commits?,
        s.shared.upstream commit.1 = none))
  | .poll _ (.failed _) | .poll _ .cacheError | .poll _ .streamError | .start _ | .cancel _ | .env _ =>
      isTrue trivial

/-- The first commit of this object is the only one. -/
def OnceAt (object : ObjectId) (s : Proxy) : ProxyAction → Prop
  | .poll index .ready =>
      ∀ task ∈ s.tasks index, ∀ commit ∈ task.commits?, commit.1 = object → s.shared.upstream object = none
  | _ => True

instance (object : ObjectId) (s : Proxy) : (action : ProxyAction) → Decidable (OnceAt object s action)
  | .poll index .ready =>
      inferInstanceAs (Decidable (∀ task ∈ s.tasks index, ∀ commit ∈ task.commits?,
        commit.1 = object → s.shared.upstream object = none))
  | .poll _ (.failed _) | .poll _ .cacheError | .poll _ .streamError | .start _ | .cancel _ | .env _ =>
      isTrue trivial

theorem WriteOnce.onceAt (once : WriteOnce s action) (object : ObjectId) : OnceAt object s action := by
  unfold OnceAt
  split
  · intro task present commit commits same
    rw [← same]
    exact once task present commit commits
  · trivial

theorem upstream_grows (once : OnceAt object s action) (taken : (proxy cfg).step s action = some t)
    (stored : s.shared.upstream object = some data) : t.shared.upstream object = some data := by
  rcases upstream_step taken with same | ⟨index, task, written, bytes, ready, present, commits, changed⟩
  · rw [same]; exact stored
  · have different : object ≠ written := by
      rintro rfl
      subst ready
      simp [once task present (object, bytes) commits rfl] at stored
    simpa [changed, different] using stored

end Runs

/-- What a PUT past its commit has written, and where. -/
def Task.uploaded? (cfg : AppConfig) : Task → Option (ObjectId × Bytes)
  | .put request (.running (.committed object _)) | .put request (.running (.insert object _))
  | .put request (.dropped (.committed object _)) | .put request (.dropped (.insert object _)) =>
      some (object, request.body.flatten)
  | .put request (.returned (.ok _)) => (cfg.object request.key).map (·, request.body.flatten)
  | _ => none

/-- The body of a PUT past its commit on this object is stored there. -/
def Task.Uploaded (cfg : AppConfig) (object : ObjectId) (upstream : ObjectId → Option Bytes) (task : Task) : Prop :=
  ∀ bytes, task.uploaded? cfg = some (object, bytes) → upstream object = some bytes

theorem Task.Uploaded.of_none {task : Task} (nothing : task.uploaded? cfg = none) :
    task.Uploaded cfg object upstream := by
  intro bytes done
  simp [nothing] at done

theorem PutStep.uploaded (step : PutStep cfg request s at_ reply s' phase) (formed : at_.Formed cfg request)
    (uploaded : (Task.put request (.running at_)).Uploaded cfg object s.upstream) :
    (Task.put request phase).Uploaded cfg object s'.upstream := by
  cases step with
  | committed =>
    obtain ⟨_, rfl⟩ := formed
    rintro bytes ⟨⟩
    simp [Shared.commit, Shared.setUpload]
  | uncached | inserted =>
    intro bytes done
    simp only [Task.uploaded?, formed.1, Option.map_some] at done
    exact uploaded bytes done
  | caching => exact uploaded
  | checked | opened | initFailed | chunk | ended | bodyFailed | aborted | abortFailed | refused | finishFailed
  | finishAborted =>
    exact .of_none rfl

theorem uploaded_reaches {cfg : AppConfig} (meets : ∀ s action, allowed s action → OnceAt object s action)
    (reach : (proxy cfg).system.Reaches allowed (Proxy.initial upstream cache) s) :
    s.All (Task.Uploaded cfg object s.shared.upstream) := by
  refine reach.invariantWith (motive := fun s => s.All (Task.Uploaded cfg object s.shared.upstream))
    (fun _ prior => formed_reaches prior) (State.all_start _) ?_
  intro source action next formed formed' uploaded allow taken
  have grown : source.All (Task.Uploaded cfg object next.shared.upstream) := uploaded.imp fun task own bytes done =>
    upstream_grows (meets _ _ allow) taken (own bytes done)
  cases proxy_step taken with
  | start spawned =>
    refine State.All.push grown ?_
    cases spawned <;> exact .of_none rfl
  | get present polled => exact grown.replace (.of_none rfl)
  | prefetch present polled => exact grown.replace (.of_none rfl)
  | head present polled => exact all_head (grown.replace (.of_none rfl)) (.of_none rfl)
  | put present polled =>
    exact grown.replace (polled.uploaded (formed _ _ present) (uploaded _ _ present))
  | late present landed =>
    cases landed with
    | opened | aborted => exact grown.replace (.of_none rfl)
    | committed =>
      obtain ⟨_, rfl⟩ := (formed _ _ present :)
      refine grown.replace ?_
      rintro bytes ⟨⟩
      simp [Shared.commit, Shared.setUpload]
  | dropGet | dropHead | dropPrefetch => exact grown.replace (.of_none rfl)
  | @dropPut index request at_ present =>
    have own := grown _ _ present
    refine grown.replace ?_
    cases at_ with
    | committed | insert => exact own
    | head | init | next | abort | aborted | finish => exact .of_none rfl
  | evict | release => exact grown

end Cachegate
