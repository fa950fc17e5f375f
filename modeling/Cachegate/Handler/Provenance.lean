import Cachegate.Handler.Commit
import Cachegate.Handler.Results

/-! Where the entries that tasks hold, flights pass on and the cache keeps come
from. A property of entries that every upstream read and every insertion by a
PUT establishes holds of all of them, and so of every answer. -/

namespace Cachegate

open Transition TaskPool Inflight

section Entries

variable (good : CacheKey → CacheEntry → Prop) (cfg : AppConfig) (key : CacheKey)

def FoyerCache.Sound (cache : FoyerCache) : Prop :=
  ∀ key entry, cache.entries key = some entry → good key entry

def Inflight.Sound (f : Flights) : Prop :=
  ∀ e guard entry, f.guards e = some guard → (f.entries e).result = some (.ok entry) → good guard.key entry

/-- Nothing is asked of an error. -/
def ResultSound (result : InflightResult) : Prop := ∀ entry, result = .ok entry → good key entry

/-- A body under way already has the content type that it will be given. -/
def FetchAwait.Sound : FetchAwait → Prop
  | .get _ | .missing _ => True
  | .bytes _ data => good key ⟨data, some (resolveContentType cfg.mime key.path data)⟩
  | .put data contentType => good key ⟨data, contentType⟩

def LeaderAwait.Sound : LeaderAwait → Prop
  | .fetch stage => stage.Sound good cfg key
  | .store result | .release result => ResultSound good key result

def GetAwait.Sound : GetAwait → Prop
  | .leader _ stage => stage.Sound good cfg key
  | .recheck leaderEntry => good key leaderEntry
  | .fallback stage => stage.Sound good cfg key
  | _ => True

/-- A 200 answer to a GET is built from a good entry. -/
def Answers (result : HandlerResult) : Prop :=
  ∀ response, result = .ok response → ∃ entry hit, good key entry ∧ response = buildResponse entry hit

def HeadAwait.Sound : HeadAwait → Prop
  | .answered size => ∃ entry, good key entry ∧ entry.bytes.length = size
  | _ => True

/-- A 200 answer to a HEAD has the length of a good entry. -/
def HeadAnswers (result : HandlerResult) : Prop :=
  ∀ response, result = .ok response →
    ∃ entry, good key entry ∧ response.status = .ok ∧ response.contentLength = some entry.bytes.length

def PrefetchAwait.Sound : PrefetchAwait → Prop
  | .leader _ stage => stage.Sound good cfg key
  | .acquire => True

def Task.Sound : Task → Prop
  | .get key (.running at_) => at_.Sound good cfg key
  | .get key (.returned result) => Answers good key result
  | .head key _ (.running at_) => at_.Sound good key
  | .head key _ (.returned result) => HeadAnswers good key result
  | .prefetch key (.running at_) => at_.Sound good cfg key
  | _ => True

/-- An upstream read of this key's object gives a good entry. -/
def Fetched (s : Shared) : Prop :=
  ∀ object data, cfg.object key = some object → s.upstream object = some data →
    good key ⟨data, some (resolveContentType cfg.mime key.path data)⟩

end Entries

section Steps

variable {good : CacheKey → CacheEntry → Prop} {cfg : AppConfig} {key : CacheKey} {s s' : Shared}
variable {guard : EntryId}

theorem FoyerCache.Sound.put {cache : FoyerCache} (sound : cache.Sound good)
    (own : good key ⟨bytes, contentType⟩) : (cache.put key bytes contentType).Sound good := by
  intro other entry found
  by_cases same : other = key
  · subst same
    have inserted : (⟨bytes, contentType⟩ : CacheEntry) = entry := by simpa [FoyerCache.put] using found
    exact inserted ▸ own
  · exact sound other entry (by simpa [FoyerCache.put, same] using found)

theorem FoyerCache.Sound.evict {cache : FoyerCache} (sound : cache.Sound good) (key : CacheKey) :
    (cache.evict key).Sound good := by
  intro other entry found
  by_cases same : other = key
  · simp [FoyerCache.evict, same] at found
  · exact sound other entry (by simpa [FoyerCache.evict, same] using found)

/-- A lookup finds only what the cache keeps. -/
theorem lookup_found (found : s.lookup key reply = some (some entry)) : s.cache.entries key = some entry := by
  unfold Shared.lookup at found
  split at found <;> simp [FoyerCache.get] at found
  exact found

/-- A lookup that finds something was answered. -/
theorem lookup_ready (found : s.lookup key reply = some (some entry)) :
    reply = .ready ∧ s.cache.entries key = some entry := by
  cases reply with
  | ready => exact ⟨rfl, lookup_found found⟩
  | cacheError | failed | streamError => cases found

theorem ResultSound.answers (sound : ResultSound good key result) (hit : Bool) :
    Answers good key (result.map (buildResponse · hit)) := by
  intro response built
  cases result with
  | error err => cases built
  | ok entry => exact ⟨entry, hit, sound entry rfl, by cases built; rfl⟩

theorem answers_ok (own : good key entry) (hit : Bool) : Answers good key (.ok (buildResponse entry hit)) := by
  rintro response ⟨⟩
  exact ⟨entry, hit, own, rfl⟩

theorem answers_error (err : AppError) : Answers good key (.error err) := by
  rintro response ⟨⟩

theorem FetchStart.sound (good : CacheKey → CacheEntry → Prop) (start : FetchStart cfg key s s' next) :
    next.elim (FetchAwait.Sound good cfg key) (ResultSound good key) := by
  cases start with
  | unknown => rintro entry ⟨⟩
  | called => trivial

theorem FetchStep.sound (step : FetchStep cfg key method s at_ reply s' next) (formed : at_.Formed cfg key)
    (fetched : Fetched good cfg key s) (cache : s.cache.Sound good) (own : at_.Sound good cfg key) :
    s'.cache.Sound good ∧ next.elim (FetchAwait.Sound good cfg key) (ResultSound good key) := by
  cases step with
  | got stored => exact ⟨cache, fetched _ _ formed stored⟩
  | skipped => exact ⟨cache, by rintro entry ⟨⟩; exact own⟩
  | read => exact ⟨cache, own⟩
  | cached => exact ⟨cache.put own, by rintro entry ⟨⟩; exact own⟩
  | absent => exact ⟨cache, trivial⟩
  | missed | getFailed | readFailed => exact ⟨cache, by rintro entry ⟨⟩⟩

theorem LeaderStart.sound (good : CacheKey → CacheEntry → Prop)
    (start : LeaderStart cfg key guard s s' stage) : stage.Sound good cfg key := by
  cases start with
  | fetch started => exact started.sound good
  | complete started => exact started.sound good

theorem LeaderStep.sound (step : LeaderStep cfg key method guard s at_ reply s' next)
    (formed : at_.Formed cfg key) (fetched : Fetched good cfg key s) (cache : s.cache.Sound good)
    (own : at_.Sound good cfg key) :
    s'.cache.Sound good ∧ next.elim (LeaderAwait.Sound good cfg key) (ResultSound good key) := by
  cases step with
  | fetch step => exact step.sound formed fetched cache own
  | complete step => exact step.sound formed fetched cache own
  | store | release => exact ⟨cache, own⟩

/-- The entry a follower reads from its flight is good. -/
def Joined (good : CacheKey → CacheEntry → Prop) (s : Shared) (key : CacheKey) (at_ : GetAwait) : Prop :=
  ∀ wait entry flights, at_ = .result wait →
    s.flights.readResult wait = some (some (.ok entry), flights) → good key entry

theorem Inflight.Sound.joined (sound : s.flights.Sound good) (linked : at_.Linked s.flights key) :
    Joined good s key at_ := by
  rintro wait entry flights rfl read
  obtain ⟨e, locking, guard, present, rfl⟩ := linked
  simp only [readResult, locking, Option.some.injEq, Prod.mk.injEq] at read
  exact sound e guard entry present read.1

theorem GetStep.sound (step : GetStep cfg key s at_ reply s' phase) (formed : at_.Formed cfg key)
    (fetched : Fetched good cfg key s) (joined : Joined good s key at_) (cache : s.cache.Sound good)
    (own : at_.Sound good cfg key) :
    s'.cache.Sound good ∧ (Task.get key phase).Sound good cfg := by
  cases step with
  | hit found | recheckHit found => exact ⟨cache, answers_ok (cache _ _ (lookup_found found)) true⟩
  | recheckMiss => exact ⟨cache, answers_ok own false⟩
  | lead _ started =>
    exact ⟨by rw [started.cache]; exact cache, started.sound good⟩
  | leader led => exact led.sound formed fetched cache own
  | led led =>
    obtain ⟨cache, sound⟩ := led.sound formed fetched cache own
    exact ⟨cache, sound.answers false⟩
  | joined read => exact ⟨cache, joined _ _ _ rfl read⟩
  | joinedError => exact ⟨cache, answers_error _⟩
  | abandoned _ started => exact ⟨by rw [started.cache]; exact cache, started.sound good⟩
  | abandonedEnds _ started =>
    refine ⟨?_, (started.sound good).answers false⟩
    simp only [Shared.answered, Shared.count, started.cache]
    exact cache
  | fallback step => exact step.sound formed fetched cache own
  | fallbackEnds step =>
    obtain ⟨cache, sound⟩ := step.sound formed fetched cache own
    exact ⟨cache, sound.answers false⟩
  | miss | follow | wait | wake => exact ⟨cache, trivial⟩

theorem PrefetchStep.sound (step : PrefetchStep cfg key s at_ reply s' phase) (formed : at_.Formed cfg key)
    (fetched : Fetched good cfg key s) (cache : s.cache.Sound good) (own : at_.Sound good cfg key) :
    s'.cache.Sound good ∧ (Task.prefetch key phase).Sound good cfg := by
  cases step with
  | lead _ started =>
    exact ⟨by rw [started.cache]; exact cache, started.sound good⟩
  | follow => exact ⟨cache, trivial⟩
  | leader led => exact led.sound formed fetched cache own
  | led led => exact ⟨(led.sound formed fetched cache own).1, trivial⟩

theorem HeadStep.sound (step : HeadStep cfg key params s at_ reply s' phase spawned)
    (formed : at_.Formed cfg key) (fetched : Fetched good cfg key s) (cache : s.cache.Sound good)
    (own : at_.Sound good key) : (Task.head key params phase).Sound good cfg := by
  cases step with
  | hit found =>
    rintro response ⟨⟩
    exact ⟨_, cache _ _ (lookup_found found), rfl, rfl⟩
  | sized stored => exact ⟨_, fetched _ _ formed stored, rfl⟩
  | answer =>
    obtain ⟨entry, own, size⟩ := own
    rintro response ⟨⟩
    exact ⟨entry, own, rfl, by rw [size]; rfl⟩
  | unknown | headFailed => rintro response ⟨⟩
  | miss => trivial

theorem Spawned.sound (good : CacheKey → CacheEntry → Prop) (spawned : Spawned cfg s request s' task) :
    task.Sound good cfg := by
  cases spawned with
  | getInvalid => exact answers_error _
  | headInvalid => rintro response ⟨⟩
  | get | head | putInvalid | putUnknown | put => trivial

theorem PutStep.sound (step : PutStep cfg request s at_ reply s' phase) (cache : s.cache.Sound good)
    (inserted : ∀ object loop, at_ = .insert object loop →
      good request.key ⟨loop.buffer, contentTypeFromHeaders cfg.mime request.headers request.key.path⟩) :
    s'.cache.Sound good := by
  cases step with
  | inserted => exact cache.put (inserted _ _ rfl)
  | checked | opened | initFailed | chunk | ended | bodyFailed | aborted | abortFailed | refused | committed
  | finishFailed | finishAborted | uncached | caching => exact cache

end Steps

/-- Every entry the proxy holds anywhere is good, and so is every answer. -/
structure Proxy.Sound (good : CacheKey → CacheEntry → Prop) (cfg : AppConfig) (s : Proxy) : Prop where
  cache : s.shared.cache.Sound good
  flights : s.shared.flights.Sound good
  tasks : s.All (Task.Sound good cfg)

/-- The insertion that a PUT is about to make is of a good entry. -/
def Inserted (good : CacheKey → CacheEntry → Prop) (cfg : AppConfig) (s : Proxy) : Prop :=
  ∀ index request object loop, s.tasks index = some (.put request (.running (.insert object loop))) →
    good request.key ⟨loop.buffer, contentTypeFromHeaders cfg.mime request.headers request.key.path⟩

section Runs

variable {good : CacheKey → CacheEntry → Prop} {cfg : AppConfig} {s t : Proxy}

/-- The result that a leader stores is its own, so it is sound. -/
theorem Task.Sound.stores {task : Task} (sound : task.Sound good cfg) (stores : task.stores? = some (e, result)) :
    ResultSound good task.key result := by
  unfold Task.stores? at stores
  split at stores
  · rename_i stage
    cases stage <;> cases stores
    exact sound
  · rename_i stage
    cases stage <;> cases stores
    exact sound
  · cases stores

/-- A step keeps every flight's result good. -/
theorem Proxy.Sound.flights_step (sound : s.Sound good cfg) (links : linked.Holds s)
    (taken : (proxy cfg).step s action = some t) : t.shared.flights.Sound good := by
  intro e guard entry present stored
  rcases results_step links taken present stored with ⟨before, present', name, stored'⟩ |
    ⟨index, task, _, found, stores, name⟩
  · exact name ▸ sound.flights e before entry present' stored'
  · rw [name]
    exact (sound.tasks index task found).stores stores entry rfl

/-- A step keeps the cache and the tasks good, if what it reads or inserts is. -/
theorem Proxy.Sound.step (sound : s.Sound good cfg) (links : linked.Holds s) (formed : s.All (Task.Formed cfg))
    (fetched : ∀ key, Fetched good cfg key s.shared) (inserted : Inserted good cfg s)
    (taken : (proxy cfg).step s action = some t) : t.Sound good cfg := by
  have flights := sound.flights_step links taken
  cases proxy_step taken with
  | start spawned =>
    refine ⟨?_, flights, State.All.push sound.tasks (spawned.sound good)⟩
    simp only [State.push_shared, State.reshare_shared, spawned.cache]
    exact sound.cache
  | get present polled =>
    obtain ⟨cache, task⟩ := polled.sound (formed _ _ present) (fetched _)
      (sound.flights.joined (links.each _ _ present)) sound.cache (sound.tasks _ _ present)
    exact ⟨cache, flights, sound.tasks.replace task⟩
  | prefetch present polled =>
    obtain ⟨cache, task⟩ :=
      polled.sound (formed _ _ present) (fetched _) sound.cache (sound.tasks _ _ present)
    exact ⟨cache, flights, sound.tasks.replace task⟩
  | head present polled =>
    have task := polled.sound (formed _ _ present) (fetched _) sound.cache (sound.tasks _ _ present)
    refine ⟨?_, flights, all_head (sound.tasks.replace task) trivial⟩
    simp only [State.pushAll_shared, State.replace_shared, polled.cache]
    exact sound.cache
  | put present polled =>
    refine ⟨polled.sound sound.cache ?_, flights, sound.tasks.replace trivial⟩
    rintro object loop rfl
    exact inserted _ _ _ _ present
  | late _ landed =>
    refine ⟨?_, flights, sound.tasks.replace trivial⟩
    simp only [State.replace_shared, landed.cache]
    exact sound.cache
  | dropHead | dropPut | dropGet | dropPrefetch =>
    exact ⟨sound.cache, flights, sound.tasks.replace trivial⟩
  | evict key => exact ⟨sound.cache.evict key, flights, sound.tasks⟩
  | release => exact ⟨sound.cache, flights, sound.tasks⟩

theorem Proxy.Sound.imp (sound : s.Sound good cfg) (imp : ∀ key entry, good key entry → good' key entry) :
    s.Sound good' cfg := by
  have results (key : CacheKey) {result : InflightResult} (own : ResultSound good key result) :
      ResultSound good' key result := fun entry same => imp key entry (own entry same)
  have fetches (key : CacheKey) (stage : FetchAwait) (own : stage.Sound good cfg key) :
      stage.Sound good' cfg key := by
    cases stage with
    | get | missing => trivial
    | bytes | put => exact imp key _ own
  have leads (key : CacheKey) (stage : LeaderAwait) (own : stage.Sound good cfg key) :
      stage.Sound good' cfg key := by
    cases stage with
    | fetch stage => exact fetches key stage own
    | store | release => exact results key own
  refine ⟨fun key entry found => imp key entry (sound.cache key entry found),
    fun e guard entry present stored => imp _ entry (sound.flights e guard entry present stored), ?_⟩
  refine sound.tasks.imp ?_
  intro task own
  match task with
  | .get key (.running (.leader _ stage)) => exact leads key stage own
  | .get key (.running (.recheck entry)) => exact imp key entry own
  | .get key (.running (.fallback stage)) => exact fetches key stage own
  | .get key (.returned result) =>
    intro response same
    obtain ⟨entry, hit, own, built⟩ := own response same
    exact ⟨entry, hit, imp key entry own, built⟩
  | .head key _ (.running (.answered size)) =>
    obtain ⟨entry, own, length⟩ := own
    exact ⟨entry, imp key entry own, length⟩
  | .head key _ (.returned result) =>
    intro response same
    obtain ⟨entry, own, built⟩ := own response same
    exact ⟨entry, imp key entry own, built⟩
  | .prefetch key (.running (.leader _ stage)) => exact leads key stage own
  | .get _ (.running .lookup) | .get _ (.running .acquire) | .get _ (.running (.follow _))
  | .get _ (.running (.notified _)) | .get _ (.running (.result _)) | .get _ (.dropped _)
  | .head _ _ (.running .lookup) | .head _ _ (.running (.head _)) | .head _ _ (.dropped _)
  | .prefetch _ (.running .acquire) | .prefetch _ (.returned _) | .prefetch _ (.dropped _)
  | .put _ _ => trivial

theorem Proxy.sound_initial (recovered : cache.Sound good) :
    (Proxy.initial upstream cache).Sound good cfg where
  cache := recovered
  flights := by intro e guard entry present; simp [Proxy.initial, State.start, Shared.initial, Inflight.new] at present
  tasks := State.all_start _

end Runs
end Cachegate
