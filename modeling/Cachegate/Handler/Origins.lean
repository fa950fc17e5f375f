import Cachegate.Handler.Exclusion
import Cachegate.Handler.Found
import Cachegate.Handler.Ledger
import Cachegate.Handler.Provenance

/-! Where every answer comes from: an object, an entry, a flight or an error that
the request has met itself, at a step of its own. -/

namespace Cachegate

open Transition TaskPool Inflight

/-- The key that a task looks up in the cache. -/
def Task.looksUp? : Task → Option CacheKey
  | .get key (.running .lookup) | .get key (.running (.recheck _)) | .head key _ (.running .lookup) => some key
  | _ => none

def FetchAwait.calls? : FetchAwait → Option ObjectId
  | .get object | .bytes object _ => some object
  | .missing _ | .put _ _ => none

/-- The object of the upstream call whose failure a task hands on. -/
def Task.calls? : Task → Option ObjectId
  | .get _ (.running (.leader _ (.fetch stage))) | .get _ (.running (.fallback stage))
  | .prefetch _ (.running (.leader _ (.fetch stage))) => stage.calls?
  | .head _ _ (.running (.head object)) | .put _ (.running (.init object))
  | .put _ (.running (.finish object _ _)) => some object
  | _ => none

/-- A PUT that waits for its body. -/
def Task.Receives : Task → Prop
  | .put _ (.running (.next _ _ _ _)) => True
  | _ => False

section Origins

variable (cfg : AppConfig)

/-- The task was given this reply where it was so, in a state that was so. -/
def Met (past : ProxyPast) (i : Nat) (reply : Reply) (held : Task → Shared → Prop) : Prop :=
  ∃ source task, (source, .poll i reply) ∈ past ∧ source.tasks i = some task ∧ held task source.shared

/-- A call that the task made upstream for the key has failed. -/
def Told (past : ProxyPast) (i : Nat) (key : CacheKey) (err : StoreError) : Prop :=
  ∃ object, cfg.object key = some object ∧ Met past i (.failed err) fun task _ => task.calls? = some object

/-- The object of the key held these bytes, or was absent, when the task was given them. -/
def Looked (past : ProxyPast) (i : Nat) (key : CacheKey) (stored : Option Bytes) : Prop :=
  ∃ object, cfg.object key = some object ∧
    Met past i .ready fun task s => task.reads? = some object ∧ s.upstream object = stored

/-- The task looked the key up while the cache held this entry. -/
def Kept (past : ProxyPast) (i : Nat) (key : CacheKey) (entry : CacheEntry) : Prop :=
  Met past i .ready fun task s => task.looksUp? = some key ∧ s.cache.entries key = some entry

/-- What the fetch of a task came to, and why. -/
inductive FetchOrigin (key : CacheKey) (i : Nat) (past : ProxyPast) : InflightResult → Prop
  | unknown (absent : cfg.object key = none) : FetchOrigin key i past (.error (.notFound "unknown bucket"))
  | read (looked : Looked cfg past i key (some data)) :
      FetchOrigin key i past (.ok ⟨data, some (resolveContentType cfg.mime key.path data)⟩)
  | absent (looked : Looked cfg past i key none) : FetchOrigin key i past (.error (.fromStore .notFound))
  | failed (told : Told cfg past i key err) : FetchOrigin key i past (.error (.fromStore err))

/-- The task's `acquire` found no flight of the key, and made this entry. -/
def Founded (past : ProxyPast) (i : Nat) (key : CacheKey) (e : EntryId) : Prop :=
  Met past i .ready fun task s =>
    task.acquires? = some key ∧ s.flights.inner key = none ∧ s.flights.nextEntry = e

/-- The task's `acquire` found this flight of the key. -/
def Followed (past : ProxyPast) (i : Nat) (key : CacheKey) (e : EntryId) : Prop :=
  Met past i .ready fun task s => task.acquires? = some key ∧ s.flights.inner key = some e

/-- The task led this flight of the key, and put there what its fetch had come to. -/
structure Flown (leader : Nat) (past : ProxyPast) (key : CacheKey) (e : EntryId) (result : InflightResult) :
    Prop where
  founded : Founded past leader key e
  origin : FetchOrigin cfg key leader past result
  stored : Met past leader .ready fun task _ => task.stores? = some (e, result)

/-- The task followed a flight of the key, and read there what its leader had put. -/
structure Shares (i leader : Nat) (past : ProxyPast) (key : CacheKey) (e : EntryId) (result : InflightResult) :
    Prop where
  followed : Followed past i key e
  read : Met past i .ready fun task s =>
    ∃ wait, task.reading? = some wait ∧ s.flights.waits wait = some (.locking e) ∧
      (s.flights.entries e).result = some result
  flown : Flown cfg leader past key e result

/-- What a request was answered, and why. -/
inductive Origin (i : Nat) (past : ProxyPast) : Request → HandlerResult → Prop
  | invalid (refused : invalidPath request.key.path = true) :
      Origin i past request (.error (.badRequest "invalid object path"))
  | unknown (absent : cfg.object request.key = none) : Origin i past request (.error (.notFound "unknown bucket"))
  | failed (told : Told cfg past i request.key err) : Origin i past request (.error (.fromStore err))
  | cached (kept : Kept past i key entry) : Origin i past (.get key) (.ok (buildResponse entry true))
  | fetched (origin : FetchOrigin cfg key i past result) :
      Origin i past (.get key) (result.map (buildResponse · false))
  | joined (shares : Shares cfg i leader past key e result) :
      Origin i past (.get key) (result.map (buildResponse · false))
  | headCached (kept : Kept past i key entry) : Origin i past (.head key params) (.ok (buildHeadResponse entry))
  | headSized (looked : Looked cfg past i key (some data)) :
      Origin i past (.head key params) (.ok (buildHeadResponseWithMeta data.length (cfg.mime.fromPath key.path)))
  | broken (cut : Met past i .streamError fun task _ => task.Receives) :
      Origin i past (.put request) (.error (.badRequest "invalid request body"))
  | committed (known : cfg.object request.key = some object)
      (written : (i, object, request.body.flatten) ∈ ledger past) :
      Origin i past (.put request) (.ok buildPutResponse)

def FetchAwait.Traced (key : CacheKey) (i : Nat) (past : ProxyPast) : FetchAwait → Prop
  | .get object => cfg.object key = some object
  | .missing object => cfg.object key = some object ∧ Looked cfg past i key none
  | .bytes object data => cfg.object key = some object ∧ Looked cfg past i key (some data)
  | .put data contentType =>
      Looked cfg past i key (some data) ∧ contentType = some (resolveContentType cfg.mime key.path data)

def LeaderAwait.Traced (key : CacheKey) (i : Nat) (past : ProxyPast) : LeaderAwait → Prop
  | .fetch stage => stage.Traced cfg key i past
  | .store result | .release result => FetchOrigin cfg key i past result

def GetAwait.Traced (key : CacheKey) (i : Nat) (past : ProxyPast) : GetAwait → Prop
  | .leader guard stage => Founded past i key guard ∧ stage.Traced cfg key i past
  | .recheck entry => ∃ leader e, Shares cfg i leader past key e (.ok entry)
  | .fallback stage => stage.Traced cfg key i past
  | .lookup | .acquire | .follow _ | .notified _ | .result _ => True

def HeadAwait.Traced (key : CacheKey) (i : Nat) (past : ProxyPast) : HeadAwait → Prop
  | .head object => cfg.object key = some object
  | .answered size => ∃ data, Looked cfg past i key (some data) ∧ data.length = size
  | .lookup => True

def PrefetchAwait.Traced (key : CacheKey) (i : Nat) (past : ProxyPast) : PrefetchAwait → Prop
  | .leader guard stage => Founded past i key guard ∧ stage.Traced cfg key i past
  | .acquire => True

/-- A PUT in `abort` or past it has met a broken body stream. -/
def PutAwait.Traced (i : Nat) (past : ProxyPast) : PutAwait → Prop
  | .abort _ | .aborted => Met past i .streamError fun task _ => task.Receives
  | .head _ | .init _ | .next _ _ _ _ | .finish _ _ _ | .committed _ _ | .insert _ _ => True

/-- The task has met what it is about to hand on, or has answered with. -/
def Task.Traced (i : Nat) (past : ProxyPast) : Task → Prop
  | .get key (.running at_) => at_.Traced cfg key i past
  | .get key (.returned result) => Origin cfg i past (.get key) result
  | .head key _ (.running at_) => at_.Traced cfg key i past
  | .head key params (.returned result) => Origin cfg i past (.head key params) result
  | .prefetch key (.running at_) => at_.Traced cfg key i past
  | .put _ (.running at_) => at_.Traced i past
  | .put request (.returned result) => Origin cfg i past (.put request) result
  | _ => True

/-- Whoever waits for a flight of its key has found it there. -/
def Awaited (past : ProxyPast) (s : Proxy) : Prop :=
  ∀ i task e, s.tasks i = some task → task.awaits? s.shared.flights = some e → Followed past i task.key e

/-- What a flight carries its leader has put there. -/
def FlightsTraced (past : ProxyPast) (f : Flights) : Prop :=
  ∀ e guard result, f.guards e = some guard → (f.entries e).result = some result →
    ∃ leader, Flown cfg leader past guard.key e result

/-- What was led has its guard, of the key it was led for. -/
def Recorded (past : ProxyPast) (f : Flights) : Prop :=
  ∀ leader key e, Founded past leader key e → ∃ guard, f.guards e = some guard ∧ guard.key = key

end Origins

/-- The request that a task has answered, and its answer. -/
def Task.answer? : Task → Option (Request × HandlerResult)
  | .get key (.returned result) => some (.get key, result)
  | .head key params (.returned result) => some (.head key params, result)
  | .put request (.returned result) => some (.put request, result)
  | _ => none

section Later

variable {cfg : AppConfig} {key : CacheKey} {i leader : Nat} {past : ProxyPast} {latest : Proxy × ProxyAction}

theorem Met.mono (met : Met past i reply held) : Met (latest :: past) i reply held := by
  obtain ⟨source, task, listed, found, held⟩ := met
  exact ⟨source, task, List.mem_cons_of_mem latest listed, found, held⟩

theorem Told.mono (told : Told cfg past i key err) : Told cfg (latest :: past) i key err := by
  obtain ⟨object, known, met⟩ := told
  exact ⟨object, known, met.mono⟩

theorem Looked.mono (looked : Looked cfg past i key stored) : Looked cfg (latest :: past) i key stored := by
  obtain ⟨object, known, met⟩ := looked
  exact ⟨object, known, met.mono⟩

theorem FetchOrigin.mono (origin : FetchOrigin cfg key i past result) :
    FetchOrigin cfg key i (latest :: past) result := by
  cases origin with
  | unknown absent => exact .unknown absent
  | read looked => exact .read looked.mono
  | absent looked => exact .absent looked.mono
  | failed told => exact .failed told.mono

theorem Flown.mono (flown : Flown cfg leader past key e result) : Flown cfg leader (latest :: past) key e result :=
  ⟨Met.mono flown.founded, flown.origin.mono, flown.stored.mono⟩

theorem Shares.mono (shares : Shares cfg i leader past key e result) :
    Shares cfg i leader (latest :: past) key e result :=
  ⟨Met.mono shares.followed, shares.read.mono, shares.flown.mono⟩

theorem Origin.mono (origin : Origin cfg i past request result) : Origin cfg i (latest :: past) request result := by
  cases origin with
  | invalid refused => exact .invalid refused
  | unknown absent => exact .unknown absent
  | failed told => exact .failed told.mono
  | cached kept => exact .cached (Met.mono kept)
  | fetched origin => exact .fetched origin.mono
  | joined shares => exact .joined shares.mono
  | headCached kept => exact .headCached (Met.mono kept)
  | headSized looked => exact .headSized looked.mono
  | broken cut => exact .broken cut.mono
  | committed known written =>
    exact .committed known (by rw [ledger_cons]; exact List.mem_append_right _ written)

theorem FetchAwait.Traced.mono {stage : FetchAwait} (traced : stage.Traced cfg key i past) :
    stage.Traced cfg key i (latest :: past) := by
  cases stage with
  | get => exact traced
  | missing | bytes => exact ⟨traced.1, traced.2.mono⟩
  | put => exact ⟨traced.1.mono, traced.2⟩

theorem LeaderAwait.Traced.mono {stage : LeaderAwait} (traced : stage.Traced cfg key i past) :
    stage.Traced cfg key i (latest :: past) := by
  cases stage with
  | fetch stage => exact FetchAwait.Traced.mono traced
  | store | release => exact FetchOrigin.mono traced

theorem Task.Traced.mono {task : Task} (traced : task.Traced cfg i past) : task.Traced cfg i (latest :: past) := by
  match task with
  | .get _ (.running (.leader _ _)) => exact ⟨Met.mono traced.1, LeaderAwait.Traced.mono traced.2⟩
  | .get _ (.running (.recheck _)) =>
    obtain ⟨leader, e, shares⟩ := traced
    exact ⟨leader, e, shares.mono⟩
  | .get _ (.running (.fallback _)) => exact FetchAwait.Traced.mono traced
  | .get _ (.returned _) | .head _ _ (.returned _) | .put _ (.returned _) => exact Origin.mono traced
  | .head _ _ (.running (.head _)) => exact traced
  | .head _ _ (.running (.answered _)) =>
    obtain ⟨data, looked, size⟩ := traced
    exact ⟨data, looked.mono, size⟩
  | .prefetch _ (.running (.leader _ _)) => exact ⟨Met.mono traced.1, LeaderAwait.Traced.mono traced.2⟩
  | .put _ (.running (.abort _)) | .put _ (.running .aborted) =>
    have cut : Met past i .streamError fun task _ => task.Receives := traced
    exact cut.mono
  | .get _ (.running .lookup) | .get _ (.running .acquire) | .get _ (.running (.follow _))
  | .get _ (.running (.notified _)) | .get _ (.running (.result _)) | .get _ (.dropped _)
  | .head _ _ (.running .lookup) | .head _ _ (.dropped _) | .prefetch _ (.running .acquire)
  | .prefetch _ (.returned _) | .prefetch _ (.dropped _) | .put _ (.dropped _) | .put _ (.running (.head _))
  | .put _ (.running (.init _)) | .put _ (.running (.next _ _ _ _)) | .put _ (.running (.finish _ _ _))
  | .put _ (.running (.committed _ _)) | .put _ (.running (.insert _ _)) => trivial

end Later

section Steps

variable {cfg : AppConfig} {key : CacheKey} {i : Nat} {past : ProxyPast} {s t : Proxy} {shared : Shared}
variable {guard : EntryId} {upstream : ObjectId → Option Bytes} {task : Task}

theorem met_now (present : s.tasks i = some task) (held : met task s.shared) :
    Met ((s, .poll i reply) :: past) i reply met :=
  ⟨s, task, List.mem_cons_self, present, held⟩

theorem FetchStart.traced (start : FetchStart cfg key s₁ s₂ next) :
    next.elim (FetchAwait.Traced cfg key i past) (FetchOrigin cfg key i past) := by
  cases start with
  | unknown absent => exact .unknown absent
  | called known => exact known

theorem FetchStep.traced (step : FetchStep cfg key method s.shared at_ reply shared next)
    (present : s.tasks i = some task) (reads : task.reads? = at_.reads?) (calls : task.calls? = at_.calls?)
    (traced : at_.Traced cfg key i past) :
    next.elim (FetchAwait.Traced cfg key i ((s, .poll i reply) :: past))
      (FetchOrigin cfg key i ((s, .poll i reply) :: past)) := by
  cases step with
  | got stored => exact ⟨traced, _, traced, met_now present ⟨reads, stored⟩⟩
  | absent vacant => exact ⟨traced, _, traced, met_now present ⟨reads, vacant⟩⟩
  | missed => exact .absent traced.2.mono
  | getFailed err => exact .failed ⟨_, traced, met_now present calls⟩
  | skipped => exact .read traced.2.mono
  | read => exact ⟨traced.2.mono, rfl⟩
  | readFailed err => exact .failed ⟨_, traced.1, met_now present calls⟩
  | cached =>
    obtain ⟨looked, rfl⟩ := traced
    exact .read looked.mono

theorem LeaderStart.traced (start : LeaderStart cfg key guard s₁ s₂ stage) : stage.Traced cfg key i past := by
  cases start with
  | fetch started => exact started.traced
  | complete started => exact started.traced

theorem LeaderStep.traced (step : LeaderStep cfg key method guard s.shared at_ reply shared next)
    (present : s.tasks i = some task) (reads : ∀ stage, at_ = .fetch stage → task.reads? = stage.reads?)
    (calls : ∀ stage, at_ = .fetch stage → task.calls? = stage.calls?) (traced : at_.Traced cfg key i past) :
    next.elim (LeaderAwait.Traced cfg key i ((s, .poll i reply) :: past))
      (FetchOrigin cfg key i ((s, .poll i reply) :: past)) := by
  cases step with
  | fetch step => exact step.traced present (reads _ rfl) (calls _ rfl) traced
  | complete step => exact step.traced present (reads _ rfl) (calls _ rfl) traced
  | store => exact FetchOrigin.mono traced
  | release => exact FetchOrigin.mono traced

/-- A task that is told to lead has found no flight of its key. -/
theorem founded_now (present : s.tasks i = some task) (acquires : task.acquires? = some key)
    (acquired : s.shared.flights.acquire key = (.leader guard, flights)) :
    Founded ((s, .poll i .ready) :: past) i key guard := by
  apply met_now present
  unfold acquire at acquired
  split at acquired <;> cases acquired
  exact ⟨acquires, ‹_›, rfl⟩

theorem followed_now (present : s.tasks i = some task) (acquires : task.acquires? = some key)
    (acquired : s.shared.flights.acquire key = (.follower e, flights)) :
    Followed ((s, .poll i .ready) :: past) i key e := by
  apply met_now present
  unfold acquire at acquired
  split at acquired <;> cases acquired
  exact ⟨acquires, ‹_›⟩

/-- What a call of `wait` returns is what the leader of its flight has put there. -/
theorem shares_now (present : s.tasks i = some (.get key (.running (.result wait))))
    (linked : (GetAwait.result wait).Linked s.shared.flights key) (awaited : Awaited past s)
    (carried : FlightsTraced cfg past s.shared.flights)
    (read : s.shared.flights.readResult wait = some (some result, f)) :
    ∃ leader e, Shares cfg i leader ((s, .poll i .ready) :: past) key e result := by
  obtain ⟨e, locking, guard, found, rfl⟩ := linked
  simp only [readResult, locking, Option.some.injEq, Prod.mk.injEq] at read
  obtain ⟨leader, flown⟩ := carried e guard result found read.1
  have followed : Followed past i guard.key e :=
    awaited i _ e present (by simp [Task.awaits?, locking, WaitPhase.entry])
  exact ⟨leader, e, followed.mono, met_now present ⟨wait, rfl, locking, read.1⟩, flown.mono⟩

theorem GetStep.traced (step : GetStep cfg key s.shared at_ reply shared phase)
    (present : s.tasks i = some (.get key (.running at_))) (linked : at_.Linked s.shared.flights key)
    (awaited : Awaited past s) (carried : FlightsTraced cfg past s.shared.flights)
    (traced : at_.Traced cfg key i past) : (Task.get key phase).Traced cfg i ((s, .poll i reply) :: past) := by
  cases step with
  | hit found | recheckHit found =>
    obtain ⟨rfl, kept⟩ := lookup_ready found
    exact .cached (met_now present ⟨rfl, kept⟩)
  | recheckMiss =>
    obtain ⟨leader, e, shares⟩ := traced
    exact .joined shares.mono
  | lead acquired started => exact ⟨founded_now present rfl acquired, started.traced⟩
  | leader led =>
    exact ⟨Met.mono traced.1, led.traced present (by rintro stage rfl; rfl) (by rintro stage rfl; rfl) traced.2⟩
  | led led =>
    have origin : FetchOrigin cfg key i ((s, .poll i reply) :: past) _ :=
      led.traced present (by rintro stage rfl; rfl) (by rintro stage rfl; rfl) traced.2
    exact .fetched origin
  | joined read => exact shares_now present linked awaited carried read
  | joinedError read =>
    obtain ⟨leader, e, shares⟩ := shares_now present linked awaited carried read
    exact .joined shares
  | abandoned _ started => exact started.traced
  | abandonedEnds _ started => exact .fetched started.traced
  | fallback step => exact step.traced present rfl rfl traced
  | fallbackEnds step => exact .fetched (step.traced present rfl rfl traced)
  | miss | follow | wait | wake => trivial

theorem HeadStep.traced (step : HeadStep cfg key params s.shared at_ reply shared phase spawned)
    (present : s.tasks i = some (.head key params (.running at_))) (traced : at_.Traced cfg key i past) :
    (Task.head key params phase).Traced cfg i ((s, .poll i reply) :: past) := by
  cases step with
  | hit found =>
    obtain ⟨rfl, kept⟩ := lookup_ready found
    exact .headCached (met_now present ⟨rfl, kept⟩)
  | unknown _ absent => exact .unknown absent
  | miss _ known => exact known
  | sized stored => exact ⟨_, ⟨_, traced, met_now present ⟨rfl, stored⟩⟩, rfl⟩
  | headFailed err => exact .failed ⟨_, traced, met_now present rfl⟩
  | answer =>
    obtain ⟨data, looked, rfl⟩ := traced
    exact .headSized looked.mono

theorem PrefetchStep.traced (step : PrefetchStep cfg key s.shared at_ reply shared phase)
    (present : s.tasks i = some (.prefetch key (.running at_))) (traced : at_.Traced cfg key i past) :
    (Task.prefetch key phase).Traced cfg i ((s, .poll i reply) :: past) := by
  cases step with
  | lead acquired started => exact ⟨founded_now present rfl acquired, started.traced⟩
  | leader led =>
    exact ⟨Met.mono traced.1, led.traced present (by rintro stage rfl; rfl) (by rintro stage rfl; rfl) traced.2⟩
  | follow | led => trivial

theorem PutStep.traced (step : PutStep cfg request s.shared at_ reply shared phase)
    (present : s.tasks i = some (.put request (.running at_))) (formed : at_.Formed cfg request)
    (kept : Ledgered cfg upstream past s) (traced : at_.Traced i past) :
    (Task.put request phase).Traced cfg i ((s, .poll i reply) :: past) := by
  cases step with
  | initFailed err => exact .failed ⟨_, formed, met_now present rfl⟩
  | finishFailed err | finishAborted err => exact .failed ⟨_, formed.1, met_now present rfl⟩
  | bodyFailed => exact (met_now present trivial : Met _ i .streamError fun task _ => task.Receives)
  | aborted =>
    have cut : Met past i .streamError fun task _ => task.Receives := traced
    exact cut.mono
  | abortFailed | refused =>
    have cut : Met past i .streamError fun task _ => task.Receives := traced
    exact .broken cut.mono
  | uncached | inserted =>
    obtain ⟨object, known, written⟩ := kept.wrote present trivial
    exact Origin.mono (.committed known written)
  | checked | opened | chunk | ended | committed | caching => trivial

theorem Spawned.traced (spawned : Spawned cfg s₁ request s₂ task) : task.Traced cfg i past := by
  cases spawned with
  | getInvalid invalid | headInvalid invalid | putInvalid invalid => exact .invalid invalid
  | putUnknown _ absent => exact .unknown absent
  | get | head | put => trivial

/-- All that a run is known to have met. -/
structure Explained (cfg : AppConfig) (upstream : ObjectId → Option Bytes) (past : ProxyPast) (s : Proxy) : Prop where
  kept : Ledgered cfg upstream past s
  traced : ∀ i task, s.tasks i = some task → task.Traced cfg i past
  awaited : Awaited past s
  carried : FlightsTraced cfg past s.shared.flights
  recorded : Recorded past s.shared.flights

theorem traced_step (known : Explained cfg upstream past s) (links : linked.Holds s) (formed : s.All (Task.Formed cfg))
    (taken : (proxy cfg).step s action = some t) (present : t.tasks i = some task) :
    task.Traced cfg i ((s, action) :: past) := by
  obtain ⟨shared, _, step⟩ := became taken present
  cases step with
  | kept before => exact (known.traced i _ before).mono
  | start _ spawned => exact spawned.traced
  | spawned => trivial
  | get before polled =>
    exact polled.traced before (links.each i _ before) known.awaited known.carried (known.traced i _ before)
  | head before polled => exact polled.traced before (known.traced i _ before)
  | put before polled => exact polled.traced before (formed i _ before) known.kept (known.traced i _ before)
  | prefetch before polled => exact polled.traced before (known.traced i _ before)
  | late | dropGet | dropHead | dropPut | dropPrefetch => trivial

theorem GetStep.awaited (step : GetStep cfg key s.shared at_ reply shared phase)
    (present : s.tasks i = some (.get key (.running at_))) (awaited : Awaited past s)
    (awaits : (Task.get key phase).awaits? shared.flights = some e) :
    Followed ((s, .poll i reply) :: past) i key e := by
  have before (waiting : (Task.get key (.running at_)).awaits? s.shared.flights = some e) :
      Followed ((s, .poll i reply) :: past) i key e := Met.mono (awaited i _ e present waiting)
  cases step with
  | follow acquired =>
    cases awaits
    exact followed_now present rfl acquired
  | wait => exact before (by simpa [Task.awaits?, callWait, Inflight.setWait, WaitPhase.entry] using awaits)
  | @wake wait flights woken =>
    apply before
    unfold Inflight.wake at woken
    split at woken
    · rename_i entry future waiting
      split at woken <;> cases woken
      simpa [Task.awaits?, Inflight.setWait, waiting, WaitPhase.entry] using awaits
    · cases woken
  | hit | miss | lead | leader | led | joined | joinedError | abandoned | abandonedEnds | recheckHit | recheckMiss
  | fallback | fallbackEnds => cases awaits

theorem awaited_step (awaited : Awaited past s) (links : linked.Holds s)
    (taken : (proxy cfg).step s action = some t) : Awaited ((s, action) :: past) t := by
  intro i task e present awaits
  obtain ⟨shared, same, step⟩ := became taken present
  cases step with
  | kept before untouched =>
    rw [awaits_step links taken untouched before] at awaits
    exact Met.mono (awaited i task e before awaits)
  | start _ spawned => cases spawned <;> cases awaits
  | get before polled =>
    rw [same] at awaits
    exact polled.awaited before awaited awaits
  | spawned | head | put | prefetch | late | dropGet | dropHead | dropPut | dropPrefetch => cases awaits

/-- The result that a leader stores is what its fetch has come to. -/
theorem Task.Traced.stores (traced : task.Traced cfg i past) (stores : task.stores? = some (e, result)) :
    Founded past i task.key e ∧ FetchOrigin cfg task.key i past result := by
  unfold Task.stores? at stores
  split at stores
  · rename_i stage
    cases stage <;> cases stores
    exact traced
  · rename_i stage
    cases stage <;> cases stores
    exact traced
  · cases stores

theorem FlightsTraced.step (known : Explained cfg upstream past s) (links : linked.Holds s)
    (taken : (proxy cfg).step s action = some t) : FlightsTraced cfg ((s, action) :: past) t.shared.flights := by
  intro e guard result present stored
  rcases results_step links taken present stored with ⟨before, present', name, stored'⟩ |
    ⟨index, task, rfl, found, stores, name⟩
  · obtain ⟨leader, flown⟩ := known.carried e before result present' stored'
    exact ⟨leader, name ▸ flown.mono⟩
  · obtain ⟨founded, origin⟩ := (known.traced index task found).stores stores
    exact ⟨index, name ▸ ⟨Met.mono founded, origin.mono, met_now found stores⟩⟩

/-- A task that finds no flight of its key leads one. -/
theorem founded_step (taken : (proxy cfg).step s (.poll i .ready) = some t) (present : s.tasks i = some task)
    (acquires : task.acquires? = some key) (vacant : s.shared.flights.inner key = none) :
    ∃ task', t.tasks i = some task' ∧ task'.guard? = some s.shared.flights.nextEntry ∧ task'.key = key := by
  have led {permit : InflightPermit} {flights : Flights} (acquired : s.shared.flights.acquire key = (permit, flights)) :
      permit = .leader s.shared.flights.nextEntry := by
    simp only [acquire, vacant, Prod.mk.injEq] at acquired
    exact acquired.1.symm
  cases proxy_step taken with
  | get found polled =>
    cases found.symm.trans present
    cases polled with
    | lead acquired =>
      cases acquires
      cases led acquired
      exact ⟨_, State.replace_self .., rfl, rfl⟩
    | follow acquired =>
      cases acquires
      cases led acquired
    | _ => cases acquires
  | prefetch found polled =>
    cases found.symm.trans present
    cases polled with
    | lead acquired =>
      cases acquires
      cases led acquired
      exact ⟨_, State.replace_self .., rfl, rfl⟩
    | follow acquired =>
      cases acquires
      cases led acquired
    | _ => cases acquires
  | head found | put found | late found =>
    cases found.symm.trans present
    cases acquires

theorem recorded_step (recorded : Recorded past s.shared.flights) (links : linked.Holds s) (links' : linked.Holds t)
    (taken : (proxy cfg).step s action = some t) : Recorded ((s, action) :: past) t.shared.flights := by
  rintro leader key e ⟨source, task, listed, present, acquires, vacant, rfl⟩
  rcases List.mem_cons.mp listed with ⟨⟨⟩⟩ | earlier
  · obtain ⟨task', present', holds, rfl⟩ := founded_step taken present acquires vacant
    have link := links'.each leader task' present'
    obtain ⟨guard, found, _⟩ := link.live holds
    exact ⟨guard, found, link.guard_key holds found⟩
  · obtain ⟨guard, found, rfl⟩ := recorded leader key _ ⟨source, task, earlier, present, acquires, vacant, rfl⟩
    obtain ⟨own, call, frame, _⟩ := frame_step links taken
    exact frame.keys _ guard found

/-- Along every run tasks and flights have met what they hand on. -/
theorem explained_history
    (history : (proxy cfg).system.History System.Always (Proxy.initial upstream cache) past t) :
    Explained cfg upstream past t := by
  refine history.invariantWith (motive := Explained cfg upstream)
    (fun _ prior => And.intro (linked_reaches prior) (formed_reaches prior)) ?_ ?_
  · refine ⟨ledgered_initial cfg upstream cache, ?_, ?_, ?_, ?_⟩
    · intro i task present
      simp [Proxy.initial, State.start] at present
    · intro i task e present
      simp [Proxy.initial, State.start] at present
    · intro e guard result present
      simp [Proxy.initial, State.start, Shared.initial, Inflight.new] at present
    · rintro leader key e ⟨_, _, listed, _⟩
      cases listed
  · rintro past source action next ⟨links, formed⟩ known _ taken
    refine ⟨known.kept.step links formed taken, ?_, awaited_step known.awaited links taken, .step known links taken, ?_⟩
    · intro i task present
      exact traced_step known links formed taken present
    · exact recorded_step known.recorded links (linked_step links taken) taken

theorem founded_cons (founded : Founded ((s, action) :: past) i key e) :
    (action = .poll i .ready ∧ s.shared.flights.nextEntry = e) ∨ Founded past i key e := by
  obtain ⟨source, task, listed, present, acquires, vacant, name⟩ := founded
  rcases List.mem_cons.mp listed with same | earlier
  · cases same
    exact .inl ⟨rfl, name⟩
  · exact .inr ⟨source, task, earlier, present, acquires, vacant, name⟩

/-- An entry is made by one `acquire` only. -/
theorem founded_once
    (history : (proxy cfg).system.History System.Always (Proxy.initial upstream cache) past t)
    (founded : Founded past i key e) (founded' : Founded past j key' e) : i = j := by
  induction history with
  | nil =>
    obtain ⟨_, _, listed, _⟩ := founded
    cases listed
  | @snoc past source action target prior _ taken ih =>
    have fresh {k : Nat} {key : CacheKey} : ¬ Founded past k key source.shared.flights.nextEntry := by
      intro earlier
      obtain ⟨guard, found, _⟩ := (explained_history prior).recorded k key _ earlier
      have owned := (linked_reaches prior.reaches).global
      exact absurd (owned.lt_next found) (Nat.lt_irrefl _)
    rcases founded_cons founded with ⟨rfl, rfl⟩ | earlier
    · rcases founded_cons founded' with ⟨same, _⟩ | earlier'
      · cases same
        rfl
      · exact absurd earlier' fresh
    · rcases founded_cons founded' with ⟨rfl, rfl⟩ | earlier'
      · exact absurd earlier fresh
      · exact ih earlier earlier'

theorem Task.Traced.answer (traced : task.Traced cfg i past) (answered : task.answer? = some (request, result)) :
    Origin cfg i past request result := by
  unfold Task.answer? at answered
  split at answered <;> cases answered <;> exact traced

end Steps

/-- In every run each answer is what the request has met at a step of its own: in
the stores, in the cache, in its headers, or in the flight that it followed, where
the one task that led the flight has put what it met in the stores. -/
theorem origin_history (cfg : AppConfig) (upstream : ObjectId → Option Bytes) (cache : FoyerCache)
    (past : ProxyPast) (t : Proxy)
    (history : (proxy cfg).system.History System.Always (Proxy.initial upstream cache) past t) :
    (∀ i task request result, t.tasks i = some task → task.answer? = some (request, result) →
        Origin cfg i past request result) ∧
      (∀ e guard result, t.shared.flights.guards e = some guard →
        (t.shared.flights.entries e).result = some result → ∃ leader, Flown cfg leader past guard.key e result) ∧
      ∀ i j key key' e, Founded past i key e → Founded past j key' e → i = j := by
  have known := explained_history history
  refine ⟨?_, known.carried, ?_⟩
  · intro i task request result present answered
    exact (known.traced i task present).answer answered
  · intro i j key key' e founded founded'
    exact founded_once history founded founded'

/-- A follower is answered with the `NotFound` that its leader has met. -/
theorem origin_history_joined :
    ∃ past t, (proxy (.single "b" 4 .unknown)).system.History System.Always
        (Proxy.initial (fun _ => none) .empty) past t ∧
      Origin (.single "b" 4 .unknown) 1 past (.get ⟨"b", "p"⟩) (.error (.fromStore .notFound)) ∧
      ∃ leader, Flown (.single "b" 4 .unknown) leader past ⟨"b", "p"⟩ 0 (.error (.fromStore .notFound)) := by
  have replayed : (proxy (.single "b" 4 .unknown)).system.run (Proxy.initial (fun _ => none) .empty)
      [.start (.get ⟨"b", "p"⟩), .start (.get ⟨"b", "p"⟩), .poll 0 .ready, .poll 1 .ready, .poll 0 .ready,
        .poll 1 .ready, .poll 1 .ready, .poll 0 .ready, .poll 0 .ready, .poll 0 .ready, .poll 0 .ready,
        .poll 1 .ready, .poll 1 .ready] = some _ := rfl
  obtain ⟨past, history⟩ := (System.reaches_of_run replayed).history
  obtain ⟨answers, flights, _⟩ := origin_history _ _ _ _ _ history
  exact ⟨past, _, history, answers 1 _ _ _ rfl rfl, flights 0 _ _ rfl rfl⟩

end Cachegate
