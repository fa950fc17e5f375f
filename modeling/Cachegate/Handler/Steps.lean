import Cachegate.Handler.Task

/-! The transitions of the handlers, one rule each. Every step of `getPoll`,
`headPoll`, `putPoll`, `prefetchPoll` and their parts is an instance of one of
these, with what the code found and what it left behind. -/

namespace Cachegate

section Rules

variable (cfg : AppConfig) (key : CacheKey)

inductive FetchStep (method : Method) (s : Shared) :
    FetchAwait → Reply → Shared → FetchAwait ⊕ InflightResult → Prop
  | got (stored : s.upstream object = some data) :
      FetchStep method s (.get object) .ready s (.inl (.bytes object data))
  | absent (vacant : s.upstream object = none) :
      FetchStep method s (.get object) .ready s (.inl (.missing object))
  | missed :
      FetchStep method s (.missing object) .ready (s.upstreamFailed method .notFound)
        (.inr (.error (.fromStore .notFound)))
  | getFailed (err : StoreError) :
      FetchStep method s (.get object) (.failed err) (s.upstreamFailed method err)
        (.inr (.error (.fromStore err)))
  | skipped (oversized : cfg.capBytes = 0 ∨ cfg.capBytes < data.length) :
      FetchStep method s (.bytes object data) .ready (s.upstreamSucceeded method)
        (.inr (.ok ⟨data, some (resolveContentType cfg.mime key.path data)⟩))
  | read (fits : ¬ (cfg.capBytes = 0 ∨ cfg.capBytes < data.length)) :
      FetchStep method s (.bytes object data) .ready (s.upstreamSucceeded method)
        (.inl (.put data (some (resolveContentType cfg.mime key.path data))))
  | readFailed (err : StoreError) :
      FetchStep method s (.bytes object data) (.failed err) (s.upstreamFailed method err)
        (.inr (.error (.fromStore err)))
  | cached : FetchStep method s (.put data contentType) .ready (s.insert key data contentType)
      (.inr (.ok ⟨data, contentType⟩))

inductive FetchStart (s : Shared) : Shared → FetchAwait ⊕ InflightResult → Prop
  | unknown (absent : cfg.object key = none) :
      FetchStart s s (.inr (.error (.notFound "unknown bucket")))
  | called (known : cfg.object key = some object) :
      FetchStart s { s with getCalls := Metrics.bump s.getCalls key } (.inl (.get object))

inductive LeaderStep (method : Method) (guard : EntryId) (s : Shared) :
    LeaderAwait → Reply → Shared → LeaderAwait ⊕ InflightResult → Prop
  | fetch (fetched : FetchStep cfg key method s stage reply s' (.inl stage')) :
      LeaderStep method guard s (.fetch stage) reply s' (.inl (.fetch stage'))
  | complete (fetched : FetchStep cfg key method s stage reply s' (.inr result)) :
      LeaderStep method guard s (.fetch stage) reply
        { s' with flights := s'.flights.beginComplete guard result } (.inl (.store result))
  | store : LeaderStep method guard s (.store result) .ready
      { s with flights := s.flights.storeResult guard result } (.inl (.release result))
  | release : LeaderStep method guard s (.release result) .ready
      { s with flights := s.flights.finishRelease guard } (.inr result)

/-- A leader's first segment, from the permit on. -/
inductive LeaderStart (guard : EntryId) (s : Shared) : Shared → LeaderAwait → Prop
  | fetch (started : FetchStart cfg key s s' (.inl stage)) : LeaderStart guard s s' (.fetch stage)
  | complete (started : FetchStart cfg key s s' (.inr result)) :
      LeaderStart guard s { s' with flights := s'.flights.beginComplete guard result } (.store result)

inductive GetStep (s : Shared) : GetAwait → Reply → Shared → Phase GetAwait HandlerResult → Prop
  | hit (found : s.lookup key reply = some (some entry)) :
      GetStep s .lookup reply
        ((s.count (·.incCacheHit .get)).answered .get (.ok (buildResponse entry true)))
        (.returned (.ok (buildResponse entry true)))
  | miss (found : s.lookup key reply = some none) :
      GetStep s .lookup reply (s.count (·.incCacheMiss .get)) (.running .acquire)
  | lead (acquired : s.flights.acquire key = (.leader owner, flights))
      (started : LeaderStart cfg key owner { s with flights } s' stage) :
      GetStep s .acquire .ready s' (.running (.leader owner stage))
  | follow (acquired : s.flights.acquire key = (.follower entry, flights)) :
      GetStep s .acquire .ready { s with flights } (.running (.follow entry))
  | leader (led : LeaderStep cfg key .get owner s stage reply s' (.inl stage')) :
      GetStep s (.leader owner stage) reply s' (.running (.leader owner stage'))
  | led (led : LeaderStep cfg key .get owner s stage reply s' (.inr result)) :
      GetStep s (.leader owner stage) reply (s'.answered .get (result.map (buildResponse · false)))
        (.returned (result.map (buildResponse · false)))
  | wait : GetStep s (.follow entry) .ready { s with flights := (s.flights.callWait entry).2 }
      (.running (.notified s.flights.nextWait))
  | wake (woken : s.flights.wake wait = some flights) :
      GetStep s (.notified wait) .ready { s with flights } (.running (.result wait))
  | joined (read : s.flights.readResult wait = some (some (.ok leaderEntry), flights)) :
      GetStep s (.result wait) .ready { s with flights } (.running (.recheck leaderEntry))
  | joinedError (read : s.flights.readResult wait = some (some (.error err), flights)) :
      GetStep s (.result wait) .ready ({ s with flights }.answered .get (.error err))
        (.returned (.error err))
  | abandoned (read : s.flights.readResult wait = some (none, flights))
      (started : FetchStart cfg key { s with flights } s' (.inl stage)) :
      GetStep s (.result wait) .ready s' (.running (.fallback stage))
  | abandonedEnds (read : s.flights.readResult wait = some (none, flights))
      (started : FetchStart cfg key { s with flights } s' (.inr result)) :
      GetStep s (.result wait) .ready (s'.answered .get (result.map (buildResponse · false)))
        (.returned (result.map (buildResponse · false)))
  | recheckHit (found : s.lookup key reply = some (some cached)) :
      GetStep s (.recheck leaderEntry) reply (s.answered .get (.ok (buildResponse cached true)))
        (.returned (.ok (buildResponse cached true)))
  | recheckMiss (found : s.lookup key reply = some none) :
      GetStep s (.recheck leaderEntry) reply (s.answered .get (.ok (buildResponse leaderEntry false)))
        (.returned (.ok (buildResponse leaderEntry false)))
  | fallback (fetched : FetchStep cfg key .get s stage reply s' (.inl stage')) :
      GetStep s (.fallback stage) reply s' (.running (.fallback stage'))
  | fallbackEnds (fetched : FetchStep cfg key .get s stage reply s' (.inr result)) :
      GetStep s (.fallback stage) reply (s'.answered .get (result.map (buildResponse · false)))
        (.returned (result.map (buildResponse · false)))

inductive HeadStep (params : Query) (s : Shared) :
    HeadAwait → Reply → Shared → Phase HeadAwait HandlerResult → Bool → Prop
  | hit (found : s.lookup key reply = some (some entry)) :
      HeadStep params s .lookup reply
        ((s.count (·.incCacheHit .head)).answered .head (.ok (buildHeadResponse entry)))
        (.returned (.ok (buildHeadResponse entry))) false
  | unknown (found : s.lookup key reply = some none) (absent : cfg.object key = none) :
      HeadStep params s .lookup reply (s.count (·.incCacheMiss .head))
        (.returned (.error (.notFound "unknown bucket"))) false
  | miss (found : s.lookup key reply = some none) (known : cfg.object key = some object) :
      HeadStep params s .lookup reply (s.count (·.incCacheMiss .head)) (.running (.head object)) false
  | sized (stored : s.upstream object = some data) :
      HeadStep params s (.head object) .ready s (.running (.answered data.length)) false
  | headFailed (err : StoreError) :
      HeadStep params s (.head object) (.failed err) (s.upstreamFailed .head err)
        (.returned (.error (.fromStore err))) false
  | answer :
      HeadStep params s (.answered size) .ready
        ((s.upstreamSucceeded .head).answered .head
          (.ok (buildHeadResponseWithMeta size (cfg.mime.fromPath key.path))))
        (.returned (.ok (buildHeadResponseWithMeta size (cfg.mime.fromPath key.path))))
        (parsePrefetch params)

inductive PrefetchStep (s : Shared) : PrefetchAwait → Reply → Shared → Phase PrefetchAwait Unit → Prop
  | lead (acquired : s.flights.acquire key = (.leader owner, flights))
      (started : LeaderStart cfg key owner { s with flights } s' stage) :
      PrefetchStep s .acquire .ready s' (.running (.leader owner stage))
  | follow (acquired : s.flights.acquire key = (.follower entry, flights)) :
      PrefetchStep s .acquire .ready { s with flights } (.returned ())
  | leader (led : LeaderStep cfg key .head owner s stage reply s' (.inl stage')) :
      PrefetchStep s (.leader owner stage) reply s' (.running (.leader owner stage'))
  | led (led : LeaderStep cfg key .head owner s stage reply s' (.inr result)) :
      PrefetchStep s (.leader owner stage) reply s' (.returned ())

end Rules

inductive PutStep (cfg : AppConfig) (request : PutRequest) (s : Shared) :
    PutAwait → Reply → Shared → Phase PutAwait HandlerResult → Prop
  | checked (reply : Reply) : PutStep cfg request s (.head object) reply s (.running (.init object))
  | opened :
      PutStep cfg request s (.init object) .ready
        { s.setUpload s.nextUpload .open with nextUpload := s.nextUpload + 1 }
        (.running (.next object s.nextUpload request.body (.start cfg.capBytes)))
  | initFailed (err : StoreError) :
      PutStep cfg request s (.init object) (.failed err)
        ((s.upstreamFailed .put err).answered .put (.error (.fromStore err)))
        (.returned (.error (.fromStore err)))
  | chunk :
      PutStep cfg request s (.next object upload (chunk :: rest) loop) .ready s
        (.running (.next object upload rest (loop.push cfg.capBytes chunk)))
  | ended :
      PutStep cfg request s (.next object upload [] loop) .ready s (.running (.finish object upload loop))
  | bodyFailed :
      PutStep cfg request s (.next object upload rest loop) .streamError s (.running (.abort upload))
  | aborted : PutStep cfg request s (.abort upload) .ready (s.setUpload upload .aborted) (.running .aborted)
  | abortFailed (err : StoreError) :
      PutStep cfg request s (.abort upload) (.failed err)
        (s.answered .put (.error (.badRequest "invalid request body")))
        (.returned (.error (.badRequest "invalid request body")))
  | refused :
      PutStep cfg request s .aborted .ready (s.answered .put (.error (.badRequest "invalid request body")))
        (.returned (.error (.badRequest "invalid request body")))
  | committed :
      PutStep cfg request s (.finish object upload loop) .ready
        ((s.commit object loop.uploaded).setUpload upload .completed) (.running (.committed object loop))
  | finishFailed (err : StoreError) (leaves : cfg.finishAborts upload err = false) :
      PutStep cfg request s (.finish object upload loop) (.failed err)
        ((s.upstreamFailed .put err).answered .put (.error (.fromStore err)))
        (.returned (.error (.fromStore err)))
  | finishAborted (err : StoreError) (aborts : cfg.finishAborts upload err = true) :
      PutStep cfg request s (.finish object upload loop) (.failed err)
        (((s.setUpload upload .aborted).upstreamFailed .put err).answered .put (.error (.fromStore err)))
        (.returned (.error (.fromStore err)))
  | uncached (capped : loop.capped = true) :
      PutStep cfg request s (.committed object loop) .ready
        ((s.upstreamSucceeded .put).answered .put (.ok buildPutResponse)) (.returned (.ok buildPutResponse))
  | caching (uncapped : loop.capped = false) :
      PutStep cfg request s (.committed object loop) .ready (s.upstreamSucceeded .put)
        (.running (.insert object loop))
  | inserted :
      PutStep cfg request s (.insert object loop) .ready
        ((s.insert request.key loop.buffer
            (contentTypeFromHeaders cfg.mime request.headers request.key.path)).answered .put
          (.ok buildPutResponse))
        (.returned (.ok buildPutResponse))

/-- What the store does for a PUT that was dropped with the call under way. -/
inductive LateStep (cfg : AppConfig) (request : PutRequest) (s : Shared) : PutAwait → Shared → PutAwait → Prop
  | opened :
      LateStep cfg request s (.init object)
        { s.setUpload s.nextUpload .open with nextUpload := s.nextUpload + 1 }
        (.next object s.nextUpload request.body (.start cfg.capBytes))
  | aborted : LateStep cfg request s (.abort upload) (s.setUpload upload .aborted) .aborted
  | committed :
      LateStep cfg request s (.finish object upload loop)
        ((s.commit object loop.uploaded).setUpload upload .completed) (.committed object loop)

/-- It does what it does for a handler that is still there. -/
theorem LateStep.step (late : LateStep cfg request s at_ s' at_') :
    PutStep cfg request s at_ .ready s' (.running at_') := by
  cases late with
  | opened => exact .opened
  | aborted => exact .aborted
  | committed => exact .committed

theorem LateStep.metrics (late : LateStep cfg request s at_ s' at_') : s'.metrics = s.metrics := by
  cases late <;> rfl

theorem LateStep.cache (late : LateStep cfg request s at_ s' at_') : s'.cache = s.cache := by
  cases late <;> rfl

section Inversion

variable {cfg : AppConfig} {key : CacheKey} {s : Shared} {guard : EntryId}

/-- A lookup finds nothing where nothing is kept, or where the cache fails. -/
theorem lookup_missed (found : s.lookup key reply = some none) :
    reply = .ready ∧ s.cache.entries key = none ∨ reply = .cacheError := by
  cases reply with
  | ready => exact .inl ⟨rfl, Option.some.inj found⟩
  | cacheError => exact .inr rfl
  | failed | streamError => cases found

theorem fetchPoll_step (polled : fetchPoll cfg s key method at_ reply = some (s', next)) :
    FetchStep cfg key method s at_ reply s' next := by
  unfold fetchPoll at polled
  split at polled
  · split at polled <;> rename_i stored <;> cases polled
    · exact .got stored
    · exact .absent stored
  · cases polled
    exact .missed
  · cases polled
    exact .getFailed _
  · split at polled <;> rename_i size <;> cases polled
    · exact .skipped size
    · exact .read size
  · cases polled
    exact .readFailed _
  · cases polled
    exact .cached
  · cases polled

theorem fetchStart_step (cfg : AppConfig) (s : Shared) (key : CacheKey) :
    FetchStart cfg key s (fetchStart cfg s key).1 (fetchStart cfg s key).2 := by
  unfold fetchStart
  split
  · exact .unknown ‹_›
  · exact .called ‹_›

theorem leaderStart_step (cfg : AppConfig) (s : Shared) (key : CacheKey) (guard : EntryId) :
    LeaderStart cfg key guard s (leaderNext guard (fetchStart cfg s key)).1
      (leaderNext guard (fetchStart cfg s key)).2 := by
  have started := fetchStart_step cfg s key
  match outcome : fetchStart cfg s key with
  | (s', .inl stage) => rw [outcome] at started; exact .fetch started
  | (s', .inr result) => rw [outcome] at started; exact .complete started

theorem leaderPoll_step (polled : leaderPoll cfg s key method guard at_ reply = some (s', next)) :
    LeaderStep cfg key method guard s at_ reply s' next := by
  unfold leaderPoll at polled
  split at polled
  · obtain ⟨⟨fetched, outcome⟩, stepped, result⟩ := Option.map_eq_some_iff.mp polled
    cases outcome <;> cases result
    · exact .fetch (fetchPoll_step stepped)
    · exact .complete (fetchPoll_step stepped)
  · cases polled
    exact .store
  · cases polled
    exact .release
  · cases polled

theorem getPoll_step (polled : getPoll cfg s key at_ reply = some (s', phase)) :
    GetStep cfg key s at_ reply s' phase := by
  unfold getPoll at polled
  split at polled
  · obtain ⟨found, looked, result⟩ := Option.map_eq_some_iff.mp polled
    cases found <;> cases result
    · exact .miss looked
    · exact .hit looked
  · split at polled <;> rename_i acquired <;> cases polled
    · exact .lead acquired (leaderStart_step ..)
    · exact .follow acquired
  · obtain ⟨⟨led, outcome⟩, stepped, result⟩ := Option.map_eq_some_iff.mp polled
    cases outcome <;> cases result
    · exact .leader (leaderPoll_step stepped)
    · exact .led (leaderPoll_step stepped)
  · cases polled
    exact .wait
  · obtain ⟨flights, woken, result⟩ := Option.map_eq_some_iff.mp polled
    cases result
    exact .wake woken
  · obtain ⟨⟨value, flights⟩, read, result⟩ := Option.map_eq_some_iff.mp polled
    match value with
    | some (.ok leaderEntry) =>
      cases result
      exact .joined read
    | some (.error err) =>
      cases result
      exact .joinedError read
    | none =>
      have started := fetchStart_step cfg { s with flights } key
      match outcome : fetchStart cfg { s with flights } key with
      | (s', .inl stage) =>
        rw [outcome] at started
        simp only [outcome] at result
        cases result
        exact .abandoned read started
      | (s', .inr ended) =>
        rw [outcome] at started
        simp only [outcome] at result
        cases result
        exact .abandonedEnds read started
  · obtain ⟨found, looked, result⟩ := Option.map_eq_some_iff.mp polled
    cases found <;> cases result
    · exact .recheckMiss looked
    · exact .recheckHit looked
  · obtain ⟨⟨fetched, outcome⟩, stepped, result⟩ := Option.map_eq_some_iff.mp polled
    cases outcome <;> cases result
    · exact .fallback (fetchPoll_step stepped)
    · exact .fallbackEnds (fetchPoll_step stepped)
  · cases polled

theorem headPoll_step (polled : headPoll cfg s key params at_ reply = some (s', phase, spawned)) :
    HeadStep cfg key params s at_ reply s' phase spawned := by
  unfold headPoll at polled
  split at polled
  · obtain ⟨found, looked, result⟩ := Option.map_eq_some_iff.mp polled
    cases found with
    | some entry =>
      cases result
      exact .hit looked
    | none =>
      simp only at result
      split at result <;> rename_i named <;> cases result
      · exact .unknown looked named
      · exact .miss looked named
  · obtain ⟨data, stored, result⟩ := Option.map_eq_some_iff.mp polled
    cases result
    exact .sized stored
  · cases polled
    exact .headFailed _
  · cases polled
    exact .answer
  · cases polled

theorem prefetchPoll_step (polled : prefetchPoll cfg s key at_ reply = some (s', phase)) :
    PrefetchStep cfg key s at_ reply s' phase := by
  unfold prefetchPoll at polled
  split at polled
  · split at polled <;> rename_i acquired <;> cases polled
    · exact .lead acquired (leaderStart_step ..)
    · exact .follow acquired
  · obtain ⟨⟨led, outcome⟩, stepped, result⟩ := Option.map_eq_some_iff.mp polled
    cases outcome <;> cases result
    · exact .leader (leaderPoll_step stepped)
    · exact .led (leaderPoll_step stepped)
  · cases polled

theorem putPoll_step (polled : putPoll cfg s request at_ reply = some (s', phase)) :
    PutStep cfg request s at_ reply s' phase := by
  unfold putPoll at polled
  split at polled
  case h_12 =>
    simp only [Option.some.injEq] at polled
    split at polled <;> rename_i aborts <;> cases polled
    · exact .finishAborted _ aborts
    · exact .finishFailed _ (by simpa using aborts)
  case h_13 =>
    split at polled <;> rename_i latch <;> cases polled
    · exact .uncached latch
    · exact .caching (by simpa using latch)
  all_goals cases polled
  · exact .checked _
  · exact .checked _
  · exact .opened
  · exact .initFailed _
  · exact .chunk
  · exact .ended
  · exact .bodyFailed
  · exact .aborted
  · exact .abortFailed _
  · exact .refused
  · exact .committed
  · exact .inserted

end Inversion

section Reads

variable {cfg : AppConfig} {key : CacheKey} {s s' : Shared} {guard : EntryId}

/-- What no segment of a GET, a HEAD or a prefetch touches. -/
structure Untouched (s s' : Shared) : Prop where
  upstream : s'.upstream = s.upstream
  uploads : s'.uploads = s.uploads
  nextUpload : s'.nextUpload = s.nextUpload
  failures : s'.metrics.authFailTotal = s.metrics.authFailTotal

theorem FetchStart.untouched (start : FetchStart cfg key s s' next) : Untouched s s' := by
  cases start <;> exact ⟨rfl, rfl, rfl, rfl⟩

theorem FetchStep.untouched (step : FetchStep cfg key method s at_ reply s' next) : Untouched s s' := by
  cases step <;> exact ⟨rfl, rfl, rfl, rfl⟩

theorem LeaderStart.untouched (start : LeaderStart cfg key guard s s' stage) : Untouched s s' := by
  cases start with
  | fetch started => exact started.untouched
  | complete started =>
    have before := started.untouched
    exact ⟨before.upstream, before.uploads, before.nextUpload, before.failures⟩

theorem LeaderStep.untouched (step : LeaderStep cfg key method guard s at_ reply s' next) : Untouched s s' := by
  cases step with
  | fetch fetched => exact fetched.untouched
  | complete fetched =>
    have before := fetched.untouched
    exact ⟨before.upstream, before.uploads, before.nextUpload, before.failures⟩
  | store | release => exact ⟨rfl, rfl, rfl, rfl⟩

/-- An answer is counted, and nothing else. -/
theorem Untouched.answered (untouched : Untouched s s') (method : Method) (result : HandlerResult) :
    Untouched s (s'.answered method result) :=
  ⟨untouched.upstream, untouched.uploads, untouched.nextUpload, untouched.failures⟩

theorem GetStep.untouched (step : GetStep cfg key s at_ reply s' phase) : Untouched s s' := by
  -- what a follower has read changes the flights alone
  have reshared {flights : Inflight CacheKey InflightResult} {shared : Shared}
      (before : Untouched { s with flights } shared) : Untouched s shared :=
    ⟨before.upstream, before.uploads, before.nextUpload, before.failures⟩
  cases step with
  | lead _ started => exact reshared started.untouched
  | leader led => exact led.untouched
  | led led => exact led.untouched.answered _ _
  | abandoned _ started => exact reshared started.untouched
  | abandonedEnds _ started => exact (reshared started.untouched).answered _ _
  | fallback fetched => exact fetched.untouched
  | fallbackEnds fetched => exact fetched.untouched.answered _ _
  | hit | miss | follow | wait | wake | joined | joinedError | recheckHit | recheckMiss => exact ⟨rfl, rfl, rfl, rfl⟩

theorem HeadStep.untouched (step : HeadStep cfg key params s at_ reply s' phase spawned) : Untouched s s' := by
  cases step <;> exact ⟨rfl, rfl, rfl, rfl⟩

theorem PrefetchStep.untouched (step : PrefetchStep cfg key s at_ reply s' phase) : Untouched s s' := by
  cases step with
  | lead _ started =>
    have before := started.untouched
    exact ⟨before.upstream, before.uploads, before.nextUpload, before.failures⟩
  | leader led => exact led.untouched
  | led led => exact led.untouched
  | follow => exact ⟨rfl, rfl, rfl, rfl⟩

end Reads

end Cachegate
