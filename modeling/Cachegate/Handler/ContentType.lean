import Cachegate.Handler.Provenance

/-! The `Content-Type` of an object that one PUT has written. The cached copy has
the type that the PUT declared or guessed, a fetched one the type resolved from
its path and bytes. -/

namespace Cachegate

open Transition TaskPool Inflight

/-- The text that a PUT declares as the type of its body, if it is usable. -/
def declaredType (headers : HeaderMap) : Option String :=
  (headers.contentType.bind HeaderValue.toStr).filter fun text => !text.toList.isEmpty

/-- The declared type is the one that a fetch would resolve, or there is none
and the path has one. -/
def TypedAlike (mime : MimeRules) (request : PutRequest) : Prop :=
  match declaredType request.headers with
  | some declared =>
      declared = (mime.fromPath request.key.path).getD
        ((mime.infer request.body.flatten).getD "application/octet-stream")
  | none => (mime.fromPath request.key.path).isSome

/-- The header made from a content type. -/
def typeHeader (contentType : Option String) : Option HeaderValue := contentType.bind HeaderValue.fromStr

/-- The only PUT that names the object is this one, once. -/
def SolePut (cfg : AppConfig) (request : PutRequest) (s : Proxy) : ProxyAction → Prop
  | .start (.put other) =>
      cfg.object other.key = cfg.object request.key →
        other = request ∧ s.All fun task => ∀ earlier phase, task = .put earlier phase →
          cfg.object earlier.key ≠ cfg.object request.key
  | _ => True

/-- Whatever happens to the cache, all 200 answers to a GET of the key that this
PUT has written have the same `Content-Type`. -/
def Transparent (cfg : AppConfig) (request : PutRequest) : Prop :=
  ∀ upstream, (∀ object, cfg.object request.key = some object → upstream object = none) →
    ∀ s, (proxy cfg).system.Reaches (SolePut cfg request) (Proxy.initial upstream .empty) s →
      ∀ i j answer answer', s.tasks i = some (.get request.key (.returned (.ok answer))) →
        s.tasks j = some (.get request.key (.returned (.ok answer'))) → answer.contentType = answer'.contentType

section Types

variable {mime : MimeRules} {request : PutRequest}

theorem resolveContentType_eq (mime : MimeRules) (path : String) (bytes : Bytes) :
    resolveContentType mime path bytes =
      (mime.fromPath path).getD ((mime.infer bytes).getD "application/octet-stream") := by
  unfold resolveContentType
  cases mime.fromPath path with
  | some guess => rfl
  | none => cases mime.infer bytes <;> rfl

theorem contentTypeFromHeaders_eq (mime : MimeRules) (headers : HeaderMap) (path : String) :
    contentTypeFromHeaders mime headers path = (declaredType headers).or (mime.fromPath path) := by
  unfold contentTypeFromHeaders declaredType
  cases headers.contentType.bind HeaderValue.toStr with
  | none => rfl
  | some text => cases empty : text.toList.isEmpty <;> simp [Option.filter, empty]

/-- A declared type was read from a header value, so it makes one. -/
theorem declaredType_header (declared : declaredType headers = some text) :
    ∃ value, HeaderValue.fromStr text = some value := by
  obtain ⟨read, _⟩ := Option.filter_eq_some_iff.mp declared
  obtain ⟨value, _, read⟩ := Option.bind_eq_some_iff.mp read
  exact ⟨value, HeaderValue.fromStr_toStr read⟩

/-- The PUT's type and the fetch's make the same header. -/
theorem typedAlike_iff (inferred : ∀ bytes kind, mime.infer bytes = some kind → (HeaderValue.fromStr kind).isSome) :
    TypedAlike mime request ↔
      typeHeader (contentTypeFromHeaders mime request.headers request.key.path) =
        typeHeader (some (resolveContentType mime request.key.path request.body.flatten)) := by
  rw [contentTypeFromHeaders_eq, resolveContentType_eq]
  unfold TypedAlike typeHeader
  split
  · rename_i declared found
    obtain ⟨value, made⟩ := declaredType_header found
    simp only [found, Option.some_or, Option.bind_some]
    constructor
    · intro same
      rw [← same]
    · intro same
      exact HeaderValue.fromStr_injective made (same ▸ made)
  · rename_i absent
    simp only [absent, Option.none_or]
    cases guess : mime.fromPath request.key.path with
    | some guess => simp
    | none =>
      have made : ∃ value, HeaderValue.fromStr
          ((mime.infer request.body.flatten).getD "application/octet-stream") = some value := by
        cases kind : mime.infer request.body.flatten with
        | some kind' => exact Option.isSome_iff_exists.mp (inferred _ _ kind)
        | none => exact ⟨_, rfl⟩
      obtain ⟨value, made⟩ := made
      simp [made]

end Types

/-- Any PUT of the object is this one. -/
def Task.Sole (cfg : AppConfig) (request : PutRequest) : Task → Prop
  | .put other _ => cfg.object other.key = cfg.object request.key → other = request
  | _ => True

/-- An entry of the key has the type that a fetch of the body would give it. -/
def FetchTyped (cfg : AppConfig) (request : PutRequest) (key : CacheKey) (entry : CacheEntry) : Prop :=
  key = request.key → typeHeader entry.contentType =
    typeHeader (some (resolveContentType cfg.mime request.key.path request.body.flatten))

section Runs

variable {cfg : AppConfig} {request : PutRequest} {s t : Proxy}

theorem sole_reaches
    (reach : (proxy cfg).system.Reaches (SolePut cfg request) (Proxy.initial upstream cache) s) :
    s.All (Task.Sole cfg request) := by
  refine reach.invariant (motive := fun s => s.All (Task.Sole cfg request)) (State.all_start _) ?_
  intro source action next sole allow taken
  cases proxy_step taken with
  | start spawned =>
    refine State.All.push sole ?_
    cases spawned with
    | putInvalid | putUnknown | put => exact fun same => (allow same).1
    | getInvalid | get | headInvalid | head => trivial
  | put present | late present | dropPut present => exact sole.replace (sole _ _ present :)
  | head => exact all_head (sole.replace trivial) trivial
  | get | prefetch | dropGet | dropHead | dropPrefetch => exact sole.replace trivial
  | evict | release => exact sole

/-- The object is absent, or has the body of the PUT. -/
theorem written_reaches (known : cfg.object request.key = some object) (absent : upstream object = none)
    (reach : (proxy cfg).system.Reaches (SolePut cfg request) (Proxy.initial upstream cache) s) :
    s.shared.upstream object = none ∨ s.shared.upstream object = some request.body.flatten := by
  refine reach.invariantWith (motive := fun s : Proxy => s.shared.upstream object = none ∨
      s.shared.upstream object = some request.body.flatten)
    (fun _ prior => And.intro (formed_reaches prior) (sole_reaches prior)) (.inl absent) ?_
  rintro source action next ⟨formed, sole⟩ - written _ taken
  rcases upstream_step taken with same | ⟨index, task, object', bytes, _, present, commits, changed⟩
  · rwa [same]
  · rw [changed]
    by_cases same : object = object'
    · subst same
      have body : bytes = request.body.flatten := by
        have formed := formed _ _ present
        have sole := sole _ _ present
        unfold Task.commits? at commits
        split at commits <;> cases commits
        all_goals
          obtain ⟨known', rfl⟩ := (formed :)
          rw [UploadLoop.run_uploaded, (sole : _ → _) (known'.trans known.symm)]
      exact .inr (by simp [body])
    · simpa [same] using written

theorem fetchTyped_reaches (known : cfg.object request.key = some object) (absent : upstream object = none)
    (alike : UploadLoop.Copied cfg.capBytes request.body →
      typeHeader (contentTypeFromHeaders cfg.mime request.headers request.key.path) =
        typeHeader (some (resolveContentType cfg.mime request.key.path request.body.flatten)))
    (reach : (proxy cfg).system.Reaches (SolePut cfg request) (Proxy.initial upstream .empty) s) :
    s.Sound (FetchTyped cfg request) cfg := by
  refine reach.invariantWith (motive := fun s : Proxy => s.Sound (FetchTyped cfg request) cfg)
    (fun _ prior => And.intro (linked_reaches prior) (And.intro (formed_reaches prior)
      (And.intro (sole_reaches prior) (written_reaches known absent prior))))
    (Proxy.sound_initial (by intro key entry found; cases found)) ?_
  rintro source action next ⟨links, formed, sole, written⟩ - sound _ taken
  refine sound.step links formed ?_ ?_ taken
  · rintro key object' data known' stored rfl
    cases known.symm.trans known'
    rcases written with none_ | body
    · simp [none_] at stored
    · cases stored.symm.trans body
      rfl
  · intro index other object' loop present same
    obtain ⟨known', rfl, uncapped⟩ := (formed _ _ present :)
    have own : other = request := (sole _ _ present :) (by rw [same])
    subst own
    exact alike ((UploadLoop.run_open _ _).mp uncapped)

end Runs

section Alone

variable {cfg : AppConfig} {request : PutRequest} {key : CacheKey} {object : ObjectId} {shared : Shared}

theorem upload_advances (cfg : AppConfig) (request : PutRequest) (object : ObjectId) (upload : Nat)
    (rest : List Bytes) (loop : UploadLoop) (shared : Shared) :
    (proxy cfg).Advances shared (.put request (.running (.next object upload rest loop))) shared
      (.put request (.running (.finish object upload (rest.foldl (UploadLoop.push cfg.capBytes) loop)))) := by
  induction rest generalizing loop with
  | nil => exact .poll .ready rfl .rest
  | cons chunk rest ih => exact .poll .ready rfl (ih (loop.push cfg.capBytes chunk))

/-- A PUT of a copied body, run alone, leaves the body stored and cached. -/
theorem put_advances (copied : UploadLoop.Copied cfg.capBytes request.body) (object : ObjectId) (shared : Shared) :
    ∃ shared', (proxy cfg).Advances shared (.put request (.running (.head object))) shared'
        (.put request (.returned (.ok buildPutResponse))) ∧
      shared'.flights = shared.flights ∧ shared'.upstream object = some request.body.flatten ∧
      shared'.cache.entries request.key = some ⟨request.body.flatten,
        contentTypeFromHeaders cfg.mime request.headers request.key.path⟩ := by
  have uncapped := (UploadLoop.run_open _ _).mpr copied
  have caching (shared : Shared) : (proxy cfg).poll shared
      (.put request (.running (.committed object (.run cfg.capBytes request.body)))) .ready =
        some (shared.upstreamSucceeded .put,
          .put request (.running (.insert object (.run cfg.capBytes request.body))), none) := by
    simp [proxy, Task.poll, putPoll, uncapped]
  refine ⟨_, .poll (.failed .notFound) rfl (.poll .ready rfl ((upload_advances cfg request object _ _ _ _).trans
    (.poll .ready rfl (.poll .ready (caching _) (.poll .ready rfl .rest))))), rfl, ?_, ?_⟩
  · have uploaded := UploadLoop.run_uploaded cfg.capBytes request.body
    simpa [Shared.insert, Shared.answered, Shared.count, Shared.upstreamSucceeded, Shared.commit, Shared.setUpload,
      UploadLoop.run] using uploaded
  · simp [Shared.insert, Shared.answered, Shared.count, FoyerCache.put, UploadLoop.run_buffer uncapped]

/-- A GET that finds the entry, run alone. -/
theorem hit_advances (cfg : AppConfig) (cached : shared.cache.entries key = some entry) :
    ∃ shared', (proxy cfg).Advances shared (.get key (.running .lookup)) shared'
        (.get key (.returned (.ok (buildResponse entry true)))) ∧
      shared'.flights = shared.flights ∧ shared'.upstream = shared.upstream ∧ shared'.cache = shared.cache := by
  have hit : (proxy cfg).poll shared (.get key (.running .lookup)) .ready =
      some ((shared.count (·.incCacheHit .get)).answered .get (.ok (buildResponse entry true)),
        .get key (.returned (.ok (buildResponse entry true))), none) := by
    simp [proxy, Task.poll, getPoll, Shared.lookup, FoyerCache.get, cached, Shared.respond]
  exact ⟨_, .poll .ready hit .rest, rfl, rfl, rfl⟩

/-- A GET that finds no entry and nobody at work, run alone. -/
theorem miss_advances (known : cfg.object key = some object) (stored : shared.upstream object = some data)
    (vacant : shared.cache.entries key = none) (free : shared.flights.inner key = none)
    (fits : ¬ (cfg.capBytes = 0 ∨ cfg.capBytes < data.length)) :
    ∃ shared', (proxy cfg).Advances shared (.get key (.running .lookup)) shared'
      (.get key (.returned (.ok (buildResponse ⟨data, some (resolveContentType cfg.mime key.path data)⟩ false)))) := by
  have miss : (proxy cfg).poll shared (.get key (.running .lookup)) .ready =
      some (shared.count (·.incCacheMiss .get), .get key (.running .acquire), none) := by
    simp [proxy, Task.poll, getPoll, Shared.lookup, FoyerCache.get, vacant]
  have acquired : shared.flights.acquire key = (.leader shared.flights.nextEntry, (shared.flights.acquire key).2) := by
    simp [acquire, free]
  have lead : (proxy cfg).poll (shared.count (·.incCacheMiss .get)) (.get key (.running .acquire)) .ready =
      some ({ shared.count (·.incCacheMiss .get) with
          flights := (shared.flights.acquire key).2, getCalls := Metrics.bump shared.getCalls key },
        .get key (.running (.leader shared.flights.nextEntry (.fetch (.get object)))), none) := by
    simp only [proxy, Task.poll, getPoll, Shared.count]
    rw [acquired]
    simp [fetchStart, known, leaderNext]
  have got (later : Shared) (guard : EntryId) (same : later.upstream = shared.upstream) :
      (proxy cfg).poll later (.get key (.running (.leader guard (.fetch (.get object))))) .ready =
        some (later, .get key (.running (.leader guard (.fetch (.bytes object data)))), none) := by
    simp [proxy, Task.poll, getPoll, leaderPoll, fetchPoll, same, stored, leaderNext]
  have read (later : Shared) (guard : EntryId) :
      (proxy cfg).poll later (.get key (.running (.leader guard (.fetch (.bytes object data))))) .ready =
        some (later.upstreamSucceeded .get, .get key (.running (.leader guard
          (.fetch (.put data (some (resolveContentType cfg.mime key.path data)))))), none) := by
    simp [proxy, Task.poll, getPoll, leaderPoll, fetchPoll, fits, leaderNext]
  exact ⟨_, .poll .ready miss (.poll .ready lead (.poll .ready (got _ _ rfl) (.poll .ready (read _ _)
    (.poll .ready rfl (.poll .ready rfl (.poll .ready rfl .rest))))))⟩

end Alone

/-- A PUT that is copied with another type is found out by an eviction. -/
theorem alike_of_transparent {cfg : AppConfig} {request : PutRequest} (valid : invalidPath request.key.path = false)
    (known : cfg.object request.key = some object) (transparent : Transparent cfg request)
    (copied : UploadLoop.Copied cfg.capBytes request.body) :
    typeHeader (contentTypeFromHeaders cfg.mime request.headers request.key.path) =
      typeHeader (some (resolveContentType cfg.mime request.key.path request.body.flatten)) := by
  obtain ⟨capable, fits, _⟩ := id copied
  have polls (index : Nat) (s : Proxy) (reply : Reply) : SolePut cfg request s (.poll index reply) := trivial
  have alone : SolePut cfg request (Proxy.initial (fun _ => none) .empty) (.start (.put request)) :=
    fun _ => ⟨rfl, State.all_start _⟩
  have opened (s : Shared) : (proxy cfg).spawn s (.put request) = (s, .put request (.running (.head object))) := by
    simp [proxy, Task.spawn, putStart, valid, known]
  have looks (s : Shared) : (proxy cfg).spawn s (.get request.key) = (s, .get request.key (.running .lookup)) := by
    simp [proxy, Task.spawn, getStart, valid]
  -- the PUT, a hit on its entry, the eviction, and a miss
  obtain ⟨shared, wrote, free, stored, cached⟩ := put_advances copied object (.initial (fun _ => none) .empty)
  obtain ⟨s, written, rfl, next, _, _⟩ := wrote.serves (s := Proxy.initial (fun _ => none) .empty) (opened _) alone
    (polls _)
  obtain ⟨shared', hit, free', stored', _⟩ := hit_advances cfg cached
  obtain ⟨t, served, rfl, next', first, _⟩ := hit.serves (looks _) (show SolePut cfg request s _ from trivial)
    (polls _)
  obtain ⟨v, evicted, vacant, flights, upstream, tasks, next''⟩ : ∃ v : Proxy,
      (proxy cfg).step t (.env (.evict request.key)) = some v ∧ v.shared.cache.entries request.key = none ∧
        v.shared.flights = t.shared.flights ∧ v.shared.upstream = t.shared.upstream ∧ v.tasks = t.tasks ∧
        v.next = t.next := ⟨_, rfl, by simp [FoyerCache.evict], rfl, rfl, rfl, rfl⟩
  have free'' : v.shared.flights.inner request.key = none := by
    rw [flights, free', free]
    rfl
  obtain ⟨shared'', missed⟩ := miss_advances known (by rw [upstream, stored', stored]) vacant free'' (by omega)
  obtain ⟨u, served', _, _, second, others⟩ := missed.serves (looks _)
    (show SolePut cfg request v (.start (.get request.key)) from trivial) (polls _)
  have reach : (proxy cfg).system.Reaches (SolePut cfg request) (Proxy.initial (fun _ => none) .empty) u :=
    .trans (.step (.trans written served) (show SolePut cfg request t (.env (.evict request.key)) from trivial) evicted)
      served'
  have kept : u.tasks s.next = some _ := (others s.next (by omega)).trans ((congrFun tasks _).trans first)
  exact transparent _ (fun _ _ => rfl) u reach _ _ _ _ kept second

/-- The content type of a PUT's object is the same on every GET exactly when
the body is not copied for the cache or is typed alike on both ways. -/
theorem transparent_iff (cfg : AppConfig) (request : PutRequest) (object : ObjectId)
    (valid : invalidPath request.key.path = false) (known : cfg.object request.key = some object)
    (inferred : ∀ bytes kind, cfg.mime.infer bytes = some kind → (HeaderValue.fromStr kind).isSome) :
    Transparent cfg request ↔
      ¬ UploadLoop.Copied cfg.capBytes request.body ∨ TypedAlike cfg.mime request := by
  rw [typedAlike_iff inferred]
  constructor
  · intro transparent
    by_cases copied : UploadLoop.Copied cfg.capBytes request.body
    · exact .inr (alike_of_transparent valid known transparent copied)
    · exact .inl copied
  · intro condition upstream absent s reach i j answer answer' first second
    have sound := fetchTyped_reaches known (absent object known)
      (fun copied => condition.resolve_left (not_not_intro copied)) reach
    obtain ⟨entry, hit, typed, rfl⟩ := sound.tasks i _ first answer rfl
    obtain ⟨entry', hit', typed', rfl⟩ := sound.tasks j _ second answer' rfl
    exact (typed rfl).trans (typed' rfl).symm

/-- A guesser that knows one kind of path. -/
private def plainText : MimeRules := ⟨fun path => if path = "a.txt" then some "text/plain" else none, fun _ => none⟩

/-- A PUT without a type, of a path that has one. -/
theorem transparent_iff_guessed :
    Transparent (.single "b" 4 plainText) ⟨⟨"b", "a.txt"⟩, ⟨none, none⟩, [[1]]⟩ :=
  (transparent_iff (.single "b" 4 plainText) ⟨⟨"b", "a.txt"⟩, ⟨none, none⟩, [[1]]⟩ ⟨0, "a.txt"⟩ rfl rfl
    (by rintro bytes kind ⟨⟩)).mpr (.inr rfl)

private def htmlHeaders : HeaderMap := ⟨some [116, 101, 120, 116, 47, 104, 116, 109, 108], none⟩

/-- A PUT declared as `text/html`, of a path that has no type: the hit says so,
the fetch after an eviction says `application/octet-stream`. -/
theorem contentType_not_transparent :
    ¬ Transparent (.single "b" 4 .unknown) ⟨⟨"b", "p"⟩, htmlHeaders, [[1]]⟩ := by
  intro transparent
  have alike := alike_of_transparent rfl rfl transparent (by decide)
  exact absurd alike (by decide)

end Cachegate
