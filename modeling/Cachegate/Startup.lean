import Cachegate.Auth.Keys
import Cachegate.Cache.Memory
import Cachegate.Handler.Origins
import Cachegate.Store.Build

/-! Start-up: what `async_main` makes of a configuration, or which part of it was
at fault, and that the service it starts serves the configured buckets. -/

namespace Cachegate

open Transition TaskPool

/-- The configuration. `stores` has the entries of a map, in some order. -/
structure Config where
  listen : String
  stores : List (String × StoreConfig)
  auth : AuthConfig
  cache : CachePolicy
deriving DecidableEq, Repr

/-- The libraries that start-up calls, and the target it is compiled for. -/
structure StartupLibraries where
  keys : KeyLibraries
  stores : StoreLibraries
  foyer : FoyerLibraries
  pointerWidth : PointerWidth
  location : String → String
  mime : MimeRules
  finishAborts : Nat → StoreError → Bool

def KeyError.text : KeyError → String
  | .invalidKeyMaterial => "invalid key material"
  | .keyMismatch => "public and private keys do not match"

/-- What is started: the state of the handlers, of the middleware, and the cache. -/
structure AppState where
  auth : AuthState
  config : AppConfig
  cache : HybridCacheBuilder

/-- `async_main` up to `run_server`. -/
def asyncMain (libs : StartupLibraries) (config : Config) : Except ErrorChain AppState :=
  match AuthState.fromConfig libs.keys config.auth with
  | .error err => .error ["failed to initialize auth", err.text]
  | .ok auth =>
      match buildStores libs.stores config.stores with
      | .error err => .error ("failed to build stores" :: err)
      | .ok stores =>
          match FoyerCache.new libs.foyer config.cache libs.pointerWidth with
          | .error err => .error ("Failed to foyer cache" :: err)
          | .ok cache =>
              .ok
                { auth
                  config := .asyncMain config.cache libs.pointerWidth stores libs.location libs.mime libs.finishAborts
                  cache }

/-- The keys of a configuration belong together. -/
def AuthConfig.Fits (libs : KeyLibraries) (config : AuthConfig) : Prop :=
  ∃ seed, libs.decode config.privateKey = some seed ∧ seed.length = 32 ∧
    libs.decode config.publicKey = some (libs.verifyingKey seed) ∧ (libs.verifyingKey seed).length = 32 ∧
    libs.isPoint (libs.verifyingKey seed) = true

/-- What start-up asks of a configuration, of foyer and of the file system. -/
structure Config.Fits (libs : StartupLibraries) (config : Config) : Prop where
  keys : config.auth.Fits libs.keys
  stores : ∀ entry ∈ config.stores, ∃ store, buildStore libs.stores entry.1 entry.2 = .ok store
  cache : FoyerCache.Opens libs.foyer config.cache libs.pointerWidth

/-- The error says which part of the configuration is at fault, and why. -/
inductive Config.Blames (libs : StartupLibraries) (config : Config) : ErrorChain → Prop
  | keys (refused : AuthState.fromConfig libs.keys config.auth = .error err) (unfit : ¬ config.auth.Fits libs.keys) :
      Blames libs config ["failed to initialize auth", err.text]
  | store (listed : entry ∈ config.stores) (refused : buildStore libs.stores entry.1 entry.2 = .error err) :
      Blames libs config ("failed to build stores" :: err)
  | cache (failed : FoyerCache.Fails libs.foyer config.cache libs.pointerWidth err) :
      Blames libs config ("Failed to foyer cache" :: err)

/-- Each bucket id is served by the store built from its own part of the
configuration, and no other id is known. -/
structure AppState.Serves (libs : StartupLibraries) (config : Config) (app : AppState) : Prop where
  configured : Assembly.Builds (buildStore libs.stores) config.stores app.config.stores
  unknown : ∀ id, id ∉ config.stores.map Prod.fst → app.config.stores id = none
  auth : AuthState.fromConfig libs.keys config.auth = .ok app.auth
  cache : FoyerCache.new libs.foyer config.cache libs.pointerWidth = .ok app.cache
  cap : app.config.cacheMaxObjectBytes = config.cache.cacheMaxObjectBytes

section Start

variable {libs : StartupLibraries} {config config' : Config} {app : AppState}

theorem fromConfig_fits :
    (∃ auth, AuthState.fromConfig libs.keys config.auth = .ok auth) ↔ config.auth.Fits libs.keys := by
  constructor
  · rintro ⟨auth, accepted⟩
    obtain ⟨seed, privateKey, short, publicKey, length, point, _⟩ := fromConfig_ok.mp accepted
    exact ⟨seed, privateKey, short, publicKey, length, point⟩
  · rintro ⟨seed, privateKey, short, publicKey, length, point⟩
    exact ⟨_, fromConfig_ok.mpr ⟨seed, privateKey, short, publicKey, length, point, rfl⟩⟩

/-- What starts is made of the parts that its configuration gives. -/
theorem asyncMain_ok :
    asyncMain libs config = .ok app ↔ ∃ auth stores cache, AuthState.fromConfig libs.keys config.auth = .ok auth ∧
      buildStores libs.stores config.stores = .ok stores ∧
      FoyerCache.new libs.foyer config.cache libs.pointerWidth = .ok cache ∧
      app = ⟨auth, .asyncMain config.cache libs.pointerWidth stores libs.location libs.mime libs.finishAborts,
        cache⟩ := by
  unfold asyncMain
  cases AuthState.fromConfig libs.keys config.auth with
  | error err => simp
  | ok auth =>
    cases buildStores libs.stores config.stores with
    | error err => simp
    | ok stores =>
      cases FoyerCache.new libs.foyer config.cache libs.pointerWidth with
      | error err => simp
      | ok cache => simp [eq_comm]

theorem asyncMain_serves (distinct : (config.stores.map Prod.fst).Nodup) (started : asyncMain libs config = .ok app) :
    app.Serves libs config := by
  obtain ⟨auth, stores, cache, authed, built, opened, rfl⟩ := asyncMain_ok.mp started
  obtain ⟨configured, unknown⟩ := (Assembly.assemble_ok_iff distinct).mp built
  exact ⟨configured, unknown, authed, opened, rfl⟩

theorem asyncMain_fits (distinct : (config.stores.map Prod.fst).Nodup) :
    (∃ app, asyncMain libs config = .ok app) ↔ config.Fits libs := by
  constructor
  · rintro ⟨app, started⟩
    have serves := asyncMain_serves distinct started
    refine ⟨fromConfig_fits.mp ⟨_, serves.auth⟩, ?_, (FoyerCache.new_ok_iff.mp serves.cache).1⟩
    intro entry listed
    obtain ⟨store, built, _⟩ := serves.configured entry listed
    exact ⟨store, built⟩
  · intro fits
    obtain ⟨auth, authed⟩ := fromConfig_fits.mpr fits.keys
    obtain ⟨stores, built⟩ := Assembly.assemble_builds fits.stores
    have opened := FoyerCache.new_ok_iff.mpr ⟨fits.cache, rfl⟩
    exact ⟨_, asyncMain_ok.mpr ⟨auth, stores, _, authed, built, opened, rfl⟩⟩

theorem asyncMain_blames (failed : asyncMain libs config = .error chain) : config.Blames libs chain := by
  unfold asyncMain at failed
  cases authed : AuthState.fromConfig libs.keys config.auth with
  | error err =>
    rw [authed] at failed
    cases failed
    refine .keys authed ?_
    intro fits
    obtain ⟨auth, accepted⟩ := fromConfig_fits.mpr fits
    cases authed.symm.trans accepted
  | ok auth =>
    cases built : buildStores libs.stores config.stores with
    | error err =>
      rw [authed, built] at failed
      cases failed
      obtain ⟨entry, listed, refused⟩ := Assembly.assemble_error built
      exact .store listed refused
    | ok stores =>
      cases opened : FoyerCache.new libs.foyer config.cache libs.pointerWidth with
      | error err =>
        rw [authed, built, opened] at failed
        cases failed
        exact .cache (FoyerCache.new_error opened)
      | ok cache =>
        rw [authed, built, opened] at failed
        cases failed

/-- The order in which the stores are listed does not matter. -/
theorem asyncMain_perm (distinct : (config.stores.map Prod.fst).Nodup) (same : config.stores.Perm stores) :
    asyncMain libs config = .ok app ↔ asyncMain libs { config with stores } = .ok app := by
  simp only [asyncMain_ok, buildStores, Assembly.assemble_perm distinct same]

end Start

/-- The keys of the sample, with a store of each kind. -/
private def sampleConfig : Config where
  listen := "0.0.0.0:8080"
  stores :=
    [("media", .s3 "my-bucket" "us-east-1" "AKIA" "secret" none none),
      ("assets", .azure "assets" "AccountName=a;AccountKey=k")]
  auth := ⟨samplePublic64, samplePrivate64, none⟩
  cache := ⟨4, 0, 0, none⟩

private def sampleStartup : StartupLibraries where
  keys := sampleKeyLibraries
  stores := ⟨fun _ => .ok 0, fun _ => .ok 1⟩
  foyer := plainFoyer
  pointerWidth := .w64
  location := id
  mime := .unknown
  finishAborts := fun _ _ => true

private theorem sampleConfig_fits : sampleConfig.Fits sampleStartup where
  keys := ⟨sampleSeed, rfl, rfl, rfl, rfl, rfl⟩
  stores := by
    have parsed : parseConnectionString "AccountName=a;AccountKey=k" = .ok ⟨"a", "k", none, false⟩ := by decide
    intro entry listed
    simp only [sampleConfig, List.mem_cons, List.not_mem_nil, or_false] at listed
    rcases listed with rfl | rfl
    · exact ⟨0, rfl⟩
    · refine ⟨1, ?_⟩
      simp only [buildStore, buildAzureStore, parsed]
      rfl
  cache := ⟨by decide, fun _ => rfl, fun _ => rfl, rfl⟩

def FetchAwait.object? : FetchAwait → Option ObjectId
  | .get object | .missing object | .bytes object _ => some object
  | .put _ _ => none

def LeaderAwait.object? : LeaderAwait → Option ObjectId
  | .fetch stage => stage.object?
  | .store _ | .release _ => none

def PutAwait.object? : PutAwait → Option ObjectId
  | .head object | .init object | .next object _ _ _ | .finish object _ _ | .committed object _ | .insert object _ =>
      some object
  | .abort _ | .aborted => none

/-- The object that a task works on upstream, also when it was dropped meanwhile. -/
def Task.object? : Task → Option ObjectId
  | .get _ (.running (.leader _ stage)) | .get _ (.dropped (.leader _ stage)) => stage.object?
  | .get _ (.running (.fallback stage)) | .get _ (.dropped (.fallback stage)) => stage.object?
  | .head _ _ (.running (.head object)) | .head _ _ (.dropped (.head object)) => some object
  | .prefetch _ (.running (.leader _ stage)) | .prefetch _ (.dropped (.leader _ stage)) => stage.object?
  | .put _ (.running at_) | .put _ (.dropped at_) => at_.object?
  | _ => none

section Buckets

variable {cfg : AppConfig} {key : CacheKey} {request : Request} {object : ObjectId}

theorem FetchAwait.Formed.names {stage : FetchAwait} (formed : stage.Formed cfg key)
    (works : stage.object? = some object) : cfg.object key = some object := by
  cases stage with
  | get | missing | bytes =>
    cases works
    exact formed
  | put => cases works

theorem LeaderAwait.Formed.names {stage : LeaderAwait} (formed : stage.Formed cfg key)
    (works : stage.object? = some object) : cfg.object key = some object := by
  cases stage with
  | fetch stage => exact FetchAwait.Formed.names formed works
  | store | release => cases works

theorem PutAwait.Formed.names {at_ : PutAwait} {request : PutRequest} (formed : at_.Formed cfg request)
    (works : at_.object? = some object) : cfg.object request.key = some object := by
  cases at_ with
  | head | init =>
    cases works
    exact formed
  | next | finish | committed | insert =>
    cases works
    exact formed.1
  | abort | aborted => cases works

/-- A task works on the object that its own key names. -/
theorem Task.Formed.names {task : Task} (formed : task.Formed cfg) (works : task.object? = some object) :
    cfg.object task.key = some object := by
  unfold Task.object? at works
  split at works
  · exact LeaderAwait.Formed.names formed works
  · exact LeaderAwait.Formed.names formed works
  · exact FetchAwait.Formed.names formed works
  · exact FetchAwait.Formed.names formed works
  · cases works
    exact formed
  · cases works
    exact formed
  · exact LeaderAwait.Formed.names formed works
  · exact LeaderAwait.Formed.names formed works
  · exact PutAwait.Formed.names formed works
  · exact PutAwait.Formed.names formed works
  · cases works

theorem FetchOrigin.unknownBucket (origin : FetchOrigin cfg key i past result)
    (same : result = .error (.notFound "unknown bucket")) : cfg.object key = none := by
  cases origin with
  | unknown absent => exact absent
  | read => cases same
  | absent => exact absurd (congrArg AppError.message (Except.error.inj same)) (by decide)
  | @failed err =>
    have messages := congrArg AppError.message (Except.error.inj same)
    cases err <;> exact absurd messages (by decide)

/-- Only a bucket that is not known is answered so. -/
theorem Origin.unknownBucket (origin : Origin cfg i past request result)
    (same : result = .error (.notFound "unknown bucket")) : cfg.object request.key = none := by
  cases origin with
  | invalid | broken => exact absurd (congrArg AppError.status (Except.error.inj same)) (by decide)
  | unknown absent => exact absent
  | @failed err =>
    have messages := congrArg AppError.message (Except.error.inj same)
    cases err <;> exact absurd messages (by decide)
  | cached | headCached | headSized | committed => cases same
  | @fetched _ result origin =>
    cases result with
    | ok entry => cases same
    | error err => exact origin.unknownBucket (congrArg Except.error (Except.error.inj same))
  | @joined _ _ _ result shares =>
    cases result with
    | ok entry => cases same
    | error err => exact shares.flown.origin.unknownBucket (congrArg Except.error (Except.error.inj same))

theorem unknownBucket_reaches {s : Proxy}
    (reach : (proxy cfg).system.Reaches System.Always (Proxy.initial upstream cache) s)
    (present : s.tasks i = some task)
    (answered : task.answer? = some (request, .error (.notFound "unknown bucket"))) :
    cfg.object request.key = none := by
  obtain ⟨past, history⟩ := reach.history
  exact (((explained_history history).traced i task present).answer answered).unknownBucket rfl

end Buckets

/-- In every run of a service that has started, each request works on the store
that is configured for its own bucket id, and is told that the bucket is unknown
only if the configuration does not have it. -/
theorem configured_buckets (libs : StartupLibraries) (config : Config)
    (distinct : (config.stores.map Prod.fst).Nodup) (app : AppState) (started : asyncMain libs config = .ok app)
    (gate : Gate) (upstream : ObjectId → Option Bytes) (cache : FoyerCache) (s : Service)
    (reach : (Service.system gate app.config).Reaches System.Always (Service.initial upstream cache) s) :
    (∀ i task object, s.pool.tasks i = some task → task.object? = some object →
        ∃ entry ∈ config.stores, entry.1 = task.key.bucketId ∧
          buildStore libs.stores entry.1 entry.2 = .ok object.store ∧
          object.location = app.config.location task.key.path) ∧
      ∀ i task request, s.pool.tasks i = some task →
        task.answer? = some (request, .error (.notFound "unknown bucket")) →
        request.key.bucketId ∉ config.stores.map Prod.fst := by
  have serves := asyncMain_serves distinct started
  have view : (proxy app.config).system.Reaches System.Always (Proxy.initial upstream cache) s.pool.unrefused :=
    reach.project (fun s => s.pool.unrefused) (fun _ _ => trivial) fun _ _ _ _ _ taken => unrefused_step taken
  constructor
  · intro i task object present works
    have named := Task.Formed.names (formed_reaches view i task present) works
    obtain ⟨store, known, rfl⟩ := Option.map_eq_some_iff.mp named
    by_cases listed : task.key.bucketId ∈ config.stores.map Prod.fst
    · obtain ⟨entry, member, same⟩ := List.mem_map.mp listed
      obtain ⟨built, made, found⟩ := serves.configured entry member
      rw [same, known] at found
      cases found
      exact ⟨entry, member, same, made, rfl⟩
    · cases (serves.unknown _ listed).symm.trans known
  · intro i task request present answered listed
    have absent := unknownBucket_reaches view present answered
    obtain ⟨entry, member, same⟩ := List.mem_map.mp listed
    obtain ⟨store, _, found⟩ := serves.configured entry member
    rw [same] at found
    rw [AppConfig.object, found] at absent
    cases absent

private def openGate : Gate where
  auth := ⟨sampleKey, some "abc"⟩
  libs := sampleLibraries
  path := fun uri => if uri = "/media/p" then some ⟨"media", "p"⟩ else some ⟨"other", "p"⟩
  query := fun _ => some []

private def openRequest (uri : String) : HttpRequest where
  method := "PUT"
  uri
  headers := ⟨none, some "Bearer abc".toByteArray.data.toList⟩
  body := []

private def sampleStores : String → Option StoreId :=
  Function.update (Function.update (fun _ => none) "media" (some 0)) "assets" (some 1)

private def sampleApp : AppState where
  auth := ⟨sampleKey, none⟩
  config := .asyncMain ⟨4, 0, 0, none⟩ .w64 sampleStores id .unknown fun _ _ => true
  cache := ⟨4, none, none⟩

private theorem sampleApp_started : asyncMain sampleStartup sampleConfig = .ok sampleApp := by
  have parsed : parseConnectionString "AccountName=a;AccountKey=k" = .ok ⟨"a", "k", none, false⟩ := by decide
  have built : buildStores sampleStartup.stores sampleConfig.stores = .ok sampleStores := by
    simp only [buildStores, sampleConfig, Assembly.assemble, Assembly.assembleInto, buildStore,
      buildAzureStore, parsed]
    rfl
  exact asyncMain_ok.mpr ⟨_, _, _, rfl, built, rfl, rfl⟩

set_option maxRecDepth 8000 in
/-- A PUT to a bucket that is configured works on its store; one to another is told
that the bucket is unknown. -/
theorem configured_buckets_put :
    ∃ s : Service, (Service.system openGate sampleApp.config).Reaches System.Always
        (Service.initial (fun _ => none) .empty) s ∧
      (∃ entry ∈ sampleConfig.stores, entry.1 = "media" ∧
        buildStore sampleStartup.stores entry.1 entry.2 = .ok 0) ∧
      "other" ∉ sampleConfig.stores.map Prod.fst := by
  have replayed : (Service.system openGate sampleApp.config).run (Service.initial (fun _ => none) .empty)
      [.arrive 0 (openRequest "/media/p"), .arrive 0 (openRequest "/other/p")] = some _ := rfl
  have reach := System.reaches_of_run replayed
  obtain ⟨works, told⟩ := configured_buckets sampleStartup sampleConfig (by decide) sampleApp
    sampleApp_started openGate (fun _ => none) .empty _ reach
  obtain ⟨entry, listed, same, built, _⟩ := works 0 _ ⟨0, "p"⟩ rfl rfl
  exact ⟨_, reach, ⟨entry, listed, same, built⟩, told 1 _ _ rfl rfl⟩

end Cachegate
