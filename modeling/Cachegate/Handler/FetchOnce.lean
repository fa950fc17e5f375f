import Cachegate.Handler.Exclusion
import Cachegate.Handler.Provenance
import Cachegate.Handler.Found

/-! How often one object is fetched when nothing fails, nothing is evicted and
nothing is cancelled. The lookup and the `acquire` of a request are two steps,
and the cache is not looked at again between them. -/

namespace Cachegate

open Transition TaskPool Inflight

/-- Only reads arrive, the store answers, and nothing is cancelled or evicted. -/
def Calm (_ : Proxy) : ProxyAction → Prop
  | .start (.put _) | .poll _ (.failed _) | .poll _ .streamError | .cancel _ | .env (.evict _) => False
  | _ => True

instance (s : Proxy) : (action : ProxyAction) → Decidable (Calm s action)
  | .start (.put _) | .poll _ (.failed _) | .poll _ .streamError | .cancel _ | .env (.evict _) => isFalse id
  | .start (.get _) | .start (.head _ _) | .poll _ .ready | .poll _ .cacheError | .env (.release _) =>
      isTrue trivial

/-- `acquire` makes no leader of this key while the cache has its entry. -/
def Fresh (key : CacheKey) (s : Proxy) : ProxyAction → Prop
  | .poll index .ready =>
      ∀ task ∈ s.tasks index, task.acquires? = some key → s.shared.flights.inner key = none →
        s.shared.cache.entries key = none
  | _ => True

instance (key : CacheKey) (s : Proxy) : (action : ProxyAction) → Decidable (Fresh key s action)
  | .poll index .ready =>
      inferInstanceAs (Decidable (∀ task ∈ s.tasks index, task.acquires? = some key →
        s.shared.flights.inner key = none → s.shared.cache.entries key = none))
  | .poll _ (.failed _) | .poll _ .cacheError | .poll _ .streamError | .start _ | .cancel _ | .env _ =>
      isTrue trivial

/-- Either the key has not been fetched and nobody is at it, or it has been
fetched once, and is cached or still being fetched. -/
inductive AtMostOnce (key : CacheKey) (s : Proxy) : Prop
  | never (calls : s.shared.getCalls key = 0) (vacant : s.shared.cache.entries key = none)
      (idle : s.All fun task => task.fetching? ≠ some key)
  | cached (calls : s.shared.getCalls key = 1) (kept : s.shared.cache.entries key ≠ none)
  | fetching (calls : s.shared.getCalls key = 1) (present : s.tasks index = some task)
      (own : task.fetching? = some key)

/-- A step that does not call `store.get` for the key: it inserts at most what
it was fetching, and only that ends a fetch. -/
structure Quiet (key : CacheKey) (s s' : Shared) (before after : Option CacheKey) : Prop where
  calls : s'.getCalls key = s.getCalls key
  kept : s.cache.entries key ≠ none → s'.cache.entries key ≠ none
  only : before ≠ some key → s'.cache.entries key = s.cache.entries key ∧ after ≠ some key
  moved : before = some key → after = some key ∨ s'.cache.entries key ≠ none

/-- A step by which a new leader calls `store.get` for the key. -/
structure Called (key : CacheKey) (s s' : Shared) (before after : Option CacheKey) : Prop where
  vacant : s.flights.inner key = none
  calls : s'.getCalls key = s.getCalls key + 1
  cache : s'.cache.entries key = s.cache.entries key
  fetches : after = some key

/-- The entry is one that the cache takes, if the key is the one in question. -/
def Fits (cfg : AppConfig) (key name : CacheKey) (entry : CacheEntry) : Prop :=
  name = key → ¬ (cfg.capBytes = 0 ∨ cfg.capBytes < entry.bytes.length)

/-- The reply of a call to the store or to the cache that does not fail there. -/
def Reply.Answers : Reply → Prop
  | .ready | .cacheError => True
  | .failed _ | .streamError => False

section Steps

variable {cfg : AppConfig} {key name : CacheKey} {s s' : Shared} {guard : EntryId}

theorem quiet_idle (calls : s'.getCalls = s.getCalls) (cache : s'.cache = s.cache) : Quiet key s s' none none :=
  ⟨by rw [calls], fun kept => by rwa [cache], fun _ => ⟨by rw [cache], by simp⟩, by simp⟩

theorem quiet_still (calls : s'.getCalls = s.getCalls) (cache : s'.cache = s.cache)
    (fetching : Option CacheKey) : Quiet key s s' fetching fetching :=
  ⟨by rw [calls], fun kept => by rwa [cache], fun other => ⟨by rw [cache], other⟩, .inl⟩

/-- The insertion that ends a fetch. -/
theorem quiet_cached (calls : s'.getCalls = s.getCalls) (cache : s'.cache = s.cache.put name data contentType) :
    Quiet key s s' (some name) none := by
  refine ⟨by rw [calls], ?_, ?_, ?_⟩
  · intro kept
    by_cases same : key = name
    · simp [cache, FoyerCache.put, same]
    · simpa [cache, FoyerCache.put, same] using kept
  · intro other
    have different : key ≠ name := fun same => other (by rw [same])
    exact ⟨by simp [cache, FoyerCache.put, different], by simp⟩
  · rintro ⟨⟩
    right
    simp [cache, FoyerCache.put]

theorem FetchStep.quiet (step : FetchStep cfg name method s at_ reply s' next) (answers : reply.Answers)
    (own : at_.Sound (Fits cfg key) cfg name) (clean : name = key → at_.Clean) :
    Quiet key s s' (some name) (next.elim (fun _ => some name) (fun _ => none)) := by
  cases step with
  | got | absent | read => refine quiet_still ?_ ?_ _ <;> rfl
  | missed => exact ⟨rfl, id, fun _ => ⟨rfl, by simp⟩, fun held => (clean (Option.some.inj held)).elim⟩
  | skipped oversized =>
    by_cases same : name = key
    · exact absurd oversized (own same)
    · exact ⟨rfl, id, fun _ => ⟨rfl, by simp⟩, fun held => absurd (Option.some.inj held) same⟩
  | cached => exact quiet_cached rfl rfl
  | getFailed | readFailed => exact answers.elim

theorem LeaderStep.quiet (step : LeaderStep cfg name method guard s at_ reply s' next) (answers : reply.Answers)
    (own : at_.Sound (Fits cfg key) cfg name) (clean : name = key → at_.Clean) :
    Quiet key s s' (at_.fetching? name) (next.elim (·.fetching? name) (fun _ => none)) := by
  cases step with
  | fetch step => exact step.quiet answers own clean
  | complete step =>
    have quiet := step.quiet answers own clean
    exact ⟨quiet.calls, quiet.kept, quiet.only, quiet.moved⟩
  | store | release => exact quiet_idle rfl rfl

/-- A new leader calls `store.get` for its own key, which is known. -/
theorem LeaderStart.called (start : LeaderStart cfg name guard s s' stage) (known : cfg.object key = some object) :
    s'.cache = s.cache ∧
      if name = key then s'.getCalls key = s.getCalls key + 1 ∧ stage.fetching? name = some key
      else s'.getCalls key = s.getCalls key := by
  cases start with
  | fetch started =>
    cases started with
    | called =>
      refine ⟨rfl, ?_⟩
      split <;> rename_i same
      · subst same; simp [Metrics.bump, LeaderAwait.fetching?]
      · simp [Metrics.bump, Ne.symm same]
  | complete started =>
    cases started with
    | unknown absent =>
      refine ⟨rfl, ?_⟩
      split <;> rename_i same
      · simp [← same, absent] at known
      · rfl

/-- The segment from `acquire` on, for a new leader. -/
theorem LeaderStart.effect (acquired : s.flights.acquire name = (.leader guard, flights))
    (start : LeaderStart cfg name guard { s with flights } s' stage) (known : cfg.object key = some object) :
    name = key ∧ Called key s s' none (stage.fetching? name) ∨
      name ≠ key ∧ Quiet key s s' none (stage.fetching? name) := by
  obtain ⟨cache, calls⟩ := start.called known
  by_cases same : name = key
  · rw [if_pos same] at calls
    refine .inl ⟨same, ?_, calls.1, by rw [cache], calls.2⟩
    subst same
    unfold acquire at acquired
    split at acquired <;> cases acquired
    assumption
  · rw [if_neg same] at calls
    refine .inr ⟨same, calls, fun kept => by rwa [cache], fun _ => ⟨by rw [cache], ?_⟩, by simp⟩
    cases stage <;> simp [LeaderAwait.fetching?, same]

/-- What one step of a task does about the key. -/
def Effect (key : CacheKey) (s s' : Shared) (task task' : Task) : Prop :=
  task.acquires? = some key ∧ Called key s s' task.fetching? task'.fetching? ∨
    task.acquires? ≠ some key ∧ Quiet key s s' task.fetching? task'.fetching? ∨
    s.flights.inner key ≠ none ∧ Quiet key s s' task.fetching? task'.fetching?

/-- A task that becomes a leader calls `store.get` for its own key. -/
theorem Effect.lead (acquired : s.flights.acquire name = (.leader guard, flights))
    (start : LeaderStart cfg name guard { s with flights } s' stage) (known : cfg.object key = some object)
    (own : task.acquires? = some name) (before : task.fetching? = none)
    (after : task'.fetching? = stage.fetching? name) : Effect key s s' task task' := by
  rcases start.effect acquired known with ⟨same, called⟩ | ⟨different, quiet⟩
  · exact .inl ⟨by rw [own, same], by rwa [before, after]⟩
  · exact .inr (.inl ⟨by simpa [own] using different, by rwa [before, after]⟩)

/-- A task that becomes a follower finds the slot of its key taken. -/
theorem Effect.follow (acquired : s.flights.acquire name = (.follower entry, flights))
    (own : task.acquires? = some name) (quiet : Quiet key s s' task.fetching? task'.fetching?) :
    Effect key s s' task task' := by
  by_cases same : name = key
  · refine .inr (.inr ⟨?_, quiet⟩)
    subst same
    intro vacant
    simp [acquire, vacant] at acquired
  · exact .inr (.inl ⟨by simpa [own] using same, quiet⟩)

theorem GetStep.effect (step : GetStep cfg name s at_ reply s' phase) (answers : reply.Answers)
    (known : cfg.object key = some object) (own : at_.Sound (Fits cfg key) cfg name)
    (clean : name = key → (Task.get name (.running at_)).Clean)
    (completed : ∀ wait flights, at_ = .result wait → s.flights.readResult wait ≠ some (none, flights)) :
    Effect key s s' (.get name (.running at_)) (.get name phase) := by
  cases step with
  | lead acquired started => exact .lead acquired started known rfl rfl rfl
  | follow acquired => exact .follow acquired rfl (quiet_idle rfl rfl)
  | leader led => exact .inr (.inl ⟨by simp [Task.acquires?], led.quiet answers own clean⟩)
  | led led =>
    have quiet := led.quiet answers own clean
    exact .inr (.inl ⟨by simp [Task.acquires?], quiet.calls, quiet.kept, quiet.only, quiet.moved⟩)
  | fallback step => exact .inr (.inl ⟨by simp [Task.acquires?], step.quiet answers own clean⟩)
  | fallbackEnds step =>
    have quiet := step.quiet answers own clean
    exact .inr (.inl ⟨by simp [Task.acquires?], quiet.calls, quiet.kept, quiet.only, quiet.moved⟩)
  | abandoned read | abandonedEnds read => exact absurd read (completed _ _ rfl)
  | hit | miss | wait | wake | joined | joinedError | recheckHit | recheckMiss =>
    exact .inr (.inl ⟨by simp [Task.acquires?], quiet_idle rfl rfl⟩)

theorem PrefetchStep.effect (step : PrefetchStep cfg name s at_ reply s' phase) (answers : reply.Answers)
    (known : cfg.object key = some object) (own : at_.Sound (Fits cfg key) cfg name)
    (clean : name = key → (Task.prefetch name (.running at_)).Clean) :
    Effect key s s' (.prefetch name (.running at_)) (.prefetch name phase) := by
  cases step with
  | lead acquired started => exact .lead acquired started known rfl rfl rfl
  | follow acquired => exact .follow acquired rfl (quiet_idle rfl rfl)
  | leader led => exact .inr (.inl ⟨by simp [Task.acquires?], led.quiet answers own clean⟩)
  | led led =>
    have quiet := led.quiet answers own clean
    exact .inr (.inl ⟨by simp [Task.acquires?], quiet.calls, quiet.kept, quiet.only, quiet.moved⟩)

theorem HeadStep.getCalls (step : HeadStep cfg name params s at_ reply s' phase spawned) :
    s'.getCalls = s.getCalls := by
  cases step <;> rfl

theorem Spawned.getCalls (spawned : Spawned cfg s request s' task) :
    s'.getCalls = s.getCalls ∧ task.fetching? = none := by
  cases spawned <;> exact ⟨rfl, rfl⟩

end Steps

section Run

variable {cfg : AppConfig} {key : CacheKey} {s t : Proxy}

theorem AtMostOnce.calls_le (once : AtMostOnce key s) : s.shared.getCalls key ≤ 1 := by
  cases once with
  | never calls => omega
  | cached calls => omega
  | fetching calls => omega

/-- A key that is fetched by a guarded task has its slot taken. -/
theorem AtMostOnce.vacant (once : AtMostOnce key s) (holds : linked.Holds s) (guarded : s.All Task.Guarded)
    (free : s.shared.flights.inner key = none) :
    s.shared.cache.entries key ≠ none ∧ s.shared.getCalls key = 1 ∨
      s.shared.getCalls key = 0 ∧ s.shared.cache.entries key = none ∧ s.All fun task => task.fetching? ≠ some key := by
  cases once with
  | never calls vacant idle => exact .inr ⟨calls, vacant, idle⟩
  | cached calls kept => exact .inl ⟨kept, calls⟩
  | fetching calls present own =>
    obtain ⟨e, _, owns⟩ := (holds.each _ _ present).unreleased (guarded _ _ present) own
    simp [(holds.global.mapped key e).mpr owns] at free

/-- A step of one task, quiet for the key. -/
theorem AtMostOnce.quiet (once : AtMostOnce key s) (present : s.tasks index = some task)
    (quiet : Quiet key s.shared shared task.fetching? task'.fetching?) :
    AtMostOnce key (s.replace index shared task') := by
  cases once with
  | never calls vacant idle =>
    obtain ⟨same, after⟩ := quiet.only (idle index task present)
    exact .never (quiet.calls.trans calls) (same.trans vacant) (idle.replace after)
  | cached calls kept => exact .cached (quiet.calls.trans calls) (quiet.kept kept)
  | @fetching i own calls present' fetching =>
    have calls' := quiet.calls.trans calls
    by_cases same : i = index
    · subst same
      have identical : own = task := Option.some.inj (present'.symm.trans present)
      subst identical
      rcases quiet.moved fetching with still | kept
      · exact .fetching calls' (s.replace_self i shared task') still
      · exact .cached calls' kept
    · exact .fetching calls' ((s.replace_other shared task' same).trans present') fetching

theorem AtMostOnce.effect (once : AtMostOnce key s) (holds : linked.Holds s) (guarded : s.All Task.Guarded)
    (present : s.tasks index = some task)
    (fresh : task.acquires? = some key → s.shared.flights.inner key = none → s.shared.cache.entries key = none)
    (effect : Effect key s.shared shared task task') : AtMostOnce key (s.replace index shared task') := by
  rcases effect with ⟨acquires, called⟩ | ⟨_, quiet⟩ | ⟨_, quiet⟩
  · rcases once.vacant holds guarded called.vacant with ⟨kept, _⟩ | ⟨calls, _, _⟩
    · exact absurd (fresh acquires called.vacant) kept
    · refine .fetching ?_ (s.replace_self index shared task') called.fetches
      simpa [calls] using called.calls
  · exact once.quiet present quiet
  · exact once.quiet present quiet

theorem AtMostOnce.reshare (once : AtMostOnce key s) (calls : shared.getCalls = s.shared.getCalls)
    (cache : shared.cache = s.shared.cache) : AtMostOnce key (s.reshare shared) := by
  cases once with
  | never calls' vacant idle =>
    exact .never ((congrFun calls key).trans calls') ((congrArg (·.entries key) cache).trans vacant) idle
  | cached calls' kept =>
    refine .cached ((congrFun calls key).trans calls') ?_
    simpa [cache] using kept
  | fetching calls' present own => exact .fetching ((congrFun calls key).trans calls') present own

/-- A new task is not fetching yet. -/
theorem AtMostOnce.push (once : AtMostOnce key s) (holds : linked.Holds s) (idle : task.fetching? ≠ some key) :
    AtMostOnce key (s.push task) := by
  cases once with
  | never calls vacant others => exact .never calls vacant (others.push idle)
  | cached calls kept => exact .cached calls kept
  | fetching calls present own =>
    have different := Nat.ne_of_lt (holds.bounded _ _ present)
    exact .fetching calls ((s.push_other task different).trans present) own

/-- What every state of a calm run has besides the count. -/
structure Undisturbed (cfg : AppConfig) (key : CacheKey) (s : Proxy) : Prop where
  links : linked.Holds s
  settled : s.shared.flights.Settled
  guarded : s.All Task.Guarded
  fits : s.Sound (Fits cfg key) cfg
  clean : s.All fun task => task.key = key → task.Clean
  reads : s.All fun task => ∀ request phase, task ≠ .put request phase

theorem Calm.readsOnly (calm : Calm s action) : ReadsOnly s action := by
  unfold Calm at calm
  split at calm <;> first | exact calm.elim | skip
  unfold ReadsOnly
  split <;> simp_all

theorem Calm.answers (calm : Calm s (.poll index reply)) : reply.Answers := by
  cases reply with
  | ready | cacheError => trivial
  | failed | streamError => exact calm

theorem Calm.spared (calm : Calm s (.poll index reply)) (err : StoreError) : reply ≠ .failed err := by
  rintro rfl
  exact calm

theorem Calm.noCancel (calm : Calm s action) : NoCancel s action := by
  rintro index rfl
  exact calm

theorem reads_reaches (meets : ∀ s action, allowed s action → ReadsOnly s action)
    (reach : (proxy cfg).system.Reaches allowed (Proxy.initial upstream cache) s) :
    s.All fun task => ∀ request phase, task ≠ .put request phase := by
  refine reach.invariant (motive := fun s => s.All fun task => ∀ request phase, task ≠ .put request phase)
    (State.all_start _) ?_
  intro source action next reads allow taken
  cases proxy_step taken with
  | start spawned =>
    have own := meets _ _ allow
    refine State.All.push reads ?_
    cases spawned with
    | putInvalid | putUnknown | put => exact own.elim
    | getInvalid | get | headInvalid | head => exact fun _ _ same => by cases same
  | get | prefetch | dropGet | dropHead | dropPrefetch =>
    exact reads.replace fun _ _ same => by cases same
  | head => exact all_head (reads.replace fun _ _ same => by cases same) (fun _ _ same => by cases same)
  | put present | late present | dropPut present => exact absurd rfl (reads _ _ present _ _)
  | evict | release => exact reads

/-- Without PUT requests the stores stay as they are. -/
theorem unchanged_reaches (meets : ∀ s action, allowed s action → ReadsOnly s action)
    (reach : (proxy cfg).system.Reaches allowed (Proxy.initial upstream cache) s) :
    s.shared.upstream = upstream := by
  refine reach.invariantWith (motive := fun s : Proxy => s.shared.upstream = upstream)
    (fun _ prior => reads_reaches meets prior) rfl ?_
  intro source action next reads reads' same allow taken
  rcases upstream_step taken with unchanged | ⟨index, task, object, bytes, _, present, commits, _⟩
  · exact unchanged.trans same
  · unfold Task.commits? at commits
    split at commits <;> first | exact absurd rfl (reads _ _ present _ _) | cases commits

/-- Without cancellation every woken follower meets a result. -/
theorem completed_reaches (meets : ∀ s action, allowed s action → NoCancel s action)
    (reach : (proxy cfg).system.Reaches allowed (Proxy.initial upstream cache) s) :
    (proxy cfg).system.Reaches Completed (Proxy.initial upstream cache) s := by
  refine reach.invariantWith (motive := (proxy cfg).system.Reaches Completed (Proxy.initial upstream cache))
    (fun _ prior => settled_reaches meets prior) .refl ?_
  intro source action next settled settled' prior allow taken
  refine prior.step ?_ taken
  unfold Completed
  split
  · intro task present wait reading phase waiting entry locking
    cases phase <;> cases locking
    obtain ⟨guard, made, finished⟩ := settled.woken wait entry waiting
    obtain ⟨result, stored⟩ := settled.stored entry guard made (.inr finished)
    simp [stored]
  · trivial

/-- A reachable state of a calm run with an object that the cache takes. -/
private structure Setting (cfg : AppConfig) (upstream : ObjectId → Option Bytes) (s : Proxy) : Prop where
  links : linked.Holds s
  formed : s.All (Task.Formed cfg)
  reads : s.All fun task => ∀ request phase, task ≠ .put request phase
  unchanged : s.shared.upstream = upstream

theorem fits_reaches (known : cfg.object key = some object) (stored : upstream object = some data)
    (fits : ¬ (cfg.capBytes = 0 ∨ cfg.capBytes < data.length))
    (meets : ∀ s action, allowed s action → ReadsOnly s action)
    (reach : (proxy cfg).system.Reaches allowed (Proxy.initial upstream .empty) s) :
    Proxy.Sound (Fits cfg key) cfg s := by
  refine reach.invariantWith (motive := fun s : Proxy => s.Sound (Fits cfg key) cfg)
    (fun _ prior => Setting.mk (linked_reaches prior) (formed_reaches prior) (reads_reaches meets prior)
      (unchanged_reaches meets prior))
    (Proxy.sound_initial (by intro name entry found; cases found)) ?_
  intro source action next setting setting' sound allow taken
  refine sound.step setting.links setting.formed ?_ ?_ taken
  · rintro name object' data' known' stored' rfl
    cases known.symm.trans known'
    rw [setting.unchanged] at stored'
    cases stored.symm.trans stored'
    exact fits
  · intro index request object loop present
    exact absurd rfl (setting.reads _ _ present _ _)

theorem clean_reaches (known : cfg.object key = some object) (stored : upstream object = some data)
    (meets : ∀ s action, allowed s action → Calm s action)
    (reach : (proxy cfg).system.Reaches allowed (Proxy.initial upstream cache) s) :
    s.All fun task => task.key = key → task.Clean := by
  have reads (s : Proxy) (action : ProxyAction) (allow : allowed s action) := (meets s action allow).readsOnly
  refine reach.invariantWith (motive := fun s => s.All fun task => task.key = key → task.Clean)
    (fun _ prior => Setting.mk (linked_reaches prior) (formed_reaches prior) (reads_reaches reads prior)
      (unchanged_reaches reads prior)) (State.all_start _) ?_
  intro source action next setting setting' clean allow taken
  have found : Found cfg key source.shared := ⟨object, data, known, by rw [setting.unchanged]; exact stored⟩
  have calm := meets _ _ allow
  cases proxy_step taken with
  | start spawned =>
    refine State.All.push clean ?_
    cases spawned <;> exact fun _ => trivial
  | get present polled =>
    refine clean.replace ?_
    rintro rfl
    exact polled.clean (setting.formed _ _ present) found calm.spared (clean _ _ present rfl)
  | prefetch present polled =>
    refine clean.replace ?_
    rintro rfl
    exact polled.clean (setting.formed _ _ present) found calm.spared (clean _ _ present rfl)
  | head present polled => exact all_head (clean.replace fun _ => trivial) (fun _ => trivial)
  | put present | late present => exact absurd rfl (setting.reads _ _ present _ _)
  | dropGet | dropHead | dropPut | dropPrefetch | evict => exact calm.elim
  | release => exact clean

theorem undisturbed_reaches (known : cfg.object key = some object) (stored : upstream object = some data)
    (fits : ¬ (cfg.capBytes = 0 ∨ cfg.capBytes < data.length))
    (meets : ∀ s action, allowed s action → Calm s action)
    (reach : (proxy cfg).system.Reaches allowed (Proxy.initial upstream .empty) s) : Undisturbed cfg key s := by
  have reads (s : Proxy) (action : ProxyAction) (allow : allowed s action) := (meets s action allow).readsOnly
  have keeps (s : Proxy) (action : ProxyAction) (allow : allowed s action) := (meets s action allow).noCancel
  exact ⟨linked_reaches reach, settled_reaches keeps reach, guarded_reaches (completed_reaches keeps reach),
    fits_reaches known stored fits reads reach, clean_reaches known stored meets reach, reads_reaches reads reach⟩

theorem Undisturbed.get_effect (undisturbed : Undisturbed cfg key s) (known : cfg.object key = some object)
    (calm : Calm s (.poll index reply)) (present : s.tasks index = some (.get name (.running at_)))
    (polled : GetStep cfg name s.shared at_ reply shared phase) :
    Effect key s.shared shared (.get name (.running at_)) (.get name phase) := by
  refine polled.effect calm.answers known (undisturbed.fits.tasks _ _ present)
    (undisturbed.clean _ _ present) ?_
  intro wait flights _ read
  obtain ⟨result, impossible⟩ := undisturbed.settled.readResult read
  cases impossible

theorem Undisturbed.prefetch_effect (undisturbed : Undisturbed cfg key s) (known : cfg.object key = some object)
    (calm : Calm s (.poll index reply)) (present : s.tasks index = some (.prefetch name (.running at_)))
    (polled : PrefetchStep cfg name s.shared at_ reply shared phase) :
    Effect key s.shared shared (.prefetch name (.running at_)) (.prefetch name phase) :=
  polled.effect calm.answers known (undisturbed.fits.tasks _ _ present) (undisturbed.clean _ _ present)

/-- Only a successful wait for the map lock is a step of `acquire`. -/
theorem Fresh.acquire (fresh : Fresh key s (.poll index reply)) (present : s.tasks index = some task)
    (ready : task.acquires? = some key → reply = .ready) (acquires : task.acquires? = some key)
    (free : s.shared.flights.inner key = none) : s.shared.cache.entries key = none := by
  cases ready acquires
  exact fresh task present acquires free

theorem AtMostOnce.step (once : AtMostOnce key s) (undisturbed : Undisturbed cfg key s)
    (known : cfg.object key = some object) (calm : Calm s action) (fresh : Fresh key s action)
    (taken : (proxy cfg).step s action = some t) : AtMostOnce key t := by
  cases proxy_step taken with
  | start spawned =>
    have kept := once.reshare spawned.getCalls.1 spawned.cache
    exact kept.push (linked_reshare undisturbed.links spawned.flights) (by simp [spawned.getCalls.2])
  | get present polled =>
    refine once.effect undisturbed.links undisturbed.guarded present (fresh.acquire present ?_)
      (undisturbed.get_effect known calm present polled)
    intro acquires
    cases polled <;> first | rfl | cases acquires
  | prefetch present polled =>
    refine once.effect undisturbed.links undisturbed.guarded present (fresh.acquire present ?_)
      (undisturbed.prefetch_effect known calm present polled)
    intro acquires
    cases polled <;> first | rfl | cases acquires
  | @head index name params at_ reply shared phase spawned present polled =>
    have moved : AtMostOnce key (s.replace index shared (.head name params phase)) :=
      once.quiet present (quiet_idle polled.getCalls polled.cache)
    have links : linked.Holds (s.replace index shared (.head name params phase)) :=
      linked_idle undisturbed.links present polled.flights rfl trivial rfl rfl
    split
    · exact moved.push links (by simp [Task.fetching?])
    · exact moved
  | put present | late present => exact absurd rfl (undisturbed.reads _ _ present _ _)
  | dropGet | dropHead | dropPut | dropPrefetch | evict => exact calm.elim
  | release => exact once.reshare rfl rfl

/-- An `acquire` that is not fresh makes a leader, which fetches again. -/
theorem AtMostOnce.refetches (once : AtMostOnce key s) (undisturbed : Undisturbed cfg key s)
    (known : cfg.object key = some object) (calm : Calm s action) (stale : ¬ Fresh key s action)
    (taken : (proxy cfg).step s action = some t) : t.shared.getCalls key = 2 := by
  unfold Fresh at stale
  split at stale
  · rename_i index
    push Not at stale
    obtain ⟨task, present, acquires, free, kept⟩ := stale
    obtain ⟨_, calls⟩ | ⟨_, vacant, _⟩ := once.vacant undisturbed.links undisturbed.guarded free
    · have called {shared : Shared} {task' : Task} (effect : Effect key s.shared shared task task') :
          shared.getCalls key = 2 := by
        rcases effect with ⟨_, called⟩ | ⟨other, _⟩ | ⟨taken_, _⟩
        · rw [called.calls, calls]
        · exact absurd acquires other
        · exact absurd free taken_
      cases proxy_step taken with
      | get present' polled =>
        cases present.symm.trans present'
        exact called (undisturbed.get_effect known calm present' polled)
      | prefetch present' polled =>
        cases present.symm.trans present'
        exact called (undisturbed.prefetch_effect known calm present' polled)
      | head present' | put present' | late present' =>
        cases present.symm.trans present'
        cases acquires
    · exact absurd vacant kept
  · exact absurd trivial stale

end Run

/-- For an object that the cache takes, `store.get` is called once at most as
long as no leader is made while the cache has the entry, and twice as soon as
one is. -/
theorem fetchedOnce_of_fresh (cfg : AppConfig) (upstream : ObjectId → Option Bytes) (key : CacheKey)
    (object : ObjectId) (data : Bytes) (known : cfg.object key = some object)
    (stored : upstream object = some data) (capable : cfg.capBytes ≠ 0) (fits : data.length ≤ cfg.capBytes) :
    (∀ s, (proxy cfg).system.Reaches (fun s action => Calm s action ∧ Fresh key s action)
        (Proxy.initial upstream .empty) s → s.shared.getCalls key ≤ 1) ∧
      ∀ s t action, (proxy cfg).system.Reaches (fun s action => Calm s action ∧ Fresh key s action)
        (Proxy.initial upstream .empty) s → Calm s action → (proxy cfg).step s action = some t →
        (t.shared.getCalls key ≤ 1 ↔ Fresh key s action) := by
  have taken_ : ¬ (cfg.capBytes = 0 ∨ cfg.capBytes < data.length) := by omega
  have undisturbed {s : Proxy} (reach : (proxy cfg).system.Reaches
      (fun s action => Calm s action ∧ Fresh key s action) (Proxy.initial upstream .empty) s) :
      Undisturbed cfg key s := undisturbed_reaches known stored taken_ (fun _ _ allow => allow.1) reach
  have once {s : Proxy} (reach : (proxy cfg).system.Reaches
      (fun s action => Calm s action ∧ Fresh key s action) (Proxy.initial upstream .empty) s) :
      AtMostOnce key s := by
    refine reach.invariantWith (motive := AtMostOnce key) (fun _ prior => undisturbed prior)
      (.never rfl rfl (State.all_start _)) ?_
    intro source action next calm_ next_ once allow taken
    exact once.step calm_ known allow.1 allow.2 taken
  refine ⟨fun s reach => (once reach).calls_le, ?_⟩
  intro s t action reach calm taken
  constructor
  · intro atMost
    by_contra stale
    have twice := (once reach).refetches (undisturbed reach) known calm stale taken
    omega
  · intro fresh
    exact ((once reach).step (undisturbed reach) known calm fresh taken).calls_le

private def cachedByte (_ : ObjectId) : Option Bytes := some [1]

/-- Two requests that overlap, with one fetch between them. -/
theorem fetchedOnce_of_fresh_follower :
    ∃ s, (proxy (.single "b" 4 .unknown)).system.Reaches
        (fun s action => Calm s action ∧ Fresh ⟨"b", "p"⟩ s action) (Proxy.initial cachedByte .empty) s ∧
      s.shared.getCalls ⟨"b", "p"⟩ ≤ 1 ∧ (s.tasks 1).isSome := by
  have replayed : ((proxy (.single "b" 4 .unknown)).system.restrict
      (fun s action => Calm s action ∧ Fresh ⟨"b", "p"⟩ s action)).run (Proxy.initial cachedByte .empty)
      [.start (.get ⟨"b", "p"⟩), .start (.get ⟨"b", "p"⟩), .poll 0 .ready, .poll 1 .ready, .poll 0 .ready,
        .poll 1 .ready, .poll 1 .ready, .poll 0 .ready, .poll 0 .ready, .poll 0 .ready, .poll 0 .ready,
        .poll 0 .ready, .poll 1 .ready, .poll 1 .ready, .poll 1 .ready] = some _ := rfl
  have reach := System.reaches_of_restrict (System.reaches_of_run replayed)
  exact ⟨_, reach, (fetchedOnce_of_fresh (.single "b" 4 .unknown) cachedByte ⟨"b", "p"⟩ ⟨0, "p"⟩ [1] rfl rfl
    (by decide) (by decide)).1 _ reach, rfl⟩

/-- A request that missed before the insertion acquires after the release. -/
theorem refetch_reachable :
    ¬ ∀ s, (proxy (.single "b" 4 .unknown)).system.Reaches Calm (Proxy.initial cachedByte .empty) s →
      s.shared.getCalls ⟨"b", "p"⟩ ≤ 1 := by
  intro once
  have replayed : ((proxy (.single "b" 4 .unknown)).system.restrict Calm).run (Proxy.initial cachedByte .empty)
      [.start (.get ⟨"b", "p"⟩), .start (.get ⟨"b", "p"⟩), .poll 0 .ready, .poll 1 .ready, .poll 0 .ready,
        .poll 0 .ready, .poll 0 .ready, .poll 0 .ready, .poll 0 .ready, .poll 0 .ready,
        .poll 1 .ready] = some _ := rfl
  have twice := once _ (System.reaches_of_restrict (System.reaches_of_run replayed))
  exact absurd twice (by decide)

end Cachegate
