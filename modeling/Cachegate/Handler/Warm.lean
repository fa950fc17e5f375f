import Cachegate.Handler.Commit
import Cachegate.Library.TaskMeasure

/-! What a cached key still costs. A request that has looked it up before it was
cached may fetch it once more, and nobody else does while foyer keeps the entry. -/

namespace Cachegate

open Transition TaskPool

section Owes

/-- The lookup is over, and the fetch has not begun. -/
def GetAwait.missed : GetAwait → Bool
  | .acquire | .follow _ | .notified _ | .result _ => true
  | .lookup | .leader _ _ | .recheck _ | .fallback _ => false

def HeadAwait.missed : HeadAwait → Bool
  | .head _ | .answered _ => true
  | .lookup => false

def PrefetchAwait.missed : PrefetchAwait → Bool
  | .acquire => true
  | .leader _ _ => false

/-- The calls of `store.get` for a key that a task may make without looking it up again. -/
def Task.owes (key : CacheKey) : Task → Nat
  | .get name (.running at_) => (decide (name = key) && at_.missed).toNat
  | .head name params (.running at_) => (decide (name = key) && at_.missed && parsePrefetch params).toNat
  | .prefetch name (.running at_) => (decide (name = key) && at_.missed).toNat
  | _ => 0

/-- Foyer keeps the entry of the key, and fails none of its lookups. -/
def Keeps (key : CacheKey) (s : Proxy) : ProxyAction → Prop
  | .env (.evict name) => name ≠ key
  | .poll index .cacheError => ∀ task ∈ s.tasks index, task.key ≠ key
  | _ => True

instance (key : CacheKey) (s : Proxy) : (action : ProxyAction) → Decidable (Keeps key s action)
  | .env (.evict name) => inferInstanceAs (Decidable (name ≠ key))
  | .poll index .cacheError => inferInstanceAs (Decidable (∀ task ∈ s.tasks index, task.key ≠ key))
  | .poll _ .ready | .poll _ (.failed _) | .poll _ .streamError | .start _ | .cancel _ | .env (.release _) =>
      isTrue trivial

/-- How far a GET comes without a fetch. -/
inductive AtHand : Phase GetAwait HandlerResult → Prop
  | lookup : AtHand (.running .lookup)
  | dropped : AtHand (.dropped .lookup)
  | refused : AtHand (.returned (.error (.badRequest "invalid object path")))
  | hit (entry : CacheEntry) : AtHand (.returned (.ok (buildResponse entry true)))

end Owes

section Steps

variable {cfg : AppConfig} {key name : CacheKey} {s s' : Shared} {owner : EntryId}

theorem lookup_kept (cached : s.cache.entries key ≠ none) (kept : reply ≠ .cacheError) :
    s.lookup key reply ≠ some none := by
  cases reply with
  | ready => simpa [Shared.lookup, FoyerCache.get] using cached
  | cacheError => exact absurd rfl kept
  | failed | streamError => simp [Shared.lookup]

theorem FetchStart.calls (start : FetchStart cfg name s s' next) (key : CacheKey) :
    s'.getCalls key ≤ s.getCalls key + (decide (name = key)).toNat := by
  cases start with
  | unknown => exact Nat.le_add_right _ _
  | called =>
    by_cases same : key = name
    · simp [Metrics.bump, same]
    · simp [Metrics.bump, same]

theorem LeaderStart.calls (start : LeaderStart cfg name owner s s' stage) (key : CacheKey) :
    s'.getCalls key ≤ s.getCalls key + (decide (name = key)).toNat := by
  cases start with
  | fetch started | complete started => exact started.calls key

theorem FetchStep.getCalls (step : FetchStep cfg name method s at_ reply s' next) : s'.getCalls = s.getCalls := by
  cases step <;> rfl

theorem LeaderStep.getCalls (step : LeaderStep cfg name method owner s at_ reply s' next) :
    s'.getCalls = s.getCalls := by
  cases step with
  | fetch fetched | complete fetched => exact fetched.getCalls
  | store | release => rfl

theorem GetStep.pays (step : GetStep cfg name s at_ reply s' phase)
    (kept : name = key → s.lookup name reply ≠ some none) :
    s'.getCalls key + (Task.get name phase).owes key ≤
      s.getCalls key + (Task.get name (.running at_)).owes key := by
  cases step with
  | miss found =>
    have other : name ≠ key := fun same => kept same found
    simp [Task.owes, other, Shared.count]
  | lead _ started | abandoned _ started | abandonedEnds _ started =>
    have calls := started.calls key
    simpa [Task.owes, GetAwait.missed, Shared.answered, Shared.count] using calls
  | leader led | led led =>
    simp [Task.owes, GetAwait.missed, Shared.answered, Shared.count, led.getCalls]
  | fallback fetched | fallbackEnds fetched =>
    simp [Task.owes, GetAwait.missed, Shared.answered, Shared.count, fetched.getCalls]
  | hit | follow | wait | wake | joined | joinedError | recheckHit | recheckMiss =>
    simp [Task.owes, GetAwait.missed, Shared.answered, Shared.count]

theorem HeadStep.pays (step : HeadStep cfg name params s at_ reply s' phase spawned)
    (kept : name = key → s.lookup name reply ≠ some none) :
    s'.getCalls key + (Task.head name params phase).owes key +
        (if spawned then some (Task.prefetch name (.running .acquire)) else none).elim 0 (Task.owes key) ≤
      s.getCalls key + (Task.head name params (.running at_)).owes key := by
  cases step with
  | miss found =>
    have other : name ≠ key := fun same => kept same found
    simp [Task.owes, other, Shared.count]
  | answer =>
    cases wanted : parsePrefetch params with
    | false => simp [Task.owes, Shared.answered, Shared.count, Shared.upstreamSucceeded]
    | true => simp [Task.owes, HeadAwait.missed, PrefetchAwait.missed, wanted, Shared.answered, Shared.count,
        Shared.upstreamSucceeded]
  | hit | unknown | sized | headFailed =>
    simp [Task.owes, HeadAwait.missed, Shared.answered, Shared.count, Shared.upstreamFailed]

theorem PrefetchStep.pays (step : PrefetchStep cfg name s at_ reply s' phase) (key : CacheKey) :
    s'.getCalls key + (Task.prefetch name phase).owes key ≤
      s.getCalls key + (Task.prefetch name (.running at_)).owes key := by
  cases step with
  | lead _ started =>
    have calls := started.calls key
    simpa [Task.owes, PrefetchAwait.missed] using calls
  | follow => simp [Task.owes]
  | leader led | led led => simp [Task.owes, PrefetchAwait.missed, led.getCalls]

theorem PutStep.getCalls (step : PutStep cfg request s at_ reply s' phase) : s'.getCalls = s.getCalls := by
  cases step <;> rfl

/-- A GET that has not missed is answered from the cache. -/
theorem AtHand.step (atHand : AtHand (.running at_)) (step : GetStep cfg name s at_ reply s' phase)
    (kept : s.lookup name reply ≠ some none) : AtHand phase := by
  cases atHand
  cases step with
  | hit found => exact .hit _
  | miss found => exact absurd found kept

end Steps

section Run

variable {cfg : AppConfig} {key : CacheKey} {s t u : Proxy}

/-- What has come of a state in which the key was cached. -/
structure Warm (key : CacheKey) (s t : Proxy) : Prop where
  cached : t.shared.cache.entries key ≠ none
  budgeted : Budgeted (fun shared => shared.getCalls key) (Task.owes key) s t
  newcomers : ∀ i phase, s.next ≤ i → t.tasks i = some (.get key phase) → AtHand phase

theorem Keeps.lookup {task : Task} (keeps : Keeps key s (.poll index reply)) (present : s.tasks index = some task)
    (cached : s.shared.cache.entries key ≠ none) (own : task.key = key) :
    s.shared.lookup task.key reply ≠ some none := by
  rw [own]
  apply lookup_kept cached
  rintro rfl
  exact keeps _ present own

theorem Keeps.cached (keeps : Keeps key s action) (cached : s.shared.cache.entries key ≠ none)
    (taken : (proxy cfg).step s action = some t) : t.shared.cache.entries key ≠ none := by
  rcases cache_moves taken with same | ⟨_, _, name, _, _, _, _, _, put⟩ | ⟨name, rfl, evicted⟩
  · rw [same]
    exact cached
  · rw [put]
    by_cases own : key = name
    · simp [FoyerCache.put, own]
    · simpa [FoyerCache.put, own] using cached
  · rw [evicted]
    have other : key ≠ name := Ne.symm keeps
    simpa [FoyerCache.evict, other] using cached

theorem Keeps.budgeted (keeps : Keeps key s action) (links : linked.Holds s)
    (cached : s.shared.cache.entries key ≠ none) (taken : (proxy cfg).step s action = some t) :
    Budgeted (fun shared => shared.getCalls key) (Task.owes key) s t := by
  cases proxy_step taken with
  | start spawned =>
    cases spawned <;> exact .spawn rfl (by simp [Task.owes, GetAwait.missed, HeadAwait.missed])
  | get present polled =>
    exact .replace present (links.bounded _ _ present) (polled.pays (keeps.lookup present cached))
  | head present polled =>
    exact .replaceAll present (links.bounded _ _ present) (polled.pays (keeps.lookup present cached))
  | put present polled =>
    exact .replace present (links.bounded _ _ present) (by simp [polled.getCalls, Task.owes])
  | prefetch present polled => exact .replace present (links.bounded _ _ present) (polled.pays key)
  | late present landed =>
    exact .replace present (links.bounded _ _ present) (by simp [landed.step.getCalls, Task.owes])
  | dropGet present | dropHead present | dropPut present | dropPrefetch present =>
    exact .replace present (links.bounded _ _ present) (by simp [Task.owes])
  | evict | release => exact .reshare rfl

theorem Warm.step (warm : Warm key s t) (links : linked.Holds t) (keeps : Keeps key t action)
    (taken : (proxy cfg).step t action = some u) : Warm key s u where
  cached := keeps.cached warm.cached taken
  budgeted := warm.budgeted.trans (keeps.budgeted links warm.cached taken)
  newcomers := by
    intro i phase later present
    obtain ⟨_, _, step⟩ := became taken present
    cases step with
    | kept before => exact warm.newcomers i phase later before
    | start _ spawned =>
      cases spawned with
      | getInvalid => exact .refused
      | get => exact .lookup
    | get before polled =>
      exact (warm.newcomers i _ later before).step polled (keeps.lookup before warm.cached rfl)
    | dropGet before =>
      cases warm.newcomers i _ later before
      exact .dropped

theorem warm_reaches {upstream : ObjectId → Option Bytes} {cache : FoyerCache}
    (prior : (proxy cfg).system.Reaches System.Always (Proxy.initial upstream cache) s)
    (cached : s.shared.cache.entries key ≠ none) (reach : (proxy cfg).system.Reaches (Keeps key) s t) :
    Warm key s t := by
  have links {t : Proxy} (reach : (proxy cfg).system.Reaches (Keeps key) s t) : linked.Holds t :=
    linked_reaches (prior.trans reach.always)
  refine reach.invariantWith (motive := Warm key s) (fun _ => links) ⟨cached, .refl s, ?_⟩ ?_
  · intro i phase later present
    exact absurd ((links .refl).bounded i _ present) (Nat.not_lt.mpr later)
  · intro source action next linked _ warm keeps taken
    exact warm.step linked keeps taken

end Run

/-- Once a key is cached, and as long as foyer keeps the entry: only the tasks that have
looked it up before still call `store.get` for it, at most once each, and a GET that
comes later is answered from the cache. -/
theorem cached_spares (cfg : AppConfig) (upstream : ObjectId → Option Bytes) (cache : FoyerCache) (key : CacheKey)
    (s t : Proxy) (prior : (proxy cfg).system.Reaches System.Always (Proxy.initial upstream cache) s)
    (cached : s.shared.cache.entries key ≠ none) (reach : (proxy cfg).system.Reaches (Keeps key) s t) :
    t.shared.cache.entries key ≠ none ∧
      t.shared.getCalls key + t.total (Task.owes key) ≤ s.shared.getCalls key + s.total (Task.owes key) ∧
      ∀ i phase, s.next ≤ i → t.tasks i = some (.get key phase) → AtHand phase := by
  have warm := warm_reaches prior cached reach
  exact ⟨warm.cached, warm.budgeted, warm.newcomers⟩

private def warmObject (_ : ObjectId) : Option Bytes := some [1]

/-- A GET that has missed before fetches the object again, and a later one does not. -/
theorem cached_spares_late :
    ∃ s t : Proxy, s.shared.getCalls ⟨"b", "p"⟩ = 1 ∧ t.shared.getCalls ⟨"b", "p"⟩ = 2 ∧
      t.shared.getCalls ⟨"b", "p"⟩ + t.total (Task.owes ⟨"b", "p"⟩) ≤
        s.shared.getCalls ⟨"b", "p"⟩ + s.total (Task.owes ⟨"b", "p"⟩) ∧
      ∃ phase, t.tasks 2 = some (.get ⟨"b", "p"⟩ phase) ∧ AtHand phase := by
  obtain ⟨s, t, before, after, cached, once, twice, answered⟩ : ∃ s t : Proxy,
      (proxy (.single "b" 4 .unknown)).system.run (Proxy.initial warmObject .empty)
        [.start (.get ⟨"b", "p"⟩), .start (.get ⟨"b", "p"⟩), .poll 0 .ready, .poll 1 .ready, .poll 0 .ready,
          .poll 0 .ready, .poll 0 .ready, .poll 0 .ready, .poll 0 .ready, .poll 0 .ready] = some s ∧
      ((proxy (.single "b" 4 .unknown)).system.restrict (Keeps ⟨"b", "p"⟩)).run s
        [.poll 1 .ready, .start (.get ⟨"b", "p"⟩), .poll 1 .ready, .poll 2 .ready] = some t ∧
      (s.shared.cache.entries ⟨"b", "p"⟩).isSome ∧ s.shared.getCalls ⟨"b", "p"⟩ = 1 ∧
      t.shared.getCalls ⟨"b", "p"⟩ = 2 ∧ ∃ phase, s.next ≤ 2 ∧ t.tasks 2 = some (.get ⟨"b", "p"⟩ phase) :=
    ⟨_, _, rfl, rfl, rfl, rfl, rfl, _, Nat.le_refl 2, rfl⟩
  obtain ⟨phase, later, present⟩ := answered
  have spares := cached_spares (.single "b" 4 .unknown) warmObject .empty ⟨"b", "p"⟩ s t
    (System.reaches_of_run before) (Option.ne_none_iff_isSome.mpr cached)
    (System.reaches_of_restrict (System.reaches_of_run after))
  exact ⟨s, t, once, twice, spares.2.1, phase, present, spares.2.2 2 phase later present⟩

end Cachegate
