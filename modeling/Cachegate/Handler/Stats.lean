import Cachegate.Handler.Agreement
import Mathlib.Algebra.BigOperators.Group.Finset.Basic

/-! What `/stats` reports of the cache against what is resident. The reported
number of entries is the insert counter, so it follows the resident keys only as
long as no key is inserted again; the reported size is always zero. -/

namespace Cachegate

open Transition TaskPool

structure CacheStats where
  inserts : UInt64
deriving DecidableEq, Repr

/-- `self.inserts` is an `AtomicU64`, whose `fetch_add` wraps. -/
def FoyerCache.stats (cache : FoyerCache) : CacheStats := ⟨.ofNat cache.inserts⟩

structure CacheStatsResponse where
  entries : UInt64
  bytes : UInt64
deriving DecidableEq, Repr

/-- The sums over the counters' labels that the registry has gathered. -/
structure MetricsSnapshot where
  requestsTotal : UInt64
  authFailTotal : UInt64
  cacheHitTotal : UInt64
  cacheMissTotal : UInt64
  upstreamOkTotal : UInt64
  upstreamErrTotal : UInt64
deriving DecidableEq, Repr

structure StatsResponse extends MetricsSnapshot where
  cache : CacheStatsResponse
deriving DecidableEq, Repr

/-- `stats`, from the snapshot of the metrics and the cache as it is. -/
def stats (snapshot : MetricsSnapshot) (cache : FoyerCache) : StatsResponse where
  toMetricsSnapshot := snapshot
  cache := { entries := cache.stats.inserts, bytes := 0 }

/-- These are the keys that the cache holds an entry of. -/
def FoyerCache.Residents (cache : FoyerCache) (keys : Finset CacheKey) : Prop :=
  ∀ key, key ∈ keys ↔ ∃ entry, cache.entries key = some entry

def FoyerCache.lengthOf (cache : FoyerCache) (key : CacheKey) : Nat :=
  (cache.entries key).elim 0 fun entry => entry.bytes.length

/-- `/stats` reports the number of the resident keys and the sum of their lengths. -/
def ReportsSize (s : Shared) : Prop :=
  ∀ snapshot, ∃ keys, s.cache.Residents keys ∧
    (stats snapshot s.cache).cache.entries.toNat = keys.card ∧
    (stats snapshot s.cache).cache.bytes.toNat = ∑ key ∈ keys, s.cache.lengthOf key

/-- The cache evicts nothing in this step. -/
def NoEviction (_ : Proxy) (action : ProxyAction) : Prop := ∀ key, action ≠ .env (.evict key)

/-- What the step inserts is empty, and under a key that is not resident yet;
and the counter does not wrap. -/
def Tallies (s : Proxy) : ProxyAction → Prop
  | .poll index .ready =>
      ∀ task ∈ s.tasks index, ∀ inserted ∈ task.inserts?,
        inserted.2 = [] ∧ s.shared.cache.entries inserted.1 = none ∧ s.shared.cache.inserts + 1 < 2 ^ 64
  | _ => True

/-- The counter is the number of the resident keys, and all entries are empty. -/
structure Tallied (cache : FoyerCache) (keys : Finset CacheKey) : Prop where
  residents : cache.Residents keys
  counted : keys.card = cache.inserts
  bounded : cache.inserts < 2 ^ 64
  empty : ∀ key entry, cache.entries key = some entry → entry.bytes = []

section Cache

variable {cache : FoyerCache} {keys keys' : Finset CacheKey} {key : CacheKey} {bytes : Bytes} {s t : Proxy}

theorem tallied_empty : Tallied .empty ∅ where
  residents := by
    intro key
    simp [FoyerCache.empty]
  counted := rfl
  bounded := Nat.two_pow_pos 64
  empty := nofun

/-- After an insertion its key is resident as well. -/
theorem FoyerCache.Residents.put (residents : cache.Residents keys) (key : CacheKey) (bytes : Bytes)
    (contentType : Option String) : (cache.put key bytes contentType).Residents (insert key keys) := by
  intro other
  rw [Finset.mem_insert, residents other]
  by_cases same : other = key
  · simp [FoyerCache.put, same]
  · simp [FoyerCache.put, same]

theorem FoyerCache.Residents.unique (residents : cache.Residents keys) (residents' : cache.Residents keys') :
    keys = keys' := by
  ext key
  rw [residents key, residents' key]

theorem Tallied.put (tallied : Tallied cache keys) (vacant : cache.entries key = none)
    (roomy : cache.inserts + 1 < 2 ^ 64) (contentType : Option String) :
    Tallied (cache.put key [] contentType) (insert key keys) where
  residents := tallied.residents.put key [] contentType
  counted := by
    have fresh : key ∉ keys := by
      rw [tallied.residents key, vacant]
      exact nofun
    rw [Finset.card_insert_of_notMem fresh, tallied.counted]
    rfl
  bounded := roomy
  empty := by
    intro other entry found
    by_cases same : other = key
    · subst same
      have inserted : (⟨[], contentType⟩ : CacheEntry) = entry := by simpa [FoyerCache.put] using found
      rw [← inserted]
    · exact tallied.empty other entry (by simpa [FoyerCache.put, same] using found)

theorem Tallied.reports {s : Shared} (tallied : Tallied s.cache keys) : ReportsSize s := by
  intro snapshot
  refine ⟨keys, tallied.residents, ?_, ?_⟩
  · show (UInt64.ofNat s.cache.inserts).toNat = keys.card
    rw [UInt64.toNat_ofNat_of_lt' tallied.bounded, tallied.counted]
  · symm
    apply Finset.sum_eq_zero
    intro key member
    obtain ⟨entry, found⟩ := (tallied.residents key).mp member
    simp [FoyerCache.lengthOf, found, tallied.empty key entry found]

/-- An insertion after which the report is right is one of no bytes, of a key
that was not resident. -/
theorem Tallied.of_reports {s : Shared} (tallied : Tallied cache keys)
    (put : s.cache = cache.put key bytes contentType) (reports : ReportsSize s) :
    bytes = [] ∧ cache.entries key = none ∧ cache.inserts + 1 < 2 ^ 64 := by
  obtain ⟨keys', residents, entries, size⟩ := reports ⟨0, 0, 0, 0, 0, 0⟩
  have placed := tallied.residents.put key bytes contentType
  rw [put] at residents size
  have same := residents.unique placed
  subst same
  have empty : bytes = [] := by
    have length : (cache.put key bytes contentType).lengthOf key = 0 :=
      Finset.sum_eq_zero_iff.mp size.symm key (Finset.mem_insert_self key keys)
    simpa [FoyerCache.lengthOf, FoyerCache.put] using length
  have counted : (cache.inserts + 1) % 2 ^ 64 = (insert key keys).card := by
    rw [← entries]
    simp [stats, FoyerCache.stats, put, FoyerCache.put]
  have bounded := tallied.bounded
  have before := tallied.counted
  by_cases resident : key ∈ keys
  · rw [Finset.insert_eq_of_mem resident] at counted
    omega
  · rw [Finset.card_insert_of_notMem resident] at counted
    refine ⟨empty, ?_, by omega⟩
    rw [tallied.residents key] at resident
    exact Option.eq_none_iff_forall_ne_some.mpr fun entry found => resident ⟨entry, found⟩

end Cache

section Runs

variable {cfg : AppConfig} {s t : Proxy} {keys : Finset CacheKey}

theorem Tallied.step (tallied : Tallied s.shared.cache keys) (stays : NoEviction s action) (tallies : Tallies s action)
    (taken : (proxy cfg).step s action = some t) : ∃ keys, Tallied t.shared.cache keys := by
  rcases cache_moves taken with same | ⟨index, task, key, bytes, contentType, rfl, present, inserts, put⟩ |
    ⟨key, rfl, _⟩
  · rw [same]
    exact ⟨keys, tallied⟩
  · obtain ⟨empty, vacant, roomy⟩ := tallies task present (key, bytes) inserts
    cases empty
    rw [put]
    exact ⟨_, tallied.put vacant roomy contentType⟩
  · exact absurd rfl (stays key)

theorem tallied_reaches (reach : (proxy cfg).system.Reaches (fun s action => NoEviction s action ∧ Tallies s action)
    (Proxy.initial upstream .empty) s) : ∃ keys, Tallied s.shared.cache keys := by
  apply reach.invariant (motive := fun s => ∃ keys, Tallied s.shared.cache keys) ⟨∅, tallied_empty⟩
  rintro source action next ⟨keys, tallied⟩ ⟨stays, tallies⟩ taken
  exact tallied.step stays tallies taken

/-- Where a step goes by what `/stats` can follow, the report is right, and not
where it does not. -/
theorem Tallied.reports_iff (tallied : Tallied s.shared.cache keys) (stays : NoEviction s action)
    (taken : (proxy cfg).step s action = some t) : ReportsSize t.shared ↔ Tallies s action := by
  constructor
  · intro reports
    unfold Tallies
    split
    · intro task present inserted inserts
      obtain ⟨task', shared, moved, child, found, polled, rfl⟩ := Program.step_poll taken
      cases found.symm.trans present
      obtain ⟨contentType, put⟩ := poll_inserts inserts polled
      rw [State.pushAll_shared] at reports
      exact tallied.of_reports put reports
    · trivial
  · intro tallies
    obtain ⟨_, tallied'⟩ := tallied.step stays tallies taken
    exact tallied'.reports

end Runs

/-- As long as every body that is cached is empty and no key is cached again,
`/stats` reports the resident keys and their lengths; the first step that does
otherwise makes the report wrong. -/
theorem reportsSize_of_tallies (cfg : AppConfig) (upstream : ObjectId → Option Bytes) :
    (∀ s, (proxy cfg).system.Reaches (fun s action => NoEviction s action ∧ Tallies s action)
        (Proxy.initial upstream .empty) s → ReportsSize s.shared) ∧
      ∀ s t action, (proxy cfg).system.Reaches (fun s action => NoEviction s action ∧ Tallies s action)
          (Proxy.initial upstream .empty) s → NoEviction s action → (proxy cfg).step s action = some t →
        (ReportsSize t.shared ↔ Tallies s action) := by
  constructor
  · intro s reach
    obtain ⟨keys, tallied⟩ := tallied_reaches reach
    exact tallied.reports
  · intro s t action reach stays taken
    obtain ⟨keys, tallied⟩ := tallied_reaches reach
    exact tallied.reports_iff stays taken

/-- A PUT of one byte: the byte is resident, and the report is of none. -/
theorem size_misreported :
    ¬ ∀ s, (proxy (.single "b" 4 .unknown)).system.Reaches NoEviction (Proxy.initial (fun _ => none) .empty) s →
      Quiescent s → ReportsSize s.shared := by
  intro reported
  let labels : List ProxyAction :=
    .start (.put ⟨⟨"b", "p"⟩, ⟨none, none⟩, [[7]]⟩) :: List.replicate 7 (.poll 0 .ready)
  have replayed : (proxy (.single "b" 4 .unknown)).system.run (Proxy.initial (fun _ => none) .empty) labels =
      some _ := rfl
  have meets : ∀ label ∈ labels, ∀ state, NoEviction state label := by
    rintro label listed state key rfl
    simp [labels] at listed
  have reach := System.reaches_of_run_meets replayed meets
  obtain ⟨keys, residents, _, size⟩ := reported _ reach (by decide) ⟨0, 0, 0, 0, 0, 0⟩
  have resident : ⟨"b", "p"⟩ ∈ keys := (residents ⟨"b", "p"⟩).mpr ⟨_, rfl⟩
  have length := Finset.sum_eq_zero_iff.mp size.symm ⟨"b", "p"⟩ resident
  exact absurd length (by decide)

end Cachegate
