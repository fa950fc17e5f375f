import Cachegate.Handler.Runs

/-! How many calls of `fetch_and_cache_entry` for one key are under way at
once. A leader fetches under its guard, a follower woken with `None` without. -/

namespace Cachegate

open Transition TaskPool Inflight

def LeaderAwait.fetching? (key : CacheKey) : LeaderAwait → Option CacheKey
  | .fetch _ => some key
  | _ => none

/-- The key whose `fetch_and_cache_entry` a task is in. -/
def Task.fetching? : Task → Option CacheKey
  | .get key (.running (.leader _ stage)) => stage.fetching? key
  | .get key (.running (.fallback _)) => some key
  | .prefetch key (.running (.leader _ stage)) => stage.fetching? key
  | _ => none

/-- No two tasks fetch the same key. -/
def ExclusiveFetch (s : Proxy) : Prop :=
  ∀ i j task other key, s.tasks i = some task → s.tasks j = some other →
    task.fetching? = some key → other.fetching? = some key → i = j

/-- Only GET and HEAD requests arrive. -/
def ReadsOnly (_ : Proxy) : ProxyAction → Prop
  | .start (.put _) => False
  | _ => True

instance (s : Proxy) : (action : ProxyAction) → Decidable (ReadsOnly s action)
  | .start (.put _) => isFalse id
  | .start (.get _) | .start (.head _ _) | .poll _ _ | .cancel _ | .env _ => isTrue trivial

/-- The call of `wait` that a task would return from at its next step. -/
def Task.reading? : Task → Option WaitId
  | .get _ (.running (.result wait)) => some wait
  | _ => none

/-- The entry that a woken call of `wait` will read has its result. -/
def Inflight.Stored (f : Flights) (wait : WaitId) : Prop :=
  ∀ phase ∈ f.waits wait, ∀ entry ∈ phase.locking?, (f.entries entry).result.isSome = true

/-- A follower returns from `wait` only on an entry whose leader has stored its
result: the leader was not dropped before. -/
def Completed (s : Proxy) : ProxyAction → Prop
  | .poll index .ready => ∀ task ∈ s.tasks index, ∀ wait ∈ task.reading?, s.shared.flights.Stored wait
  | _ => True

instance (s : Proxy) : (action : ProxyAction) → Decidable (Completed s action)
  | .poll index .ready =>
      inferInstanceAs (Decidable (∀ task ∈ s.tasks index, ∀ wait ∈ task.reading?,
        ∀ phase ∈ s.shared.flights.waits wait, ∀ entry ∈ phase.locking?,
          (s.shared.flights.entries entry).result.isSome = true))
  | .poll _ (.failed _) | .poll _ .cacheError | .poll _ .streamError | .start _ | .cancel _ | .env _ =>
      isTrue trivial

/-- A task that fetches does so as a leader. -/
def Task.Guarded : Task → Prop
  | .get _ (.running (.fallback _)) => False
  | _ => True

section Exclusion

variable {cfg : AppConfig} {s t : Proxy}

theorem GetStep.guarded (step : GetStep cfg key shared at_ reply shared' phase)
    (completed : ∀ wait flights, at_ = .result wait → shared.flights.readResult wait ≠ some (none, flights))
    (guarded : (Task.get key (.running at_)).Guarded) : (Task.get key phase).Guarded := by
  cases step with
  | abandoned read => exact absurd read (completed _ _ rfl)
  | fallback => exact guarded.elim
  | hit | miss | lead | follow | leader | led | wait | wake | joined | joinedError | abandonedEnds
  | recheckHit | recheckMiss | fallbackEnds => trivial

/-- A follower that meets a stored result does not read `None`. -/
theorem readResult_ne_none {f f' : Flights} (stored : f.Stored wait) : f.readResult wait ≠ some (none, f') := by
  intro read
  unfold readResult at read
  split at read
  · rename_i entry locking
    have absent : (f.entries entry).result = none := (Prod.mk.inj (Option.some.inj read)).1
    have present := stored _ locking entry rfl
    simp [absent] at present
  · cases read

theorem guarded_reaches (reach : (proxy cfg).system.Reaches Completed (Proxy.initial upstream cache) s) :
    s.All Task.Guarded := by
  refine reach.invariant (motive := fun s => s.All Task.Guarded) (State.all_start _) ?_
  intro source action next guarded completed taken
  cases proxy_step taken with
  | start spawned =>
    refine State.All.push guarded ?_
    cases spawned <;> trivial
  | @get index key at_ reply shared phase present polled =>
    refine guarded.replace (polled.guarded ?_ (guarded _ _ present))
    rintro wait flights rfl read
    cases reply with
    | ready => exact readResult_ne_none (completed _ present wait rfl) read
    | failed | cacheError | streamError => cases polled
  | head present polled => exact all_head (guarded.replace trivial) trivial
  | put | prefetch | late | dropHead | dropPut | dropPrefetch | dropGet => exact guarded.replace trivial
  | evict | release => exact guarded

/-- A guarded fetch holds the slot of its key. -/
theorem Task.Linked.unreleased {f : Flights} {task : Task} {key : CacheKey} (linked : task.Linked f)
    (guarded : task.Guarded)
    (fetching : task.fetching? = some key) : ∃ e, task.guard? = some e ∧ f.Unreleased key e := by
  unfold Task.fetching? at fetching
  split at fetching
  · rename_i stage
    cases stage <;> cases fetching
    exact ⟨_, rfl, _, Leads.present linked, rfl, rfl⟩
  · exact guarded.elim
  · rename_i stage
    cases stage <;> cases fetching
    exact ⟨_, rfl, _, Leads.present linked, rfl, rfl⟩
  · cases fetching

theorem exclusiveFetch_of_guarded (holds : linked.Holds s) (guarded : s.All Task.Guarded) : ExclusiveFetch s := by
  intro i j task other key present present' fetching fetching'
  obtain ⟨e, held, owns⟩ := (holds.each i task present).unreleased (guarded i task present) fetching
  obtain ⟨e', held', owns'⟩ := (holds.each j other present').unreleased (guarded j other present') fetching'
  have same : e = e' := holds.global.unreleased_unique owns owns'
  by_contra different
  exact (holds.apart i j task other different present present').1 e held (same ▸ held')

end Exclusion

private def oneByte (_ : ObjectId) : Option Bytes := some [1]

end Cachegate
