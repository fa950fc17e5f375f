import Cachegate.Handler.Solo
import Cachegate.Inflight.Wakeup
import Cachegate.Library.History
import Cachegate.Library.TaskMeasure

/-! How the proxy comes to rest once no new request arrives, however its tasks
interleave, fail or are cancelled: it takes so many steps and no more, and is not
stuck before only followers without a notification to come are left. -/

namespace Cachegate

open Transition TaskPool Inflight

/-- The guard was dropped, and its release is left to a task of its own. -/
def GuardPhase.abandoned {R : Type} : GuardPhase R → Bool
  | .dropped => true
  | .held | .completing _ | .releasing | .finished => false

/-- The releases left to tasks of their own. -/
def Inflight.abandoned {K R : Type} (f : Inflight K R) : Finset EntryId :=
  (Finset.range f.nextEntry).filter fun e => (f.guards e).any fun guard => guard.phase.abandoned

/-- How many steps a task has ahead at most, as leader, as follower, and with
the prefetch that a HEAD may leave behind. -/
def Task.left : Task → Nat
  | .get _ (.running .lookup) => 8
  | .get _ (.running .acquire) | .prefetch _ (.running .acquire) => 7
  | .get _ (.running (.leader _ stage)) | .prefetch _ (.running (.leader _ stage)) => stage.ahead + 1
  | .get _ (.running (.follow _)) => 6
  | .get _ (.running (.notified _)) => 5
  | .get _ (.running (.result _)) => 4
  | .get _ (.running (.recheck _)) => 1
  | .get _ (.running (.fallback stage)) => stage.ahead
  | .head _ _ (.running .lookup) => 10
  | .head _ _ (.running (.head _)) => 9
  | .head _ _ (.running (.answered _)) => 8
  | .put request (.running at_) => at_.ahead request
  | .put _ (.dropped (.init _)) | .put _ (.dropped (.abort _)) | .put _ (.dropped (.finish _ _ _)) => 1
  | _ => 0

/-- How many steps the proxy has ahead at most. -/
def remaining (s : Proxy) : Nat := s.total Task.left + s.shared.flights.abandoned.card

/-- No new request arrives. -/
def Winding (_ : Proxy) (action : ProxyAction) : Prop := ∀ request, action ≠ .start request

/-- Every step but an eviction is one of a request, of a prefetch, or of a release. -/
def works : ProxyAction → Bool
  | .env (.evict _) => false
  | .start _ | .poll _ _ | .cancel _ | .env (.release _) => true

/-- A follower that waits for a notification which was made before. -/
def Task.Stranded (f : Flights) (task : Task) : Prop :=
  ∃ key wait entry future, task = .get key (.running (.notified wait)) ∧
    f.waits wait = some (.notified entry future) ∧ future.ready (f.entries entry).notify = false

/-- Every task has ended or is stranded, every guard was released, and no key is mapped. -/
structure AtRest (s : Proxy) : Prop where
  tasks : ∀ i task, s.tasks i = some task → task.ended = true ∨ task.Stranded s.shared.flights
  released : ∀ e guard, s.shared.flights.guards e = some guard → guard.phase = .finished
  unmapped : ∀ key, s.shared.flights.inner key = none

section Abandoned

variable {K R : Type} [DecidableEq K] {f f' : Inflight K R} {e : EntryId} {guard : InflightGuard K R}

omit [DecidableEq K] in
theorem mem_abandoned (owned : f.Owned) : e ∈ f.abandoned ↔ ∃ key, f.guards e = some ⟨key, .dropped⟩ := by
  simp only [Inflight.abandoned, Finset.mem_filter, Finset.mem_range, Option.any_eq_true]
  constructor
  · rintro ⟨_, ⟨key, phase⟩, present, dropped⟩
    cases phase with
    | dropped => exact ⟨key, present⟩
    | held | completing | releasing | finished => cases dropped
  · rintro ⟨key, present⟩
    exact ⟨owned.lt_next present, _, present, rfl⟩

/-- Runs that drop no guard leave no further release behind. -/
theorem abandoned_run (owned : f.Owned) (run : (Inflight.system K R).Reaches Undropped f f') :
    f'.abandoned ⊆ f.abandoned := by
  refine run.invariantWith (motive := fun g => g.abandoned ⊆ f.abandoned) (fun g prior => owned.run prior)
    (Finset.Subset.refl _) ?_
  intro source action next owned owned' kept undropped taken e member
  obtain ⟨key, present⟩ := (mem_abandoned owned').mp member
  cases guard_step owned taken present with
  | kept before => exact kept ((mem_abandoned owned).mpr ⟨key, before⟩)
  | dropped => exact absurd rfl (undropped e)

omit [DecidableEq K] in
theorem dropGuard_abandoned (owned : f.Owned) (owned' : (f.dropGuard e).Owned) (present : f.guards e = some guard) :
    (f.dropGuard e).abandoned.card ≤ f.abandoned.card + 1 := by
  have within : (f.dropGuard e).abandoned ⊆ insert e f.abandoned := by
    intro other member
    obtain ⟨key, found⟩ := (mem_abandoned owned').mp member
    rcases guards_setPhase present .dropped found with ⟨rfl, _⟩ | ⟨_, before⟩
    · exact Finset.mem_insert_self ..
    · exact Finset.mem_insert_of_mem ((mem_abandoned owned).mpr ⟨key, before⟩)
  exact (Finset.card_le_card within).trans (Finset.card_insert_le e _)

end Abandoned

section Left

variable {cfg : AppConfig} {key : CacheKey} {shared shared' : Shared} {s t : Proxy} {f : Flights}

theorem GetStep.left (step : GetStep cfg key shared at_ reply shared' phase) :
    (Task.get key phase).left < (Task.get key (.running at_)).left := by
  cases step with
  | hit | miss | follow | wait | wake | joined | joinedError | abandonedEnds | recheckHit | recheckMiss =>
    simp [Task.left]
  | lead _ started => exact Nat.succ_lt_succ started.ahead
  | leader led => exact Nat.succ_lt_succ led.ahead
  | led => exact Nat.succ_pos _
  | abandoned _ started =>
    cases started
    simp [Task.left, FetchAwait.ahead]
  | fallback step => exact step.ahead
  | fallbackEnds step => exact step.ahead

theorem PrefetchStep.left (step : PrefetchStep cfg key shared at_ reply shared' phase) :
    (Task.prefetch key phase).left < (Task.prefetch key (.running at_)).left := by
  cases step with
  | lead _ started => exact Nat.succ_lt_succ started.ahead
  | follow => simp [Task.left]
  | leader led => exact Nat.succ_lt_succ led.ahead
  | led => exact Nat.succ_pos _

/-- A HEAD that leaves a prefetch behind makes up for its steps. -/
theorem HeadStep.left (step : HeadStep cfg key params shared at_ reply shared' phase spawned) :
    (Task.head key params phase).left + (if spawned then 7 else 0) < (Task.head key params (.running at_)).left := by
  cases step with
  | answer =>
    simp only [Task.left]
    split <;> decide
  | hit | unknown | miss | sized | headFailed => simp [Task.left]

theorem PutStep.left (step : PutStep cfg request shared at_ reply shared' phase) :
    (Task.put request phase).left < (Task.put request (.running at_)).left := by
  cases step <;> simp [Task.left, PutAwait.ahead]

theorem total_move (links : linked.Holds s) (present : s.tasks index = some task) (task' : Task) (shared : Shared) :
    (s.replace index shared task').total Task.left + task.left = s.total Task.left + task'.left :=
  State.total_replace present (links.bounded index task present) shared

/-- Only a dropped leader leaves a release behind. -/
theorem dropGet_left (owned : f.Owned) (owned' : (f.dropGet at_).Owned) (linked : at_.Linked f key) :
    (f.dropGet at_).abandoned.card < f.abandoned.card + (Task.get key (.running at_)).left := by
  have same (kept : (f.dropGet at_).guards = f.guards) (next : (f.dropGet at_).nextEntry = f.nextEntry)
      (running : 0 < (Task.get key (.running at_)).left) :
      (f.dropGet at_).abandoned.card < f.abandoned.card + (Task.get key (.running at_)).left := by
    rw [Inflight.abandoned, kept, next]
    exact Nat.lt_add_of_pos_right running
  cases at_ with
  | leader guard stage =>
    have within := dropGuard_abandoned owned owned' linked.present
    have positive : 0 < stage.ahead := stage.ahead_pos
    simp only [Task.left]
    exact Nat.lt_of_le_of_lt within (by omega)
  | notified wait =>
    obtain ⟨entry, future, present, _⟩ := linked
    apply same <;> simp [Inflight.dropGet, cancelWait, present, setWait, Task.left]
  | result wait =>
    obtain ⟨entry, present, _⟩ := linked
    apply same <;> simp [Inflight.dropGet, cancelWait, present, setWait, Task.left]
  | lookup | acquire | follow | recheck => exact same rfl rfl (by simp [Task.left])
  | fallback stage => exact same rfl rfl stage.ahead_pos

theorem dropPrefetch_left (owned : f.Owned) (owned' : (f.dropPrefetch at_).Owned) (linked : at_.Linked f key) :
    (f.dropPrefetch at_).abandoned.card < f.abandoned.card + (Task.prefetch key (.running at_)).left := by
  cases at_ with
  | leader guard stage =>
    have within := dropGuard_abandoned owned owned' linked.present
    have positive : 0 < stage.ahead := stage.ahead_pos
    simp only [Task.left]
    exact Nat.lt_of_le_of_lt within (by omega)
  | acquire =>
    have idle : f.dropPrefetch .acquire = f := rfl
    rw [idle]
    exact Nat.lt_add_of_pos_right (by simp [Task.left])

/-- Without new requests every step but an eviction leaves less to do. -/
theorem remaining_step (links : linked.Holds s) (winding : Winding s action)
    (taken : (proxy cfg).step s action = some t) :
    remaining t ≤ remaining s ∧ (works action = true → remaining t < remaining s) := by
  have links' := linked_step links taken
  have strict (less : remaining t < remaining s) :
      remaining t ≤ remaining s ∧ (works action = true → remaining t < remaining s) :=
    ⟨Nat.le_of_lt less, fun _ => less⟩
  have moved {index : Nat} {task task' : Task} {shared : Shared} (present : s.tasks index = some task)
      (less : task'.left < task.left) (fewer : shared.flights.abandoned ⊆ s.shared.flights.abandoned) :
      remaining (s.replace index shared task') < remaining s := by
    have total := total_move links present task' shared
    exact Nat.add_lt_add_of_lt_of_le (by omega) (Finset.card_le_card fewer)
  have dropped {index : Nat} {task task' : Task} {shared : Shared} (present : s.tasks index = some task)
      (nothing : task'.left = 0)
      (few : shared.flights.abandoned.card < s.shared.flights.abandoned.card + task.left) :
      remaining (s.replace index shared task') < remaining s := by
    have total := total_move links present task' shared
    simp only [remaining, State.replace_shared]
    omega
  cases proxy_step taken with
  | start => exact absurd rfl (winding _)
  | get present polled =>
    have moves := polled.moves links.global (links.each _ _ present)
    exact strict (moved present polled.left (abandoned_run links.global moves.run))
  | prefetch present polled =>
    have moves := polled.moves links.global (links.each _ _ present)
    exact strict (moved present polled.left (abandoned_run links.global moves.run))
  | put present polled =>
    exact strict (moved present polled.left (by rw [polled.flights]))
  | @head index key params at_ reply shared phase spawned present polled =>
    have total := total_move links present (.head key params phase) shared
    have less := polled.left
    apply strict
    simp only [remaining, State.pushAll_shared, State.replace_shared, polled.flights]
    split
    · rename_i child
      simp only [child, if_true] at less
      rw [State.pushAll, State.total_push]
      simp only [Task.left] at less total ⊢
      omega
    · simp only [State.pushAll]
      omega
  | late present landed =>
    refine strict (moved present ?_ (by rw [landed.step.flights]))
    cases landed <;> exact Nat.zero_lt_one
  | dropGet present =>
    exact strict (dropped present rfl (dropGet_left links.global links'.global (links.each _ _ present)))
  | dropPrefetch present =>
    exact strict (dropped present rfl (dropPrefetch_left links.global links'.global (links.each _ _ present)))
  | @dropHead index key params at_ present =>
    refine strict (moved present ?_ (Finset.Subset.refl _))
    cases at_ <;> simp [Task.left]
  | @dropPut index request at_ present =>
    refine strict (moved present ?_ (Finset.Subset.refl _))
    cases at_ <;> simp [Task.left, PutAwait.ahead]
  | evict => exact ⟨Nat.le_refl _, fun working => absurd working Bool.false_ne_true⟩
  | @release key guard present =>
    have run := undropped_step s.shared.flights (.spawned guard) (by simp [Undropped])
      (show s.shared.flights.step (.spawned guard) = some (s.shared.flights.finishRelease guard) by
        simp only [Inflight.step]; rw [present])
    have gone : ¬ s.shared.flights.abandoned ⊆ (s.shared.flights.finishRelease guard).abandoned := by
      intro all
      obtain ⟨_, still⟩ := (mem_abandoned links'.global).mp (all ((mem_abandoned links.global).mpr ⟨key, present⟩))
      simp [links.global.finishRelease_eq present rfl] at still
    exact strict (Nat.add_lt_add_left (Finset.card_lt_card ⟨abandoned_run links.global run, gone⟩) _)

end Left

section Progress

variable {cfg : AppConfig} {s t : Proxy}

theorem getPoll_resumes (cfg : AppConfig) (shared : Shared) (linked : at_.Linked shared.flights key) :
    (getPoll cfg shared key at_ .ready).isSome ∨ (Task.get key (.running at_)).Stranded shared.flights := by
  cases at_ with
  | lookup | acquire | leader => exact .inl (getPoll_ready cfg shared key trivial)
  | follow => exact .inl rfl
  | notified wait =>
    obtain ⟨entry, future, present, _⟩ := linked
    cases ready : future.ready (shared.flights.entries entry).notify with
    | false => exact .inr ⟨key, wait, entry, future, rfl, present, ready⟩
    | true => exact .inl (by simp [getPoll, Inflight.wake, present, ready])
  | result wait =>
    obtain ⟨entry, present, _⟩ := linked
    exact .inl (by simp [getPoll, Inflight.readResult, present])
  | recheck => exact .inl (by simp [getPoll, Shared.lookup])
  | fallback => exact .inl (by simp [getPoll, fetchPoll_ready])

/-- A running task has a step for some reply, unless it waits for a notification. -/
theorem Task.Linked.resumes {task : Task} (cfg : AppConfig) {shared : Shared} (linked : task.Linked shared.flights)
    (running : task.ended = false) :
    (∃ reply, (task.poll cfg shared reply).isSome) ∨ task.Stranded shared.flights := by
  cases task with
  | get key phase =>
    cases phase with
    | running at_ =>
      refine (getPoll_resumes cfg shared linked).imp_left fun polled => ⟨.ready, ?_⟩
      simpa [Task.poll] using polled
    | returned | dropped => cases running
  | head key params phase =>
    cases phase with
    | running at_ =>
      rcases headPoll_enabled cfg shared key params at_ with polled | ⟨object, rfl, _⟩
      · exact .inl ⟨.ready, by simpa [Task.poll] using polled⟩
      · exact .inl ⟨.failed .notFound, rfl⟩
    | returned | dropped => cases running
  | put request phase =>
    cases phase with
    | running at_ => exact .inl ⟨.ready, by simpa [Task.poll] using putPoll_ready cfg shared request at_⟩
    | returned | dropped => cases running
  | prefetch key phase =>
    cases phase with
    | running at_ => exact .inl ⟨.ready, by simpa [Task.poll] using prefetchPoll_ready cfg shared key at_⟩
    | returned | dropped => cases running

/-- A task that holds a guard is running, and waits for no notification. -/
theorem Task.guarding {task : Task} (holds : task.guard? = some e) :
    task.ended = false ∧ ∀ f, ¬ task.Stranded f := by
  unfold Task.guard? at holds
  split at holds
  · refine ⟨rfl, ?_⟩
    rintro f ⟨_, _, _, _, ⟨⟩, _⟩
  · refine ⟨rfl, ?_⟩
    rintro f ⟨_, _, _, _, ⟨⟩, _⟩
  · cases holds

/-- Short of rest, a request, a prefetch or a release has a step. -/
theorem rest_or_step (cfg : AppConfig) (links : linked.Holds s) (held : Held s) :
    AtRest s ∨ ∃ action t, works action = true ∧ Winding s action ∧ (proxy cfg).step s action = some t := by
  by_cases open_ : ∃ action t, works action = true ∧ Winding s action ∧ (proxy cfg).step s action = some t
  · exact .inr open_
  have stranded {i : Nat} {task : Task} (present : s.tasks i = some task) (running : task.ended = false) :
      task.Stranded s.shared.flights := by
    rcases (links.each i task present).resumes cfg running with ⟨reply, polled⟩ | stranded
    · have enabled : ∃ t, (proxy cfg).step s (.poll i reply) = some t := Program.poll_enabled present polled
      obtain ⟨t, taken⟩ := enabled
      exact absurd ⟨.poll i reply, t, rfl, by simp [Winding], taken⟩ open_
    · exact stranded
  have released (e : EntryId) (guard : InflightGuard CacheKey InflightResult)
      (present : s.shared.flights.guards e = some guard) : guard.phase = .finished := by
    cases live : guard.phase.live with
    | true =>
      obtain ⟨i, task, found, holds⟩ := held e guard present live
      obtain ⟨running, waitless⟩ := Task.guarding holds
      exact absurd (stranded found running) (waitless _)
    | false =>
      obtain ⟨key, phase⟩ := guard
      cases phase with
      | finished => rfl
      | dropped =>
        have taken : (proxy cfg).step s (.env (.release e)) =
            some (s.reshare { s.shared with flights := s.shared.flights.finishRelease e }) := by
          simp only [Program.step, proxy, Shared.env, present, Option.map_some]
        exact absurd ⟨.env (.release e), _, rfl, by simp [Winding], taken⟩ open_
      | held | completing | releasing => cases live
  refine .inl ⟨?_, released, ?_⟩
  · intro i task present
    cases ended : task.ended with
    | true => exact .inl rfl
    | false => exact .inr (stranded present ended)
  · intro key
    apply Option.eq_none_iff_forall_ne_some.mpr
    intro e mapped
    obtain ⟨guard, present, _, unreleased⟩ := (links.global.mapped key e).mp mapped
    rw [released e guard present] at unreleased
    cases unreleased

end Progress

/-- Whatever state the proxy has come to, and however the tasks then interleave,
fail or are cancelled: without new requests at most `remaining` steps follow but
evictions, and none is missing before the proxy is at rest. -/
theorem comesToRest (cfg : AppConfig) (upstream : ObjectId → Option Bytes) (cache : FoyerCache) (s : Proxy)
    (reach : (proxy cfg).system.Reaches System.Always (Proxy.initial upstream cache) s) :
    (proxy cfg).system.Exhausts Winding works AtRest s (remaining s) := by
  apply System.Exhausts.of_measure (fun s => linked.Holds s ∧ Held s) remaining
    ⟨linked_reaches reach, held_reaches reach⟩
  · rintro state ⟨links, held⟩
    exact rest_or_step cfg links held
  · rintro source action next ⟨links, held⟩ winding taken
    exact ⟨⟨linked_step links taken, held.step links taken⟩, remaining_step links winding taken⟩

private def restingByte (_ : ObjectId) : Option Bytes := some [1]

/-- A leader is dropped with a follower waiting: one step for the release, five
for the follower. -/
theorem comesToRest_dropped :
    ∃ s, (proxy (.single "b" 4 .unknown)).system.Exhausts Winding works AtRest s (remaining s) ∧
      remaining s = 6 := by
  have replayed : (proxy (.single "b" 4 .unknown)).system.run (Proxy.initial restingByte .empty)
      [.start (.get ⟨"b", "p"⟩), .start (.get ⟨"b", "p"⟩), .poll 0 .ready, .poll 0 .ready, .poll 1 .ready,
        .poll 1 .ready, .poll 1 .ready, .cancel 0] = some _ := rfl
  have reach := System.reaches_of_run replayed
  exact ⟨_, comesToRest _ _ _ _ reach, by decide⟩

end Cachegate
