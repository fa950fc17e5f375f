import Cachegate.Handler.Agreement
import Cachegate.Handler.Found
import Cachegate.Handler.Results

/-! One request after another: at most one task runs, no flight is there for it
to follow, and it comes to its end. -/

namespace Cachegate

open Transition TaskPool Inflight

/-- The next request arrives when nothing is running. -/
def Sequential (s : Proxy) : ProxyAction → Prop
  | .start _ => Quiescent s
  | action => Honest s action

instance (s : Proxy) : (action : ProxyAction) → Decidable (Sequential s action)
  | .start _ => inferInstanceAs (Decidable (Quiescent s))
  | .poll index reply => inferInstanceAs (Decidable (Honest s (.poll index reply)))
  | .cancel index => inferInstanceAs (Decidable (Honest s (.cancel index)))
  | .env event => inferInstanceAs (Decidable (Honest s (.env event)))

/-- A step of what is running. -/
def Onward (s : Proxy) : ProxyAction → Prop
  | .poll index reply => Honest s (.poll index reply)
  | .start _ | .cancel _ | .env _ => False

def FetchAwait.ahead : FetchAwait → Nat
  | .get _ => 3
  | .bytes _ _ => 2
  | .missing _ | .put _ _ => 1

def LeaderAwait.ahead : LeaderAwait → Nat
  | .fetch stage => stage.ahead + 2
  | .store _ => 2
  | .release _ => 1

def PutAwait.ahead (request : PutRequest) : PutAwait → Nat
  | .head _ => request.body.length + 6
  | .init _ => request.body.length + 5
  | .next _ _ rest _ => rest.length + 4
  | .finish _ _ _ => 3
  | .committed _ _ | .abort _ => 2
  | .insert _ _ | .aborted => 1

theorem FetchAwait.ahead_pos (stage : FetchAwait) : 0 < stage.ahead := by
  cases stage <;> simp [FetchAwait.ahead]

theorem LeaderAwait.ahead_pos (stage : LeaderAwait) : 0 < stage.ahead := by
  cases stage <;> simp [LeaderAwait.ahead]

/-- How many steps a task that follows nobody has ahead at most, the ones of a
prefetch that it may leave behind included. -/
def Task.ahead : Task → Nat
  | .get _ (.running .lookup) => 7
  | .get _ (.running .acquire) | .prefetch _ (.running .acquire) => 6
  | .get _ (.running (.leader _ stage)) | .prefetch _ (.running (.leader _ stage)) => stage.ahead
  | .head _ _ (.running .lookup) => 9
  | .head _ _ (.running (.head _)) => 8
  | .head _ _ (.running (.answered _)) => 7
  | .put request (.running at_) => at_.ahead request
  | _ => 0

/-- The task was not dropped, and follows nobody. -/
def Task.Direct : Task → Prop
  | .get _ (.running .lookup) | .get _ (.running .acquire) | .get _ (.running (.leader _ _))
  | .get _ (.returned _) => True
  | .get _ _ | .head _ _ (.dropped _) | .put _ (.dropped _) | .prefetch _ (.dropped _) => False
  | .head _ _ _ | .put _ _ | .prefetch _ _ => True

/-- Every guard that is still to be released is held by a task. -/
def Held (s : Proxy) : Prop :=
  ∀ e guard, s.shared.flights.guards e = some guard → guard.phase.live = true →
    ∃ i task, s.tasks i = some task ∧ task.guard? = some e

/-- At most one task is running, the last one, and it follows nobody. -/
structure Solo (s : Proxy) : Prop where
  last : ∀ i task, s.tasks i = some task → task.ended = false → i + 1 = s.next
  direct : s.All Task.Direct

section Scheduling

variable {cfg : AppConfig} {s t : Proxy}

theorem Honest.noCancel (honest : Honest s action) : NoCancel s action := by
  rintro index rfl
  exact honest

theorem Sequential.noCancel (sequential : Sequential s action) : NoCancel s action := by
  rintro index rfl
  exact sequential

theorem Held.replace (held : Held s) (present : s.tasks index = some task)
    (moved : ∀ e guard, shared.flights.guards e = some guard → guard.phase.live = true →
      task'.guard? = some e ∨ task.guard? ≠ some e ∧ s.shared.flights.guards e = some guard) :
    Held (s.replace index shared task') := by
  intro e guard at_ live
  rcases moved e guard at_ live with own | ⟨other, before⟩
  · exact ⟨index, task', s.replace_self index shared task', own⟩
  · obtain ⟨i, holder, found, holds⟩ := held e guard before live
    have different : i ≠ index := by
      rintro rfl
      cases found.symm.trans present
      exact other holds
    exact ⟨i, holder, (s.replace_other shared task' different).trans found, holds⟩

theorem Held.push (held : Held s) (bounded : ∀ i task, s.tasks i = some task → i < s.next) (task : Task) :
    Held (s.push task) := by
  intro e guard at_ live
  obtain ⟨i, holder, found, holds⟩ := held e guard at_ live
  have different := Nat.ne_of_lt (bounded i holder found)
  exact ⟨i, holder, (s.push_other task different).trans found, holds⟩

theorem Held.step (held : Held s) (links : linked.Holds s) (taken : (proxy cfg).step s action = some t) :
    Held t := by
  have kept {index : Nat} {task task' : Task} (present : s.tasks index = some task) (idle : task.guard? = none) :
      Held (s.replace index s.shared task') :=
    held.replace present fun e guard at_ _ => .inr ⟨by simp [idle], at_⟩
  cases proxy_step taken with
  | @start request shared task spawned =>
    have kept : Held (s.reshare shared) := by
      intro e guard at_ live
      rw [State.reshare_shared, spawned.flights] at at_
      exact held e guard at_ live
    exact kept.push links.bounded task
  | get present polled => exact held.replace present (polled.moves links.global (links.each _ _ present)).held
  | prefetch present polled => exact held.replace present (polled.moves links.global (links.each _ _ present)).held
  | @head index key params at_ reply shared phase spawned present polled =>
    have moved : Held (s.replace index shared (.head key params phase)) := by
      refine held.replace present ?_
      intro e guard at_ _
      exact .inr ⟨by simp [Task.guard?], by rwa [polled.flights] at at_⟩
    have links : linked.Holds (s.replace index shared (.head key params phase)) :=
      linked_idle links present polled.flights rfl trivial rfl rfl
    split
    · exact moved.push links.bounded _
    · exact moved
  | put present polled =>
    refine held.replace present ?_
    intro e guard at_ _
    exact .inr ⟨by simp [Task.guard?], by rwa [polled.flights] at at_⟩
  | late present landed =>
    refine held.replace present ?_
    intro e guard at_ _
    exact .inr ⟨by simp [Task.guard?], by rwa [landed.step.flights] at at_⟩
  | dropGet present => exact held.replace present (dropGet_moves (links.each _ _ present)).held
  | dropPrefetch present => exact held.replace present (dropPrefetch_moves (links.each _ _ present)).held
  | dropHead present | dropPut present => exact kept present rfl
  | evict => exact held
  | @release key dropped present =>
    intro e guard at_ live
    simp only [State.reshare_shared, links.global.finishRelease_eq present rfl] at at_
    by_cases same : e = dropped
    · have ended : ⟨key, .finished⟩ = guard := by simpa [same] using at_
      subst ended
      cases live
    · exact held e guard (by simpa [same] using at_) live

theorem held_reaches (reach : (proxy cfg).system.Reaches allowed (Proxy.initial upstream cache) s) : Held s := by
  refine reach.invariantWith (motive := Held) (fun _ prior => linked_reaches prior) ?_ ?_
  · intro e guard at_
    simp [Proxy.initial, State.start, Shared.initial, Inflight.new] at at_
  · intro source action next links _ held _ taken
    exact held.step links taken

/-- No other task runs beside the running one. -/
theorem Solo.only (solo : Solo s) (present : s.tasks index = some task) (running : task.ended = false)
    (found : s.tasks i = some other) (awake : other.ended = false) : i = index := by
  have last := solo.last i other found awake
  have last' := solo.last index task present running
  omega

theorem Solo.others (solo : Solo s) (present : s.tasks index = some task) (running : task.ended = false)
    (found : s.tasks i = some other) (different : i ≠ index) : other.ended = true := by
  cases awake : other.ended with
  | true => rfl
  | false => exact absurd (solo.only present running found awake) different

/-- With one task running, no flight is there for it to follow. -/
theorem Solo.vacant (solo : Solo s) (links : linked.Holds s) (settled : s.shared.flights.Settled) (held : Held s)
    (present : s.tasks index = some task) (running : task.ended = false) (idle : task.guard? = none)
    (key : CacheKey) : s.shared.flights.inner key = none := by
  cases mapped : s.shared.flights.inner key with
  | none => rfl
  | some e =>
    obtain ⟨guard, made, _, unreleased⟩ := (links.global.mapped key e).mp mapped
    have live : guard.phase.live = true := by
      have undropped := settled.undropped e guard made
      cases phase : guard.phase <;> simp_all [GuardPhase.live, GuardPhase.released]
    obtain ⟨i, holder, found, holds⟩ := held e guard made live
    have awake : holder.ended = false := by
      unfold Task.guard? at holds
      split at holds <;> first | rfl | cases holds
    have own : i = index := solo.only present running found awake
    subst own
    cases found.symm.trans present
    simp [idle] at holds

theorem GetStep.direct (step : GetStep cfg key shared at_ reply shared' phase)
    (vacant : at_ = .acquire → shared.flights.inner key = none) (direct : (Task.get key (.running at_)).Direct) :
    (Task.get key phase).Direct := by
  cases step with
  | follow acquired => simp [acquire, vacant rfl] at acquired
  | wait | wake | joined | joinedError | abandoned | abandonedEnds | recheckHit | recheckMiss | fallback
  | fallbackEnds => exact direct.elim
  | hit | miss | lead | leader | led => trivial

theorem Solo.replace (solo : Solo s) (present : s.tasks index = some task) (running : task.ended = false)
    (direct : task'.Direct) : Solo (s.replace index shared task') := by
  refine ⟨?_, solo.direct.replace direct⟩
  intro i other found awake
  rcases State.replace_tasks found with ⟨rfl, _⟩ | ⟨_, before⟩
  · exact solo.last i task present running
  · exact solo.last i other before awake

/-- Once all that was running has ended, the next task runs alone. -/
theorem Solo.push (solo : Solo s) (ended : ∀ i task, s.tasks i = some task → task.ended = true)
    (direct : task.Direct) : Solo (s.push task) := by
  refine ⟨?_, solo.direct.push direct⟩
  intro i other found awake
  rcases State.push_tasks found with ⟨rfl, _⟩ | ⟨_, before⟩
  · rfl
  · simp [ended i other before] at awake

/-- When the last task has ended, nothing is running. -/
theorem Solo.quiet (solo : Solo s) (present : s.tasks index = some task) (running : task.ended = false)
    (ended : task'.ended = true) :
    ∀ i other, (s.replace index shared task').tasks i = some other → other.ended = true := by
  intro i other found
  rcases State.replace_tasks found with ⟨rfl, rfl⟩ | ⟨different, before⟩
  · exact ended
  · exact solo.others present running before different

/-- A HEAD that leaves a prefetch behind has returned. -/
theorem HeadStep.ended (step : HeadStep cfg key params shared at_ reply shared' phase spawned)
    (child : spawned = true) : (Task.head key params phase).ended = true := by
  cases step with
  | hit | unknown | headFailed | answer => rfl
  | miss | sized => cases child

theorem Solo.step (solo : Solo s) (links : linked.Holds s) (settled : s.shared.flights.Settled) (held : Held s)
    (sequential : Sequential s action) (taken : (proxy cfg).step s action = some t) : Solo t := by
  cases proxy_step taken with
  | @start request shared task spawned =>
    have kept : Solo (s.reshare shared) := ⟨solo.last, solo.direct⟩
    refine kept.push ?_ ?_
    · intro i other found
      exact sequential i (links.bounded i other found) other found
    · cases spawned <;> trivial
  | get present polled =>
    refine solo.replace present rfl (polled.direct ?_ (solo.direct _ _ present))
    rintro rfl
    exact solo.vacant links settled held present rfl rfl _
  | put present polled =>
    refine solo.replace present rfl ?_
    cases polled <;> trivial
  | prefetch present polled =>
    refine solo.replace present rfl ?_
    cases polled <;> trivial
  | @head index key params at_ reply shared phase spawned present polled =>
    have moved : Solo (s.replace index shared (.head key params phase)) := by
      refine solo.replace present rfl ?_
      cases polled <;> trivial
    split
    · exact moved.push (solo.quiet present rfl (polled.ended ‹_›)) trivial
    · exact moved
  | late present => exact (solo.direct _ _ present).elim
  | dropGet | dropHead | dropPut | dropPrefetch => exact sequential.elim
  | evict | release => exact ⟨solo.last, solo.direct⟩

theorem solo_reaches (meets : ∀ s action, allowed s action → Sequential s action)
    (reach : (proxy cfg).system.Reaches allowed (Proxy.initial upstream cache) s) : Solo s := by
  have keeps (s : Proxy) (action : ProxyAction) (allow : allowed s action) : NoCancel s action :=
    (meets s action allow).noCancel
  refine reach.invariantWith (motive := Solo)
    (fun _ prior =>
      And.intro (linked_reaches prior) (And.intro (settled_reaches keeps prior) (held_reaches prior)))
    ?_ ?_
  · exact ⟨(by intro i task present; cases present), State.all_start _⟩
  · rintro source action next ⟨links, settled, held⟩ - solo allow taken
    exact solo.step links settled held (meets _ _ allow) taken

end Scheduling

section Progress

variable {cfg : AppConfig} {s t : Proxy} {guard : EntryId}

theorem FetchStep.ahead (step : FetchStep cfg key method shared at_ reply shared' next) :
    next.elim FetchAwait.ahead (fun _ => 0) < at_.ahead := by
  cases step <;> simp [FetchAwait.ahead]

theorem LeaderStart.ahead (start : LeaderStart cfg key guard shared shared' stage) : stage.ahead < 6 := by
  cases start with
  | fetch started =>
    cases started
    simp [LeaderAwait.ahead, FetchAwait.ahead]
  | complete => simp [LeaderAwait.ahead]

theorem LeaderStep.ahead (step : LeaderStep cfg key method guard shared at_ reply shared' next) :
    next.elim LeaderAwait.ahead (fun _ => 0) < at_.ahead := by
  cases step with
  | fetch step => exact Nat.add_lt_add_right step.ahead 2
  | complete step => exact Nat.add_lt_add_right step.ahead 2
  | store | release => simp [LeaderAwait.ahead]

theorem GetStep.ahead (step : GetStep cfg key shared at_ reply shared' phase)
    (direct : (Task.get key (.running at_)).Direct) (next : (Task.get key phase).Direct) :
    (Task.get key phase).ahead < (Task.get key (.running at_)).ahead := by
  cases step with
  | hit | miss => simp [Task.ahead]
  | lead _ started => exact started.ahead
  | leader led => exact led.ahead
  | led led => exact Nat.zero_lt_of_lt led.ahead
  | follow => exact next.elim
  | wait | wake | joined | joinedError | abandoned | abandonedEnds | recheckHit | recheckMiss | fallback
  | fallbackEnds => exact direct.elim

theorem PrefetchStep.ahead (step : PrefetchStep cfg key shared at_ reply shared' phase) :
    (Task.prefetch key phase).ahead < (Task.prefetch key (.running at_)).ahead := by
  cases step with
  | lead _ started => exact started.ahead
  | follow => simp [Task.ahead]
  | leader led => exact led.ahead
  | led led => exact Nat.zero_lt_of_lt led.ahead

theorem HeadStep.ahead (step : HeadStep cfg key params shared at_ reply shared' phase spawned) :
    (Task.head key params phase).ahead < (Task.head key params (.running at_)).ahead ∧
      6 < (Task.head key params (.running at_)).ahead := by
  cases step <;> simp [Task.ahead]

theorem PutStep.ahead (step : PutStep cfg request shared at_ reply shared' phase) :
    (Task.put request phase).ahead < (Task.put request (.running at_)).ahead := by
  cases step <;> simp [Task.ahead, PutAwait.ahead]

/-- The last task decides how long the rest of a run can be. -/
def stepsAhead (s : Proxy) : Nat := (s.tasks (s.next - 1)).elim 0 Task.ahead

theorem Solo.stepsAhead_replace (solo : Solo s) (present : s.tasks index = some task) (running : task.ended = false)
    (less : task'.ahead < task.ahead) : stepsAhead (s.replace index shared task') < stepsAhead s := by
  have last : s.next - 1 = index := by
    have last := solo.last index task present running
    omega
  have after : (s.replace index shared task').tasks index = some task' := s.replace_self index shared task'
  simpa [stepsAhead, last, present, after] using less

theorem Solo.descends (solo : Solo s) (solo' : Solo t) (onward : Onward s action)
    (taken : (proxy cfg).step s action = some t) : stepsAhead t < stepsAhead s := by
  cases proxy_step taken with
  | @get index key at_ reply shared phase present polled =>
    refine solo.stepsAhead_replace present rfl (polled.ahead (solo.direct _ _ present) ?_)
    exact solo'.direct index _ (s.replace_self index _ _)
  | put present polled => exact solo.stepsAhead_replace present rfl polled.ahead
  | prefetch present polled => exact solo.stepsAhead_replace present rfl polled.ahead
  | @head index key params at_ reply shared phase spawned present polled =>
    split
    · have last : s.next - 1 = index := by
        have last := solo.last index _ present rfl
        omega
      have many := polled.ahead.2
      simpa [stepsAhead, State.pushAll, State.push, last, present, Task.ahead] using many
    · exact solo.stepsAhead_replace present rfl polled.ahead.1
  | late present => exact (solo.direct _ _ present).elim
  | start | dropGet | dropHead | dropPut | dropPrefetch | evict | release => exact onward.elim

theorem fetchPoll_ready (cfg : AppConfig) (shared : Shared) (key : CacheKey) (method : Method) (stage : FetchAwait) :
    (fetchPoll cfg shared key method stage .ready).isSome := by
  unfold fetchPoll
  cases stage with
  | get object => cases stored : shared.upstream object <;> simp [stored]
  | missing | put => rfl
  | bytes object data =>
    dsimp only
    split <;> rfl

theorem leaderPoll_ready (cfg : AppConfig) (shared : Shared) (key : CacheKey) (method : Method) (guard : EntryId)
    (stage : LeaderAwait) : (leaderPoll cfg shared key method guard stage .ready).isSome := by
  cases stage with
  | fetch stage => simp [leaderPoll, fetchPoll_ready]
  | store | release => rfl

theorem getPoll_ready (cfg : AppConfig) (shared : Shared) (key : CacheKey) {at_ : GetAwait}
    (direct : (Task.get key (.running at_)).Direct) : (getPoll cfg shared key at_ .ready).isSome := by
  cases at_ with
  | lookup => simp [getPoll, Shared.lookup]
  | acquire =>
    simp only [getPoll]
    split <;> rfl
  | leader guard stage => simp [getPoll, leaderPoll_ready]
  | follow | notified | result | recheck | fallback => exact direct.elim

theorem putPoll_ready (cfg : AppConfig) (shared : Shared) (request : PutRequest) (at_ : PutAwait) :
    (putPoll cfg shared request at_ .ready).isSome := by
  cases at_ with
  | next object upload rest loop => cases rest <;> rfl
  | committed object loop =>
    simp only [putPoll]
    split <;> rfl
  | head | init | abort | aborted | finish | insert => rfl

theorem prefetchPoll_ready (cfg : AppConfig) (shared : Shared) (key : CacheKey) (at_ : PrefetchAwait) :
    (prefetchPoll cfg shared key at_ .ready).isSome := by
  cases at_ with
  | acquire =>
    simp only [prefetchPoll]
    split <;> rfl
  | leader guard stage => simp [prefetchPoll, leaderPoll_ready]

/-- A HEAD of an object that is not there is told so. -/
theorem headPoll_enabled (cfg : AppConfig) (shared : Shared) (key : CacheKey) (params : Query) (at_ : HeadAwait) :
    (headPoll cfg shared key params at_ .ready).isSome ∨
      ∃ object, at_ = .head object ∧ shared.upstream object = none := by
  cases at_ with
  | lookup => exact .inl (by simp [headPoll, Shared.lookup])
  | answered => exact .inl rfl
  | head object =>
    cases stored : shared.upstream object with
    | none => exact .inr ⟨object, rfl, stored⟩
    | some data => exact .inl (by simp [headPoll, stored])

/-- A task that follows nobody has a step that the stores allow. -/
theorem Task.Direct.enabled {task : Task} (cfg : AppConfig) (direct : task.Direct) (running : task.ended = false)
    (present : s.tasks index = some task) :
    ∃ reply, reply ≠ .cacheError ∧ Honest s (.poll index reply) ∧ (task.poll cfg s.shared reply).isSome := by
  have ready (polled : (task.poll cfg s.shared .ready).isSome) :
      ∃ reply, reply ≠ .cacheError ∧ Honest s (.poll index reply) ∧ (task.poll cfg s.shared reply).isSome :=
    ⟨.ready, Reply.noConfusion, trivial, polled⟩
  cases task with
  | get key phase =>
    cases phase with
    | running at_ => exact ready (by simpa [Task.poll] using getPoll_ready cfg s.shared key direct)
    | returned | dropped => cases running
  | head key params phase =>
    cases phase with
    | running at_ =>
      rcases headPoll_enabled cfg s.shared key params at_ with polled | ⟨object, rfl, vacant⟩
      · exact ready (by simpa [Task.poll] using polled)
      · exact ⟨.failed .notFound, Reply.noConfusion, ⟨rfl, _, present, object, rfl, vacant⟩, rfl⟩
    | returned | dropped => cases running
  | put request phase =>
    cases phase with
    | running at_ => exact ready (by simpa [Task.poll] using putPoll_ready cfg s.shared request at_)
    | returned | dropped => cases running
  | prefetch key phase =>
    cases phase with
    | running at_ => exact ready (by simpa [Task.poll] using prefetchPoll_ready cfg s.shared key at_)
    | returned | dropped => cases running

/-- What is running comes to its end. -/
theorem quiescent_inevitable
    (reach : (proxy cfg).system.Reaches Sequential (Proxy.initial upstream cache) s) :
    (proxy cfg).system.Inevitably Onward Quiescent s := by
  refine System.Inevitably.of_measure ((proxy cfg).system.Reaches Sequential (Proxy.initial upstream cache))
    stepsAhead ?_ ?_ reach
  · intro state reach
    by_cases quiet : Quiescent state
    · exact .inl quiet
    · unfold Quiescent at quiet
      push Not at quiet
      obtain ⟨i, _, task, present, running⟩ := quiet
      have direct := (solo_reaches (fun _ _ allow => allow) reach).direct i task present
      obtain ⟨reply, _, honest, polled⟩ := direct.enabled cfg (by simpa using running) present
      obtain ⟨t, taken⟩ : ∃ t, (proxy cfg).step state (.poll i reply) = some t :=
        Program.poll_enabled present polled
      exact .inr ⟨t, .poll i reply, honest, taken⟩
  · rintro state target reach ⟨action, onward, taken⟩
    have sequential : Sequential state action := by
      cases action with
      | poll index reply => exact onward
      | start | cancel | env => exact onward.elim
    have next := reach.step sequential taken
    have solo := solo_reaches (fun _ _ allow => allow) reach
    exact ⟨next, solo.descends (solo_reaches (fun _ _ allow => allow) next) onward taken⟩

end Progress

end Cachegate
