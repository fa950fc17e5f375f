import Cachegate.Handler.Flight

/-! The steps of the whole proxy, and who holds what along its runs: suspended
tasks stay linked to their guards and calls of `wait`, no two share one, and
what the proxy does to the inflight map is a run of the inflight map. -/

namespace Cachegate

open Transition TaskPool Inflight

/-- The first segment of each handler. -/
inductive Spawned (cfg : AppConfig) (s : Shared) : Request → Shared → Task → Prop
  | getInvalid (invalid : invalidPath key.path = true) :
      Spawned cfg s (.get key) (s.answered .get (.error (.badRequest "invalid object path")))
        (.get key (.returned (.error (.badRequest "invalid object path"))))
  | get (valid : invalidPath key.path = false) : Spawned cfg s (.get key) s (.get key (.running .lookup))
  | headInvalid (invalid : invalidPath key.path = true) :
      Spawned cfg s (.head key params) (s.answered .head (.error (.badRequest "invalid object path")))
        (.head key params (.returned (.error (.badRequest "invalid object path"))))
  | head (valid : invalidPath key.path = false) :
      Spawned cfg s (.head key params) s (.head key params (.running .lookup))
  | putInvalid (invalid : invalidPath request.key.path = true) :
      Spawned cfg s (.put request) (s.answered .put (.error (.badRequest "invalid object path")))
        (.put request (.returned (.error (.badRequest "invalid object path"))))
  | putUnknown (valid : invalidPath request.key.path = false) (absent : cfg.object request.key = none) :
      Spawned cfg s (.put request) s (.put request (.returned (.error (.notFound "unknown bucket"))))
  | put (valid : invalidPath request.key.path = false) (known : cfg.object request.key = some object) :
      Spawned cfg s (.put request) s (.put request (.running (.head object)))

theorem spawn_step (cfg : AppConfig) (s : Shared) (request : Request) :
    Spawned cfg s request (Task.spawn cfg s request).1 (Task.spawn cfg s request).2 := by
  cases request with
  | get key =>
    simp only [Task.spawn, getStart]
    split
    · exact .getInvalid ‹_›
    · exact .get (Bool.eq_false_iff.mpr ‹_›)
  | head key params =>
    simp only [Task.spawn, headStart]
    split
    · exact .headInvalid ‹_›
    · exact .head (Bool.eq_false_iff.mpr ‹_›)
  | put request =>
    simp only [Task.spawn, putStart]
    split
    · exact .putInvalid ‹_›
    · split
      · exact .putUnknown (Bool.eq_false_iff.mpr ‹_›) ‹_›
      · exact .put (Bool.eq_false_iff.mpr ‹_›) ‹_›

/-- A new task waits for the cache, for the store, or has its answer. -/
theorem Spawned.flights (spawned : Spawned cfg s request s' task) : s'.flights = s.flights := by
  cases spawned <;> rfl

/-- Every step of the proxy, by the kind of task that takes it. -/
inductive ProxyStep (cfg : AppConfig) (s : Proxy) : ProxyAction → Proxy → Prop
  | start (spawned : Spawned cfg s.shared request shared task) :
      ProxyStep cfg s (.start request) ((s.reshare shared).push task)
  | get (present : s.tasks index = some (.get key (.running at_)))
      (polled : GetStep cfg key s.shared at_ reply shared phase) :
      ProxyStep cfg s (.poll index reply) (s.replace index shared (.get key phase))
  | head (present : s.tasks index = some (.head key params (.running at_)))
      (polled : HeadStep cfg key params s.shared at_ reply shared phase spawned) :
      ProxyStep cfg s (.poll index reply)
        ((s.replace index shared (.head key params phase)).pushAll
          (if spawned then some (.prefetch key (.running .acquire)) else none))
  | put (present : s.tasks index = some (.put request (.running at_)))
      (polled : PutStep cfg request s.shared at_ reply shared phase) :
      ProxyStep cfg s (.poll index reply) (s.replace index shared (.put request phase))
  | prefetch (present : s.tasks index = some (.prefetch key (.running at_)))
      (polled : PrefetchStep cfg key s.shared at_ reply shared phase) :
      ProxyStep cfg s (.poll index reply) (s.replace index shared (.prefetch key phase))
  | late (present : s.tasks index = some (.put request (.dropped at_)))
      (landed : LateStep cfg request s.shared at_ shared at_') :
      ProxyStep cfg s (.poll index .ready) (s.replace index shared (.put request (.dropped at_')))
  | dropGet (present : s.tasks index = some (.get key (.running at_))) :
      ProxyStep cfg s (.cancel index)
        (s.replace index { s.shared with flights := s.shared.flights.dropGet at_ } (.get key (.dropped at_)))
  | dropHead (present : s.tasks index = some (.head key params (.running at_))) :
      ProxyStep cfg s (.cancel index) (s.replace index s.shared (.head key params (.dropped at_)))
  | dropPut (present : s.tasks index = some (.put request (.running at_))) :
      ProxyStep cfg s (.cancel index) (s.replace index s.shared (.put request (.dropped at_)))
  | dropPrefetch (present : s.tasks index = some (.prefetch key (.running at_))) :
      ProxyStep cfg s (.cancel index)
        (s.replace index { s.shared with flights := s.shared.flights.dropPrefetch at_ }
          (.prefetch key (.dropped at_)))
  | evict (key : CacheKey) :
      ProxyStep cfg s (.env (.evict key)) (s.reshare { s.shared with cache := s.shared.cache.evict key })
  | release (guard : EntryId) (present : s.shared.flights.guards guard = some ⟨key, .dropped⟩) :
      ProxyStep cfg s (.env (.release guard))
        (s.reshare { s.shared with flights := s.shared.flights.finishRelease guard })

private theorem poll_step {s t : Proxy} (taken : (proxy cfg).step s (.poll index reply) = some t) :
    ProxyStep cfg s (.poll index reply) t := by
  obtain ⟨task, shared, task', child, present, polled, rfl⟩ := Program.step_poll taken
  simp only [proxy, Task.poll] at polled
  split at polled
  · obtain ⟨⟨shared', phase⟩, stepped, result⟩ := Option.map_eq_some_iff.mp polled
    cases result
    exact .get present (getPoll_step stepped)
  · obtain ⟨⟨shared', phase, spawned⟩, stepped, result⟩ := Option.map_eq_some_iff.mp polled
    cases result
    exact .head present (headPoll_step stepped)
  · obtain ⟨⟨shared', phase⟩, stepped, result⟩ := Option.map_eq_some_iff.mp polled
    cases result
    exact .put present (putPoll_step stepped)
  · obtain ⟨⟨shared', phase⟩, stepped, result⟩ := Option.map_eq_some_iff.mp polled
    cases result
    exact .prefetch present (prefetchPoll_step stepped)
  · cases polled
    exact .late present .opened
  · cases polled
    exact .late present .aborted
  · cases polled
    exact .late present .committed
  · cases polled

private theorem cancel_step {s t : Proxy} (taken : (proxy cfg).step s (.cancel index) = some t) :
    ProxyStep cfg s (.cancel index) t := by
  obtain ⟨task, shared, task', present, dropped, rfl⟩ := Program.step_cancel taken
  simp only [proxy, Task.drop] at dropped
  split at dropped <;> cases dropped
  · exact .dropGet present
  · exact .dropHead present
  · exact .dropPut present
  · exact .dropPrefetch present

theorem proxy_step {s t : Proxy} (taken : (proxy cfg).step s action = some t) : ProxyStep cfg s action t := by
  cases action with
  | start request =>
    cases taken
    exact .start (spawn_step cfg s.shared request)
  | poll index reply => exact poll_step taken
  | cancel index => exact cancel_step taken
  | env event =>
    obtain ⟨shared, result, rfl⟩ := Program.step_env taken
    cases event with
    | evict key =>
      cases result
      exact .evict key
    | release guard =>
      simp only [proxy, Shared.env] at result
      split at result <;> cases result
      rename_i key present
      exact .release guard present

/-- A HEAD may leave a prefetch task behind, which has done nothing yet. -/
theorem all_head {s : Proxy} {motive : Task → Prop} {spawned : Bool} (all : s.All motive)
    (child : motive (.prefetch key (.running .acquire))) :
    (s.pushAll (if spawned then some (.prefetch key (.running .acquire)) else none)).All motive := by
  refine all.pushAll ?_
  intro task pushed
  split at pushed <;> cases pushed
  exact child

/-- Where a task found after a step of the proxy comes from. -/
inductive Became (cfg : AppConfig) (s : Proxy) (i : Nat) : ProxyAction → Shared → Task → Prop
  | kept (present : s.tasks i = some task) (untouched : ¬ action.Touches i) : Became cfg s i action shared task
  | start (fresh : i = s.next) (spawned : Spawned cfg s.shared request shared task) :
      Became cfg s i (.start request) shared task
  | spawned (fresh : i = s.next) (key : CacheKey) (index : Nat) (reply : Reply) :
      Became cfg s i (.poll index reply) shared (.prefetch key (.running .acquire))
  | get (present : s.tasks i = some (.get key (.running at_)))
      (polled : GetStep cfg key s.shared at_ reply shared phase) :
      Became cfg s i (.poll i reply) shared (.get key phase)
  | head (present : s.tasks i = some (.head key params (.running at_)))
      (polled : HeadStep cfg key params s.shared at_ reply shared phase spawned) :
      Became cfg s i (.poll i reply) shared (.head key params phase)
  | put (present : s.tasks i = some (.put request (.running at_)))
      (polled : PutStep cfg request s.shared at_ reply shared phase) :
      Became cfg s i (.poll i reply) shared (.put request phase)
  | prefetch (present : s.tasks i = some (.prefetch key (.running at_)))
      (polled : PrefetchStep cfg key s.shared at_ reply shared phase) :
      Became cfg s i (.poll i reply) shared (.prefetch key phase)
  | late (present : s.tasks i = some (.put request (.dropped at_)))
      (landed : LateStep cfg request s.shared at_ shared at_') :
      Became cfg s i (.poll i .ready) shared (.put request (.dropped at_'))
  | dropGet (present : s.tasks i = some (.get key (.running at_))) :
      Became cfg s i (.cancel i) { s.shared with flights := s.shared.flights.dropGet at_ } (.get key (.dropped at_))
  | dropHead (present : s.tasks i = some (.head key params (.running at_))) :
      Became cfg s i (.cancel i) s.shared (.head key params (.dropped at_))
  | dropPut (present : s.tasks i = some (.put request (.running at_))) :
      Became cfg s i (.cancel i) s.shared (.put request (.dropped at_))
  | dropPrefetch (present : s.tasks i = some (.prefetch key (.running at_))) :
      Became cfg s i (.cancel i) { s.shared with flights := s.shared.flights.dropPrefetch at_ }
        (.prefetch key (.dropped at_))

/-- Every task after a step was there before, is new, or has taken the step. -/
theorem became {s t : Proxy} (taken : (proxy cfg).step s action = some t) (present : t.tasks i = some task) :
    ∃ shared, t.shared = shared ∧ Became cfg s i action shared task := by
  suffices step : Became cfg s i action t.shared task from ⟨_, rfl, step⟩
  have moved {index : Nat} {shared : Shared} {task' : Task} (found : (s.replace index shared task').tasks i = some task)
      (untouched : i ≠ index → ¬ action.Touches i)
      (own : i = index → task = task' → Became cfg s i action t.shared task) :
      Became cfg s i action t.shared task := by
    rcases State.replace_tasks found with ⟨same, now⟩ | ⟨different, before⟩
    · exact own same now
    · exact .kept before (untouched different)
  cases proxy_step taken with
  | start spawned =>
    rcases State.push_tasks present with ⟨fresh, rfl⟩ | ⟨_, before⟩
    · exact .start fresh spawned
    · exact .kept before id
  | get found polled =>
    exact moved present Ne.symm (by rintro rfl rfl; exact .get found polled)
  | @head index key params at_ reply shared phase spawned found polled =>
    cases spawned with
    | false => exact moved present Ne.symm (by rintro rfl rfl; exact .head found polled)
    | true =>
      rcases State.push_tasks present with ⟨fresh, rfl⟩ | ⟨_, before⟩
      · exact .spawned (show i = s.next from fresh) key index reply
      · exact moved before Ne.symm (by rintro rfl rfl; exact .head found polled)
  | put found polled =>
    exact moved present Ne.symm (by rintro rfl rfl; exact .put found polled)
  | prefetch found polled =>
    exact moved present Ne.symm (by rintro rfl rfl; exact .prefetch found polled)
  | late found landed => exact moved present Ne.symm (by rintro rfl rfl; exact .late found landed)
  | dropGet found => exact moved present Ne.symm (by rintro rfl rfl; exact .dropGet found)
  | dropHead found => exact moved present Ne.symm (by rintro rfl rfl; exact .dropHead found)
  | dropPut found => exact moved present Ne.symm (by rintro rfl rfl; exact .dropPut found)
  | dropPrefetch found => exact moved present Ne.symm (by rintro rfl rfl; exact .dropPrefetch found)
  | evict | release => exact .kept present id

/-- No request is cancelled. -/
def NoCancel (_ : Proxy) (action : ProxyAction) : Prop := ∀ index, action ≠ .cancel index

/-- The map belongs to its guards, and every task to the guard or call it holds. -/
def linked : Assertion Shared Task where
  global s := s.flights.Owned
  each s task := task.Linked s.flights
  apart := Task.Apart

section Links

variable {f f' : Flights} {task task' : Task}

/-- The guard that a task holds is still to be released or dropped. -/
theorem Task.Linked.live (linked : task.Linked f) (holds : task.guard? = some e) :
    ∃ guard, f.guards e = some guard ∧ guard.phase.live = true := by
  unfold Task.guard? at holds
  split at holds <;> cases holds
  · rename_i stage
    exact ⟨_, Leads.present linked, by cases stage <;> rfl⟩
  · rename_i stage
    exact ⟨_, Leads.present linked, by cases stage <;> rfl⟩

/-- A task's guard is of its own key. -/
theorem Task.Linked.guard_key (linked : task.Linked f) (holds : task.guard? = some e)
    (present : f.guards e = some found) : found.key = task.key := by
  unfold Task.guard? at holds
  split at holds <;> cases holds
  · cases (Leads.present linked).symm.trans present
    rfl
  · cases (Leads.present linked).symm.trans present
    rfl

theorem Task.Linked.waiting (linked : task.Linked f) (holds : task.wait? = some w) :
    ∃ phase, f.waits w = some phase := by
  unfold Task.wait? at holds
  split at holds <;> cases holds
  · obtain ⟨entry, future, present, _⟩ := linked
    exact ⟨_, present⟩
  · obtain ⟨entry, present, _⟩ := linked
    exact ⟨_, present⟩

theorem dropGuard_moves {guard : EntryId} (present : f.guards guard = some found)
    (live : found.phase = .held ∨ (∃ r, found.phase = .completing r) ∨ found.phase = .releasing)
    (before : task.guard? = some guard) (linked : task'.Linked (f.dropGuard guard)) (free : task'.guard? = none)
    (wait : task'.wait? = none) : Moves System.Always f (f.dropGuard guard) task task' := by
  have guards := setPhase_guards present .dropped
  refine ⟨reaches_step (.dropGuard guard) ?_, before ▸ frame_setPhase present _, linked, by simp [free],
    by simp [wait], ?_⟩
  · obtain ⟨key, phase⟩ := found
    rcases live with rfl | ⟨r, rfl⟩ | rfl <;> simp only [Inflight.step] <;> rw [present]
  · intro e later at_ live_
    by_cases same : e = guard
    · have moved : { found with phase := .dropped } = later := by simpa [dropGuard, guards, same] using at_
      subst moved
      simp [GuardPhase.live] at live_
    · exact .inr ⟨fun held => same (Option.some.inj (held.symm.trans before)),
        by simpa [dropGuard, guards, same] using at_⟩

private theorem cancelWait_moves {wait : WaitId} (present : f.waits wait = some phase)
    (suspended : ∃ entry, (∃ future, phase = .notified entry future) ∨ phase = .locking entry)
    (before : task.guard? = none) (call : task.wait? = some wait)
    (linked : task'.Linked ((f.cancelWait wait).getD f)) (free : task'.guard? = none) (free' : task'.wait? = none) :
    Moves System.Always f ((f.cancelWait wait).getD f) task task' := by
  obtain ⟨entry, ended⟩ : ∃ entry, f.cancelWait wait = some (f.setWait wait (.cancelled entry)) := by
    obtain ⟨entry, ⟨future, rfl⟩ | rfl⟩ := suspended
    · exact ⟨entry, by simp [cancelWait, present]⟩
    · exact ⟨entry, by simp [cancelWait, present]⟩
  simp only [ended, Option.getD_some] at linked ⊢
  refine ⟨reaches_step (.cancelWait wait) ended, ?_, linked, by simp [free], by simp [free'], ?_⟩
  · rw [call]; exact frame_setWait wait _
  · intro e found at_ _
    exact .inr ⟨by simp [before], at_⟩

/-- Moves that drop no guard are moves. -/
theorem Moves.always (moves : Moves allowed f f' task task') : Moves System.Always f f' task task' :=
  ⟨moves.run.always, moves.frame, moves.linked, moves.guards, moves.waits, moves.held⟩

theorem dropGet_moves (linked : at_.Linked f key) :
    Moves System.Always f (f.dropGet at_) (.get key (.running at_)) (.get key (.dropped at_)) := by
  match at_ with
  | .leader guard stage =>
    exact dropGuard_moves linked.present (by cases stage <;> simp [LeaderAwait.phase]) rfl trivial rfl rfl
  | .notified wait =>
    obtain ⟨entry, future, present, _⟩ := linked
    exact cancelWait_moves present ⟨entry, .inl ⟨future, rfl⟩⟩ rfl rfl trivial rfl rfl
  | .result wait =>
    obtain ⟨entry, present, _⟩ := linked
    exact cancelWait_moves present ⟨entry, .inr rfl⟩ rfl rfl trivial rfl rfl
  | .lookup | .acquire | .follow _ | .recheck _ | .fallback _ =>
    exact Moves.always (show Moves Undropped f f _ _ from .idle rfl trivial rfl rfl)

theorem dropPrefetch_moves (linked : at_.Linked f key) :
    Moves System.Always f (f.dropPrefetch at_) (.prefetch key (.running at_)) (.prefetch key (.dropped at_)) := by
  match at_ with
  | .leader guard stage =>
    exact dropGuard_moves linked.present (by cases stage <;> simp [LeaderAwait.phase]) rfl trivial rfl rfl
  | .acquire =>
    exact Moves.always (show Moves Undropped f f _ _ from .idle rfl trivial rfl rfl)

end Links

section Linked

variable {cfg : AppConfig} {s t : Proxy}

/-- A task's own moves keep every task linked and apart. -/
theorem linked_replace (holds : linked.Holds s) (present : s.tasks index = some task)
    (moves : Moves allowed s.shared.flights shared.flights task task') :
    linked.Holds (s.replace index shared task') := by
  refine holds.replace present (holds.global.run moves.run) moves.linked ?_
  intro j other different found
  have link := holds.each j other found
  have apart : other.Apart task := holds.apart j index other task different found present
  have apart' : task'.Apart other := by
    constructor
    · intro e mine theirs
      rcases moves.guards e mine with held | fresh
      · exact apart.1 e theirs held
      · obtain ⟨guard, at_, _⟩ := link.live theirs
        simp [fresh] at at_
    · intro w mine theirs
      rcases moves.waits w mine with held | fresh
      · exact apart.2 w theirs held
      · obtain ⟨phase, at_⟩ := link.waiting theirs
        simp [fresh] at at_
  exact ⟨link.frame moves.frame (fun e mine => apart.1 e mine) (fun w mine => apart.2 w mine), apart',
    apart'.symm⟩

/-- A step of a task that does not use the inflight map. -/
theorem linked_idle (holds : linked.Holds s) (present : s.tasks index = some task)
    (same : shared.flights = s.shared.flights) (before : task.guard? = none)
    (link : task'.Linked s.shared.flights) (guard : task'.guard? = none) (wait : task'.wait? = none) :
    linked.Holds (s.replace index shared task') := by
  have moves : Moves Undropped s.shared.flights shared.flights task task' := by
    rw [same]; exact .idle before link guard wait
  exact linked_replace holds present moves

theorem linked_push (holds : linked.Holds s) (link : task.Linked s.shared.flights)
    (guard : task.guard? = none) (wait : task.wait? = none) : linked.Holds (s.push task) :=
  holds.push link (fun _ other _ =>
    have apart : task.Apart other := ⟨by simp [guard], by simp [wait]⟩
    ⟨apart, apart.symm⟩)

theorem linked_reshare (holds : linked.Holds s) (same : shared.flights = s.shared.flights) :
    linked.Holds (s.reshare shared) :=
  holds.reshare (by simpa [linked, same] using holds.global)
    (fun j other found => by simpa [linked, same] using holds.each j other found)

theorem linked_step (holds : linked.Holds s) (taken : (proxy cfg).step s action = some t) : linked.Holds t := by
  cases proxy_step taken with
  | start spawned =>
    have kept := linked_reshare holds spawned.flights
    cases spawned <;> exact linked_push kept trivial rfl rfl
  | get present polled =>
    exact linked_replace holds present (polled.moves holds.global (holds.each _ _ present))
  | prefetch present polled =>
    exact linked_replace holds present (polled.moves holds.global (holds.each _ _ present))
  | head present polled =>
    rename_i index key params at_ reply shared phase spawned
    have moved : linked.Holds (s.replace index shared (.head key params phase)) :=
      linked_idle holds present polled.flights rfl trivial rfl rfl
    split
    · exact linked_push moved trivial rfl rfl
    · exact moved
  | put present polled => exact linked_idle holds present polled.flights rfl trivial rfl rfl
  | late present landed => exact linked_idle holds present landed.step.flights rfl trivial rfl rfl
  | dropGet present => exact linked_replace holds present (dropGet_moves (holds.each _ _ present))
  | dropPrefetch present => exact linked_replace holds present (dropPrefetch_moves (holds.each _ _ present))
  | dropHead present => exact linked_idle holds present rfl rfl trivial rfl rfl
  | dropPut present => exact linked_idle holds present rfl rfl trivial rfl rfl
  | evict key => exact holds.reshare holds.global holds.each
  | release guard present =>
    have frame : Frame s.shared.flights (s.shared.flights.finishRelease guard) (some guard) none :=
      frame_finishRelease holds.global present rfl
    refine holds.reshare (holds.global.finishRelease present rfl) ?_
    intro j other found
    refine (holds.each j other found).frame frame ?_ (by simp)
    rintro e mine ⟨⟩
    obtain ⟨held, at_, live⟩ := (holds.each j other found).live mine
    cases present.symm.trans at_
    simp [GuardPhase.live] at live

theorem linked_reaches (reach : (proxy cfg).system.Reaches allowed (Proxy.initial upstream cache) s) :
    linked.Holds s :=
  reach.invariant (Assertion.holds_start owned_new) (fun _ _ _ holds _ taken => linked_step holds taken)

/-- One step of the proxy, seen from the inflight map. -/
theorem flights_step (holds : linked.Holds s) (taken : (proxy cfg).step s action = some t) :
    (Inflight.system CacheKey InflightResult).Reaches System.Always s.shared.flights t.shared.flights ∧
      (NoCancel s action →
        (Inflight.system CacheKey InflightResult).Reaches Undropped s.shared.flights t.shared.flights) := by
  have of_undropped (run : (Inflight.system CacheKey InflightResult).Reaches Undropped s.shared.flights
      t.shared.flights) : _ ∧ (NoCancel s action → _) := ⟨run.always, fun _ => run⟩
  cases proxy_step taken with
  | start spawned =>
    apply of_undropped
    simp only [State.push_shared, State.reshare_shared, spawned.flights]
    exact .refl
  | get present polled => exact of_undropped (polled.moves holds.global (holds.each _ _ present)).run
  | prefetch present polled => exact of_undropped (polled.moves holds.global (holds.each _ _ present)).run
  | head present polled =>
    apply of_undropped
    simp only [State.pushAll_shared, State.replace_shared, polled.flights]
    exact .refl
  | put present polled =>
    apply of_undropped
    simp only [State.replace_shared, polled.flights]
    exact .refl
  | late present landed =>
    apply of_undropped
    simp only [State.replace_shared, landed.step.flights]
    exact .refl
  | evict key => exact of_undropped .refl
  | dropGet present =>
    exact ⟨(dropGet_moves (holds.each _ _ present)).run, fun keeps => absurd rfl (keeps _)⟩
  | dropPrefetch present =>
    exact ⟨(dropPrefetch_moves (holds.each _ _ present)).run, fun keeps => absurd rfl (keeps _)⟩
  | dropHead present => exact ⟨.refl, fun keeps => absurd rfl (keeps _)⟩
  | dropPut present => exact ⟨.refl, fun keeps => absurd rfl (keeps _)⟩
  | release guard present =>
    exact of_undropped (undropped_step _ (.spawned guard) (by simp [Undropped])
      (by simp only [Inflight.step]; rw [present]; rfl))

/-- Without cancellation every follower reads its leader's result. -/
theorem settled_reaches (meets : ∀ s action, allowed s action → NoCancel s action)
    (reach : (proxy cfg).system.Reaches allowed (Proxy.initial upstream cache) s) : s.shared.flights.Settled :=
  Settled.reaches (reach.project (fun s => s.shared.flights) (fun _ prior => linked_reaches prior)
    (fun s action _ holds keeps taken => (flights_step holds taken).2 (meets s action keeps)))

end Linked

end Cachegate
