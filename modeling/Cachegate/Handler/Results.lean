import Cachegate.Handler.Runs

/-! Which step of the proxy puts a result in which flight, and which calls of
`wait` a step leaves alone. -/

namespace Cachegate

open Transition TaskPool Inflight

def LeaderAwait.stores? (guard : EntryId) : LeaderAwait → Option (EntryId × InflightResult)
  | .store result => some (guard, result)
  | _ => none

/-- The result that a task's next reply may store, and where. -/
def Task.stores? : Task → Option (EntryId × InflightResult)
  | .get _ (.running (.leader guard stage)) => stage.stores? guard
  | .prefetch _ (.running (.leader guard stage)) => stage.stores? guard
  | _ => none

/-- The key that a task is about to call `acquire` with. -/
def Task.acquires? : Task → Option CacheKey
  | .get key (.running .acquire) => some key
  | .prefetch key (.running .acquire) => some key
  | _ => none

/-- The entry whose result a task waits for. -/
def Task.awaits? (f : Flights) : Task → Option EntryId
  | .get _ (.running (.follow entry)) => some entry
  | .get _ (.running (.notified wait)) | .get _ (.running (.result wait)) => (f.waits wait).map WaitPhase.entry
  | _ => none

/-- Every result was there before, or is the one that was to be stored. -/
def Results (stores : Option (EntryId × InflightResult)) (key : CacheKey) (f f' : Flights) : Prop :=
  ∀ e guard result, f'.guards e = some guard → (f'.entries e).result = some result →
    (∃ before, f.guards e = some before ∧ before.key = guard.key ∧ (f.entries e).result = some result) ∨
      stores = some (e, result) ∧ guard.key = key

section Steps

variable {cfg : AppConfig} {key : CacheKey} {s s' : Shared} {guard : EntryId} {f f' : Flights}
variable {stores : Option (EntryId × InflightResult)}

theorem Results.of_inherits (inherits : Inherits f f') : Results stores key f f' :=
  fun e guard result present stored => .inl (inherits e guard result present stored)

theorem results_storeResult (present : f.guards guard = some ⟨key, phase⟩) (result : InflightResult) :
    Results (some (guard, result)) key f (f.storeResult guard result) := by
  have guards := setPhase_guards present .releasing
  intro e found value at_ stored
  by_cases same : e = guard
  · subst same
    have moved : ⟨key, .releasing⟩ = found := by simpa [Inflight.storeResult, guards] using at_
    have own : result = value := by simpa [Inflight.storeResult] using stored
    exact .inr ⟨by rw [own], by rw [← moved]⟩
  · exact .inl ⟨found, by simpa [Inflight.storeResult, guards, same] using at_, rfl,
      by simpa [Inflight.storeResult, same] using stored⟩

theorem LeaderStart.inherits (start : LeaderStart cfg key guard s s' stage)
    (held : s.flights.guards guard = some ⟨key, .held⟩) : Inherits s.flights s'.flights := by
  cases start with
  | fetch started => exact .of_same (by rw [started.flights]) (by rw [started.flights])
  | complete started =>
    simp only [started.flights]
    exact inherits_setPhase held _

/-- What a new leader's first segment does is no more than `acquire`. -/
theorem lead_inherits (owned : s.flights.Owned) (acquired : s.flights.acquire key = (.leader guard, flights))
    (start : LeaderStart cfg key guard { s with flights } s' stage) : Inherits s.flights s'.flights := by
  obtain ⟨same, _, guards⟩ := acquire_leader owned acquired
  have opened := inherits_acquire s.flights key
  rw [← same] at opened
  exact opened.trans (start.inherits (by simp [guards]))

theorem follow_inherits (owned : s.flights.Owned)
    (acquired : s.flights.acquire key = (.follower entry, flights)) : Inherits s.flights flights := by
  obtain ⟨same, _⟩ := acquire_follower owned acquired
  exact same ▸ inherits_acquire s.flights key

theorem LeaderStep.results (step : LeaderStep cfg key method guard s at_ reply s' next)
    (owned : s.flights.Owned) (leads : Leads s.flights key guard at_) :
    Results (at_.stores? guard) key s.flights s'.flights ∧ (at_.stores? guard ≠ none → reply = .ready) := by
  have present := leads.present
  cases step with
  | fetch step => exact ⟨.of_inherits (.of_same (by rw [step.flights]) (by rw [step.flights])),
      by simp [LeaderAwait.stores?]⟩
  | complete step =>
    simp only [step.flights]
    exact ⟨.of_inherits (inherits_setPhase present _), by simp [LeaderAwait.stores?]⟩
  | store => exact ⟨results_storeResult present _, fun _ => rfl⟩
  | release => exact ⟨.of_inherits (inherits_finishRelease owned present rfl), fun _ => rfl⟩

theorem GetStep.results (step : GetStep cfg key s at_ reply s' phase) (owned : s.flights.Owned)
    (linked : at_.Linked s.flights key) :
    Results (Task.stores? (.get key (.running at_))) key s.flights s'.flights ∧
      (Task.stores? (.get key (.running at_)) ≠ none → reply = .ready) := by
  have quiet {at_ : GetAwait} (nothing : Task.stores? (.get key (.running at_)) = none)
      (inherits : Inherits s.flights s'.flights) :
      Results (Task.stores? (.get key (.running at_))) key s.flights s'.flights ∧
        (Task.stores? (.get key (.running at_)) ≠ none → reply = .ready) :=
    ⟨.of_inherits inherits, fun some_ => absurd nothing some_⟩
  cases step with
  | hit | miss | recheckHit | recheckMiss => exact quiet rfl (.of_same rfl rfl)
  | lead acquired started => exact quiet rfl (lead_inherits owned acquired started)
  | follow acquired => exact quiet rfl (follow_inherits owned acquired)
  | leader led => exact led.results owned linked
  | led led => exact led.results owned linked
  | wait => exact quiet rfl (.of_same rfl rfl)
  | wake woken => exact quiet rfl (inherits_wake woken)
  | joined read | joinedError read => exact quiet rfl (inherits_readResult read)
  | abandoned read started | abandonedEnds read started =>
    refine quiet rfl ?_
    have flights := started.flights
    simp only [Shared.answered, Shared.count, flights]
    exact inherits_readResult read
  | fallback step | fallbackEnds step =>
    refine quiet rfl ?_
    have flights := step.flights
    simp only [Shared.answered, Shared.count, flights]
    exact .of_same rfl rfl

theorem PrefetchStep.results (step : PrefetchStep cfg key s at_ reply s' phase) (owned : s.flights.Owned)
    (linked : at_.Linked s.flights key) :
    Results (Task.stores? (.prefetch key (.running at_))) key s.flights s'.flights ∧
      (Task.stores? (.prefetch key (.running at_)) ≠ none → reply = .ready) := by
  cases step with
  | lead acquired started =>
    exact ⟨.of_inherits (lead_inherits owned acquired started), by simp [Task.stores?]⟩
  | follow acquired => exact ⟨.of_inherits (follow_inherits owned acquired), by simp [Task.stores?]⟩
  | leader led => exact led.results owned linked
  | led led => exact led.results owned linked

theorem dropGet_inherits (linked : at_.Linked f key) : Inherits f (f.dropGet at_) := by
  match at_ with
  | .leader guard stage => exact inherits_setPhase linked.present _
  | .notified wait =>
    obtain ⟨entry, future, present, _⟩ := linked
    exact .of_same (by simp [dropGet, cancelWait, present]) (by simp [dropGet, cancelWait, present])
  | .result wait =>
    obtain ⟨entry, present, _⟩ := linked
    exact .of_same (by simp [dropGet, cancelWait, present]) (by simp [dropGet, cancelWait, present])
  | .lookup | .acquire | .follow _ | .recheck _ | .fallback _ => exact .of_same rfl rfl

theorem dropPrefetch_inherits (linked : at_.Linked f key) : Inherits f (f.dropPrefetch at_) := by
  match at_ with
  | .leader guard stage => exact inherits_setPhase linked.present _
  | .acquire => exact .of_same rfl rfl

end Steps

section Runs

variable {cfg : AppConfig} {s t : Proxy} {guard : InflightGuard CacheKey InflightResult}

/-- A result appears only by the step of the leader that stores it. -/
theorem results_step (holds : linked.Holds s) (taken : (proxy cfg).step s action = some t)
    (present : t.shared.flights.guards e = some guard)
    (stored : (t.shared.flights.entries e).result = some result) :
    (∃ before, s.shared.flights.guards e = some before ∧ before.key = guard.key ∧
        (s.shared.flights.entries e).result = some result) ∨
      ∃ index task, action = .poll index .ready ∧ s.tasks index = some task ∧
        task.stores? = some (e, result) ∧ guard.key = task.key := by
  have same (flights : t.shared.flights = s.shared.flights) :
      ∃ before, s.shared.flights.guards e = some before ∧ before.key = guard.key ∧
        (s.shared.flights.entries e).result = some result :=
    ⟨guard, by rw [← flights]; exact present, rfl, by rw [← flights]; exact stored⟩
  cases proxy_step taken with
  | start spawned => exact .inl (same spawned.flights)
  | get found polled =>
    obtain ⟨results, ready⟩ := polled.results holds.global (holds.each _ _ found)
    rcases results e guard result present stored with before | ⟨stores, name⟩
    · exact .inl before
    · exact .inr ⟨_, _, by rw [ready (by simp [stores])], found, stores, name⟩
  | prefetch found polled =>
    obtain ⟨results, ready⟩ := polled.results holds.global (holds.each _ _ found)
    rcases results e guard result present stored with before | ⟨stores, name⟩
    · exact .inl before
    · exact .inr ⟨_, _, by rw [ready (by simp [stores])], found, stores, name⟩
  | head found polled =>
    exact .inl (same ((congrArg Shared.flights (State.pushAll_shared _ _)).trans polled.flights))
  | put found polled => exact .inl (same polled.flights)
  | late found landed => exact .inl (same landed.step.flights)
  | dropHead | dropPut | evict => exact .inl (same rfl)
  | dropGet found => exact .inl (dropGet_inherits (holds.each _ _ found) e guard result present stored)
  | dropPrefetch found => exact .inl (dropPrefetch_inherits (holds.each _ _ found) e guard result present stored)
  | release guard_ dropped =>
    exact .inl (inherits_finishRelease holds.global dropped rfl e guard result present stored)

/-- A step moves one guard and one call of `wait` at most, and no call of a task
that it is not a step of. -/
theorem frame_step (holds : linked.Holds s) (taken : (proxy cfg).step s action = some t) :
    ∃ own call, Frame s.shared.flights t.shared.flights own call ∧
      ∀ j other w, ¬ action.Touches j → s.tasks j = some other → other.wait? = some w → call ≠ some w := by
  have same (flights : t.shared.flights = s.shared.flights) :
      ∃ own call, Frame s.shared.flights t.shared.flights own call ∧
        ∀ j other w, ¬ action.Touches j → s.tasks j = some other → other.wait? = some w → call ≠ some w :=
    ⟨none, none, by rw [flights]; exact .refl _ _ _, by simp⟩
  have moves {index : Nat} {task task' : Task} (found : s.tasks index = some task)
      (touches : action.Touches index) (moves : Moves System.Always s.shared.flights t.shared.flights task task') :
      ∃ own call, Frame s.shared.flights t.shared.flights own call ∧
        ∀ j other w, ¬ action.Touches j → s.tasks j = some other → other.wait? = some w → call ≠ some w := by
    refine ⟨_, _, moves.frame, ?_⟩
    intro j other w untouched present waiting
    have different : j ≠ index := fun same => untouched (same ▸ touches)
    exact (holds.apart j index other task different present found).2 w waiting
  cases proxy_step taken with
  | start spawned => exact same spawned.flights
  | get found polled => exact moves found rfl (polled.moves holds.global (holds.each _ _ found)).always
  | prefetch found polled => exact moves found rfl (polled.moves holds.global (holds.each _ _ found)).always
  | head found polled =>
    exact same ((congrArg Shared.flights (State.pushAll_shared _ _)).trans polled.flights)
  | put found polled => exact same polled.flights
  | late found landed => exact same landed.step.flights
  | dropHead | dropPut | evict => exact same rfl
  | dropGet found => exact moves found rfl (dropGet_moves (holds.each _ _ found))
  | dropPrefetch found => exact moves found rfl (dropPrefetch_moves (holds.each _ _ found))
  | release guard_ dropped =>
    exact ⟨_, none, frame_finishRelease holds.global dropped rfl, by simp⟩

/-- A task's call of `wait` stays as it is until the task's own step. -/
theorem waits_step (holds : linked.Holds s) (taken : (proxy cfg).step s action = some t)
    (untouched : ¬ action.Touches j) (present : s.tasks j = some other) (waiting : other.wait? = some w) :
    t.shared.flights.waits w = s.shared.flights.waits w := by
  obtain ⟨own, call, frame, foreign⟩ := frame_step holds taken
  obtain ⟨phase, at_⟩ := (holds.each j other present).waiting waiting
  rw [at_]
  exact frame.waits w phase (fun called => foreign j other w untouched present waiting called.symm) at_

/-- A task that waits goes on waiting for the same entry until its own step. -/
theorem awaits_step (holds : linked.Holds s) (taken : (proxy cfg).step s action = some t)
    (untouched : ¬ action.Touches j) (present : s.tasks j = some other) :
    other.awaits? t.shared.flights = other.awaits? s.shared.flights := by
  have same {w : WaitId} (waiting : other.wait? = some w) :
      t.shared.flights.waits w = s.shared.flights.waits w := waits_step holds taken untouched present waiting
  unfold Task.awaits?
  split
  · rfl
  · rw [same rfl]
  · rw [same rfl]
  · rfl

/-- The entry that a task waits for was made for its key. -/
theorem Task.Linked.awaits {f : Flights} {task : Task} (linked : task.Linked f)
    (awaits : task.awaits? f = some e) : Follows f task.key e := by
  unfold Task.awaits? at awaits
  split at awaits
  · cases awaits
    exact linked.2
  · obtain ⟨entry, future, present, follows⟩ := linked
    simp only [present, Option.map_some, WaitPhase.entry] at awaits
    cases awaits
    exact follows
  · obtain ⟨entry, present, follows⟩ := linked
    simp only [present, Option.map_some, WaitPhase.entry] at awaits
    cases awaits
    exact follows
  · cases awaits

end Runs
end Cachegate
