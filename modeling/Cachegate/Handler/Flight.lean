import Cachegate.Handler.Steps
import Cachegate.Inflight.Frame
import Cachegate.Inflight.Outcome

/-! How one task uses the inflight map. A suspended task is linked to the guard
or the call of `wait` that it holds, and each of its steps is a short run of
the inflight map that moves nothing else. -/

namespace Cachegate

open Transition Inflight

abbrev Flights := Inflight CacheKey InflightResult

/-- The phase of a leader's guard, told by where the leader is suspended. -/
def LeaderAwait.phase : LeaderAwait → GuardPhase InflightResult
  | .fetch _ => .held
  | .store result => .completing result
  | .release _ => .releasing

/-- The task at this stage of the leader branch holds the guard made for the key. -/
structure Leads (f : Flights) (key : CacheKey) (guard : EntryId) (stage : LeaderAwait) : Prop where
  present : f.guards guard = some ⟨key, stage.phase⟩
  stored : ∀ result, stage = .release result → (f.entries guard).result = some result

/-- The entry was made for the key. -/
def Follows (f : Flights) (key : CacheKey) (entry : EntryId) : Prop :=
  ∃ guard, f.guards entry = some guard ∧ guard.key = key

def GetAwait.Linked (f : Flights) (key : CacheKey) : GetAwait → Prop
  | .leader guard stage => Leads f key guard stage
  | .follow entry => f.cloned entry = true ∧ Follows f key entry
  | .notified wait => ∃ entry future, f.waits wait = some (.notified entry future) ∧ Follows f key entry
  | .result wait => ∃ entry, f.waits wait = some (.locking entry) ∧ Follows f key entry
  | _ => True

def PrefetchAwait.Linked (f : Flights) (key : CacheKey) : PrefetchAwait → Prop
  | .leader guard stage => Leads f key guard stage
  | .acquire => True

namespace Task

def Linked (f : Flights) : Task → Prop
  | .get key (.running at_) => at_.Linked f key
  | .prefetch key (.running at_) => at_.Linked f key
  | _ => True

/-- The guard that a suspended task holds. -/
def guard? : Task → Option EntryId
  | .get _ (.running (.leader guard _)) => some guard
  | .prefetch _ (.running (.leader guard _)) => some guard
  | _ => none

/-- The call of `wait` that a suspended task is in. -/
def wait? : Task → Option WaitId
  | .get _ (.running (.notified wait)) => some wait
  | .get _ (.running (.result wait)) => some wait
  | _ => none

/-- Two tasks hold no guard and no call of `wait` in common. -/
def Apart (task other : Task) : Prop :=
  (∀ guard, task.guard? = some guard → other.guard? ≠ some guard) ∧
    ∀ wait, task.wait? = some wait → other.wait? ≠ some wait

theorem Apart.symm {task other : Task} (apart : task.Apart other) : other.Apart task :=
  ⟨fun guard held held' => apart.1 guard held' held, fun wait held held' => apart.2 wait held' held⟩

end Task

section Links

variable {f f' : Flights} {key : CacheKey} {own : Option EntryId} {call : Option WaitId}

theorem Follows.frame (follows : Follows f key entry) (frame : Frame f f' own call) : Follows f' key entry := by
  obtain ⟨guard, present, name⟩ := follows
  obtain ⟨later, kept, same⟩ := frame.keys entry guard present
  exact ⟨later, kept, same.trans name⟩

theorem Leads.frame {guard : EntryId} (leads : Leads f key guard stage) (frame : Frame f f' own call)
    (foreign : own ≠ some guard) : Leads f' key guard stage := by
  obtain ⟨kept, result⟩ := frame.others guard _ (fun same => foreign same.symm) leads.present
  exact ⟨kept, fun stored at_ => result.trans (leads.stored stored at_)⟩

/-- Links survive any step that moves another guard and another call. -/
theorem Task.Linked.frame {task : Task} (linked : task.Linked f) (frame : Frame f f' own call)
    (guards : ∀ guard, task.guard? = some guard → own ≠ some guard)
    (waits : ∀ wait, task.wait? = some wait → call ≠ some wait) : task.Linked f' := by
  match task with
  | .get key (.running (.leader guard stage)) => exact Leads.frame linked frame (guards guard rfl)
  | .get key (.running (.follow entry)) =>
    exact ⟨frame.cloned entry linked.1, linked.2.frame frame⟩
  | .get key (.running (.notified wait)) =>
    obtain ⟨entry, future, present, follows⟩ := linked
    exact ⟨entry, future, frame.waits wait _ (fun same => waits wait rfl same.symm) present, follows.frame frame⟩
  | .get key (.running (.result wait)) =>
    obtain ⟨entry, present, follows⟩ := linked
    exact ⟨entry, frame.waits wait _ (fun same => waits wait rfl same.symm) present, follows.frame frame⟩
  | .prefetch key (.running (.leader guard stage)) => exact Leads.frame linked frame (guards guard rfl)
  | .get key (.running .lookup) | .get key (.running .acquire) | .get key (.running (.recheck _))
  | .get key (.running (.fallback _)) | .get key (.returned _) | .get key (.dropped _)
  | .prefetch key (.running .acquire) | .prefetch key (.returned _) | .prefetch key (.dropped _)
  | .head _ _ _ | .put _ _ => trivial

end Links

/-- A guard whose holder is still to release it, or to be dropped. -/
def GuardPhase.live {R : Type} : GuardPhase R → Bool
  | .held | .completing _ | .releasing => true
  | .dropped | .finished => false

/-- What a step of one task does to the inflight map and to its own links. -/
structure Moves (allowed : Flights → InflightAction CacheKey InflightResult → Prop) (f f' : Flights)
    (task task' : Task) : Prop where
  run : (Inflight.system CacheKey InflightResult).Reaches allowed f f'
  frame : Frame f f' task.guard? task.wait?
  linked : task'.Linked f'
  guards : ∀ guard, task'.guard? = some guard → task.guard? = some guard ∨ f.guards guard = none
  waits : ∀ wait, task'.wait? = some wait → task.wait? = some wait ∨ f.waits wait = none
  held : ∀ e guard, f'.guards e = some guard → guard.phase.live = true →
    task'.guard? = some e ∨ task.guard? ≠ some e ∧ f.guards e = some guard

section Acquire

variable {f f' : Flights} {key : CacheKey}

theorem undropped_step (f : Flights) {g : Flights} (action : InflightAction CacheKey InflightResult)
    (undropped : Undropped f action) (taken : f.step action = some g) :
    (Inflight.system CacheKey InflightResult).Reaches Undropped f g :=
  Relation.ReflTransGen.single ⟨action, undropped, taken⟩

/-- A new leader's guard is new, and no other guard has changed. -/
theorem acquire_leader {guard : EntryId} (owned : f.Owned) (acquired : f.acquire key = (.leader guard, f')) :
    f' = (f.acquire key).2 ∧ f.guards guard = none ∧
      f'.guards = Function.update f.guards guard (some ⟨key, .held⟩) := by
  have opened : f' = (f.acquire key).2 := by rw [acquired]
  refine ⟨opened, ?_⟩
  unfold acquire at acquired
  split at acquired <;> cases acquired
  exact ⟨owned.fresh _ (Nat.le_refl _), rfl⟩

/-- A follower's entry was made for its key, and no guard has changed. -/
theorem acquire_follower (owned : f.Owned) (acquired : f.acquire key = (.follower entry, f')) :
    f' = (f.acquire key).2 ∧ f'.guards = f.guards ∧ f'.cloned entry = true ∧ Follows f' key entry := by
  have opened : f' = (f.acquire key).2 := by rw [acquired]
  refine ⟨opened, ?_⟩
  unfold acquire at acquired
  split at acquired <;> cases acquired
  rename_i vacant
  obtain ⟨guard, present, name, _⟩ := (owned.mapped key entry).mp vacant
  exact ⟨rfl, by simp, guard, present, name⟩

end Acquire

section Leader

variable {cfg : AppConfig} {s s' : Shared} {key : CacheKey} {guard : EntryId} {stage stage' : LeaderAwait}

/-- A fetch uses the inflight map only through its caller. -/
theorem FetchStep.flights (step : FetchStep cfg key method s at_ reply s' next) : s'.flights = s.flights := by
  cases step <;> rfl

theorem FetchStart.flights (start : FetchStart cfg key s s' next) : s'.flights = s.flights := by
  cases start <;> rfl

/-- A segment of the leader branch that leaves its caller holding the guard. -/
structure Led (f f' : Flights) (key : CacheKey) (guard : EntryId) (stage : LeaderAwait) : Prop where
  run : (Inflight.system CacheKey InflightResult).Reaches Undropped f f'
  frame : ∀ call, Frame f f' (some guard) call
  leads : Leads f' key guard stage
  others : ∀ e found, f'.guards e = some found → e = guard ∨ f.guards e = some found

theorem led_refl {f : Flights} (held : f.guards guard = some ⟨key, .held⟩) (stage : FetchAwait) :
    Led f f key guard (.fetch stage) :=
  ⟨.refl, fun _ => .refl _ _ _, ⟨held, fun _ release => by cases release⟩, fun _ _ found => .inr found⟩

/-- `complete` is called. -/
theorem led_complete {f : Flights} (held : f.guards guard = some ⟨key, .held⟩) (result : InflightResult) :
    Led f (f.beginComplete guard result) key guard (.store result) := by
  have guards := setPhase_guards held (.completing result)
  refine ⟨?_, fun _ => frame_setPhase held _, ⟨?_, fun _ release => by cases release⟩, ?_⟩
  · exact undropped_step f (.complete guard result) (by simp [Undropped])
      (by simp only [Inflight.step]; rw [held])
  · simp [beginComplete, guards, LeaderAwait.phase]
  · intro e found present
    by_cases same : e = guard
    · exact .inl same
    · exact .inr (by simpa [beginComplete, guards, same] using present)

theorem LeaderStart.led (start : LeaderStart cfg key guard s s' stage)
    (held : s.flights.guards guard = some ⟨key, .held⟩) : Led s.flights s'.flights key guard stage := by
  cases start with
  | fetch started =>
    have flights := started.flights
    rw [flights]
    exact led_refl held _
  | complete started =>
    have flights := started.flights
    simp only [flights]
    exact led_complete held _

theorem LeaderStep.led (step : LeaderStep cfg key method guard s stage reply s' (.inl stage'))
    (leads : Leads s.flights key guard stage) : Led s.flights s'.flights key guard stage' := by
  have present := leads.present
  cases step with
  | fetch fetched =>
    have flights := fetched.flights
    rw [flights]
    exact led_refl present _
  | complete fetched =>
    have flights := fetched.flights
    simp only [flights]
    exact led_complete present _
  | store =>
    rename_i result
    have guards := setPhase_guards present .releasing
    refine ⟨?_, fun _ => frame_storeResult present _, ⟨?_, ?_⟩, ?_⟩
    · exact undropped_step s.flights (.store guard) (by simp [Undropped])
        (by simp only [Inflight.step]; rw [present]; rfl)
    · simp [storeResult, guards, LeaderAwait.phase]
    · intro stored release
      cases release
      simp [storeResult]
    · intro e found present_
      by_cases same : e = guard
      · exact .inl same
      · exact .inr (by simpa [storeResult, guards, same] using present_)

/-- The leader branch ends with the release of its guard. -/
theorem LeaderStep.ends (step : LeaderStep cfg key method guard s stage reply s' (.inr result))
    (owned : s.flights.Owned) (leads : Leads s.flights key guard stage) :
    stage = .release result ∧ s' = { s with flights := s.flights.finishRelease guard } ∧
      (Inflight.system CacheKey InflightResult).Reaches Undropped s.flights s'.flights ∧
      (∀ call, Frame s.flights s'.flights (some guard) call) ∧
      ∀ e found, s'.flights.guards e = some found → found.phase.live = true →
        e ≠ guard ∧ s.flights.guards e = some found := by
  cases step with
  | release =>
    have present := leads.present
    refine ⟨rfl, rfl, ?_, fun _ => frame_finishRelease owned present rfl, ?_⟩
    · exact undropped_step s.flights (.release guard) (by simp [Undropped])
        (by simp only [Inflight.step]; rw [present]; rfl)
    · intro e found present_ live
      rw [owned.finishRelease_eq present rfl] at present_
      by_cases same : e = guard
      · have moved : ⟨key, .finished⟩ = found := by simpa [same] using present_
        subst moved
        simp [GuardPhase.live] at live
      · exact ⟨same, by simpa [same] using present_⟩

end Leader

namespace Moves

variable {f f' : Flights} {task task' : Task}

/-- The map has not changed, and the task holds nothing before or after. -/
theorem idle (before : task.guard? = none) (linked : task'.Linked f) (guard : task'.guard? = none)
    (wait : task'.wait? = none) : Moves Undropped f f task task' :=
  ⟨.refl, .refl _ _ _, linked, by simp [guard], by simp [wait],
    fun e found present _ => .inr ⟨by simp [before], present⟩⟩

/-- The task has gained the guard of a new leader. -/
theorem lead {guard : EntryId} (owned : f.Owned) (acquired : f.acquire key = (.leader guard, opened))
    (led : Led opened f' key guard stage) (before : task.guard? = none) (linked : task'.Linked f')
    (holds : task'.guard? = some guard) (wait : task'.wait? = none) : Moves Undropped f f' task task' := by
  obtain ⟨same, fresh, guards⟩ := acquire_leader owned acquired
  refine ⟨?_, ?_, linked, ?_, by simp [wait], ?_⟩
  · exact (undropped_step f (.acquire key) (by simp [Undropped]) (by rw [same]; rfl)).trans led.run
  · have first : Frame f opened none task.wait? := same ▸ frame_acquire owned key
    rw [before]
    refine first.trans (led.frame task.wait?) ?_ (fun _ _ _ foreign => foreign)
    intro e found present _ same_
    cases same_
    simp [fresh] at present
  · intro e held
    cases holds.symm.trans held
    exact .inr fresh
  · intro e found present _
    rcases led.others e found present with own | kept
    · exact .inl (own ▸ holds)
    · by_cases own : e = guard
      · exact .inl (own ▸ holds)
      · exact .inr ⟨by simp [before], by simpa [guards, own] using kept⟩

/-- The task still holds its guard. -/
theorem leader {guard : EntryId} (led : Led f f' key guard stage) (before : task.guard? = some guard)
    (linked : task'.Linked f') (holds : task'.guard? = some guard) (wait : task'.wait? = none) :
    Moves Undropped f f' task task' := by
  refine ⟨led.run, before ▸ led.frame _, linked, ?_, by simp [wait], ?_⟩
  · intro e held
    exact .inl (before.trans (holds.symm.trans held))
  · intro e found present _
    rcases led.others e found present with own | kept
    · exact .inl (own ▸ holds)
    · by_cases own : e = guard
      · exact .inl (own ▸ holds)
      · exact .inr ⟨fun held => own (Option.some.inj (held.symm.trans before)), kept⟩

/-- The task has released its guard. -/
theorem ended {s s' : Shared} {guard : EntryId} (owned : s.flights.Owned) (leads : Leads s.flights key guard stage)
    (step : LeaderStep cfg key method guard s stage reply s' (.inr result)) (same : f' = s'.flights)
    (before : task.guard? = some guard) (linked : task'.Linked f') (free : task'.guard? = none)
    (wait : task'.wait? = none) : Moves Undropped s.flights f' task task' := by
  subst same
  obtain ⟨_, _, run, frame, others⟩ := step.ends owned leads
  refine ⟨run, before ▸ frame _, linked, by simp [free], by simp [wait], ?_⟩
  intro e found present live
  obtain ⟨different, kept⟩ := others e found present live
  exact .inr ⟨fun held => different (Option.some.inj (held.symm.trans before)), kept⟩

/-- The task has taken one step that leaves every guard alone. -/
theorem quiet (run : (Inflight.system CacheKey InflightResult).Reaches Undropped f f')
    (frame : Frame f f' none task.wait?) (guards : f'.guards = f.guards) (before : task.guard? = none)
    (linked : task'.Linked f') (free : task'.guard? = none)
    (waits : ∀ wait, task'.wait? = some wait → task.wait? = some wait ∨ f.waits wait = none) :
    Moves Undropped f f' task task' :=
  ⟨run, before ▸ frame, linked, by simp [free], waits,
    fun e found present _ => .inr ⟨by simp [before], by rw [← guards]; exact present⟩⟩

end Moves

section Tasks

variable {cfg : AppConfig} {s s' : Shared} {key : CacheKey}

theorem readResult_quiet (linked : (GetAwait.result wait).Linked s.flights key)
    (read : s.flights.readResult wait = some (value, f')) :
    (Inflight.system CacheKey InflightResult).Reaches Undropped s.flights f' ∧
      Frame s.flights f' none (some wait) ∧ f'.guards = s.flights.guards := by
  obtain ⟨entry, present, _⟩ := linked
  have run := undropped_step s.flights (.read wait) (by simp [Undropped])
    (show s.flights.step (.read wait) = some f' by simp [Inflight.step, read])
  simp only [readResult, present] at read
  cases read
  exact ⟨run, frame_setWait wait _, rfl⟩

theorem GetStep.moves (step : GetStep cfg key s at_ reply s' phase) (owned : s.flights.Owned)
    (linked : at_.Linked s.flights key) :
    Moves Undropped s.flights s'.flights (.get key (.running at_)) (.get key phase) := by
  cases step with
  | hit | miss | recheckHit | recheckMiss => exact .idle rfl trivial rfl rfl
  | lead acquired started =>
    obtain ⟨_, _, guards⟩ := acquire_leader owned acquired
    have led := started.led (by simp [guards])
    exact .lead owned acquired led rfl led.leads rfl rfl
  | follow acquired =>
    obtain ⟨same, guards, cloned, follows⟩ := acquire_follower owned acquired
    exact .quiet (undropped_step _ (.acquire key) (by simp [Undropped]) (by rw [same]; rfl))
      (same ▸ frame_acquire owned key) guards rfl ⟨cloned, follows⟩ rfl (by simp [Task.wait?])
  | leader led =>
    have led := led.led linked
    exact .leader led rfl led.leads rfl rfl
  | led led => exact .ended owned linked led rfl rfl trivial rfl rfl
  | wait =>
    rename_i entry
    obtain ⟨cloned, follows⟩ := linked
    have frame : Frame s.flights (s.flights.callWait entry).2 none none := frame_callWait owned entry
    refine .quiet (undropped_step _ (.wait entry) (by simp [Undropped]) (by simp [Inflight.step, cloned]))
      frame rfl rfl ?_ rfl ?_
    · exact ⟨entry, (s.flights.entries entry).notify.notified, by simp [callWait, setWait],
        follows.frame frame⟩
    · rintro wait ⟨⟩
      exact .inr (owned.unused _ (Nat.le_refl _))
  | @wake wait _ woken =>
    obtain ⟨entry, future, present, follows⟩ := linked
    have run := undropped_step s.flights (.wake wait) (by simp [Undropped]) woken
    simp only [Inflight.wake, present] at woken
    split at woken <;> cases woken
    have frame : Frame s.flights (s.flights.setWait wait (.locking entry)) none (some wait) :=
      frame_setWait wait _
    exact .quiet run frame rfl rfl ⟨entry, by simp [setWait], follows.frame frame⟩ rfl
      (fun _ held => .inl held)
  | joined read | joinedError read =>
    obtain ⟨run, frame, guards⟩ := readResult_quiet linked read
    exact .quiet run frame guards rfl trivial rfl (by simp [Task.wait?])
  | abandoned read started | abandonedEnds read started =>
    obtain ⟨run, frame, guards⟩ := readResult_quiet linked read
    have flights := started.flights
    simp only [Shared.answered, Shared.count, flights]
    exact .quiet run frame guards rfl trivial rfl (by simp [Task.wait?])
  | fallback fetched | fallbackEnds fetched =>
    have flights := fetched.flights
    simp only [Shared.answered, Shared.count, flights]
    exact .idle rfl trivial rfl rfl

theorem PrefetchStep.moves (step : PrefetchStep cfg key s at_ reply s' phase) (owned : s.flights.Owned)
    (linked : at_.Linked s.flights key) :
    Moves Undropped s.flights s'.flights (.prefetch key (.running at_)) (.prefetch key phase) := by
  cases step with
  | lead acquired started =>
    obtain ⟨_, _, guards⟩ := acquire_leader owned acquired
    have led := started.led (by simp [guards])
    exact .lead owned acquired led rfl led.leads rfl rfl
  | follow acquired =>
    obtain ⟨same, guards, _⟩ := acquire_follower owned acquired
    exact .quiet (undropped_step _ (.acquire key) (by simp [Undropped]) (by rw [same]; rfl))
      (same ▸ frame_acquire owned key) guards rfl trivial rfl (by simp [Task.wait?])
  | leader led =>
    have led := led.led linked
    exact .leader led rfl led.leads rfl rfl
  | led led => exact .ended owned linked led rfl rfl trivial rfl rfl

theorem HeadStep.flights (step : HeadStep cfg key params s at_ reply s' phase spawned) :
    s'.flights = s.flights := by
  cases step <;> rfl

theorem PutStep.flights (step : PutStep cfg request s at_ reply s' phase) : s'.flights = s.flights := by
  cases step <;> rfl

end Tasks

end Cachegate
