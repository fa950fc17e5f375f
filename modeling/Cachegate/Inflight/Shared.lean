import Cachegate.Inflight.Verdict
import Cachegate.Library.SharedCall

/-! The inflight map is a way to share calls by their key. Storing a result,
removing the entry and notifying its waiters, in three places and perhaps by
another task, come to one landing. -/

namespace Cachegate.Inflight

open Transition SharedCall

section View

variable {K R : Type}

/-- The entry has been released. -/
def landed (s : Inflight K R) (e : EntryId) : Bool := (s.guards e).any (·.phase.released)

def listener (s : Inflight K R) : WaitPhase R → Listener (Option R)
  | .notified e future =>
      if future.ready (s.entries e).notify then .told e (s.entries e).result
      else if s.landed e then .late e
      else .waiting e
  | .locking e => .told e (s.entries e).result
  | .returned e value => .took e value
  | .cancelled e => .gone e

/-- What the map comes to: the outcome of a call that nobody has completed is `None`. -/
def view (s : Inflight K R) : SharedCall.State K (Option R) where
  current := s.inner
  outcome := fun e => if s.landed e then some (s.entries e).result else none
  started := s.nextEntry
  listeners := fun w => (s.waits w).map s.listener
  listening := s.nextWait

/-- The steps that show. A release lands the call, whoever it is run by. -/
def shows (s : Inflight K R) : InflightAction K R → Option (SharedCall.Action K (Option R))
  | .acquire key => some (.call key)
  | .release e | .spawned e => (s.guards e).map fun guard => .land guard.key (s.entries e).result
  | .wait e => some (.listen e)
  | .read w => some (.take w)
  | .cancelWait w => some (.leave w)
  | .complete _ _ | .store _ | .dropGuard _ | .wake _ => none

end View

section Known

variable {K R : Type} {s t : Inflight K R} {phase : WaitPhase R} {e : EntryId} {guard : InflightGuard K R}

theorem landed_of (present : s.guards e = some guard) : s.landed e = guard.phase.released := by
  simp [landed, present]

theorem landed_fresh (absent : s.guards e = none) : s.landed e = false := by
  simp [landed, absent]

/-- What is known of the calls of `wait` at every moment: no future has seen a
notification that was not made. -/
structure Attended (s : Inflight K R) : Prop where
  owned : s.Owned
  reads : ∀ w phase, s.waits w = some phase → Reads s phase
  seen : ∀ w e future, s.waits w = some (.notified e future) → future.seen ≤ (s.entries e).notify.calls

variable [DecidableEq K]

/-- Notifications are not taken back. -/
theorem step_calls (owned : s.Owned) (taken : s.step action = some t) (present : s.guards e = some guard) :
    (s.entries e).notify.calls ≤ (t.entries e).notify.calls := by
  rw [owned.calls e guard present]
  cases released : guard.phase.released with
  | false => exact Nat.zero_le _
  | true =>
    obtain ⟨key, phase⟩ := guard
    cases phase with
    | finished =>
      have ended := (finished_step owned present taken).1
      rw [(owned.step taken).calls e _ ended]
      exact Nat.le_refl 1
    | held | completing | releasing | dropped => cases released

theorem Attended.step (attended : s.Attended) (taken : s.step action = some t)
    (reads : ∀ w phase, t.waits w = some phase → Reads t phase) : t.Attended := by
  refine ⟨attended.owned.step taken, reads, ?_⟩
  intro w e future found
  cases wait_step attended.owned taken found with
  | kept present =>
    obtain ⟨guard, made⟩ := attended.reads w _ present
    exact Nat.le_trans (attended.seen w e future present) (step_calls attended.owned taken made)
  | called cloned =>
    obtain ⟨guard, made⟩ := attended.owned.known e cloned
    exact step_calls attended.owned taken made

theorem attended_reaches (reach : (system K R).Reaches allowed new s) : s.Attended := by
  refine reach.invariantWith (motive := Attended) (fun _ prior => reads_reaches prior) ?_ ?_
  · refine ⟨owned_new, ?_, ?_⟩
    · intro w phase found
      cases found
    · intro w e future found
      cases found
  · intro source action next _ reads attended _ taken
    exact attended.step taken reads

end Known

section Unheard

variable {K R : Type} {s t : Inflight K R} {e : EntryId} {guard : InflightGuard K R}

/-- No call of `wait` is made or goes on, and nobody can tell that an entry has changed. -/
structure Unheard (s t : Inflight K R) : Prop where
  waits : t.waits = s.waits
  landed : ∀ e, t.landed e = s.landed e
  kept : ∀ e, s.landed e = true → t.entries e = s.entries e
  notify : ∀ e guard, s.guards e = some guard → (t.entries e).notify = (s.entries e).notify

namespace Unheard

theorem outcome (unheard : Unheard s t) : t.view.outcome = s.view.outcome := by
  funext e
  simp only [view, unheard.landed e]
  split
  · rename_i landed
    rw [unheard.kept e landed]
  · rfl

theorem listeners (unheard : Unheard s t) (attended : s.Attended) : t.view.listeners = s.view.listeners := by
  funext w
  simp only [view, unheard.waits]
  cases found : s.waits w with
  | none => rfl
  | some phase =>
    have reads := attended.reads w phase found
    refine congrArg some ?_
    cases phase with
    | notified e future =>
      obtain ⟨guard, present⟩ := reads
      simp only [listener, unheard.landed e, unheard.notify e guard present]
      split
      · rename_i ready
        have ended := finished_of_ready attended.owned present ready
        have landed : s.landed e = true := by
          rw [landed_of present, ended]
          rfl
        rw [unheard.kept e landed]
      · rfl
    | locking e =>
      obtain ⟨key, present⟩ := reads
      simp only [listener, unheard.kept e (landed_of present)]
    | returned | cancelled => rfl

theorem view (unheard : Unheard s t) (attended : s.Attended) (inner : t.inner = s.inner)
    (next : t.nextEntry = s.nextEntry) (calls : t.nextWait = s.nextWait) : t.view = s.view := by
  have outcome := unheard.outcome
  have listeners := unheard.listeners attended
  unfold Inflight.view at outcome listeners ⊢
  simp only at outcome listeners
  rw [inner, next, calls, outcome, listeners]

end Unheard

theorem landed_setPhase (present : s.guards e = some guard) (p : GuardPhase R)
    (same : p.released = guard.phase.released) (other : EntryId) : (s.setPhase e p).landed other = s.landed other := by
  unfold landed
  rw [setPhase_guards present p]
  by_cases own : other = e
  · subst own
    simp [present, same]
  · simp [own]

/-- A guard moves on, short of the release. -/
theorem unheard_setPhase (present : s.guards e = some guard) (p : GuardPhase R)
    (same : p.released = guard.phase.released) : Unheard s (s.setPhase e p) :=
  ⟨rfl, landed_setPhase present p same, fun _ _ => rfl, fun _ _ _ => rfl⟩

/-- A result that is stored does not show before the release. -/
theorem unheard_storeResult (present : s.guards e = some guard) (unreleased : guard.phase.released = false)
    (result : R) : Unheard s (s.storeResult e result) := by
  refine ⟨rfl, landed_setPhase present .releasing unreleased.symm, ?_, ?_⟩
  · intro other landed
    have different : other ≠ e := by
      rintro rfl
      have released : guard.phase.released = true := (landed_of present).symm.trans landed
      cases released.symm.trans unreleased
    exact Function.update_of_ne different _ _
  · intro other _ _
    by_cases own : other = e
    · subst own
      simp [storeResult]
    · simp [storeResult, own]

end Unheard

section Steps

variable {K R : Type} [DecidableEq K] {s t : Inflight K R} {e : EntryId} {guard : InflightGuard K R}

theorem acquire_view (attended : s.Attended) (key : K) :
    s.view.step (.call key) = some (s.acquire key).2.view := by
  cases mapped : s.inner key with
  | some existing =>
    have joined : (s.acquire key).2.view = s.view := by
      simp only [acquire, mapped]
      rfl
    have current : s.view.current key = some existing := mapped
    simp [SharedCall.State.step, current, joined]
  | none =>
    have absent := attended.owned.fresh s.nextEntry (Nat.le_refl _)
    have unheard : Unheard s (s.acquire key).2 := by
      simp only [acquire, mapped]
      refine ⟨rfl, ?_, ?_, ?_⟩
      · intro other
        by_cases own : other = s.nextEntry
        · subst own
          simp [landed, absent, GuardPhase.released]
        · simp [landed, own]
      · intro other landed
        refine Function.update_of_ne ?_ _ _
        rintro rfl
        cases (landed_fresh absent).symm.trans landed
      · intro other guard present
        have older := Nat.ne_of_lt (attended.owned.lt_next present)
        exact congrArg InflightEntry.notify (Function.update_of_ne older _ _)
    have outcome := unheard.outcome
    have listeners := unheard.listeners attended
    have current : s.view.current key = none := mapped
    simp only [SharedCall.State.step, current, ← outcome, ← listeners]
    simp only [acquire, mapped, view]

section Landing

variable (owned : s.Owned) (present : s.guards e = some guard) (unreleased : guard.phase.released = false)
include owned present unreleased

theorem finishRelease_landed (other : EntryId) :
    (s.finishRelease e).landed other = if other = e then true else s.landed other := by
  unfold landed
  rw [owned.finishRelease_eq present unreleased]
  by_cases own : other = e
  · subst own
    simp [GuardPhase.released]
  · simp [own]

theorem finishRelease_other {other : EntryId} (different : other ≠ e) :
    (s.finishRelease e).entries other = s.entries other := by
  rw [owned.finishRelease_eq present unreleased]
  exact Function.update_of_ne different _ _

theorem finishRelease_entry :
    (s.finishRelease e).entries e = ⟨(s.entries e).notify.notifyWaiters, (s.entries e).result⟩ := by
  rw [owned.finishRelease_eq present unreleased]
  exact Function.update_self _ _ _

theorem finishRelease_outcome :
    (s.finishRelease e).view.outcome = Function.update s.view.outcome e (some (s.entries e).result) := by
  funext other
  by_cases own : other = e
  · subst own
    simp [view, finishRelease_landed owned present unreleased, finishRelease_entry owned present unreleased]
  · simp [view, finishRelease_landed owned present unreleased, finishRelease_other owned present unreleased own, own]

end Landing

/-- The release tells all who wait. -/
theorem finishRelease_listener (attended : s.Attended) (present : s.guards e = some guard)
    (unreleased : guard.phase.released = false) {phase : WaitPhase R} (found : s.waits w = some phase) :
    (s.finishRelease e).listener phase = (s.listener phase).hear e (s.entries e).result := by
  have reads := attended.reads w phase found
  have entry := finishRelease_entry attended.owned present unreleased
  cases phase with
  | notified other future =>
    by_cases own : other = e
    · subst own
      have calls : (s.entries other).notify.calls = 0 := by
        rw [attended.owned.calls other guard present, unreleased]
        rfl
      have seen : future.seen = 0 := Nat.le_zero.mp (calls ▸ attended.seen w other future found)
      have before : s.listener (.notified other future) = .waiting other := by
        simp [listener, Notified.ready, calls, landed_of present, unreleased]
      have after : (s.finishRelease other).listener (.notified other future) =
          .told other (s.entries other).result := by
        simp [listener, Notified.ready, Notify.notifyWaiters, entry, calls, seen]
      rw [before, after]
      simp [Listener.hear]
    · have kept : (s.finishRelease e).listener (.notified other future) = s.listener (.notified other future) := by
        simp [listener, finishRelease_other attended.owned present unreleased own,
          finishRelease_landed attended.owned present unreleased, own]
      rw [kept]
      simp only [listener]
      split
      · rfl
      · split
        · rfl
        · simp [Listener.hear, own]
  | locking other =>
    obtain ⟨key, ended⟩ := reads
    have different : other ≠ e := by
      rintro rfl
      cases ended.symm.trans present
      cases unreleased
    simp [listener, finishRelease_other attended.owned present unreleased different, Listener.hear]
  | returned | cancelled => rfl

theorem finishRelease_view (attended : s.Attended) (present : s.guards e = some guard)
    (unreleased : guard.phase.released = false) :
    s.view.step (.land guard.key (s.entries e).result) = some (s.finishRelease e).view := by
  have current : s.view.current guard.key = some e := attended.owned.inner_of_unreleased present unreleased
  have released := attended.owned.finishRelease_eq present unreleased
  have listeners : (s.finishRelease e).view.listeners =
      fun w => (s.view.listeners w).map (.hear e (s.entries e).result) := by
    funext w
    have waits : (s.finishRelease e).waits w = s.waits w := by rw [released]
    simp only [view, waits]
    cases found : s.waits w with
    | none => rfl
    | some phase => exact congrArg some (finishRelease_listener attended present unreleased found)
  simp only [SharedCall.State.step, current, Option.map_some, ← listeners,
    ← finishRelease_outcome attended.owned present unreleased]
  simp only [released, view]

omit [DecidableEq K] in
/-- One call of `wait` has moved. -/
theorem setWait_view (w : WaitId) (phase : WaitPhase R) :
    (s.setWait w phase).view = s.view.setListener w (s.listener phase) := by
  have listeners : (s.setWait w phase).view.listeners = (s.view.setListener w (s.listener phase)).listeners := by
    funext other
    by_cases own : other = w
    · subst own
      simp only [view, Inflight.setWait, SharedCall.State.setListener, Function.update_self]
      rfl
    · simp only [view, Inflight.setWait, SharedCall.State.setListener, Function.update_of_ne own]
      rfl
  unfold view SharedCall.State.setListener at listeners ⊢
  simp only at listeners
  rw [listeners]
  rfl

theorem callWait_view (attended : s.Attended) (cloned : s.cloned e = true) :
    s.view.step (.listen e) = some (s.callWait e).2.view := by
  obtain ⟨guard, present⟩ := attended.owned.known e cloned
  have started : e < s.view.started := attended.owned.lt_next present
  have unseen : s.listener (.notified e (s.entries e).notify.notified) =
      if (s.view.outcome e).isSome then .late e else .waiting e := by
    cases landed : s.landed e <;> simp [listener, view, landed, Notified.ready, Notify.notified]
  simp only [SharedCall.State.step, started, if_true, ← unseen]
  exact congrArg (fun moved : SharedCall.State K (Option R) => some { moved with listening := s.nextWait + 1 })
    (setWait_view s.nextWait _).symm

omit [DecidableEq K] in
theorem wake_view (woken : s.wake w = some t) : t.view = s.view := by
  unfold wake at woken
  split at woken
  · rename_i e future suspended
    split at woken <;> cases woken
    rename_i ready
    have told : s.view.listeners w = some (s.listener (.locking e)) := by simp [view, suspended, listener, ready]
    rw [setWait_view, SharedCall.State.setListener, ← told, Function.update_eq_self]
  · cases woken

theorem readResult_view (read : s.readResult w = some (value, t)) : s.view.step (.take w) = some t.view := by
  unfold readResult at read
  split at read <;> cases read
  rename_i e locking
  have told : s.view.listeners w = some (.told e (s.entries e).result) := by simp [view, locking, listener]
  simp [SharedCall.State.step, told, setWait_view, listener]

theorem cancelWait_view (cancelled : s.cancelWait w = some t) : s.view.step (.leave w) = some t.view := by
  unfold cancelWait at cancelled
  split at cancelled <;> cases cancelled
  · rename_i e future suspended
    have listens : s.view.listeners w = some (s.listener (.notified e future)) := by simp [view, suspended]
    rw [setWait_view]
    simp only [SharedCall.State.step, listens]
    cases ready : future.ready (s.entries e).notify <;> cases landed : s.landed e <;> simp [listener, ready, landed]
  · rename_i e locking
    have told : s.view.listeners w = some (.told e (s.entries e).result) := by simp [view, locking, listener]
    simp [SharedCall.State.step, told, setWait_view, listener]

/-- Every step of the map is the step that shows, or does not show. -/
theorem step_view (attended : s.Attended) (taken : s.step action = some t) :
    (SharedCall.State.system K (Option R)).stepOr s.view (s.shows action) = some t.view := by
  have silent (same : t.view = s.view) : some s.view = some t.view := congrArg some same.symm
  have held {e : EntryId} {guard : InflightGuard K R} (present : s.guards e = some guard)
      (unreleased : guard.phase.released = false) (p : GuardPhase R) (same : p.released = false) :
      (s.setPhase e p).view = s.view :=
    (unheard_setPhase present p (same.trans unreleased.symm)).view attended rfl rfl rfl
  cases action with
  | acquire key =>
    cases taken
    exact acquire_view attended key
  | complete e result =>
    simp only [step] at taken
    split at taken <;> cases taken
    rename_i present
    exact silent (held present rfl _ rfl)
  | store e =>
    simp only [step] at taken
    split at taken <;> cases taken
    rename_i present
    exact silent ((unheard_storeResult present rfl _).view attended rfl rfl rfl)
  | dropGuard e =>
    simp only [step] at taken
    split at taken <;> cases taken
    all_goals
      rename_i present
      exact silent (held present rfl _ rfl)
  | release e | spawned e =>
    simp only [step] at taken
    split at taken <;> cases taken
    rename_i present
    simp only [shows, present, Option.map_some]
    exact finishRelease_view attended present rfl
  | wait e =>
    simp only [step] at taken
    split at taken <;> cases taken
    rename_i cloned
    exact callWait_view attended cloned
  | wake w => exact silent (wake_view taken)
  | read w =>
    obtain ⟨⟨value, next⟩, read, rfl⟩ := Option.map_eq_some_iff.mp taken
    exact readResult_view read
  | cancelWait w => exact cancelWait_view taken

end Steps

/-- A call of `wait` can go on exactly if its listener was told. -/
theorem told_iff {K R : Type} (s : Inflight K R) (w : WaitId) :
    (∃ e value, s.view.listeners w = some (.told e value)) ↔ (s.wake w).isSome ∨ (s.readResult w).isSome := by
  cases found : s.waits w with
  | none => simp [view, wake, readResult, found]
  | some phase =>
    cases phase with
    | notified e future =>
      cases ready : future.ready (s.entries e).notify <;> cases landed : s.landed e <;>
        simp [view, listener, wake, readResult, found, ready, landed]
    | locking e => simp [view, listener, readResult, found]
    | returned e value => simp [view, listener, wake, readResult, found]
    | cancelled e => simp [view, listener, wake, readResult, found]

/-- In every run of the map, with any cancellations, what shows is a run of calls
shared by their key: an `acquire` leads or follows as these say, and a call of `wait`
can go on exactly if its listener was told, and reads what it was told. -/
theorem sharedCall_history {K R : Type} [DecidableEq K] (past : Past K R) (s : Inflight K R)
    (history : (system K R).History System.Always new past s) :
    (∃ past', (SharedCall.State.system K (Option R)).History System.Always .new past' s.view ∧
        past'.map Prod.snd = past.filterMap fun taken => taken.1.shows taken.2) ∧
      (∀ key, (s.acquire key).1 = (s.view.current key).elim (.leader s.view.started) .follower) ∧
      (∀ w, (∃ e value, s.view.listeners w = some (.told e value)) ↔
        (s.wake w).isSome ∨ (s.readResult w).isSome) ∧
      ∀ w value t, s.readResult w = some (value, t) → ∃ e, s.view.listeners w = some (.told e value) := by
  refine ⟨?_, ?_, s.told_iff, ?_⟩
  · exact history.project view shows (fun _ => attended_reaches) fun _ _ _ => step_view
  · intro key
    have current : s.view.current key = s.inner key := rfl
    rw [current]
    cases mapped : s.inner key <;> simp [acquire, mapped, view]
  · intro w value t read
    unfold readResult at read
    split at read <;> cases read
    rename_i e locking
    exact ⟨e, by simp [view, locking, listener]⟩

/-- The leader is dropped between storing its result and the release: the spawned one
lands the call with the result stored. A wait that comes later is late. -/
theorem sharedCall_history_dropped :
    ∃ past' s, (SharedCall.State.system Nat (Option Nat)).History System.Always .new past' s ∧
      s.outcome 0 = some (some 5) ∧ s.listeners 0 = some (.told 0 (some 5)) ∧ s.listeners 1 = some (.late 0) := by
  have replayed : (system Nat Nat).run new
      [.acquire 7, .acquire 7, .wait 0, .complete 0 5, .store 0, .dropGuard 0, .spawned 0, .wait 0] = some _ := rfl
  obtain ⟨past, history⟩ := (System.reaches_of_run replayed).history
  obtain ⟨past', shown, _⟩ := (sharedCall_history past _ history).1
  exact ⟨past', _, shown, rfl, rfl, rfl⟩

end Cachegate.Inflight
