import Cachegate.Inflight.Moves

/-! Followers suspended in `wait`. The entry's one notification reaches exactly
the calls of `wait` made before it, and `acquire` hands the entry out earlier
than `wait` registers. -/

namespace Cachegate.Inflight

open Transition

variable {K R : Type} {s t : Inflight K R} {guard : InflightGuard K R}

/-- The entry is still in the map, under the key it was made for. -/
def Mapped (s : Inflight K R) (entry : EntryId) : Prop :=
  ∃ guard, s.guards entry = some guard ∧ s.inner guard.key = some entry

/-- `complete` or a spawned task waits for the map lock to release the entry. -/
def ReleasePending (s : Inflight K R) (entry : EntryId) : Prop :=
  ∃ guard, s.guards entry = some guard ∧ (guard.phase = .releasing ∨ guard.phase = .dropped)

/-- The notification of every entry with a suspended follower is still to come. -/
def NoLostWakeup (s : Inflight K R) : Prop :=
  ∀ wait entry future, s.waits wait = some (.notified entry future) →
    future.ready (s.entries entry).notify = false → s.Mapped entry ∨ s.ReleasePending entry

/-- `wait` is called only on entries still in the map. -/
def Timely (s : Inflight K R) (action : InflightAction K R) : Prop :=
  ∀ entry, action = .wait entry → s.Mapped entry

/-- Calls of `wait` that registered before the entry's notification. -/
def Registered (s : Inflight K R) : Prop :=
  ∀ wait entry future, s.waits wait = some (.notified entry future) →
    future.seen = 0 ∧ ∃ guard, s.guards entry = some guard

theorem Owned.mapped_iff (owned : s.Owned) (present : s.guards e = some guard) :
    s.Mapped e ↔ guard.phase.released = false := by
  constructor
  · rintro ⟨found, found_, held⟩
    obtain ⟨again, present_, _, unreleased⟩ := (owned.mapped _ _).mp held
    have same : again = guard := Option.some.inj (present_.symm.trans present)
    exact same ▸ unreleased
  · intro unreleased
    exact ⟨guard, present, owned.inner_of_unreleased present unreleased⟩

/-- A registered follower not yet woken has its notification before it. -/
theorem Registered.noLostWakeup (registered : s.Registered) (owned : s.Owned) : s.NoLostWakeup := by
  intro wait entry future suspended asleep
  obtain ⟨unseen, guard, present⟩ := registered wait entry future suspended
  left
  refine (owned.mapped_iff present).mpr ?_
  have calls := owned.calls entry guard present
  cases released : guard.phase.released with
  | false => rfl
  | true => simp [Notified.ready, unseen, calls, released] at asleep

variable [DecidableEq K]

/-- Only `wait` suspends a follower, with the calls of that moment as seen. -/
theorem step_suspends (owned : s.Owned) (taken : s.step action = some t)
    (suspended : t.waits wait = some (.notified e future)) :
    s.waits wait = some (.notified e future) ∨
      action = .wait e ∧ future = (s.entries e).notify.notified := by
  cases wait_step owned taken suspended with
  | kept present => exact .inl present
  | called => exact .inr ⟨rfl, rfl⟩

theorem Registered.step (registered : s.Registered) (owned : s.Owned) (timely : s.Timely action)
    (taken : s.step action = some t) : t.Registered := by
  intro wait entry future suspended
  rcases step_suspends owned taken suspended with before | ⟨called, created⟩
  · obtain ⟨unseen, guard, present⟩ := registered wait entry future before
    exact ⟨unseen, step_guards owned taken present⟩
  · have mapped := timely entry called
    obtain ⟨guard, present, _⟩ := id mapped
    have calls := owned.calls entry guard present
    rw [(owned.mapped_iff present).mp mapped] at calls
    exact ⟨by simp [created, Notify.notified, calls], step_guards owned taken present⟩

theorem Registered.reaches (reach : (system K R).Reaches Timely new s) : s.Registered := by
  refine reach.invariantWith (fun _ prior => Owned.reaches prior) ?_ ?_
  · intro wait entry future suspended
    simp [new] at suspended
  · intro source action next owned _ registered timely taken
    exact registered.step owned timely taken

/-- `wait` on an entry already removed suspends for ever: the notification it
would need has been made, and none follows. -/
theorem untimely_loses (owned : s.Owned) (taken : s.step action = some t) (late : ¬ s.Timely action) :
    ¬ t.NoLostWakeup := by
  obtain ⟨entry, called, unmapped⟩ : ∃ entry, action = .wait entry ∧ ¬ s.Mapped entry := by
    simpa [Timely] using late
  subst called
  simp only [Inflight.step] at taken
  split at taken <;> cases taken
  rename_i cloned
  obtain ⟨guard, present⟩ := owned.known entry cloned
  have released : guard.phase.released = true := by
    simpa [owned.mapped_iff present] using unmapped
  intro safe
  have pending := safe s.nextWait entry (s.entries entry).notify.notified
    (by simp [callWait, setWait]) (by simp [callWait, Notified.ready, Notify.notified])
  rcases pending with mapped | ⟨found, found_, phase⟩
  · exact unmapped mapped
  · have same : found = guard := Option.some.inj (Eq.trans found_.symm present)
    subst same
    rcases phase with phase | phase <;> simp [phase, GuardPhase.released] at released

/-- As long as every call of `wait` is timely no wakeup is lost, and the first
call that is not loses its own. -/
theorem noLostWakeup_of_timely :
    (∀ s : Inflight K R, (system K R).Reaches Timely new s → s.NoLostWakeup) ∧
      ∀ (s t : Inflight K R) (action : InflightAction K R), (system K R).Reaches Timely new s →
        s.step action = some t → (t.NoLostWakeup ↔ s.Timely action) := by
  refine ⟨fun s reach => (Registered.reaches reach).noLostWakeup (Owned.reaches reach), ?_⟩
  intro s t action reach taken
  constructor
  · intro safe
    by_contra late
    exact untimely_loses (Owned.reaches reach) taken late safe
  · intro timely
    have next := reach.step timely taken
    exact (Registered.reaches next).noLostWakeup (Owned.reaches next)

/-- A leader that completes between a follower's `acquire` and its `wait`. -/
theorem lostWakeup_reachable :
    ¬ ∀ s : Inflight Nat Nat, (system Nat Nat).Reaches System.Always new s → s.NoLostWakeup := by
  intro safe
  have replayed : (system Nat Nat).run new
      [.acquire 7, .acquire 7, .complete 0 1, .store 0, .release 0, .wait 0] = some _ := rfl
  have lost := safe _ (System.reaches_of_run replayed)
  rcases lost 0 0 ⟨1⟩ rfl rfl with ⟨guard, present, mapped⟩ | ⟨guard, present, pending⟩
  · cases present
    cases mapped
  · cases present
    rcases pending with pending | pending <;> cases pending

end Cachegate.Inflight
