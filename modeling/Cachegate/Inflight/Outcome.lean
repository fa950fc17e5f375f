import Cachegate.Inflight.Moves

/-! What the calls of `wait` return when no guard is dropped: every entry has
its result before it is released, so every woken follower reads one. -/

namespace Cachegate.Inflight

open Transition

variable {K R : Type} {s t : Inflight K R} {guard : InflightGuard K R}

/-- No guard is dropped, and no `complete` cancelled. -/
def Undropped (_ : Inflight K R) (action : InflightAction K R) : Prop :=
  ∀ guard, action ≠ .dropGuard guard

/-- A released entry has its result, and a woken follower has a released entry. -/
structure Settled (s : Inflight K R) : Prop where
  undropped : ∀ e guard, s.guards e = some guard → guard.phase ≠ .dropped
  stored : ∀ e guard, s.guards e = some guard → guard.phase = .releasing ∨ guard.phase = .finished →
    ∃ result, (s.entries e).result = some result
  made : ∀ w e future, s.waits w = some (.notified e future) → ∃ guard, s.guards e = some guard
  woken : ∀ w e, s.waits w = some (.locking e) →
    ∃ guard, s.guards e = some guard ∧ guard.phase = .finished

namespace Settled

theorem new : (Inflight.new : Inflight K R).Settled where
  undropped := by intro e guard present; simp [Inflight.new] at present
  stored := by intro e guard present; simp [Inflight.new] at present
  made := by intro w e future suspended; simp [Inflight.new] at suspended
  woken := by intro w e suspended; simp [Inflight.new] at suspended

variable [DecidableEq K]

theorem step (settled : s.Settled) (owned : s.Owned) (undropped : s.Undropped action)
    (taken : s.step action = some t) : t.Settled := by
  refine ⟨?_, ?_, ?_, ?_⟩
  · intro e guard found
    cases guard_step owned taken found with
    | kept present => exact settled.undropped e guard present
    | dropped => exact absurd rfl (undropped e)
    | made | completing | stored | released => simp
  · intro e guard found late
    cases guard_step owned taken found with
    | kept present same =>
      rw [same]
      exact settled.stored e guard present late
    | stored present now => exact ⟨_, now⟩
    | released present before same =>
      rw [same]
      rcases before with rfl | rfl
      · exact settled.stored e _ present (.inl rfl)
      · exact absurd rfl (settled.undropped e _ present)
    | made | completing | dropped => simp at late
  · intro w e future suspended
    cases wait_step owned taken suspended with
    | kept before =>
      obtain ⟨guard, present⟩ := settled.made w e future before
      exact step_guards owned taken present
    | called cloned =>
      obtain ⟨guard, present⟩ := owned.known e cloned
      exact step_guards owned taken present
  · intro w e suspended
    have released {guard : InflightGuard K R} (present : s.guards e = some guard)
        (finished : guard = ⟨guard.key, .finished⟩) : ∃ later, t.guards e = some later ∧ later.phase = .finished := by
      rw [finished] at present
      exact ⟨_, (finished_step owned present taken).1, rfl⟩
    cases wait_step owned taken suspended with
    | kept before =>
      obtain ⟨⟨key, phase⟩, present, rfl⟩ := settled.woken w e before
      exact released present rfl
    | woken before ready =>
      obtain ⟨guard, present⟩ := settled.made w e _ before
      exact released present (finished_of_ready owned present ready)

theorem reaches (reach : (system K R).Reaches Undropped Inflight.new s) : s.Settled := by
  refine reach.invariantWith (fun _ prior => Owned.reaches prior) new ?_
  intro source action next owned _ settled undropped taken
  exact settled.step owned undropped taken

omit [DecidableEq K] in
/-- A woken follower reads a result, never `None`. -/
theorem readResult (settled : s.Settled) (read : s.readResult w = some (value, t)) :
    ∃ result, value = some result := by
  simp only [Inflight.readResult] at read
  split at read <;> cases read
  rename_i e suspended
  obtain ⟨guard, present, finished⟩ := settled.woken w e suspended
  exact settled.stored e guard present (.inr finished)

end Settled
end Cachegate.Inflight
