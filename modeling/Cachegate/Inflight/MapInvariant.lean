import Cachegate.Inflight.Ownership

/-! The inflight map over whole runs: what maps where, which step removes an
entry, and what is left once every guard is gone. -/

namespace Cachegate.Inflight

open Transition

variable {K R : Type} [DecidableEq K] {s t : Inflight K R} {guard : InflightGuard K R}

/-- An entry already made survives every `acquire`, in the map and unnotified. -/
private theorem acquire_keeps (owned : s.Owned) (present : s.guards e = some guard) (key : K) :
    (∀ other, s.inner other = some e → (s.acquire key).2.inner other = some e) ∧
      ((s.acquire key).2.entries e).notify = (s.entries e).notify := by
  unfold acquire
  cases vacant : s.inner key with
  | some existing => exact ⟨fun _ held => held, rfl⟩
  | none =>
    have different : e ≠ s.nextEntry := Nat.ne_of_lt (owned.lt_next present)
    refine ⟨?_, by simp [different]⟩
    intro other held
    have key_ : other ≠ key := by rintro rfl; simp [vacant] at held
    simpa [key_] using held

/-- The release of one guard leaves every other entry in the map and unnotified. -/
private theorem finishRelease_keeps (owned : s.Owned) (present : s.guards released = some guard)
    (unreleased : guard.phase.released = false) (different : e ≠ released) :
    (∀ other, s.inner other = some e → (s.finishRelease released).inner other = some e) ∧
      ((s.finishRelease released).entries e).notify = (s.entries e).notify := by
  rw [owned.finishRelease_eq present unreleased]
  refine ⟨?_, by simp [different]⟩
  intro other held
  have key_ : other ≠ guard.key := by
    rintro rfl
    have mapped := owned.inner_of_unreleased present unreleased
    exact different (Option.some.inj (held.symm.trans mapped))
  simpa [key_] using held

/-- Only the release of its own guard removes or notifies an entry. -/
theorem step_keeps (owned : s.Owned) (taken : s.step action = some t) (present : s.guards e = some guard)
    (foreign : ¬ action.Releases e) :
    (∀ key, s.inner key = some e → t.inner key = some e) ∧
      (t.entries e).notify = (s.entries e).notify := by
  cases action with
  | acquire key =>
    cases taken
    exact acquire_keeps owned present key
  | store released =>
    simp only [step] at taken
    split at taken <;> cases taken
    refine ⟨fun _ held => held, ?_⟩
    by_cases same : e = released
    · subst same; simp [storeResult]
    · simp [storeResult, same]
  | release released | spawned released =>
    simp only [step] at taken
    split at taken <;> cases taken
    rename_i key found
    exact finishRelease_keeps owned found rfl (fun same => foreign same.symm)
  | complete other result | dropGuard other =>
    simp only [step] at taken
    split at taken <;> cases taken
    all_goals exact ⟨fun _ held => held, rfl⟩
  | wait other =>
    simp only [step] at taken
    split at taken <;> cases taken
    exact ⟨fun _ held => held, rfl⟩
  | wake w =>
    simp only [step, wake] at taken
    split at taken <;> try cases taken
    split at taken <;> cases taken
    exact ⟨fun _ held => held, rfl⟩
  | read w =>
    simp only [step, readResult] at taken
    split at taken <;> cases taken
    exact ⟨fun _ held => held, rfl⟩
  | cancelWait w =>
    simp only [step, cancelWait] at taken
    split at taken <;> cases taken
    all_goals exact ⟨fun _ held => held, rfl⟩

/-- The release of a guard finds its entry mapped, and removes and notifies it. -/
theorem step_releases (owned : s.Owned) (taken : s.step action = some t) (present : s.guards e = some guard)
    (own : action.Releases e) :
    s.inner guard.key = some e ∧ t.inner guard.key = none ∧
      (t.entries e).notify.calls = (s.entries e).notify.calls + 1 := by
  have removes (unreleased : guard.phase.released = false) (result : t = s.finishRelease e) :
      s.inner guard.key = some e ∧ t.inner guard.key = none ∧
        (t.entries e).notify.calls = (s.entries e).notify.calls + 1 := by
    rw [result, owned.finishRelease_eq present unreleased]
    exact ⟨owned.inner_of_unreleased present unreleased, by simp, by simp [Notify.notifyWaiters]⟩
  cases action with
  | release released | spawned released =>
    have same : released = e := own
    subst same
    simp only [step] at taken
    split at taken <;> cases taken
    rename_i key found
    have guard_ : guard = _ := Option.some.inj (present.symm.trans found)
    exact removes (by rw [guard_]; rfl) rfl
  | _ => exact False.elim own

/-- What holds of the map in every reachable state. -/
structure MapInvariant (s : Inflight K R) : Prop where
  /-- The map holds exactly the entries whose guards are not released. -/
  mapped : ∀ key e, s.inner key = some e ↔ s.Unreleased key e
  oneLeader : ∀ key e e', s.Unreleased key e → s.Unreleased key e' → e = e'
  /-- No step but the release of its own guard removes or notifies an entry. -/
  foreign : ∀ action t e guard, s.step action = some t → s.guards e = some guard →
    ¬ action.Releases e → (∀ key, s.inner key = some e → t.inner key = some e) ∧
      (t.entries e).notify = (s.entries e).notify
  /-- That release removes and notifies in one step. -/
  together : ∀ action t e guard, s.step action = some t → s.guards e = some guard →
    action.Releases e → s.inner guard.key = some e ∧ t.inner guard.key = none ∧
      (t.entries e).notify.calls = (s.entries e).notify.calls + 1
  /-- An entry is notified once if its guard is released, and otherwise never. -/
  once : ∀ e guard, s.guards e = some guard →
    (s.entries e).notify.calls = guard.phase.released.toNat
  /-- No guard and no spawned release left: every entry ever made is out. -/
  drained : (∀ e guard, s.guards e = some guard → guard.phase.released = true) →
    (∀ key, s.inner key = none) ∧ ∀ e, e < s.nextEntry → (s.entries e).notify.calls = 1

theorem reaches_mapInvariant (reach : (system K R).Reaches System.Always new s) : s.MapInvariant := by
  have owned := Owned.reaches reach
  refine ⟨owned.mapped, fun _ _ _ => owned.unreleased_unique,
    fun _ _ _ _ => step_keeps owned, fun _ _ _ _ => step_releases owned, owned.calls, ?_⟩
  intro gone
  constructor
  · intro key
    cases held : s.inner key with
    | none => rfl
    | some e =>
      obtain ⟨guard, present, _, unreleased⟩ := (owned.mapped key e).mp held
      simp [gone e guard present] at unreleased
  · intro e bound
    obtain ⟨guard, present⟩ := owned.allocated e bound
    simp [owned.calls e guard present, gone e guard present]

/-- A leader cancelled inside `complete`, after the result was stored: its
spawned release empties the map, and a second leader takes the key. -/
theorem reaches_mapInvariant_cancelled :
    ∃ s, (system Nat Nat).run new
        [.acquire 7, .complete 0 1, .store 0, .dropGuard 0, .spawned 0, .acquire 7] = some s ∧
      s.MapInvariant ∧ s.inner 7 = some 1 := by
  have replayed : (system Nat Nat).run new
      [.acquire 7, .complete 0 1, .store 0, .dropGuard 0, .spawned 0, .acquire 7] = some _ := rfl
  have reach := System.reaches_of_run replayed
  exact ⟨_, replayed, reaches_mapInvariant reach, rfl⟩

end Cachegate.Inflight
