import Cachegate.Inflight.Ownership

/-! What an operation on the inflight map leaves alone: every guard but its
own, every call of `wait` but its own, and the key of every guard. Results
appear only by being stored. -/

namespace Cachegate.Inflight

variable {K R : Type} {f f' f'' : Inflight K R} {guard : InflightGuard K R}
variable {own own' : Option EntryId} {call call' : Option WaitId}

/-- From `f` to `f'` at most the guard `own` and the call `call` have moved. -/
structure Frame (f f' : Inflight K R) (own : Option EntryId) (call : Option WaitId) : Prop where
  others : ∀ e guard, some e ≠ own → f.guards e = some guard →
    f'.guards e = some guard ∧ (f'.entries e).result = (f.entries e).result
  keys : ∀ e guard, f.guards e = some guard → ∃ later, f'.guards e = some later ∧ later.key = guard.key
  waits : ∀ w phase, some w ≠ call → f.waits w = some phase → f'.waits w = some phase
  cloned : ∀ e, f.cloned e = true → f'.cloned e = true

namespace Frame

theorem refl (f : Inflight K R) (own : Option EntryId) (call : Option WaitId) : Frame f f own call :=
  ⟨fun _ _ _ present => ⟨present, rfl⟩, fun _ guard present => ⟨guard, present, rfl⟩,
    fun _ _ _ present => present, fun _ cloned => cloned⟩

/-- Frames compose when the second moves nothing of `f` but what the first may. -/
theorem trans (first : Frame f f' own call) (second : Frame f' f'' own' call')
    (guards : ∀ e guard, f.guards e = some guard → some e ≠ own → some e ≠ own')
    (waits : ∀ w phase, f.waits w = some phase → some w ≠ call → some w ≠ call') :
    Frame f f'' own call where
  others := by
    intro e guard foreign present
    obtain ⟨kept, result⟩ := first.others e guard foreign present
    obtain ⟨kept', result'⟩ := second.others e guard (guards e guard present foreign) kept
    exact ⟨kept', result'.trans result⟩
  keys := by
    intro e guard present
    obtain ⟨later, kept, key⟩ := first.keys e guard present
    obtain ⟨last, kept', key'⟩ := second.keys e later kept
    exact ⟨last, kept', key'.trans key⟩
  waits := by
    intro w phase foreign present
    exact second.waits w phase (waits w phase present foreign) (first.waits w phase foreign present)
  cloned := fun e cloned => second.cloned e (first.cloned e cloned)

end Frame

theorem frame_setPhase (present : f.guards e = some guard) (p : GuardPhase R) :
    Frame f (f.setPhase e p) (some e) call where
  others := by
    intro other found foreign present_
    have different : other ≠ e := fun same => foreign (congrArg some same)
    exact ⟨by simpa [setPhase_guards present p, different] using present_, rfl⟩
  keys := by
    intro other found present_
    by_cases same : other = e
    · subst same
      have identical : found = guard := Option.some.inj (present_.symm.trans present)
      exact ⟨{ guard with phase := p }, by simp [setPhase_guards present p], by rw [identical]⟩
    · exact ⟨found, by simpa [setPhase_guards present p, same] using present_, rfl⟩
  waits := fun _ _ _ present => present
  cloned := fun _ cloned => cloned

theorem frame_storeResult (present : f.guards e = some guard) (result : R) :
    Frame f (f.storeResult e result) (some e) call := by
  have moved : Frame f (f.setPhase e .releasing) (some e) call := frame_setPhase present .releasing
  refine ⟨?_, moved.keys, moved.waits, moved.cloned⟩
  intro other found foreign present_
  have different : other ≠ e := fun same => foreign (congrArg some same)
  exact ⟨(moved.others other found foreign present_).1, by simp [storeResult, different]⟩

theorem frame_setWait (w : WaitId) (p : WaitPhase R) : Frame f (f.setWait w p) own (some w) where
  others := fun _ _ _ present => ⟨present, rfl⟩
  keys := fun _ guard present => ⟨guard, present, rfl⟩
  waits := by
    intro other phase foreign present
    have different : other ≠ w := fun same => foreign (congrArg some same)
    simpa [setWait, different] using present
  cloned := fun _ cloned => cloned

/-- A new call of `wait` takes an index that no call has. -/
theorem frame_callWait (owned : f.Owned) (e : EntryId) : Frame f (f.callWait e).2 own call where
  others := fun _ _ _ present => ⟨present, rfl⟩
  keys := fun _ guard present => ⟨guard, present, rfl⟩
  waits := by
    intro w phase _ present
    have different : w ≠ f.nextWait := Nat.ne_of_lt (owned.wait_lt_next present)
    simpa [callWait, setWait, different] using present
  cloned := fun _ cloned => cloned

variable [DecidableEq K]

/-- A new guard and its entry take an address that no guard has. -/
theorem frame_acquire (owned : f.Owned) (key : K) : Frame f (f.acquire key).2 own call := by
  unfold acquire
  cases vacant : f.inner key with
  | some existing =>
    refine ⟨fun _ _ _ present => ⟨present, rfl⟩, fun _ guard present => ⟨guard, present, rfl⟩,
      fun _ _ _ present => present, ?_⟩
    intro e cloned
    by_cases same : e = existing
    · simp [same]
    · simpa [same] using cloned
  | none =>
    have different {e} {guard : InflightGuard K R} (present : f.guards e = some guard) :
        e ≠ f.nextEntry := Nat.ne_of_lt (owned.lt_next present)
    refine ⟨?_, ?_, fun _ _ _ present => present, fun _ cloned => cloned⟩
    · intro e guard _ present
      exact ⟨by simpa [different present] using present, by simp [different present]⟩
    · intro e guard present
      exact ⟨guard, by simpa [different present] using present, rfl⟩

theorem frame_finishRelease (owned : f.Owned) (present : f.guards e = some guard)
    (unreleased : guard.phase.released = false) : Frame f (f.finishRelease e) (some e) call := by
  rw [owned.finishRelease_eq present unreleased]
  refine ⟨?_, ?_, fun _ _ _ present => present, fun _ cloned => cloned⟩
  · intro other found foreign present_
    have different : other ≠ e := fun same => foreign (congrArg some same)
    exact ⟨by simpa [different] using present_, by simp [different]⟩
  · intro other found present_
    by_cases same : other = e
    · subst same
      have identical : found = guard := Option.some.inj (present_.symm.trans present)
      exact ⟨{ guard with phase := .finished }, by simp, by rw [identical]⟩
    · exact ⟨found, by simpa [same] using present_, rfl⟩

/-- From `f` to `f'` no result has appeared. -/
def Inherits (f f' : Inflight K R) : Prop :=
  ∀ e guard result, f'.guards e = some guard → (f'.entries e).result = some result →
    ∃ before, f.guards e = some before ∧ before.key = guard.key ∧ (f.entries e).result = some result

omit [DecidableEq K] in
theorem Inherits.of_same (guards : f'.guards = f.guards) (entries : f'.entries = f.entries) :
    Inherits f f' := by
  intro e guard result present stored
  exact ⟨guard, by rwa [← guards], rfl, by rwa [← entries]⟩

omit [DecidableEq K] in
theorem Inherits.trans (first : Inherits f f') (second : Inherits f' f'') : Inherits f f'' := by
  intro e guard result present stored
  obtain ⟨middle, present', key', stored'⟩ := second e guard result present stored
  obtain ⟨before, present'', key'', stored''⟩ := first e middle result present' stored'
  exact ⟨before, present'', key''.trans key', stored''⟩

omit [DecidableEq K] in
theorem inherits_setPhase (present : f.guards e = some guard) (p : GuardPhase R) :
    Inherits f (f.setPhase e p) := by
  intro other found result at_ stored
  by_cases same : other = e
  · subst same
    have moved : { guard with phase := p } = found := by simpa [setPhase_guards present p] using at_
    exact ⟨guard, present, by rw [← moved], stored⟩
  · exact ⟨found, by simpa [setPhase_guards present p, same] using at_, rfl, stored⟩

omit [DecidableEq K] in
theorem inherits_wake (woken : f.wake w = some f') : Inherits f f' := by
  unfold wake at woken
  split at woken <;> try cases woken
  split at woken <;> cases woken
  exact .of_same rfl rfl

omit [DecidableEq K] in
theorem inherits_readResult (read : f.readResult w = some (value, f')) : Inherits f f' := by
  unfold readResult at read
  split at read
  · obtain ⟨_, rfl⟩ := Prod.mk.inj (Option.some.inj read)
    exact .of_same rfl rfl
  · cases read

theorem inherits_acquire (f : Inflight K R) (key : K) : Inherits f (f.acquire key).2 := by
  unfold acquire
  cases vacant : f.inner key with
  | some existing => exact .of_same rfl rfl
  | none =>
    intro e found result at_ stored
    by_cases same : e = f.nextEntry
    · simp [same] at stored
    · exact ⟨found, by simpa [same] using at_, rfl, by simpa [same] using stored⟩

theorem inherits_finishRelease (owned : f.Owned) (present : f.guards e = some guard)
    (unreleased : guard.phase.released = false) : Inherits f (f.finishRelease e) := by
  rw [owned.finishRelease_eq present unreleased]
  intro other found result at_ stored
  by_cases same : other = e
  · subst same
    have moved : { guard with phase := .finished } = found := by simpa using at_
    exact ⟨guard, present, by rw [← moved], by simpa using stored⟩
  · exact ⟨found, by simpa [same] using at_, rfl, by simpa [same] using stored⟩

end Cachegate.Inflight
