import Cachegate.Inflight.Model

/-! Who owns a slot of the inflight map. A slot belongs to the guard made with
its entry until that guard's one release, however the guard ends. -/

namespace Cachegate

open Transition

/-- The guard's release has run, inside `complete` or in the spawned task. -/
def GuardPhase.released {R : Type} : GuardPhase R → Bool
  | .finished => true
  | _ => false

/-- The actions whose step is the release of this guard. -/
def InflightAction.Releases {K R : Type} (action : InflightAction K R) (guard : EntryId) : Prop :=
  match action with
  | .release released | .spawned released => released = guard
  | _ => False

namespace Inflight

variable {K R : Type} {s t : Inflight K R} {guard : InflightGuard K R}

@[simp] theorem setPhase_inner (e : EntryId) (p : GuardPhase R) : (s.setPhase e p).inner = s.inner := rfl

@[simp] theorem setPhase_entries (e : EntryId) (p : GuardPhase R) :
    (s.setPhase e p).entries = s.entries := rfl

@[simp] theorem setPhase_waits (e : EntryId) (p : GuardPhase R) : (s.setPhase e p).waits = s.waits := rfl

@[simp] theorem setPhase_nextEntry (e : EntryId) (p : GuardPhase R) :
    (s.setPhase e p).nextEntry = s.nextEntry := rfl

@[simp] theorem setPhase_cloned (e : EntryId) (p : GuardPhase R) : (s.setPhase e p).cloned = s.cloned := rfl

theorem setPhase_guards (present : s.guards e = some guard) (p : GuardPhase R) :
    (s.setPhase e p).guards = Function.update s.guards e (some { guard with phase := p }) := by
  simp [setPhase, present]

@[simp] theorem setWait_inner (w : WaitId) (p : WaitPhase R) : (s.setWait w p).inner = s.inner := rfl

@[simp] theorem setWait_entries (w : WaitId) (p : WaitPhase R) : (s.setWait w p).entries = s.entries := rfl

@[simp] theorem setWait_guards (w : WaitId) (p : WaitPhase R) : (s.setWait w p).guards = s.guards := rfl

@[simp] theorem setWait_cloned (w : WaitId) (p : WaitPhase R) : (s.setWait w p).cloned = s.cloned := rfl

@[simp] theorem setWait_nextEntry (w : WaitId) (p : WaitPhase R) :
    (s.setWait w p).nextEntry = s.nextEntry := rfl

/-- The entry was made by a leader's `acquire key` whose guard has neither
finished `release` in `complete` nor had its spawned release run. -/
def Unreleased (s : Inflight K R) (key : K) (entry : EntryId) : Prop :=
  ∃ guard, s.guards entry = some guard ∧ guard.key = key ∧ guard.phase.released = false

/-- The ownership invariant. -/
structure Owned (s : Inflight K R) : Prop where
  fresh : ∀ e, s.nextEntry ≤ e → s.guards e = none
  allocated : ∀ e, e < s.nextEntry → ∃ guard, s.guards e = some guard
  mapped : ∀ key e, s.inner key = some e ↔ s.Unreleased key e
  calls : ∀ e guard, s.guards e = some guard → (s.entries e).notify.calls = guard.phase.released.toNat
  known : ∀ e, s.cloned e = true → ∃ guard, s.guards e = some guard
  unused : ∀ w, s.nextWait ≤ w → s.waits w = none

theorem owned_new : (Inflight.new : Inflight K R).Owned where
  fresh := by intro e _; rfl
  allocated := by intro e bound; simp [new] at bound
  mapped := by intro key e; simp [new, Unreleased]
  calls := by intro e guard present; simp [new] at present
  known := by intro e cloned; simp [new] at cloned
  unused := by intro w _; rfl

namespace Owned

theorem lt_next (owned : s.Owned) (present : s.guards e = some guard) : e < s.nextEntry := by
  by_contra beyond
  simp [owned.fresh e (Nat.le_of_not_lt beyond)] at present

theorem inner_of_unreleased (owned : s.Owned) (present : s.guards e = some guard)
    (unreleased : guard.phase.released = false) : s.inner guard.key = some e :=
  (owned.mapped guard.key e).mpr ⟨guard, present, rfl, unreleased⟩

/-- The map is a function, so a key has one unreleased leader at most. -/
theorem unreleased_unique (owned : s.Owned) (first : s.Unreleased key e) (second : s.Unreleased key e') :
    e = e' := by
  have mapped := (owned.mapped key e).mpr first
  have mapped' := (owned.mapped key e').mpr second
  exact Option.some.inj (mapped.symm.trans mapped')

theorem wait_lt_next (owned : s.Owned) (present : s.waits w = some phase) : w < s.nextWait := by
  by_contra beyond
  simp [owned.unused w (Nat.le_of_not_lt beyond)] at present

theorem setWait (owned : s.Owned) (present : s.waits w = some phase) (p : WaitPhase R) :
    (s.setWait w p).Owned := by
  refine ⟨owned.fresh, owned.allocated, owned.mapped, owned.calls, owned.known, ?_⟩
  intro other beyond
  have different : other ≠ w := by
    rintro rfl; exact Nat.not_le_of_lt (owned.wait_lt_next present) beyond
  simpa [Inflight.setWait, different] using owned.unused other beyond

theorem callWait (owned : s.Owned) (e : EntryId) : (s.callWait e).2.Owned := by
  refine ⟨owned.fresh, owned.allocated, owned.mapped, owned.calls, owned.known, ?_⟩
  intro other beyond
  have later : s.nextWait < other := Nat.lt_of_succ_le beyond
  simpa [Inflight.callWait, Inflight.setWait, Nat.ne_of_gt later] using
    owned.unused other (Nat.le_of_lt later)

/-- Moves of a guard before its release touch neither the map nor a notify. -/
theorem setPhase (owned : s.Owned) (present : s.guards e = some guard)
    (unreleased : guard.phase.released = false) (stays : p.released = false) :
    (s.setPhase e p).Owned := by
  have guards := setPhase_guards present p
  refine ⟨?_, ?_, ?_, ?_, ?_, owned.unused⟩
  · intro other beyond
    have different : other ≠ e := by
      rintro rfl; exact Nat.not_le_of_lt (owned.lt_next present) beyond
    simpa [guards, different] using owned.fresh other beyond
  · intro other bound
    by_cases same : other = e
    · simp [guards, same]
    · simpa [guards, same] using owned.allocated other bound
  · intro key other
    rw [setPhase_inner, owned.mapped key other]
    by_cases same : other = e
    · subst same; simp [Unreleased, guards, present, unreleased, stays]
    · simp [Unreleased, guards, same]
  · intro other moved found
    by_cases same : other = e
    · subst same
      have result : { guard with phase := p } = moved := by simpa [guards] using found
      subst result
      simpa [unreleased, stays] using owned.calls other guard present
    · exact owned.calls other moved (by simpa [guards, same] using found)
  · intro other cloned
    by_cases same : other = e
    · simp [guards, same]
    · simpa [guards, same] using owned.known other cloned

theorem storeResult (owned : s.Owned) (present : s.guards e = some guard)
    (unreleased : guard.phase.released = false) (result : R) : (s.storeResult e result).Owned := by
  have moved := owned.setPhase present unreleased (p := .releasing) rfl
  refine ⟨moved.fresh, moved.allocated, moved.mapped, ?_, moved.known, moved.unused⟩
  intro other guard found
  have kept := moved.calls other guard found
  by_cases same : other = e
  · subst same; simpa [Inflight.storeResult] using kept
  · simpa [Inflight.storeResult, same] using kept

variable [DecidableEq K]

theorem acquire (owned : s.Owned) (key : K) : (s.acquire key).2.Owned := by
  unfold Inflight.acquire
  cases vacant : s.inner key with
  | some existing =>
    obtain ⟨guard, present, _⟩ := (owned.mapped key existing).mp vacant
    refine ⟨owned.fresh, owned.allocated, owned.mapped, owned.calls, ?_, owned.unused⟩
    intro e cloned
    by_cases same : e = existing
    · exact ⟨guard, same ▸ present⟩
    · exact owned.known e (by simpa [same] using cloned)
  | none =>
    have unused := owned.fresh s.nextEntry (Nat.le_refl _)
    refine ⟨?_, ?_, ?_, ?_, ?_, owned.unused⟩
    · intro e beyond
      have later : s.nextEntry < e := Nat.lt_of_succ_le beyond
      simpa [Nat.ne_of_gt later] using owned.fresh e (Nat.le_of_lt later)
    · intro e bound
      by_cases same : e = s.nextEntry
      · simp [same]
      · simpa [same] using owned.allocated e (Nat.lt_of_le_of_ne (Nat.le_of_lt_succ bound) same)
    · intro other e
      by_cases same : e = s.nextEntry
      · subst same
        by_cases key_ : other = key
        · subst key_; simp [Unreleased, GuardPhase.released]
        · have absent : s.inner other ≠ some s.nextEntry := by
            intro held
            obtain ⟨guard, present, _⟩ := (owned.mapped _ _).mp held
            simp [unused] at present
          simp [Unreleased, key_, absent, Ne.symm key_]
      · by_cases key_ : other = key
        · subst key_
          have free : ¬ s.Unreleased other e := by
            intro held
            simp [(owned.mapped _ _).mpr held] at vacant
          simpa [Unreleased, same, Ne.symm same] using free
        · simpa [Unreleased, key_, same] using owned.mapped other e
    · intro e guard present
      by_cases same : e = s.nextEntry
      · subst same
        have made : (⟨key, .held⟩ : InflightGuard K R) = guard := by simpa using present
        subst made
        simp [Notify.new, GuardPhase.released]
      · simpa [same] using owned.calls e guard (by simpa [same] using present)
    · intro e cloned
      obtain ⟨guard, present⟩ := owned.known e cloned
      have different : e ≠ s.nextEntry := Nat.ne_of_lt (owned.lt_next present)
      exact ⟨guard, by simpa [different] using present⟩

/-- The pointer check always succeeds for a guard not yet released. -/
theorem finishRelease_eq (owned : s.Owned) (present : s.guards e = some guard)
    (unreleased : guard.phase.released = false) :
    s.finishRelease e =
      { s with
        inner := Function.update s.inner guard.key none
        entries := Function.update s.entries e
          { s.entries e with notify := (s.entries e).notify.notifyWaiters }
        guards := Function.update s.guards e (some { guard with phase := .finished }) } := by
  simp [finishRelease, present, release, owned.inner_of_unreleased present unreleased, Inflight.setPhase]

theorem finishRelease (owned : s.Owned) (present : s.guards e = some guard)
    (unreleased : guard.phase.released = false) : (s.finishRelease e).Owned := by
  rw [owned.finishRelease_eq present unreleased]
  refine ⟨?_, ?_, ?_, ?_, ?_, owned.unused⟩
  · intro other beyond
    have different : other ≠ e := by
      rintro rfl; exact Nat.not_le_of_lt (owned.lt_next present) beyond
    simpa [different] using owned.fresh other beyond
  · intro other bound
    by_cases same : other = e
    · simp [same]
    · simpa [same] using owned.allocated other bound
  · intro key other
    by_cases same : other = e
    · subst same
      have gone : Function.update s.inner guard.key none key ≠ some other := by
        intro held
        by_cases key_ : key = guard.key
        · simp [key_] at held
        · obtain ⟨again, found, name, _⟩ := (owned.mapped key other).mp (by simpa [key_] using held)
          have identical : again = guard := Option.some.inj (found.symm.trans present)
          exact key_ (by rw [← name, identical])
      simpa [Unreleased, GuardPhase.released] using gone
    · by_cases key_ : key = guard.key
      · subst key_
        have free : ¬ s.Unreleased guard.key other := by
          intro held
          exact same (owned.unreleased_unique held ⟨guard, present, rfl, unreleased⟩)
        simpa [Unreleased, same] using free
      · simpa [Unreleased, key_, same] using owned.mapped key other
  · intro other moved found
    by_cases same : other = e
    · subst same
      have result : { guard with phase := .finished } = moved := by simpa using found
      subst result
      have before := owned.calls other guard present
      simp [unreleased] at before
      simp [Notify.notifyWaiters, GuardPhase.released, before]
    · simpa [same] using owned.calls other moved (by simpa [same] using found)
  · intro other cloned
    by_cases same : other = e
    · simp [same]
    · simpa [same] using owned.known other cloned

/-- Every action keeps ownership, by the lemma of the operation it performs. -/
theorem step (owned : s.Owned) (taken : s.step action = some t) : t.Owned := by
  cases action with
  | acquire key =>
    cases taken
    exact owned.acquire key
  | complete e result =>
    simp only [Inflight.step] at taken
    split at taken <;> cases taken
    rename_i key present
    exact owned.setPhase present rfl rfl
  | store e =>
    simp only [Inflight.step] at taken
    split at taken <;> cases taken
    rename_i key result present
    exact owned.storeResult present rfl result
  | release e =>
    simp only [Inflight.step] at taken
    split at taken <;> cases taken
    rename_i key present
    exact owned.finishRelease present rfl
  | dropGuard e =>
    simp only [Inflight.step] at taken
    split at taken <;> cases taken
    all_goals
      rename_i present
      exact owned.setPhase present rfl rfl
  | spawned e =>
    simp only [Inflight.step] at taken
    split at taken <;> cases taken
    rename_i key present
    exact owned.finishRelease present rfl
  | wait e =>
    simp only [Inflight.step] at taken
    split at taken <;> cases taken
    exact owned.callWait e
  | wake w =>
    simp only [Inflight.step, wake] at taken
    split at taken <;> try cases taken
    rename_i suspended
    split at taken <;> cases taken
    exact owned.setWait suspended _
  | read w =>
    simp only [Inflight.step, readResult] at taken
    split at taken <;> cases taken
    rename_i locking
    exact owned.setWait locking _
  | cancelWait w =>
    simp only [Inflight.step, cancelWait] at taken
    split at taken <;> cases taken
    all_goals
      rename_i suspended
      exact owned.setWait suspended _

theorem run (owned : s.Owned) (reach : (system K R).Reaches allowed s t) : t.Owned :=
  reach.invariant owned (fun _ _ _ owned _ taken => owned.step taken)

theorem reaches (reach : (system K R).Reaches allowed Inflight.new s) : s.Owned := owned_new.run reach

end Owned
end Inflight
end Cachegate
