import Cachegate.Inflight.Ownership

/-! What a step of the inflight map does to one guard with its entry, and to one
call of `wait`; and what no step does to a guard that is dropped or released. -/

namespace Cachegate.Inflight

open Transition

variable {K R : Type} {s t : Inflight K R}

/-- A guard after a step, by how it got there. Its entry's result changes only
when `complete` stores. -/
inductive GuardStep (s t : Inflight K R) (e : EntryId) : InflightAction K R → InflightGuard K R → Prop
  | made (absent : s.guards e = none) (empty : (t.entries e).result = none) :
      GuardStep s t e (.acquire key) ⟨key, .held⟩
  | kept (present : s.guards e = some found) (same : (t.entries e).result = (s.entries e).result)
      (unstored : action ≠ .store e) (undropped : action ≠ .dropGuard e) : GuardStep s t e action found
  | completing (present : s.guards e = some ⟨key, .held⟩) (same : (t.entries e).result = (s.entries e).result) :
      GuardStep s t e (.complete e result) ⟨key, .completing result⟩
  | stored (present : s.guards e = some ⟨key, .completing result⟩) (now : (t.entries e).result = some result) :
      GuardStep s t e (.store e) ⟨key, .releasing⟩
  | dropped (present : s.guards e = some ⟨key, phase⟩) (unreleased : phase.released = false)
      (same : (t.entries e).result = (s.entries e).result) :
      GuardStep s t e (.dropGuard e) ⟨key, .dropped⟩
  | released (present : s.guards e = some ⟨key, phase⟩) (late : phase = .releasing ∨ phase = .dropped)
      (same : (t.entries e).result = (s.entries e).result) (releases : action.Releases e) :
      GuardStep s t e action ⟨key, .finished⟩

/-- A call of `wait` after a step, by how it got there. -/
inductive WaitStep (s : Inflight K R) (w : WaitId) : InflightAction K R → WaitPhase R → Prop
  | kept (present : s.waits w = some phase) : WaitStep s w action phase
  | called (cloned : s.cloned e = true) : WaitStep s w (.wait e) (.notified e (s.entries e).notify.notified)
  | woken (suspended : s.waits w = some (.notified e future)) (ready : future.ready (s.entries e).notify = true) :
      WaitStep s w (.wake w) (.locking e)
  | read (locking : s.waits w = some (.locking e)) : WaitStep s w (.read w) (.returned e (s.entries e).result)
  | cancelled (e : EntryId) : WaitStep s w (.cancelWait w) (.cancelled e)

variable {guard later : InflightGuard K R}

/-- A guard after one guard has changed its phase. -/
theorem guards_setPhase (present : s.guards e = some guard) (p : GuardPhase R)
    (found : (s.setPhase e p).guards other = some later) :
    other = e ∧ later = { guard with phase := p } ∨ other ≠ e ∧ s.guards other = some later := by
  rw [setPhase_guards present p] at found
  by_cases same : other = e
  · subst same
    rw [Function.update_self] at found
    exact .inl ⟨rfl, (Option.some.inj found).symm⟩
  · rw [Function.update_of_ne same] at found
    exact .inr ⟨same, found⟩

/-- A call of `wait` after one call has changed its phase. -/
theorem waits_setWait (found : (s.setWait w p).waits other = some phase) :
    other = w ∧ phase = p ∨ other ≠ w ∧ s.waits other = some phase := by
  by_cases same : other = w
  · left
    exact ⟨same, by simpa [setWait, same, eq_comm] using found⟩
  · right
    exact ⟨same, by simpa [setWait, same] using found⟩

variable [DecidableEq K]

/-- The release of a guard, by which its own entry is notified. -/
theorem GuardStep.of_finishRelease (owned : s.Owned) (present : s.guards e = some ⟨key, phase⟩)
    (late : phase = .releasing ∨ phase = .dropped) {action : InflightAction K R} (releases : action.Releases e)
    (found : (s.finishRelease e).guards other = some later) :
    GuardStep s (s.finishRelease e) other action later := by
  have unreleased : phase.released = false := by rcases late with rfl | rfl <;> rfl
  rw [owned.finishRelease_eq present unreleased] at found ⊢
  by_cases same : other = e
  · subst same
    have now : ⟨key, .finished⟩ = later := by simpa using found
    subst now
    exact .released present late (by simp) releases
  · refine .kept (by simpa [same] using found) (by simp [same]) ?_ ?_
    · rintro rfl
      exact releases
    · rintro rfl
      exact releases

theorem guard_step (owned : s.Owned) (taken : s.step action = some t) (found : t.guards e = some guard) :
    GuardStep s t e action guard := by
  cases action with
  | acquire key =>
    cases taken
    unfold acquire at found ⊢
    cases vacant : s.inner key with
    | some existing =>
      simp only [vacant] at found
      exact .kept found rfl (by simp) (by simp)
    | none =>
      simp only [vacant] at found
      by_cases same : e = s.nextEntry
      · subst same
        have made : ⟨key, .held⟩ = guard := by simpa using found
        subst made
        exact .made (owned.fresh _ (Nat.le_refl _)) (by simp)
      · exact .kept (by simpa [same] using found) (by simp [same]) (by simp) (by simp)
  | complete moving result =>
    simp only [step] at taken
    split at taken <;> cases taken
    rename_i key present
    rcases guards_setPhase present (.completing result) found with ⟨rfl, rfl⟩ | ⟨_, before⟩
    · exact .completing present rfl
    · exact .kept before rfl (by simp) (by simp)
  | store moving =>
    simp only [step] at taken
    split at taken <;> cases taken
    rename_i key result present
    rcases guards_setPhase present .releasing found with ⟨rfl, rfl⟩ | ⟨different, before⟩
    · exact .stored present (by simp [storeResult])
    · refine .kept before (by simp [storeResult, different]) ?_ (by simp)
      rintro ⟨⟩
      exact different rfl
  | dropGuard moving =>
    have drops (before : InflightGuard K R) (present : s.guards moving = some before)
        (unreleased : before.phase.released = false) (found : (s.dropGuard moving).guards e = some guard) :
        GuardStep s (s.dropGuard moving) e (.dropGuard moving) guard := by
      rcases guards_setPhase present .dropped found with ⟨rfl, rfl⟩ | ⟨different, before⟩
      · exact .dropped present unreleased rfl
      · refine .kept before rfl (by simp) ?_
        rintro ⟨⟩
        exact different rfl
    simp only [step] at taken
    split at taken <;> cases taken
    all_goals
      rename_i present
      exact drops _ present rfl found
  | release moving =>
    simp only [step] at taken
    split at taken <;> cases taken
    rename_i key present
    have releases : (InflightAction.release moving : InflightAction K R).Releases moving := rfl
    exact .of_finishRelease owned present (.inl rfl) releases found
  | spawned moving =>
    simp only [step] at taken
    split at taken <;> cases taken
    rename_i key present
    have releases : (InflightAction.spawned moving : InflightAction K R).Releases moving := rfl
    exact .of_finishRelease owned present (.inr rfl) releases found
  | wait entry =>
    simp only [step] at taken
    split at taken <;> cases taken
    exact .kept found rfl (by simp) (by simp)
  | wake w =>
    simp only [step, wake] at taken
    split at taken <;> try cases taken
    split at taken <;> cases taken
    exact .kept found rfl (by simp) (by simp)
  | read w =>
    simp only [step, readResult] at taken
    split at taken <;> cases taken
    exact .kept found rfl (by simp) (by simp)
  | cancelWait w =>
    simp only [step, cancelWait] at taken
    split at taken <;> cases taken
    all_goals exact .kept found rfl (by simp) (by simp)

theorem wait_step (owned : s.Owned) (taken : s.step action = some t) (found : t.waits w = some phase) :
    WaitStep s w action phase := by
  cases action with
  | acquire key =>
    cases taken
    unfold acquire at found
    split at found <;> exact .kept found
  | complete moving result | store moving | dropGuard moving =>
    simp only [step] at taken
    split at taken <;> cases taken
    all_goals exact .kept found
  | release moving | spawned moving =>
    simp only [step] at taken
    split at taken <;> cases taken
    rename_i key present
    rw [owned.finishRelease_eq present rfl] at found
    exact .kept found
  | wait entry =>
    simp only [step] at taken
    split at taken <;> cases taken
    rename_i cloned
    have moved : (s.setWait s.nextWait (.notified entry (s.entries entry).notify.notified)).waits w = some phase :=
      found
    rcases waits_setWait moved with ⟨rfl, rfl⟩ | ⟨_, before⟩
    · exact .called cloned
    · exact .kept before
  | wake moving =>
    simp only [step, wake] at taken
    split at taken <;> try cases taken
    split at taken <;> cases taken
    rename_i entry future suspended ready
    rcases waits_setWait found with ⟨rfl, rfl⟩ | ⟨_, before⟩
    · exact .woken suspended ready
    · exact .kept before
  | read moving =>
    simp only [step, readResult] at taken
    split at taken <;> cases taken
    rename_i entry locking
    rcases waits_setWait found with ⟨rfl, rfl⟩ | ⟨_, before⟩
    · exact .read locking
    · exact .kept before
  | cancelWait moving =>
    simp only [step, cancelWait] at taken
    split at taken <;> cases taken
    all_goals
      rcases waits_setWait found with ⟨rfl, rfl⟩ | ⟨_, before⟩
      · exact .cancelled _
      · exact .kept before

/-- A guard once made stays in the table. -/
theorem step_guards (owned : s.Owned) (taken : s.step action = some t) (present : s.guards e = some guard) :
    ∃ later, t.guards e = some later := by
  have owned' := owned.step taken
  refine owned'.allocated e (Nat.lt_of_lt_of_le (owned.lt_next present) ?_)
  cases action with
  | acquire key =>
    cases taken
    unfold acquire
    split
    · exact Nat.le_refl _
    · exact Nat.le_succ _
  | release guard_ | spawned guard_ =>
    simp only [step] at taken
    split at taken <;> cases taken
    rename_i key found
    exact Nat.le_of_eq (congrArg Inflight.nextEntry (owned.finishRelease_eq found rfl)).symm
  | complete guard_ result | store guard_ | dropGuard guard_ | wait entry =>
    simp only [step] at taken
    split at taken <;> cases taken
    all_goals exact Nat.le_refl _
  | wake w =>
    simp only [step, wake] at taken
    split at taken <;> try cases taken
    split at taken <;> cases taken
    exact Nat.le_refl _
  | read w =>
    simp only [step, readResult] at taken
    split at taken <;> cases taken
    exact Nat.le_refl _
  | cancelWait w =>
    simp only [step, cancelWait] at taken
    split at taken <;> cases taken
    all_goals exact Nat.le_refl _

/-- A released guard and its entry's result stay as they are. -/
theorem finished_step (owned : s.Owned) (present : s.guards e = some ⟨key, .finished⟩)
    (taken : s.step action = some t) :
    t.guards e = some ⟨key, .finished⟩ ∧ (t.entries e).result = (s.entries e).result := by
  obtain ⟨later, found⟩ := step_guards owned taken present
  cases guard_step owned taken found with
  | kept before same =>
    cases present.symm.trans before
    exact ⟨found, same⟩
  | made absent => cases absent.symm.trans present
  | completing before => cases present.symm.trans before
  | stored before => cases present.symm.trans before
  | dropped before unreleased =>
    cases present.symm.trans before
    cases unreleased
  | released before late =>
    cases present.symm.trans before
    rcases late with late | late <;> cases late

theorem finished_run (owned : s.Owned) (present : s.guards e = some ⟨key, .finished⟩)
    (run : (system K R).Reaches allowed s t) : t.guards e = some ⟨key, .finished⟩ := by
  apply run.invariantWith (motive := fun s => s.guards e = some ⟨key, .finished⟩) (fun _ prior => owned.run prior)
    present
  intro source action next owned _ present _ taken
  exact (finished_step owned present taken).1

/-- A dropped guard waits for its release. -/
theorem dropped_run (owned : s.Owned) (present : s.guards e = some ⟨key, .dropped⟩)
    (run : (system K R).Reaches allowed s t) :
    t.guards e = some ⟨key, .dropped⟩ ∨ t.guards e = some ⟨key, .finished⟩ := by
  apply run.invariantWith
    (motive := fun s => s.guards e = some ⟨key, .dropped⟩ ∨ s.guards e = some ⟨key, .finished⟩)
    (fun _ prior => owned.run prior) (.inl present)
  rintro source action next owned - (waiting | ended) - taken
  · obtain ⟨later, found⟩ := step_guards owned taken waiting
    cases guard_step owned taken found with
    | kept before | dropped before | released before =>
      cases waiting.symm.trans before
      simp [found]
    | made absent => cases absent.symm.trans waiting
    | completing before | stored before => cases waiting.symm.trans before
  · exact .inr (finished_step owned ended taken).1

omit [DecidableEq K] in
/-- A call of `wait` is woken by the release of its entry's guard, and by
nothing else. -/
theorem finished_of_ready (owned : s.Owned) (present : s.guards e = some guard) {future : Notified}
    (ready : future.ready (s.entries e).notify = true) : guard = ⟨guard.key, .finished⟩ := by
  have notified : future.seen < guard.phase.released.toNat := by
    simpa [Notified.ready, owned.calls e guard present] using ready
  obtain ⟨key, phase⟩ := guard
  cases phase with
  | finished => rfl
  | held | completing | releasing | dropped => simp [GuardPhase.released] at notified

end Cachegate.Inflight
