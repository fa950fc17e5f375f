import Cachegate.Inflight.Wakeup
import Cachegate.Library.History

/-! What the calls of `wait` on one entry return, whatever is cancelled: the
last word of its guard, which is the same for all of them. -/

namespace Cachegate.Inflight

open Transition

variable {K R : Type} {s t : Inflight K R} {guard : InflightGuard K R}

/-- The steps taken on the way to a state, the latest first. -/
abbrev Past (K R : Type) := List (Inflight K R × InflightAction K R)

variable {past : Past K R} {e : EntryId} {r : R}

/-- `complete` has stored this result, and the entry was not yet released. -/
def ResultStored (past : Past K R) (e : EntryId) (r : R) : Prop :=
  ∃ before key, (before, .store e) ∈ past ∧ before.guards e = some ⟨key, .completing r⟩ ∧ before.Mapped e

/-- The guard was dropped, and no result stored. -/
def DroppedUnstored (past : Past K R) (e : EntryId) : Prop :=
  (∃ before, (before, .dropGuard e) ∈ past) ∧ ∀ before, (before, .store e) ∉ past

/-- What the phase of a guard says about its entry's result, and about how the
guard got there. -/
def Tells (past : Past K R) (e : EntryId) (result : Option R) : GuardPhase R → Prop
  | .held | .completing _ => result = none
  | .releasing => result.isSome
  | .dropped => ∃ before, (before, .dropGuard e) ∈ past
  | .finished => result = none → ∃ before, (before, .dropGuard e) ∈ past

/-- The results are the ones that were stored. -/
structure Chronicle (past : Past K R) (s : Inflight K R) : Prop where
  tells : ∀ e guard, s.guards e = some guard → Tells past e (s.entries e).result guard.phase
  results : ∀ e guard r, s.guards e = some guard → ((s.entries e).result = some r ↔ ResultStored past e r)

/-- A call of `wait` was made on an entry with a guard; it is woken once that is
released, and returns the result that the entry then has. -/
def Reads (s : Inflight K R) : WaitPhase R → Prop
  | .notified e _ => ∃ guard, s.guards e = some guard
  | .locking e => ∃ key, s.guards e = some ⟨key, .finished⟩
  | .returned e value => (∃ key, s.guards e = some ⟨key, .finished⟩) ∧ value = (s.entries e).result
  | .cancelled _ => True

theorem ResultStored.mono (stored : ResultStored past e r) (latest : Inflight K R × InflightAction K R) :
    ResultStored (latest :: past) e r := by
  obtain ⟨before, key, listed, rest⟩ := stored
  exact ⟨before, key, List.mem_cons_of_mem latest listed, rest⟩

/-- Other steps store nothing in this entry. -/
theorem stored_cons {source : Inflight K R} {action : InflightAction K R} (other : action ≠ .store e) :
    ResultStored ((source, action) :: past) e r ↔ ResultStored past e r := by
  constructor
  · rintro ⟨before, key, listed, rest⟩
    rcases List.mem_cons.mp listed with same | earlier
    · cases same
      exact absurd rfl other
    · exact ⟨before, key, earlier, rest⟩
  · intro stored
    exact stored.mono _

theorem results_cons {source : Inflight K R} {action : InflightAction K R} {result : Option R}
    (other : action ≠ .store e) (before : ∀ r, result = some r ↔ ResultStored past e r) :
    ∀ r, result = some r ↔ ResultStored ((source, action) :: past) e r := by
  intro r
  rw [stored_cons other]
  exact before r

theorem Tells.mono {result : Option R} {phase : GuardPhase R} (tells : Tells past e result phase)
    (latest : Inflight K R × InflightAction K R) : Tells (latest :: past) e result phase := by
  have dropped (before : ∃ before, (before, .dropGuard e) ∈ past) :
      ∃ before, (before, .dropGuard e) ∈ latest :: past := by
    obtain ⟨before, listed⟩ := before
    exact ⟨before, List.mem_cons_of_mem latest listed⟩
  cases phase with
  | held | completing | releasing => exact tells
  | dropped => exact dropped tells
  | finished => exact fun empty => dropped (tells empty)

section Runs

variable [DecidableEq K]

/-- Only a guard in `complete` stores. -/
theorem store_completing (taken : s.step (.store e) = some t) :
    ∃ key r, s.guards e = some ⟨key, .completing r⟩ := by
  simp only [step] at taken
  split at taken
  · rename_i key result present
    exact ⟨key, result, present⟩
  · cases taken

theorem Chronicle.step (chronicle : Chronicle past s) (owned : s.Owned)
    (unstored : s.guards e = none → ∀ r, ¬ ResultStored past e r)
    (taken : s.step action = some t) (found : t.guards e = some guard) :
    Tells ((s, action) :: past) e (t.entries e).result guard.phase ∧
      ∀ r, (t.entries e).result = some r ↔ ResultStored ((s, action) :: past) e r := by
  cases guard_step owned taken found with
  | made absent empty =>
    rw [empty]
    refine ⟨rfl, results_cons nofun ?_⟩
    intro r
    exact iff_of_false nofun (unstored absent r)
  | kept present same foreign =>
    rw [same]
    exact ⟨(chronicle.tells e _ present).mono _, results_cons foreign fun r => chronicle.results e _ r present⟩
  | completing present same =>
    rw [same]
    exact ⟨chronicle.tells e _ present, results_cons nofun fun r => chronicle.results e _ r present⟩
  | @stored key result present now =>
    have mapped : s.Mapped e := (owned.mapped_iff present).mpr rfl
    have empty : (s.entries e).result = none := chronicle.tells e _ present
    refine ⟨by rw [now]; rfl, ?_⟩
    intro r
    rw [now]
    constructor
    · rintro ⟨⟩
      exact ⟨s, key, List.mem_cons_self, present, mapped⟩
    · rintro ⟨before, key', listed, completing, _⟩
      rcases List.mem_cons.mp listed with latest | earlier
      · cases latest
        cases present.symm.trans completing
        rfl
      · have stored : (s.entries e).result = some r :=
          (chronicle.results e _ r present).mpr ⟨before, key', earlier, completing, ‹_›⟩
        cases empty.symm.trans stored
  | dropped present _ same =>
    rw [same]
    exact ⟨⟨s, List.mem_cons_self⟩, results_cons nofun fun r => chronicle.results e _ r present⟩
  | released present late same releases =>
    have unstoring : action ≠ .store e := by
      rintro rfl
      exact releases
    rw [same]
    constructor
    · intro empty
      have told := chronicle.tells e _ present
      rcases late with rfl | rfl
      · simp [Tells, empty] at told
      · obtain ⟨before, listed⟩ := told
        exact ⟨before, List.mem_cons_of_mem _ listed⟩
    · exact results_cons unstoring fun r => chronicle.results e _ r present

theorem chronicle_history (history : (system K R).History System.Always new past s) : Chronicle past s := by
  have both : Chronicle past s ∧ ∀ e r, ResultStored past e r → ∃ guard, s.guards e = some guard := by
    refine history.invariantWith (motive := fun past s => Chronicle past s ∧ ∀ e r, ResultStored past e r →
      ∃ guard, s.guards e = some guard) (fun _ prior => Owned.reaches prior) ?_ ?_
    · refine ⟨⟨nofun, nofun⟩, ?_⟩
      rintro e r ⟨before, key, listed, _⟩
      cases listed
    · rintro past source action next owned ⟨chronicle, known⟩ - taken
      have unstored (e : EntryId) (absent : source.guards e = none) (r : R) : ¬ ResultStored past e r := by
        intro stored
        obtain ⟨guard, present⟩ := known e r stored
        cases absent.symm.trans present
      have kept {e : EntryId} {guard : InflightGuard K R} (present : source.guards e = some guard) :
          ∃ later, next.guards e = some later := step_guards owned taken present
      have stepped {e : EntryId} {guard : InflightGuard K R} (found : next.guards e = some guard) :=
        chronicle.step owned (unstored e) taken found
      refine ⟨⟨fun e guard found => (stepped found).1, fun e guard r found => (stepped found).2 r⟩, ?_⟩
      rintro e r ⟨before, key, listed, completing, mapped⟩
      rcases List.mem_cons.mp listed with latest | earlier
      · cases latest
        exact kept completing
      · obtain ⟨guard, present⟩ := known e r ⟨before, key, earlier, completing, mapped⟩
        exact kept present
  exact both.1

theorem Reads.step {phase : WaitPhase R} (reads : Reads s phase) (owned : s.Owned) (taken : s.step action = some t) :
    Reads t phase := by
  cases phase with
  | notified e =>
    obtain ⟨guard, present⟩ := reads
    exact step_guards owned taken present
  | locking e =>
    obtain ⟨key, present⟩ := reads
    exact ⟨key, (finished_step owned present taken).1⟩
  | returned e value =>
    obtain ⟨⟨key, present⟩, rfl⟩ := reads
    obtain ⟨kept, same⟩ := finished_step owned present taken
    exact ⟨⟨key, kept⟩, same.symm⟩
  | cancelled => trivial

theorem reads_reaches (reach : (system K R).Reaches allowed new s) :
    ∀ w phase, s.waits w = some phase → Reads s phase := by
  refine reach.invariantWith (motive := fun s => ∀ w phase, s.waits w = some phase → Reads s phase)
    (fun _ prior => Owned.reaches prior) nofun ?_
  intro source action next owned _ reads _ (taken : source.step action = some next) w phase found
  have finished {e : EntryId} {guard : InflightGuard K R} (present : source.guards e = some guard) :
      guard = ⟨guard.key, .finished⟩ → next.guards e = some ⟨guard.key, .finished⟩ ∧
        (next.entries e).result = (source.entries e).result := by
    intro ended
    rw [ended] at present
    exact finished_step owned present taken
  cases wait_step owned taken found with
  | kept present => exact (reads w phase present).step owned taken
  | called cloned =>
    obtain ⟨guard, present⟩ := owned.known _ cloned
    exact step_guards owned taken present
  | woken suspended ready =>
    obtain ⟨guard, present⟩ := reads w _ suspended
    exact ⟨guard.key, (finished present (finished_of_ready owned present ready)).1⟩
  | read locking =>
    obtain ⟨key, present⟩ := reads w _ locking
    obtain ⟨kept, same⟩ := finished present rfl
    exact ⟨⟨key, kept⟩, same.symm⟩
  | cancelled => trivial

/-- What the calls of `wait` on one entry have in common. -/
structure OneOutcome (past : Past K R) (s : Inflight K R) : Prop where
  agree : ∀ w w' e value value', s.waits w = some (.returned e value) → s.waits w' = some (.returned e value') →
    value = value'
  some_iff : ∀ w e value r, s.waits w = some (.returned e value) → (value = some r ↔ ResultStored past e r)
  none_iff : ∀ w e value, s.waits w = some (.returned e value) → (value = none ↔ DroppedUnstored past e)
  /-- Where `None` is read, no result is stored later. -/
  final : ∀ w e t, s.waits w = some (.locking e) → s.readResult w = some (none, t) →
    ∀ later, (system K R).Reaches System.Always t later → later.step (.store e) = none

/-- Whatever is cancelled, all calls of `wait` on an entry that return have the
value that its leader stored, or `None` if the leader was dropped before. -/
theorem oneOutcome_history (past : Past K R) (s : Inflight K R)
    (history : (system K R).History System.Always new past s) : OneOutcome past s := by
  have owned : s.Owned := Owned.reaches history.reaches
  have reads := reads_reaches history.reaches
  have chronicle := chronicle_history history
  refine ⟨?_, ?_, ?_, ?_⟩
  · intro w w' e value value' returned returned'
    obtain ⟨_, rfl⟩ := reads w _ returned
    obtain ⟨_, rfl⟩ := reads w' _ returned'
    rfl
  · intro w e value r returned
    obtain ⟨⟨key, present⟩, rfl⟩ := reads w _ returned
    exact chronicle.results e _ r present
  · intro w e value returned
    obtain ⟨⟨key, present⟩, rfl⟩ := reads w _ returned
    constructor
    · intro empty
      refine ⟨chronicle.tells e _ present empty, ?_⟩
      intro before listed
      obtain ⟨next, reach, _, taken, _⟩ := history.passes listed
      obtain ⟨key', r, completing⟩ := store_completing taken
      have mapped : before.Mapped e := ((Owned.reaches reach).mapped_iff completing).mpr rfl
      have stored := (chronicle.results e _ r present).mpr ⟨before, key', listed, completing, mapped⟩
      cases empty.symm.trans stored
    · rintro ⟨_, unstored⟩
      cases result : (s.entries e).result with
      | none => rfl
      | some r =>
        obtain ⟨before, _, listed, _⟩ := (chronicle.results e _ r present).mp result
        exact absurd listed (unstored before)
  · intro w e t locking read later onward
    obtain ⟨key, present⟩ := reads w _ locking
    have step : s.step (.read w) = some t := by simp [Inflight.step, read]
    have ended := finished_run (owned.step step) (finished_step owned present step).1 onward
    simp [Inflight.step, ended]

/-- A leader is cancelled inside `complete` after it has stored, and a second
one before: the followers of the first read its result, the one of the second
reads `None`. -/
theorem oneOutcome_history_cancelled :
    ∃ past s, (system Nat Nat).History System.Always new past s ∧ OneOutcome past s ∧
      s.waits 0 = some (.returned 0 (some 5)) ∧ s.waits 1 = some (.returned 0 (some 5)) ∧
      s.waits 2 = some (.returned 1 none) := by
  have replayed : (system Nat Nat).run new
      [.acquire 7, .acquire 7, .wait 0, .wait 0, .complete 0 5, .store 0, .dropGuard 0, .spawned 0, .wake 0, .read 0,
        .wake 1, .read 1, .acquire 7, .acquire 7, .wait 1, .complete 1 6, .dropGuard 1, .spawned 1, .wake 2,
        .read 2] = some _ := rfl
  obtain ⟨past, history⟩ := (System.reaches_of_run replayed).history
  exact ⟨past, _, history, oneOutcome_history past _ history, rfl, rfl, rfl⟩

end Runs

end Cachegate.Inflight
