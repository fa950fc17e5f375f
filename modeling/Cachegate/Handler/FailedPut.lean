import Cachegate.Handler.Trace
import Cachegate.Handler.Uploads

/-! A PUT changes what it leaves behind in two places alone, after `finish` has
succeeded, and from there it can only answer 200. So one that fails has left no
trace, wherever it failed and whatever the other tasks did meanwhile. -/

namespace Cachegate

open Transition TaskPool

/-- `finish` has succeeded. -/
def PutAwait.Committed : PutAwait → Prop
  | .committed _ _ | .insert _ _ => True
  | .head _ | .init _ | .next _ _ _ _ | .abort _ | .aborted | .finish _ _ _ => False

/-- The PUT has answered 200, or cannot but do so. -/
def PutSucceeds : Phase PutAwait HandlerResult → Prop
  | .running at_ | .dropped at_ => at_.Committed
  | .returned result => statusOf result = .ok

/-- The body stream has not failed. -/
def Unbroken : Phase PutAwait HandlerResult → Prop
  | .running (.abort _) | .running .aborted | .dropped (.abort _) | .dropped .aborted => False
  | .running _ | .dropped _ => True
  | .returned result => statusOf result = .ok

/-- `finish` is under way. -/
def AtFinish : Phase PutAwait HandlerResult → Prop
  | .running (.finish _ _ _) | .dropped (.finish _ _ _) => True
  | .running _ | .dropped _ | .returned _ => False

/-- `finish` is not yet called: the body is still read, or its stream has failed. -/
def BeforeFinish : Phase PutAwait HandlerResult → Prop
  | .running at_ | .dropped at_ => ¬ at_.Committed ∧ ¬ AtFinish (.running at_)
  | .returned _ => False

section Steps

variable {cfg : AppConfig} {s s' : Shared} {phase phase' : Phase PutAwait HandlerResult}

theorem Spawned.unfinished (spawned : Spawned cfg s (.put request) s' task) :
    ∃ phase, task = .put request phase ∧ ¬ AtFinish phase := by
  cases spawned with
  | putInvalid | putUnknown | put => exact ⟨_, rfl, nofun⟩

/-- A segment that leaves something behind ends where the PUT succeeds. -/
theorem PutStep.traceless (step : PutStep cfg request s at_ reply s' phase) (failing : ¬ PutSucceeds phase) :
    Traceless s s' := by
  cases step with
  | committed => exact absurd trivial failing
  | inserted => exact absurd rfl failing
  | checked | opened | initFailed | chunk | ended | bodyFailed | aborted | abortFailed | refused | finishFailed
  | finishAborted | uncached | caching => exact ⟨rfl, rfl, rfl⟩

theorem PutStep.succeeds (step : PutStep cfg request s at_ reply s' phase) (committed : at_.Committed) :
    PutSucceeds phase := by
  cases step with
  | uncached | inserted => rfl
  | caching => trivial
  | checked | opened | initFailed | chunk | ended | bodyFailed | aborted | abortFailed | refused | committed
  | finishFailed | finishAborted => exact committed.elim

theorem PutMove.traceless (move : PutMove cfg request index s phase action s' phase')
    (failing : ¬ PutSucceeds phase') : Traceless s s' := by
  cases move with
  | polled step => exact step.traceless failing
  | dropped => exact .refl s
  | late landed =>
    cases landed with
    | opened | aborted => exact ⟨rfl, rfl, rfl⟩
    | committed => exact absurd trivial failing

theorem PutMove.succeeds (move : PutMove cfg request index s phase action s' phase')
    (succeeds : PutSucceeds phase) : PutSucceeds phase' := by
  cases move with
  | polled step => exact step.succeeds succeeds
  | dropped => exact succeeds
  | late landed => cases landed <;> exact succeeds.elim

theorem PutSucceeds.unbroken (succeeds : PutSucceeds phase) : Unbroken phase := by
  cases phase with
  | returned => exact succeeds
  | running at_ => cases at_ <;> trivial
  | dropped at_ => cases at_ <;> trivial

theorem AtFinish.unbroken (finishing : AtFinish phase) : Unbroken phase := by
  cases phase with
  | returned => exact finishing.elim
  | running at_ => cases at_ <;> trivial
  | dropped at_ => cases at_ <;> trivial

theorem PutMove.unbroken (move : PutMove cfg request index s phase action s' phase') (unbroken : Unbroken phase') :
    Unbroken phase := by
  cases move with
  | polled step =>
    cases step with
    | aborted | abortFailed | refused => cases unbroken
    | bodyFailed => exact unbroken.elim
    | checked | opened | initFailed | chunk | ended | committed | finishFailed
    | finishAborted | uncached | caching | inserted => trivial
  | @dropped at_ => cases at_ <;> trivial
  | late landed => cases landed <;> trivial

/-- A body stream that fails sends the handler to `abort`. -/
theorem PutMove.breaks (move : PutMove cfg request index s (.running (.next object upload rest loop))
    (.poll index .streamError) s' phase') : ¬ Unbroken phase' := by
  cases move with
  | polled step =>
    cases step with
    | bodyFailed => exact nofun

theorem PutMove.before (move : PutMove cfg request index s phase action s' phase') (before : BeforeFinish phase') :
    BeforeFinish phase := by
  cases move with
  | polled step =>
    cases step with
    | ended => exact absurd trivial before.2
    | committed | caching => exact absurd trivial before.1
    | checked | opened | chunk | bodyFailed | aborted => exact ⟨nofun, nofun⟩
    | initFailed | abortFailed | refused | finishFailed
    | finishAborted | uncached | inserted => exact before.elim
  | dropped => exact before
  | late landed =>
    cases landed with
    | opened | aborted => exact ⟨nofun, nofun⟩
    | committed => exact absurd trivial before.1

end Steps

section Runs

variable {cfg : AppConfig} {s t : Proxy} {phase phase' : Phase PutAwait HandlerResult} {index : Nat}
variable {past : ProxyPast}

/-- The body stream of this PUT failed. -/
def StreamFailed (past : ProxyPast) (index : Nat) : Prop :=
  ∃ source, (source, .poll index .streamError) ∈ past

/-- This PUT is in `finish`. -/
def Finishing (s : Proxy) (index : Nat) : Prop :=
  ∃ request phase, s.tasks index = some (.put request phase) ∧ AtFinish phase

/-- This PUT has called `finish`. -/
def FinishCalled (past : ProxyPast) (s : Proxy) (index : Nat) : Prop :=
  Finishing s index ∨ ∃ source action, (source, action) ∈ past ∧ Finishing source index

/-- What is known of the past of a PUT from the await point it has come to. -/
structure PutPast (cfg : AppConfig) (index : Nat) (past : ProxyPast) (s : Proxy)
    (phase : Phase PutAwait HandlerResult) : Prop where
  traceless : ¬ PutSucceeds phase → OwnTraceless cfg past index
  unbroken : Unbroken phase → ¬ StreamFailed past index
  before : BeforeFinish phase → ¬ FinishCalled past s index
  exclusive : StreamFailed past index → ¬ FinishCalled past s index

theorem finishing_iff (present : s.tasks index = some (.put request phase)) : Finishing s index ↔ AtFinish phase := by
  constructor
  · rintro ⟨request', phase', found, finishing⟩
    cases present.symm.trans found
    exact finishing
  · intro finishing
    exact ⟨request, phase, present, finishing⟩

theorem streamFailed_cons (failed : StreamFailed ((s, action) :: past) index) :
    action = .poll index .streamError ∨ StreamFailed past index := by
  obtain ⟨source, listed⟩ := failed
  rcases List.mem_cons.mp listed with latest | earlier
  · cases latest
    exact .inl rfl
  · exact .inr ⟨source, earlier⟩

theorem finishCalled_cons (called : FinishCalled ((s, action) :: past) t index) :
    Finishing t index ∨ FinishCalled past s index := by
  rcases called with finishing | ⟨source, label, listed, finishing⟩
  · exact .inl finishing
  · right
    rcases List.mem_cons.mp listed with latest | earlier
    · cases latest
      exact .inl finishing
    · exact .inr ⟨source, label, earlier, finishing⟩

/-- Only the read of a chunk can find the body stream broken. -/
theorem streamError_next (present : s.tasks index = some (.put request phase))
    (taken : (proxy cfg).step s (.poll index .streamError) = some t) :
    ∃ object upload rest loop, phase = .running (.next object upload rest loop) := by
  obtain ⟨task, shared, task', child, found, polled, _⟩ := Program.step_poll taken
  cases present.symm.trans found
  cases phase with
  | running at_ =>
    cases at_ with
    | next object upload rest loop => exact ⟨object, upload, rest, loop, rfl⟩
    | head | init | abort | aborted | finish | committed | insert => simp [proxy, Task.poll, putPoll] at polled
  | returned => simp [proxy, Task.poll] at polled
  | dropped at_ => cases at_ <;> simp [proxy, Task.poll] at polled

/-- The step of another task tells nothing new about this PUT. -/
theorem PutPast.other (known : PutPast cfg index past s phase) (present : s.tasks index = some (.put request phase))
    (kept : t.tasks index = some (.put request phase)) (taken : (proxy cfg).step s action = some t)
    (untouched : ¬ action.Touches index) : PutPast cfg index ((s, action) :: past) t phase := by
  have failed (failed : StreamFailed ((s, action) :: past) index) : StreamFailed past index := by
    rcases streamFailed_cons failed with rfl | earlier
    · exact absurd rfl untouched
    · exact earlier
  have called (called : FinishCalled ((s, action) :: past) t index) : FinishCalled past s index := by
    rcases finishCalled_cons called with now | earlier
    · left
      rwa [finishing_iff present, ← finishing_iff kept]
    · exact earlier
  refine ⟨?_, ?_, ?_, ?_⟩
  · intro failing
    exact (known.traceless failing).cons taken fun touches => absurd touches untouched
  · intro unbroken broken
    exact known.unbroken unbroken (failed broken)
  · intro before finished
    exact known.before before (called finished)
  · intro broken finished
    exact known.exclusive (failed broken) (called finished)

theorem PutPast.own (known : PutPast cfg index past s phase) (present : s.tasks index = some (.put request phase))
    (moved : t.tasks index = some (.put request phase')) (taken : (proxy cfg).step s action = some t)
    (move : PutMove cfg request index s.shared phase action t.shared phase') :
    PutPast cfg index ((s, action) :: past) t phase' := by
  have reading (broken : action = .poll index .streamError) : BeforeFinish phase ∧ ¬ Unbroken phase' := by
    subst broken
    obtain ⟨object, upload, rest, loop, rfl⟩ := streamError_next present taken
    exact ⟨⟨nofun, nofun⟩, move.breaks⟩
  have unbroken (unbroken : Unbroken phase') : ¬ StreamFailed ((s, action) :: past) index := by
    intro broken
    rcases streamFailed_cons broken with latest | earlier
    · exact (reading latest).2 unbroken
    · exact known.unbroken (move.unbroken unbroken) earlier
  refine ⟨?_, unbroken, ?_, ?_⟩
  · intro failing
    have before : ¬ PutSucceeds phase := fun succeeds => failing (move.succeeds succeeds)
    exact (known.traceless before).cons taken fun _ => move.traceless failing
  · intro before finished
    rcases finishCalled_cons finished with now | earlier
    · rw [finishing_iff moved] at now
      cases phase' with
      | running at_ => exact before.2 now
      | dropped at_ => cases at_ <;> first | exact before.2 trivial | exact now
      | returned => exact now
    · exact known.before (move.before before) earlier
  · intro broken finished
    rcases finishCalled_cons finished with now | earlier
    · rw [finishing_iff moved] at now
      exact unbroken now.unbroken broken
    · rcases streamFailed_cons broken with latest | before
      · exact known.before (reading latest).1 earlier
      · exact known.exclusive before earlier

theorem PutPast.history {s₁ : Proxy} (started : (proxy cfg).step s (.start (.put request)) = some s₁)
    (history : (proxy cfg).system.History System.Always s₁ past t) :
    ∃ phase, t.tasks s.next = some (.put request phase) ∧ PutPast cfg s.next past t phase := by
  obtain ⟨task, spawned, bounded, present⟩ := step_start started
  obtain ⟨phase, rfl, idle⟩ := spawned.unfinished
  have followed := Program.follow
    (motive := fun past t task => ∃ phase, task = .put request phase ∧ PutPast cfg s.next past t phase)
    history bounded present ?_ ?_ ?_
  · obtain ⟨_, task, present, phase, rfl, known⟩ := followed
    exact ⟨phase, present, known⟩
  · refine ⟨phase, rfl, ⟨fun _ => nofun, fun _ => nofun, ?_, nofun⟩⟩
    rintro _ (now | ⟨_, _, listed, _⟩)
    · exact idle ((finishing_iff present).mp now)
    · cases listed
  · rintro past source next action task ⟨phase, rfl, known⟩ present kept taken untouched
    exact ⟨phase, rfl, known.other present kept taken untouched⟩
  · rintro past source next action task ⟨phase, rfl, known⟩ _ present taken touches
    obtain ⟨shared, phase', move, rfl⟩ := put_move present taken touches
    have moved := State.replace_self source s.next shared (.put request phase')
    exact ⟨_, moved, phase', rfl, known.own present moved taken move⟩

/-- A PUT in the middle of any run: whatever point it fails at it leaves no
trace, a broken body stream is never finished, and the answer of the preliminary
head check makes no difference. -/
structure FailsCleanly (cfg : AppConfig) (request : PutRequest) (s s₁ : Proxy) (past : ProxyPast)
    (t : Proxy) : Prop where
  failed : ∀ result, t.tasks s.next = some (.put request (.returned result)) → statusOf result ≠ .ok →
    LeavesNoTrace cfg s s₁ past t
  truncated : StreamFailed past s.next → ¬ FinishCalled past t s.next ∧ LeavesNoTrace cfg s s₁ past t
  head : ∀ object err labels, t.tasks s.next = some (.put request (.running (.head object))) →
    (proxy cfg).system.run t (.poll s.next (.failed err) :: labels) =
      (proxy cfg).system.run t (.poll s.next .ready :: labels)

theorem failsCleanly_history (cfg : AppConfig) (request : PutRequest) (s s₁ t : Proxy)
    (past : ProxyPast) (started : (proxy cfg).step s (.start (.put request)) = some s₁)
    (history : (proxy cfg).system.History System.Always s₁ past t) : FailsCleanly cfg request s s₁ past t := by
  obtain ⟨_, spawned, _, _⟩ := step_start started
  obtain ⟨phase, present, known⟩ := PutPast.history started history
  have clean (failing : ¬ PutSucceeds phase) : LeavesNoTrace cfg s s₁ past t :=
    (known.traceless failing).leaves spawned.traceless history
  refine ⟨?_, ?_, ?_⟩
  · intro result returned refused
    cases present.symm.trans returned
    exact clean refused
  · intro broken
    refine ⟨known.exclusive broken, clean ?_⟩
    intro succeeds
    exact known.unbroken succeeds.unbroken broken
  · intro object err labels checking
    have same : (proxy cfg).step t (.poll s.next (.failed err)) = (proxy cfg).step t (.poll s.next .ready) := by
      simp only [Program.step, checking, Option.bind_some, proxy, Task.poll, putPoll]
    simp only [System.run, Program.system, same]

end Runs

/-- The proxy after some steps, over stores in which every object exists. -/
private def overwrites (actions : List ProxyAction) : Proxy :=
  ((proxy (.single "b" 4 .unknown)).system.run (Proxy.initial (fun _ => some [9]) .empty) actions).getD
    (Proxy.initial (fun _ => some [9]) .empty)

/-- A body stream that breaks after its first chunk. -/
theorem failsCleanly_history_truncated :
    ∃ s₁ past t, FailsCleanly (.single "b" 4 .unknown) ⟨⟨"b", "p"⟩, ⟨none, none⟩, [[1], [2]]⟩
        (Proxy.initial (fun _ => some [9]) .empty) s₁ past t ∧
      StreamFailed past 0 ∧ t.shared.upstream ⟨0, "p"⟩ = some [9] ∧
      (t.tasks 0).any (fun | .put _ (.returned (.error err)) => err.status == .badRequest | _ => false) := by
  let opening : ProxyAction := .start (.put ⟨⟨"b", "p"⟩, ⟨none, none⟩, [[1], [2]]⟩)
  let reading : List ProxyAction := [.poll 0 .ready, .poll 0 .ready, .poll 0 .ready]
  have started : (proxy (.single "b" 4 .unknown)).step (overwrites []) opening = some (overwrites [opening]) := rfl
  have read : (proxy (.single "b" 4 .unknown)).system.run (overwrites [opening]) reading =
      some (overwrites (opening :: reading)) := rfl
  obtain ⟨past, history⟩ := (System.reaches_of_run read).history
  have broken : (proxy (.single "b" 4 .unknown)).system.step (overwrites (opening :: reading))
      (.poll 0 .streamError) = some (overwrites (opening :: reading ++ [.poll 0 .streamError])) := rfl
  have aborted : (proxy (.single "b" 4 .unknown)).system.step
      (overwrites (opening :: reading ++ [.poll 0 .streamError])) (.poll 0 .ready) =
      some (overwrites (opening :: reading ++ [.poll 0 .streamError, .poll 0 .ready])) := rfl
  have refused : (proxy (.single "b" 4 .unknown)).system.step
      (overwrites (opening :: reading ++ [.poll 0 .streamError, .poll 0 .ready])) (.poll 0 .ready) =
      some (overwrites (opening :: reading ++ [.poll 0 .streamError, .poll 0 .ready, .poll 0 .ready])) := rfl
  have ended := ((history.snoc trivial broken).snoc trivial aborted).snoc trivial refused
  refine ⟨_, _, _, failsCleanly_history _ _ _ _ _ _ started ended, ?_, rfl, rfl⟩
  exact ⟨_, List.mem_cons_of_mem _ (List.mem_cons_of_mem _ List.mem_cons_self)⟩

end Cachegate
