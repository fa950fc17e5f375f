import Cachegate.Library.Transition
import Mathlib.Logic.Function.Basic

/-! Pools of tasks that interleave at their suspension points over one shared
state. A task is polled, dropped, or left alone while the environment acts.
Assertions about a pool are proved in the manner of Owicki and Gries: one part
about the shared state, one about each task, one about each pair of tasks. -/

namespace TaskPool

open Transition

/-- The code the tasks of a pool run between two suspension points. -/
structure Program (Shared Job Task Reply Event : Type) where
  /-- The first segment of a new task. -/
  spawn : Shared → Job → Shared × Task
  /-- One segment of a suspended task, which may leave a new task behind. -/
  poll : Shared → Task → Reply → Option (Shared × Task × Option Task)
  /-- What dropping a suspended task does. -/
  drop : Shared → Task → Option (Shared × Task)
  /-- A step of the environment alone. -/
  env : Shared → Event → Option Shared

/-- Tasks are never removed, so the table is also the history of what ended. -/
structure State (Shared Task : Type) where
  shared : Shared
  tasks : Nat → Option Task
  next : Nat

inductive Action (Job Reply Event : Type) where
  | start (job : Job)
  | poll (index : Nat) (reply : Reply)
  | cancel (index : Nat)
  | env (event : Event)

variable {Shared Job Task Reply Event : Type}

namespace State

def start (shared : Shared) : State Shared Task := ⟨shared, fun _ => none, 0⟩

def reshare (s : State Shared Task) (shared : Shared) : State Shared Task := { s with shared }

def replace (s : State Shared Task) (index : Nat) (shared : Shared) (task : Task) : State Shared Task :=
  { s with shared, tasks := Function.update s.tasks index (some task) }

def push (s : State Shared Task) (task : Task) : State Shared Task :=
  { s with tasks := Function.update s.tasks s.next (some task), next := s.next + 1 }

def pushAll (s : State Shared Task) : Option Task → State Shared Task
  | none => s
  | some task => s.push task

@[simp] theorem reshare_shared (s : State Shared Task) (shared : Shared) :
    (s.reshare shared).shared = shared := rfl

@[simp] theorem reshare_tasks (s : State Shared Task) (shared : Shared) :
    (s.reshare shared).tasks = s.tasks := rfl

@[simp] theorem replace_shared (s : State Shared Task) (index : Nat) (shared : Shared) (task : Task) :
    (s.replace index shared task).shared = shared := rfl

@[simp] theorem push_shared (s : State Shared Task) (task : Task) : (s.push task).shared = s.shared := rfl

@[simp] theorem pushAll_shared (s : State Shared Task) (child : Option Task) :
    (s.pushAll child).shared = s.shared := by
  cases child <;> rfl

end State

namespace Program

variable (program : Program Shared Job Task Reply Event)

def step (s : State Shared Task) : Action Job Reply Event → Option (State Shared Task)
  | .start job =>
      let started := program.spawn s.shared job
      some ((s.reshare started.1).push started.2)
  | .poll index reply =>
      (s.tasks index).bind fun task =>
        (program.poll s.shared task reply).map fun (shared, task, child) =>
          (s.replace index shared task).pushAll child
  | .cancel index =>
      (s.tasks index).bind fun task =>
        (program.drop s.shared task).map fun (shared, task) => s.replace index shared task
  | .env event => (program.env s.shared event).map s.reshare

def system : System (State Shared Task) (Action Job Reply Event) := ⟨program.step⟩

variable {program}

theorem step_poll (taken : program.step s (.poll index reply) = some t) :
    ∃ task shared task' child, s.tasks index = some task ∧
      program.poll s.shared task reply = some (shared, task', child) ∧
      t = (s.replace index shared task').pushAll child := by
  obtain ⟨task, present, polled⟩ := Option.bind_eq_some_iff.mp taken
  obtain ⟨⟨shared, task', child⟩, result, same⟩ := Option.map_eq_some_iff.mp polled
  exact ⟨task, shared, task', child, present, result, same.symm⟩

theorem step_of_spawn (spawned : program.spawn s.shared job = (s.shared, task)) :
    program.step s (.start job) = some (s.push task) := by
  simp only [step, spawned, State.reshare]

theorem step_of_poll (present : s.tasks index = some task)
    (polled : program.poll s.shared task reply = some (shared, task', child)) :
    program.step s (.poll index reply) = some ((s.replace index shared task').pushAll child) := by
  simp only [step, present, Option.bind_some, polled, Option.map_some]

theorem step_of_cancel (present : s.tasks index = some task)
    (dropped : program.drop s.shared task = some (shared, task')) :
    program.step s (.cancel index) = some (s.replace index shared task') := by
  simp only [step, present, Option.bind_some, dropped, Option.map_some]

theorem poll_enabled (present : s.tasks index = some task)
    (polled : (program.poll s.shared task reply).isSome = true) :
    ∃ t, program.step s (.poll index reply) = some t := by
  obtain ⟨⟨shared, task', child⟩, polled⟩ := Option.isSome_iff_exists.mp polled
  exact ⟨_, step_of_poll present polled⟩

theorem step_cancel (taken : program.step s (.cancel index) = some t) :
    ∃ task shared task', s.tasks index = some task ∧
      program.drop s.shared task = some (shared, task') ∧ t = s.replace index shared task' := by
  obtain ⟨task, present, dropped⟩ := Option.bind_eq_some_iff.mp taken
  obtain ⟨⟨shared, task'⟩, result, same⟩ := Option.map_eq_some_iff.mp dropped
  exact ⟨task, shared, task', present, result, same.symm⟩

theorem step_env (taken : program.step s (.env event) = some t) :
    ∃ shared, program.env s.shared event = some shared ∧ t = s.reshare shared := by
  obtain ⟨shared, result, same⟩ := Option.map_eq_some_iff.mp taken
  exact ⟨shared, result, same.symm⟩

end Program

/-- The action is a step of the task of this index. -/
def Action.Touches (index : Nat) : Action Job Reply Event → Prop
  | .poll i _ => i = index
  | .cancel i => i = index
  | .start _ | .env _ => False

/-- Every task of the pool, suspended or ended, has the property. -/
def State.All (s : State Shared Task) (motive : Task → Prop) : Prop :=
  ∀ i task, s.tasks i = some task → motive task

namespace State

variable {s : State Shared Task} {shared : Shared} {motive weaker : Task → Prop}

theorem all_start (shared : Shared) : (start shared : State Shared Task).All motive := by
  intro i task present
  simp [start] at present

theorem All.imp (all : s.All motive) (imp : ∀ task, motive task → weaker task) : s.All weaker :=
  fun i task present => imp task (all i task present)

theorem replace_self (s : State Shared Task) (index : Nat) (shared : Shared) (task : Task) :
    (s.replace index shared task).tasks index = some task := by
  simp [replace]

theorem replace_other (s : State Shared Task) (shared : Shared) (task : Task) (different : i ≠ index) :
    (s.replace index shared task).tasks i = s.tasks i := by
  simp [replace, different]

theorem push_other (s : State Shared Task) (task : Task) (different : i ≠ s.next) :
    (s.push task).tasks i = s.tasks i := by
  simp [push, different]

/-- A task found after a replacement is the new one, or was there before. -/
theorem replace_tasks (found : (s.replace index shared task').tasks i = some task) :
    i = index ∧ task = task' ∨ i ≠ index ∧ s.tasks i = some task := by
  by_cases same : i = index
  · subst same
    exact .inl ⟨rfl, by simpa [replace, eq_comm] using found⟩
  · exact .inr ⟨same, by simpa [replace, same] using found⟩

theorem push_tasks (found : (s.push task').tasks i = some task) :
    i = s.next ∧ task = task' ∨ i ≠ s.next ∧ s.tasks i = some task := by
  by_cases same : i = s.next
  · subst same
    exact .inl ⟨rfl, by simpa [push, eq_comm] using found⟩
  · exact .inr ⟨same, by simpa [push, same] using found⟩

@[simp] theorem replace_next (s : State Shared Task) (index : Nat) (shared : Shared) (task : Task) :
    (s.replace index shared task).next = s.next := rfl

theorem pushAll_other (s : State Shared Task) (child : Option Task) (different : i ≠ s.next) :
    (s.pushAll child).tasks i = s.tasks i := by
  cases child with
  | none => rfl
  | some task => exact s.push_other task different

/-- A task that moves and leaves another one behind. -/
theorem replace_pushAll (s : State Shared Task) (shared : Shared) (task : Task) (child : Option Task)
    (bounded : index < s.next) : ((s.replace index shared task).pushAll child).tasks index = some task := by
  have old : index ≠ (s.replace index shared task).next := Nat.ne_of_lt bounded
  rw [pushAll_other _ _ old]
  exact s.replace_self index shared task

theorem All.replace (all : s.All motive) (own : motive task') : (s.replace index shared task').All motive := by
  intro i task found
  rcases replace_tasks found with ⟨_, rfl⟩ | ⟨_, present⟩
  · exact own
  · exact all i task present

theorem All.push (all : s.All motive) (own : motive task') : (s.push task').All motive := by
  intro i task found
  rcases push_tasks found with ⟨_, rfl⟩ | ⟨_, present⟩
  · exact own
  · exact all i task present

theorem All.pushAll (all : s.All motive) (own : ∀ task, child = some task → motive task) :
    (s.pushAll child).All motive := by
  cases child with
  | none => exact all
  | some task => exact all.push (own task rfl)

end State

/-- Segments that one task runs while every other task waits, none of which
leaves a new task behind. -/
inductive Program.Advances (program : Program Shared Job Task Reply Event) : Shared → Task → Shared → Task → Prop
  | rest : program.Advances shared task shared task
  | poll (reply : Reply) (polled : program.poll shared task reply = some (shared', task', none))
      (onward : program.Advances shared' task' shared'' task'') : program.Advances shared task shared'' task''

namespace Program.Advances

variable {program : Program Shared Job Task Reply Event}

theorem trans (first : program.Advances shared task shared' task')
    (second : program.Advances shared' task' shared'' task'') : program.Advances shared task shared'' task'' := by
  induction first with
  | rest => exact second
  | poll reply polled _ ih => exact .poll reply polled (ih second)

/-- What one task can run alone, it can run in the pool. -/
theorem reaches {s : State Shared Task} (advances : program.Advances shared task shared' task')
    (allow : ∀ s reply, allowed s (.poll index reply)) (same : s.shared = shared)
    (present : s.tasks index = some task) :
    program.system.Reaches allowed s (s.replace index shared' task') := by
  induction advances generalizing s with
  | @rest shared task =>
    subst same
    have still : s.replace index s.shared task = s := by
      simp only [State.replace, ← present, Function.update_eq_self]
    rw [still]
    exact .refl
  | @poll shared task shared' task' shared'' task'' reply polled _ ih =>
    subst same
    have taken : program.step s (.poll index reply) = some (s.replace index shared' task') :=
      step_of_poll present polled
    have onward := ih (s := s.replace index shared' task') rfl (s.replace_self index shared' task')
    have once : (s.replace index shared' task').replace index shared'' task'' = s.replace index shared'' task'' := by
      simp [State.replace]
    rw [once] at onward
    exact .trans (.step .refl (allow s reply) taken) onward

/-- A new task served alone, from its start on. -/
theorem serves {s : State Shared Task} {job : Job} (spawned : program.spawn s.shared job = (s.shared, task))
    (advances : program.Advances s.shared task shared' task') (starts : allowed s (.start job))
    (allow : ∀ t reply, allowed t (.poll s.next reply)) :
    ∃ t, program.system.Reaches allowed s t ∧ t.shared = shared' ∧ t.next = s.next + 1 ∧
      t.tasks s.next = some task' ∧ ∀ i, i ≠ s.next → t.tasks i = s.tasks i := by
  have taken : program.step s (.start job) = some (s.push task) := step_of_spawn spawned
  have present : (s.push task).tasks s.next = some task := by
    simp [State.push]
  have onward := advances.reaches (s := s.push task) allow rfl present
  refine ⟨_, .trans (.step .refl starts taken) onward, rfl, rfl, State.replace_self _ _ _ _, ?_⟩
  intro i other
  rw [State.replace_other _ _ _ other, s.push_other task other]

end Program.Advances

namespace Program

variable {program : Program Shared Job Task Reply Event} {s t : State Shared Task}

/-- A step leaves alone every task that it is not a step of. -/
theorem step_other (taken : program.step s action = some t) (untouched : ¬ action.Touches i)
    (bounded : i < s.next) : t.tasks i = s.tasks i := by
  have old : i ≠ s.next := Nat.ne_of_lt bounded
  cases action with
  | start job =>
    cases taken
    exact State.push_other _ _ old
  | poll index reply =>
    obtain ⟨task, shared, task', child, _, _, rfl⟩ := step_poll taken
    rw [State.pushAll_other _ _ (by simpa using old)]
    exact s.replace_other shared task' fun same => untouched same.symm
  | cancel index =>
    obtain ⟨task, shared, task', _, _, rfl⟩ := step_cancel taken
    exact s.replace_other shared task' fun same => untouched same.symm
  | env event =>
    obtain ⟨shared, _, rfl⟩ := step_env taken
    rfl

/-- Tasks are numbered in the order in which they start. -/
theorem step_next (taken : program.step s action = some t) : s.next ≤ t.next := by
  cases action with
  | start job =>
    cases taken
    exact Nat.le_succ _
  | poll index reply =>
    obtain ⟨task, shared, task', child, _, _, rfl⟩ := step_poll taken
    cases child with
    | none => exact Nat.le_refl _
    | some task => exact Nat.le_succ _
  | cancel index =>
    obtain ⟨task, shared, task', _, _, rfl⟩ := step_cancel taken
    exact Nat.le_refl _
  | env event =>
    obtain ⟨shared, _, rfl⟩ := step_env taken
    exact Nat.le_refl _

end Program

/-- An assertion about a pool in three parts. -/
structure Assertion (Shared Task : Type) where
  global : Shared → Prop
  each : Shared → Task → Prop
  apart : Task → Task → Prop

/-- The assertion holds of a pool: of its shared state, of each task with it,
and of each two tasks with different indices. -/
structure Assertion.Holds (A : Assertion Shared Task) (s : State Shared Task) : Prop where
  bounded : ∀ i task, s.tasks i = some task → i < s.next
  global : A.global s.shared
  each : ∀ i task, s.tasks i = some task → A.each s.shared task
  apart : ∀ i j task other, i ≠ j → s.tasks i = some task → s.tasks j = some other → A.apart task other

namespace Assertion

variable {A : Assertion Shared Task} {s : State Shared Task}

theorem holds_start (global : A.global shared) : A.Holds (State.start shared) where
  bounded := by intro i task present; simp [State.start] at present
  global := global
  each := by intro i task present; simp [State.start] at present
  apart := by intro i j task other _ present; simp [State.start] at present

theorem Holds.reshare (holds : A.Holds s) (global : A.global shared)
    (frame : ∀ j other, s.tasks j = some other → A.each shared other) : A.Holds (s.reshare shared) where
  bounded := holds.bounded
  global := global
  each := frame
  apart := holds.apart

/-- One task moves together with the shared state; the others must be
insensitive to the move. -/
theorem Holds.replace (holds : A.Holds s) (present : s.tasks index = some task)
    (global : A.global shared) (own : A.each shared task')
    (frame : ∀ j other, j ≠ index → s.tasks j = some other →
      A.each shared other ∧ A.apart task' other ∧ A.apart other task') :
    A.Holds (s.replace index shared task') where
  bounded := by
    intro i found at_
    by_cases same : i = index
    · subst same; exact holds.bounded i task present
    · exact holds.bounded i found (by simpa [State.replace, same] using at_)
  global := global
  each := by
    intro i found at_
    by_cases same : i = index
    · subst same
      have moved : task' = found := by simpa [State.replace] using at_
      subst moved; exact own
    · exact (frame i found same (by simpa [State.replace, same] using at_)).1
  apart := by
    intro i j found other different at_ other_
    by_cases first : i = index
    · subst first
      have moved : task' = found := by simpa [State.replace] using at_
      subst moved
      have second : j ≠ i := fun same => different same.symm
      exact (frame j other second (by simpa [State.replace, second] using other_)).2.1
    · have kept : s.tasks i = some found := by simpa [State.replace, first] using at_
      by_cases second : j = index
      · subst second
        have moved : task' = other := by simpa [State.replace] using other_
        subst moved
        exact (frame i found first kept).2.2
      · exact holds.apart i j found other different kept
          (by simpa [State.replace, second] using other_)

theorem Holds.push (holds : A.Holds s) (own : A.each s.shared task)
    (frame : ∀ j other, s.tasks j = some other → A.apart task other ∧ A.apart other task) :
    A.Holds (s.push task) where
  bounded := by
    intro i found at_
    by_cases fresh : i = s.next
    · simp [State.push, fresh]
    · have old := holds.bounded i found (by simpa [State.push, fresh] using at_)
      exact Nat.lt_succ_of_lt old
  global := holds.global
  each := by
    intro i found at_
    by_cases fresh : i = s.next
    · subst fresh
      have new : task = found := by simpa [State.push] using at_
      subst new; exact own
    · exact holds.each i found (by simpa [State.push, fresh] using at_)
  apart := by
    intro i j found other different at_ other_
    by_cases first : i = s.next
    · subst first
      have new : task = found := by simpa [State.push] using at_
      subst new
      have second : j ≠ s.next := fun same => different same.symm
      exact (frame j other (by simpa [State.push, second] using other_)).1
    · have kept : s.tasks i = some found := by simpa [State.push, first] using at_
      by_cases second : j = s.next
      · subst second
        have new : task = other := by simpa [State.push] using other_
        subst new
        exact (frame i found kept).2
      · exact holds.apart i j found other different kept
          (by simpa [State.push, second] using other_)

end Assertion

end TaskPool
