import Cachegate.Library.TaskPool
import Mathlib.Data.List.Count

/-! Counting the tasks of a pool, and the rule for conservation laws: a measure
of the shared state that every step moves along with a count equals it. -/

namespace TaskPool

open Transition

variable {Shared Job Task Reply Event : Type}

namespace State

/-- How many tasks have the property, suspended or ended. -/
def count (s : State Shared Task) (property : Task → Bool) : Nat :=
  (List.range s.next).countP fun i => (s.tasks i).any property

theorem count_congr {n : Nat} {first second : Nat → Bool} (same : ∀ i, i < n → first i = second i) :
    (List.range n).countP first = (List.range n).countP second := by
  apply List.countP_congr
  intro i member
  rw [same i (List.mem_range.mp member)]

/-- Two predicates that differ at one number only count what differs. -/
theorem count_update {n index : Nat} {first second : Nat → Bool} (bounded : index < n)
    (same : ∀ i, i ≠ index → first i = second i) :
    (List.range n).countP first + (second index).toNat = (List.range n).countP second + (first index).toNat := by
  induction n with
  | zero => exact absurd bounded (Nat.not_lt_zero index)
  | succ n ih =>
    simp only [List.range_succ, List.countP_append, List.countP_singleton]
    by_cases last : index = n
    · subst last
      rw [count_congr fun i below => same i (Nat.ne_of_lt below)]
      cases first index <;> cases second index <;> simp
    · have kept := ih (by omega)
      rw [same n (Ne.symm last)]
      omega

variable {s : State Shared Task} {property : Task → Bool} {shared : Shared} {index : Nat} {task task' : Task}

@[simp] theorem count_start (shared : Shared) : (start shared : State Shared Task).count property = 0 := rfl

@[simp] theorem count_reshare (s : State Shared Task) (shared : Shared) :
    (s.reshare shared).count property = s.count property := rfl

theorem count_push (s : State Shared Task) (task : Task) :
    (s.push task).count property = s.count property + (property task).toNat := by
  have older : ∀ i, i < s.next →
      ((s.push task).tasks i).any property = (s.tasks i).any property := by
    intro i below
    rw [s.push_other task (Nat.ne_of_lt below)]
  have own : (s.push task).tasks s.next = some task := by
    simp [push]
  unfold count
  rw [show (s.push task).next = s.next + 1 from rfl, List.range_succ, List.countP_append, count_congr older,
    List.countP_singleton, own]
  cases holds : property task <;> simp [holds]

/-- A task that moves takes its part of the count along. -/
theorem count_replace (present : s.tasks index = some task) (bounded : index < s.next) :
    (s.replace index shared task').count property + (property task).toNat =
      s.count property + (property task').toNat := by
  have others : ∀ i, i ≠ index →
      ((s.replace index shared task').tasks i).any property = (s.tasks i).any property := by
    intro i other
    rw [s.replace_other shared task' other]
  have moved := count_update bounded others
  unfold count
  simpa [present, s.replace_self index shared task'] using moved

end State

/-- From the one state to the other a measure of the shared state grows as much
as the number of tasks with the property. -/
def Balanced (measure : Shared → Nat) (property : Task → Bool) (s t : State Shared Task) : Prop :=
  measure t.shared + s.count property = measure s.shared + t.count property

namespace Balanced

variable {measure : Shared → Nat} {property : Task → Bool} {s t u : State Shared Task} {shared : Shared}
variable {index : Nat} {task task' : Task}

theorem reshare (same : measure shared = measure s.shared) : Balanced measure property s (s.reshare shared) := by
  simp [Balanced, same]

theorem push (same : property task = false) (before : Balanced measure property s t) :
    Balanced measure property s (t.push task) := by
  simpa [Balanced, State.count_push, same] using before

theorem spawn (moves : measure shared = measure s.shared + (property task).toNat) :
    Balanced measure property s ((s.reshare shared).push task) := by
  simp [Balanced, State.count_push, moves]
  omega

theorem replace (present : s.tasks index = some task) (bounded : index < s.next)
    (moves : measure shared + (property task).toNat = measure s.shared + (property task').toNat) :
    Balanced measure property s (s.replace index shared task') := by
  have counted : (s.replace index shared task').count property + (property task).toNat =
      s.count property + (property task').toNat := State.count_replace present bounded
  simp only [Balanced, State.replace_shared]
  omega

/-- A measure that starts at nothing is the count. -/
theorem counted {program : Program Shared Job Task Reply Event}
    {allowed : State Shared Task → Action Job Reply Event → Prop}
    (reach : program.system.Reaches allowed (.start shared) s) (none_yet : measure shared = 0)
    (balanced : ∀ source action next, program.system.Reaches allowed (.start shared) source → allowed source action →
      program.step source action = some next → Balanced measure property source next) :
    measure s.shared = s.count property := by
  refine reach.invariantWith (motive := fun s => measure s.shared = s.count property) (fun _ prior => prior)
    none_yet ?_
  intro source action next prior _ before allow taken
  have moved := balanced source action next prior allow taken
  unfold Balanced at moved
  omega

end Balanced

end TaskPool
