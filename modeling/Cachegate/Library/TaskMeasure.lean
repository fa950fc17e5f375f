import Cachegate.Library.TaskPool
import Mathlib.Algebra.BigOperators.Group.Finset.Basic
import Mathlib.Algebra.BigOperators.Intervals

/-! A measure of single tasks, summed over the tasks of a pool, what the step of
one task makes of the sum, and the rule for budgets: what the tasks may still
spend is owed to what the shared state has counted as spent. -/

namespace TaskPool.State

variable {Shared Task : Type} {s : State Shared Task} {measure : Task → Nat} {task task' : Task} {index : Nat}

def total (s : State Shared Task) (measure : Task → Nat) : Nat :=
  ∑ i ∈ Finset.range s.next, (s.tasks i).elim 0 measure

@[simp] theorem total_reshare (s : State Shared Task) (shared : Shared) :
    (s.reshare shared).total measure = s.total measure := rfl

theorem total_push (s : State Shared Task) (task : Task) :
    (s.push task).total measure = s.total measure + measure task := by
  have older : ∀ i ∈ Finset.range s.next, ((s.push task).tasks i).elim 0 measure = (s.tasks i).elim 0 measure := by
    intro i below
    rw [s.push_other task (Nat.ne_of_lt (Finset.mem_range.mp below))]
  have own : (s.push task).tasks s.next = some task := by
    simp [push]
  unfold total
  rw [show (s.push task).next = s.next + 1 from rfl, Finset.sum_range_succ, Finset.sum_congr rfl older, own]
  rfl

/-- A task that moves takes its part of the sum along. -/
theorem total_replace (present : s.tasks index = some task) (bounded : index < s.next) (shared : Shared) :
    (s.replace index shared task').total measure + measure task = s.total measure + measure task' := by
  have member : index ∈ Finset.range s.next := Finset.mem_range.mpr bounded
  have others : ∀ i ∈ (Finset.range s.next).erase index,
      ((s.replace index shared task').tasks i).elim 0 measure = (s.tasks i).elim 0 measure := by
    intro i other
    rw [s.replace_other shared task' (Finset.ne_of_mem_erase other)]
  unfold total
  rw [show (s.replace index shared task').next = s.next from rfl, ← Finset.add_sum_erase _ _ member,
    ← Finset.add_sum_erase (Finset.range s.next) (fun i => (s.tasks i).elim 0 measure) member,
    Finset.sum_congr rfl others, s.replace_self index shared task', present]
  simp only [Option.elim_some]
  omega

end TaskPool.State

namespace TaskPool

variable {Shared Task : Type} {spent : Shared → Nat} {owed : Task → Nat} {s t u : State Shared Task}
variable {shared : Shared} {index : Nat} {task task' : Task}

/-- From the one state to the other no more is spent than was owed. -/
def Budgeted (spent : Shared → Nat) (owed : Task → Nat) (s t : State Shared Task) : Prop :=
  spent t.shared + t.total owed ≤ spent s.shared + s.total owed

namespace Budgeted

theorem refl (s : State Shared Task) : Budgeted spent owed s s := Nat.le_refl _

theorem trans (first : Budgeted spent owed s t) (second : Budgeted spent owed t u) : Budgeted spent owed s u :=
  Nat.le_trans second first

theorem reshare (same : spent shared = spent s.shared) : Budgeted spent owed s (s.reshare shared) := by
  simp [Budgeted, same]

/-- A new task owes nothing. -/
theorem spawn (same : spent shared = spent s.shared) (free : owed task = 0) :
    Budgeted spent owed s ((s.reshare shared).push task) := by
  simp [Budgeted, State.total_push, same, free]

/-- A task pays from what it owes. -/
theorem replace (present : s.tasks index = some task) (bounded : index < s.next)
    (pays : spent shared + owed task' ≤ spent s.shared + owed task) :
    Budgeted spent owed s (s.replace index shared task') := by
  have moved : (s.replace index shared task').total owed + owed task = s.total owed + owed task' :=
    State.total_replace present bounded shared
  simp only [Budgeted, State.replace_shared]
  omega

/-- A task pays from what it owes, and hands the rest on to its child. -/
theorem replaceAll {child : Option Task} (present : s.tasks index = some task) (bounded : index < s.next)
    (pays : spent shared + owed task' + child.elim 0 owed ≤ spent s.shared + owed task) :
    Budgeted spent owed s ((s.replace index shared task').pushAll child) := by
  cases child with
  | none => exact replace present bounded pays
  | some child =>
    have moved : (s.replace index shared task').total owed + owed task = s.total owed + owed task' :=
      State.total_replace present bounded shared
    simp only [Option.elim_some] at pays
    simp only [Budgeted, State.pushAll, State.push_shared, State.replace_shared, State.total_push]
    omega

end Budgeted

end TaskPool
