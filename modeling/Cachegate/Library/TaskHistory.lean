import Cachegate.Library.History
import Cachegate.Library.TaskPool

/-! One task along a run of its pool: its own steps move it and all others leave
it alone, and the other tasks do not see it when it is exchanged for another. -/

namespace TaskPool

open Transition

variable {Shared Job Task Reply Event : Type} {program : Program Shared Job Task Reply Event}
variable {s t start : State Shared Task} {allowed : State Shared Task → Action Job Reply Event → Prop}
variable {action : Action Job Reply Event} {past : List (State Shared Task × Action Job Reply Event)} {index : Nat}

/-- The rule for one task: what holds of it at the start, is kept by the steps of
others and carried on by its own steps, holds of it along the run. -/
theorem Program.follow {motive : List (State Shared Task × Action Job Reply Event) → State Shared Task → Task → Prop}
    (history : program.system.History allowed start past t) (bounded : index < start.next)
    (present : start.tasks index = some task) (initial : motive [] start task)
    (other : ∀ past s t action task, motive past s task → s.tasks index = some task → t.tasks index = some task →
      program.step s action = some t → ¬ action.Touches index → motive ((s, action) :: past) t task)
    (own : ∀ past s t action task, motive past s task → index < s.next → s.tasks index = some task →
      program.step s action = some t → action.Touches index →
      ∃ task', t.tasks index = some task' ∧ motive ((s, action) :: past) t task') :
    index < t.next ∧ ∃ task', t.tasks index = some task' ∧ motive past t task' := by
  induction history with
  | nil => exact ⟨bounded, task, present, initial⟩
  | @snoc past source action target _ _ taken ih =>
    obtain ⟨bounded, task, present, known⟩ := ih
    refine ⟨Nat.lt_of_lt_of_le bounded (Program.step_next taken), ?_⟩
    by_cases touches : action.Touches index
    · exact own past source target action task known bounded present taken touches
    · have kept := (Program.step_other taken touches bounded).trans present
      exact ⟨task, kept, other past source target action task known present kept taken touches⟩

/-- Every task of the pool has a number that was given out. -/
def State.Numbered (s : State Shared Task) : Prop := ∀ i task, s.tasks i = some task → i < s.next

theorem State.Numbered.replace (numbered : s.Numbered) (present : s.tasks index = some task) (shared : Shared)
    (task' : Task) : (s.replace index shared task').Numbered := by
  intro i other found
  rcases State.replace_tasks found with ⟨rfl, _⟩ | ⟨_, before⟩
  · exact numbered i task present
  · exact numbered i other before

theorem State.Numbered.push (numbered : s.Numbered) (task : Task) : (s.push task).Numbered := by
  intro i other found
  rcases State.push_tasks found with ⟨rfl, _⟩ | ⟨_, before⟩
  · exact Nat.lt_succ_self _
  · exact Nat.lt_succ_of_lt (numbered i other before)

theorem Program.numbered_step (numbered : s.Numbered) (taken : program.step s action = some t) : t.Numbered := by
  cases action with
  | start job =>
    cases taken
    exact State.Numbered.push (s := s.reshare _) numbered _
  | poll i reply =>
    obtain ⟨task, shared, task', child, present, _, rfl⟩ := Program.step_poll taken
    have moved := numbered.replace present shared task'
    cases child with
    | none => exact moved
    | some child => exact moved.push child
  | cancel i =>
    obtain ⟨task, shared, task', present, _, rfl⟩ := Program.step_cancel taken
    exact numbered.replace present shared task'
  | env event =>
    obtain ⟨shared, _, rfl⟩ := Program.step_env taken
    exact numbered

/-- What no segment changes of a task stays the same in every step of the pool. -/
theorem Program.step_keeps {Feature : Type} (feature : Task → Feature)
    (polls : ∀ shared task reply shared' task' child, program.poll shared task reply = some (shared', task', child) →
      feature task' = feature task)
    (drops : ∀ shared task shared' task', program.drop shared task = some (shared', task') →
      feature task' = feature task)
    (numbered : s.Numbered) (present : s.tasks i = some task) (taken : program.step s action = some t) :
    ∃ task', t.tasks i = some task' ∧ feature task' = feature task := by
  have bounded := numbered i task present
  by_cases touches : action.Touches i
  · cases action with
    | start | env => cases touches
    | poll index reply =>
      obtain rfl : index = i := touches
      obtain ⟨task, shared, task', child, found, polled, rfl⟩ := Program.step_poll taken
      cases found.symm.trans present
      exact ⟨task', State.replace_pushAll s shared task' child bounded, polls _ _ _ _ _ _ polled⟩
    | cancel index =>
      obtain rfl : index = i := touches
      obtain ⟨task, shared, task', found, dropped, rfl⟩ := Program.step_cancel taken
      cases found.symm.trans present
      exact ⟨task', s.replace_self index shared task', drops _ _ _ _ dropped⟩
  · exact ⟨task, (Program.step_other taken touches bounded).trans present, rfl⟩

/-- What each step that this task has taken itself did to the pool. -/
def Program.OwnSteps (program : Program Shared Job Task Reply Event)
    (past : List (State Shared Task × Action Job Reply Event)) (index : Nat)
    (did : State Shared Task → State Shared Task → Prop) : Prop :=
  ∀ source action next, (source, action) ∈ past → action.Touches index →
    program.step source action = some next → did source next

section OwnSteps

variable {did stronger : State Shared Task → State Shared Task → Prop}

theorem Program.OwnSteps.nil : program.OwnSteps [] index did := by
  intro _ _ _ listed
  cases listed

theorem Program.OwnSteps.imp (steps : program.OwnSteps past index stronger)
    (weaken : ∀ source next, stronger source next → did source next) : program.OwnSteps past index did := by
  intro source action next listed touches taken
  exact weaken source next (steps source action next listed touches taken)

theorem Program.OwnSteps.cons (before : program.OwnSteps past index did) (taken : program.step s action = some t)
    (latest : action.Touches index → did s t) : program.OwnSteps ((s, action) :: past) index did := by
  intro source label next listed touches stepped
  rcases List.mem_cons.mp listed with same | earlier
  · cases same
    cases taken.symm.trans stepped
    exact latest touches
  · exact before source label next earlier touches stepped

end OwnSteps

/-- The same rule when each own step is to be shown to have done something, of
which the past may tell more and more. -/
theorem Program.followSteps
    {motive : List (State Shared Task × Action Job Reply Event) → State Shared Task → Task → Prop}
    (did : List (State Shared Task × Action Job Reply Event) → State Shared Task → State Shared Task → Prop)
    (history : program.system.History allowed start past t) (bounded : index < start.next)
    (present : start.tasks index = some task) (initial : motive [] start task)
    (grows : ∀ latest past source next, did past source next → did (latest :: past) source next)
    (other : ∀ past s t action task, motive past s task → s.tasks index = some task → t.tasks index = some task →
      program.step s action = some t → ¬ action.Touches index → motive ((s, action) :: past) t task)
    (own : ∀ past s t action task, motive past s task → index < s.next → s.tasks index = some task →
      program.step s action = some t → action.Touches index →
      ∃ task', t.tasks index = some task' ∧ motive ((s, action) :: past) t task' ∧ did ((s, action) :: past) s t) :
    index < t.next ∧ ∃ task', t.tasks index = some task' ∧ motive past t task' ∧
      program.OwnSteps past index (did past) := by
  apply Program.follow (motive := fun past s task => motive past s task ∧ program.OwnSteps past index (did past))
    history bounded present
  · exact ⟨initial, .nil⟩
  · rintro past s t action task ⟨known, steps⟩ present kept taken untouched
    refine ⟨other past s t action task known present kept taken untouched, ?_⟩
    exact (steps.imp (grows _ past)).cons taken fun touches => absurd touches untouched
  · rintro past s t action task ⟨known, steps⟩ bounded present taken touches
    obtain ⟨task', moved, known', latest⟩ := own past s t action task known bounded present taken touches
    exact ⟨task', moved, known', (steps.imp (grows _ past)).cons taken fun _ => latest⟩

section Ended

variable {task : Task}

/-- The task has no further segment and is not to be dropped. -/
structure Program.Ended (program : Program Shared Job Task Reply Event) (task : Task) : Prop where
  unpolled : ∀ shared reply, program.poll shared task reply = none
  undropped : ∀ shared, program.drop shared task = none

theorem Program.Ended.refuses (ended : program.Ended task) (present : s.tasks index = some task)
    (touches : action.Touches index) : program.step s action = none := by
  cases action with
  | poll i reply =>
    cases touches
    simp [Program.step, present, ended.unpolled]
  | cancel i =>
    cases touches
    simp [Program.step, present, ended.undropped]
  | start | env => exact touches.elim

theorem Program.Ended.untouched (ended : program.Ended task) (present : s.tasks index = some task)
    (taken : program.step s action = some t) : ¬ action.Touches index := by
  intro touches
  cases (ended.refuses present touches).symm.trans taken

/-- A task that has ended stays as it is. -/
theorem Program.Ended.reaches (ended : program.Ended task) (reach : program.system.Reaches allowed s t)
    (bounded : index < s.next) (present : s.tasks index = some task) : t.tasks index = some task := by
  have kept : index < t.next ∧ t.tasks index = some task := by
    apply reach.invariant (motive := fun t => index < t.next ∧ t.tasks index = some task) ⟨bounded, present⟩
    rintro source action next ⟨bounded, present⟩ _ taken
    refine ⟨Nat.lt_of_lt_of_le bounded (Program.step_next taken), ?_⟩
    exact (Program.step_other taken (ended.untouched present taken) bounded).trans present
  exact kept.2

end Ended

/-- The pool with another task in this place. -/
def State.exchange (s : State Shared Task) (index : Nat) (task : Task) : State Shared Task :=
  { s with tasks := Function.update s.tasks index (some task) }

theorem State.exchange_self (s : State Shared Task) (index : Nat) (task : Task) :
    (s.exchange index task).tasks index = some task :=
  Function.update_self ..

theorem State.exchange_other (s : State Shared Task) (task : Task) (different : i ≠ index) :
    (s.exchange index task).tasks i = s.tasks i :=
  Function.update_of_ne different ..

theorem State.push_exchange (s : State Shared Task) (task child : Task) :
    (s.push child).exchange s.next task = s.push task := by
  simp only [State.exchange, State.push, Function.update_idem]

theorem State.exchange_replace (s : State Shared Task) (index : Nat) (shared : Shared) (task task' : Task) :
    (s.exchange index task).replace index shared task' = s.replace index shared task' := by
  simp only [State.exchange, State.replace, Function.update_idem]

theorem State.replace_exchange_self (s : State Shared Task) (index : Nat) (shared : Shared) (task task' : Task) :
    (s.replace index shared task).exchange index task' = s.replace index shared task' := by
  simp only [State.exchange, State.replace, Function.update_idem]

theorem State.exchange_push (s : State Shared Task) (task child : Task) (different : index ≠ s.next) :
    (s.exchange index task).push child = (s.push child).exchange index task := by
  simp only [State.exchange, State.push, Function.update_comm different]

theorem State.exchange_pushAll (s : State Shared Task) (task : Task) (child : Option Task)
    (different : index ≠ s.next) :
    (s.exchange index task).pushAll child = (s.pushAll child).exchange index task := by
  cases child with
  | none => rfl
  | some child => exact s.exchange_push task child different

theorem State.replace_exchange (s : State Shared Task) (shared : Shared) (task other : Task)
    (different : i ≠ index) :
    (s.exchange index task).replace i shared other = (s.replace i shared other).exchange index task := by
  simp only [State.exchange, State.replace, Function.update_comm different]

/-- A step of another task, a new request or the environment is the same in both pools. -/
theorem Program.step_exchange (program : Program Shared Job Task Reply Event) (task : Task)
    (bounded : index < s.next) (untouched : ¬ action.Touches index) :
    program.step (s.exchange index task) action = (program.step s action).map (·.exchange index task) := by
  have old : index ≠ s.next := Nat.ne_of_lt bounded
  cases action with
  | start job =>
    have pushed := (s.reshare (program.spawn s.shared job).1).exchange_push task (program.spawn s.shared job).2 old
    exact congrArg some pushed
  | poll i reply =>
    have different : i ≠ index := untouched
    have found : (s.exchange index task).tasks i = s.tasks i := s.exchange_other task different
    simp only [Program.step, found]
    cases s.tasks i with
    | none => rfl
    | some other =>
      simp only [Option.bind_some, Option.map_map]
      congr 1
      funext result
      obtain ⟨shared, moved, child⟩ := result
      rw [s.replace_exchange shared task moved different]
      exact State.exchange_pushAll _ task child old
  | cancel i =>
    have different : i ≠ index := untouched
    have found : (s.exchange index task).tasks i = s.tasks i := s.exchange_other task different
    simp only [Program.step, found]
    cases s.tasks i with
    | none => rfl
    | some other =>
      simp only [Option.bind_some, Option.map_map]
      congr 1
      funext result
      obtain ⟨shared, moved⟩ := result
      exact s.replace_exchange shared task moved different
  | env event =>
    simp only [Program.step, Option.map_map]
    rfl

end TaskPool
