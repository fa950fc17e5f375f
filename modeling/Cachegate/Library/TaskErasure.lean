import Cachegate.Library.TaskPool

/-! Labels that leave nothing behind can be taken out of a run, and what the code
of a pool does not look at can be exchanged. -/

namespace Transition.System

universe u v

variable {State : Type u} {Label : Type v} {sys : System State Label}

/-- A run from which the labels that leave no trace are taken out. -/
theorem run_erase (erase : State → State) (keeps : Label → Bool)
    (commutes : ∀ state label, keeps label = true → sys.step (erase state) label = (sys.step state label).map erase)
    (skips : ∀ state label, keeps label = false → (sys.step state label).map erase = some (erase state))
    (state : State) (labels : List Label) :
    sys.run (erase state) (labels.filter keeps) = (sys.run state labels).map erase := by
  induction labels generalizing state with
  | nil => rfl
  | cons label labels ih =>
    cases kept : keeps label with
    | true =>
      rw [List.filter_cons_of_pos kept]
      simp only [run, commutes state label kept]
      cases sys.step state label with
      | none => rfl
      | some next => exact ih next
    | false =>
      rw [List.filter_cons_of_neg (by simp [kept])]
      obtain ⟨next, taken, same⟩ := Option.map_eq_some_iff.mp (skips state label kept)
      simp only [run, taken, Option.bind_some]
      rw [← same]
      exact ih next

end Transition.System

namespace TaskPool

variable {Shared Job Task Reply Event : Type} {program : Program Shared Job Task Reply Event}
variable {swap : Shared → Shared}

/-- No code of the pool sees the swap, or undoes it. -/
structure Program.Blind (program : Program Shared Job Task Reply Event) (swap : Shared → Shared) : Prop where
  spawn : ∀ shared job, program.spawn (swap shared) job = (program.spawn shared job).map swap id
  poll : ∀ shared task reply,
    program.poll (swap shared) task reply = (program.poll shared task reply).map (Prod.map swap id)
  drop : ∀ shared task, program.drop (swap shared) task = (program.drop shared task).map (Prod.map swap id)
  env : ∀ shared event, program.env (swap shared) event = (program.env shared event).map swap

/-- The pool with something else in the place of what its tasks share. -/
def State.mapShared (swap : Shared → Shared) (s : State Shared Task) : State Shared Task :=
  s.reshare (swap s.shared)

theorem Program.Blind.step (blind : program.Blind swap) (s : State Shared Task) (action : Action Job Reply Event) :
    program.step (s.mapShared swap) action = (program.step s action).map (State.mapShared swap) := by
  cases action with
  | start job =>
    have spawned := blind.spawn s.shared job
    simp only [Program.step, State.mapShared, State.reshare_shared, spawned]
    rfl
  | poll index reply =>
    simp only [Program.step, State.mapShared, State.reshare_tasks, State.reshare_shared]
    cases s.tasks index with
    | none => rfl
    | some task =>
      simp only [Option.bind_some, blind.poll, Option.map_map]
      congr 1
      funext result
      obtain ⟨shared, moved, child⟩ := result
      cases child <;> rfl
  | cancel index =>
    simp only [Program.step, State.mapShared, State.reshare_tasks, State.reshare_shared]
    cases s.tasks index with
    | none => rfl
    | some task =>
      simp only [Option.bind_some, blind.drop, Option.map_map]
      rfl
  | env event =>
    simp only [Program.step, State.mapShared, State.reshare_shared, blind.env, Option.map_map]
    rfl

end TaskPool
