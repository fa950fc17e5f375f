import Mathlib.Logic.Function.Basic

/-! Stores that are what a log of writes leaves of them. -/

namespace Journal

variable {Key Value : Type} [DecidableEq Key] {initial : Key → Option Value} {log : List (Key × Value)}

/-- The store after all the writes of a log, the latest first. -/
def replay (initial : Key → Option Value) (log : List (Key × Value)) : Key → Option Value :=
  log.foldr (fun write store => Function.update store write.1 (some write.2)) initial

@[simp] theorem replay_nil (initial : Key → Option Value) : replay initial [] = initial := rfl

@[simp] theorem replay_cons (initial : Key → Option Value) (write : Key × Value) (log : List (Key × Value)) :
    replay initial (write :: log) = Function.update (replay initial log) write.1 (some write.2) := rfl

theorem replay_append (initial : Key → Option Value) (newer older : List (Key × Value)) :
    replay initial (newer ++ older) = replay (replay initial older) newer :=
  List.foldr_append

/-- What is stored was there at the start, or was written. -/
theorem replay_found (found : replay initial log key = some value) :
    initial key = some value ∨ (key, value) ∈ log := by
  induction log with
  | nil => exact .inl found
  | cons write log ih =>
    rw [replay_cons] at found
    by_cases same : key = write.1
    · subst same
      rw [Function.update_self] at found
      cases found
      exact .inr List.mem_cons_self
    · rw [Function.update_of_ne same] at found
      exact (ih found).imp_right (List.mem_cons_of_mem write)

end Journal
