import Cachegate.Handler.Runs
import Cachegate.Library.TaskHistory

/-! What it is for a request to leave no trace in a run that others take part in. -/

namespace Cachegate

open Transition TaskPool

/-- The cache, the inflight map and the stored objects are as they were. -/
structure Traceless (s s' : Shared) : Prop where
  cache : s'.cache = s.cache
  flights : s'.flights = s.flights
  upstream : s'.upstream = s.upstream

theorem Traceless.refl (s : Shared) : Traceless s s := ⟨rfl, rfl, rfl⟩

theorem Traceless.trans {s s' s'' : Shared} (first : Traceless s s') (second : Traceless s' s'') :
    Traceless s s'' :=
  ⟨second.cache.trans first.cache, second.flights.trans first.flights, second.upstream.trans first.upstream⟩

theorem Spawned.traceless (spawned : Spawned cfg s request s' task) : Traceless s s' := by
  cases spawned <;> exact ⟨rfl, rfl, rfl⟩

/-- The steps taken on the way to a state, the latest first. -/
abbrev ProxyPast := List (Proxy × ProxyAction)

/-- The steps that this task has taken itself left no trace. -/
def OwnTraceless (cfg : AppConfig) (past : ProxyPast) (index : Nat) : Prop :=
  (proxy cfg).OwnSteps past index fun source next => Traceless source.shared next.shared

/-- What a request that leaves no trace has done to the proxy, from the state
before it on: nothing by its own steps, so nothing at all if no other step was
taken. -/
structure LeavesNoTrace (cfg : AppConfig) (s s₁ : Proxy) (past : ProxyPast) (t : Proxy) : Prop where
  start : Traceless s.shared s₁.shared
  own : OwnTraceless cfg past s.next
  alone : (∀ source action, (source, action) ∈ past → action.Touches s.next) → Traceless s.shared t.shared

/-- The state right after a request has started. -/
theorem step_start {s s₁ : Proxy} (started : (proxy cfg).step s (.start request) = some s₁) :
    ∃ task, Spawned cfg s.shared request s₁.shared task ∧ s.next < s₁.next ∧ s₁.tasks s.next = some task := by
  cases started
  exact ⟨_, spawn_step cfg s.shared request, Nat.lt_succ_self _, Function.update_self ..⟩

section Past

variable {cfg : AppConfig} {s s₁ t : Proxy} {past : ProxyPast} {index : Nat}

theorem OwnTraceless.leaves (own : OwnTraceless cfg past s.next) (start : Traceless s.shared s₁.shared)
    (history : (proxy cfg).system.History System.Always s₁ past t) : LeavesNoTrace cfg s s₁ past t := by
  refine ⟨start, own, ?_⟩
  intro alone
  apply start.trans
  apply history.relates (fun s t => Traceless s.shared t.shared) (fun _ => .refl _)
  · intro _ _ _
    exact Traceless.trans
  · intro source action next listed taken
    exact own source action next listed (alone source action listed) taken

end Past

end Cachegate
