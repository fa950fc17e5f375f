import Cachegate.Library.Transition
import Mathlib.Logic.Function.Basic

/-! Calls shared by their key, as one would ask for them: who calls while a call for
the key is in progress joins it, and when it lands its outcome goes, in one step, to
all who listen. Nobody is told who comes to listen later. -/

namespace SharedCall

open Transition

inductive Listener (V : Type) where
  | waiting (call : Nat)
  | late (call : Nat)
  | told (call : Nat) (value : V)
  | took (call : Nat) (value : V)
  | gone (call : Nat)
deriving DecidableEq, Repr

/-- What a listener makes of a call that lands. -/
def Listener.hear {V : Type} (call : Nat) (value : V) : Listener V → Listener V
  | .waiting own => if own = call then .told own value else .waiting own
  | listener => listener

structure State (K V : Type) where
  current : K → Option Nat
  outcome : Nat → Option V
  started : Nat
  listeners : Nat → Option (Listener V)
  listening : Nat

inductive Action (K V : Type) where
  | call (key : K)
  | land (key : K) (value : V)
  | listen (call : Nat)
  | take (listener : Nat)
  | leave (listener : Nat)

namespace State

variable {K V : Type} [DecidableEq K]

def new : State K V := ⟨fun _ => none, fun _ => none, 0, fun _ => none, 0⟩

def setListener (s : State K V) (i : Nat) (listener : Listener V) : State K V :=
  { s with listeners := Function.update s.listeners i (some listener) }

def step (s : State K V) : Action K V → Option (State K V)
  | .call key =>
      match s.current key with
      | some _ => some s
      | none => some { s with current := Function.update s.current key (some s.started), started := s.started + 1 }
  | .land key value =>
      (s.current key).map fun call =>
        { s with
          current := Function.update s.current key none
          outcome := Function.update s.outcome call (some value)
          listeners := fun i => (s.listeners i).map (.hear call value) }
  | .listen call =>
      if call < s.started then
        some { s.setListener s.listening (if (s.outcome call).isSome then .late call else .waiting call) with
          listening := s.listening + 1 }
      else none
  | .take i =>
      match s.listeners i with
      | some (.told call value) => some (s.setListener i (.took call value))
      | _ => none
  | .leave i =>
      match s.listeners i with
      | some (.waiting call) | some (.late call) | some (.told call _) => some (s.setListener i (.gone call))
      | _ => none

def system (K V : Type) [DecidableEq K] : System (State K V) (Action K V) := ⟨step⟩

end State

end SharedCall
