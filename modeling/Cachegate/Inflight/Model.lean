import Cachegate.Library.Transition
import Mathlib.Logic.Function.Basic

/-! The inflight map of `inflight.rs` with its guards, its waiters and the
release tasks that dropped guards spawn. Every transition is the code between
two lock acquisitions or awaits. -/

namespace Cachegate

open Transition

/-- `tokio::sync::Notify` as far as `notify_waiters` uses it: the number of
calls made so far. No permit is stored. -/
structure Notify where
  calls : Nat
deriving DecidableEq, Repr

/-- A `Notified` future remembers the calls made before it was created. -/
structure Notified where
  seen : Nat
deriving DecidableEq, Repr

namespace Notify

def new : Notify := ⟨0⟩

def notifyWaiters (notify : Notify) : Notify := ⟨notify.calls + 1⟩

def notified (notify : Notify) : Notified := ⟨notify.calls⟩

end Notify

/-- The future receives exactly the calls made after its creation. -/
def Notified.ready (future : Notified) (notify : Notify) : Bool := decide (future.seen < notify.calls)

structure InflightEntry (R : Type) where
  notify : Notify
  result : Option R

/-- The address of an `Arc<InflightEntry>`; `Arc::ptr_eq` compares these. -/
abbrev EntryId := Nat

/-- One call of `InflightEntry::wait`. -/
abbrev WaitId := Nat

inductive InflightPermit where
  | leader (guard : EntryId)
  | follower (entry : EntryId)
deriving DecidableEq, Repr

/-- Where an `InflightGuard` is in its life. `released` is true only in
`finished`, when `complete` set it; a spawned release ends there as well. -/
inductive GuardPhase (R : Type) where
  | held
  | completing (result : R)
  | releasing
  | dropped
  | finished
deriving DecidableEq, Repr

structure InflightGuard (K R : Type) where
  key : K
  phase : GuardPhase R

inductive WaitPhase (R : Type) where
  | notified (entry : EntryId) (future : Notified)
  | locking (entry : EntryId)
  | returned (entry : EntryId) (value : Option R)
  | cancelled (entry : EntryId)
deriving DecidableEq, Repr

/-- The entry whose result a woken call of `wait` reads next. -/
def WaitPhase.locking? {R : Type} : WaitPhase R → Option EntryId
  | .locking entry => some entry
  | _ => none

/-- The entry that a call of `wait` was made on. -/
def WaitPhase.entry {R : Type} : WaitPhase R → EntryId
  | .notified entry _ | .locking entry | .returned entry _ | .cancelled entry => entry

/-- `inner` is the map itself. Guards and calls of `wait` are kept beside it:
a guard is named by the entry it was made for, since `acquire` makes both. -/
structure Inflight (K R : Type) where
  inner : K → Option EntryId
  entries : EntryId → InflightEntry R
  guards : EntryId → Option (InflightGuard K R)
  cloned : EntryId → Bool
  waits : WaitId → Option (WaitPhase R)
  nextEntry : EntryId
  nextWait : WaitId

namespace Inflight

variable {K R : Type} [DecidableEq K]

def new : Inflight K R where
  inner := fun _ => none
  entries := fun _ => ⟨.new, none⟩
  guards := fun _ => none
  cloned := fun _ => false
  waits := fun _ => none
  nextEntry := 0
  nextWait := 0

def acquire (s : Inflight K R) (key : K) : InflightPermit × Inflight K R :=
  match s.inner key with
  | some existing => (.follower existing, { s with cloned := Function.update s.cloned existing true })
  | none =>
      let entry := s.nextEntry
      (.leader entry,
        { s with
          inner := Function.update s.inner key (some entry)
          entries := Function.update s.entries entry ⟨.new, none⟩
          guards := Function.update s.guards entry (some ⟨key, .held⟩)
          nextEntry := entry + 1 })

/-- The critical section of `release`: remove and notify, if the map still
holds this very entry. -/
def release (s : Inflight K R) (key : K) (entry : EntryId) : Inflight K R :=
  match s.inner key with
  | some current =>
      if current = entry then
        { s with
          inner := Function.update s.inner key none
          entries := Function.update s.entries entry
            { s.entries entry with notify := (s.entries entry).notify.notifyWaiters } }
      else s
  | none => s

def setPhase (s : Inflight K R) (entry : EntryId) (phase : GuardPhase R) : Inflight K R :=
  { s with guards := Function.update s.guards entry ((s.guards entry).map ({ · with phase })) }

/-- `complete` is called and waits for the result lock. -/
def beginComplete (s : Inflight K R) (entry : EntryId) (result : R) : Inflight K R :=
  s.setPhase entry (.completing result)

/-- `complete` holds the result lock, stores, and waits for the map lock. -/
def storeResult (s : Inflight K R) (entry : EntryId) (result : R) : Inflight K R :=
  { s.setPhase entry .releasing with
    entries := Function.update s.entries entry { s.entries entry with result := some result } }

/-- Release under the guard's own key; `complete` then sets `released`, and a
spawned task ends. -/
def finishRelease (s : Inflight K R) (entry : EntryId) : Inflight K R :=
  match s.guards entry with
  | some guard => (s.release guard.key entry).setPhase entry .finished
  | none => s

/-- `Drop` with `released` still false: the release is left to a new task. -/
def dropGuard (s : Inflight K R) (entry : EntryId) : Inflight K R := s.setPhase entry .dropped

def setWait (s : Inflight K R) (wait : WaitId) (phase : WaitPhase R) : Inflight K R :=
  { s with waits := Function.update s.waits wait (some phase) }

/-- `wait` is called: `self.notify.notified()` is created here and no earlier. -/
def callWait (s : Inflight K R) (entry : EntryId) : WaitId × Inflight K R :=
  (s.nextWait,
    { s.setWait s.nextWait (.notified entry (s.entries entry).notify.notified) with
      nextWait := s.nextWait + 1 })

def wake (s : Inflight K R) (wait : WaitId) : Option (Inflight K R) :=
  match s.waits wait with
  | some (.notified entry future) =>
      if future.ready (s.entries entry).notify then some (s.setWait wait (.locking entry)) else none
  | _ => none

def readResult (s : Inflight K R) (wait : WaitId) : Option (Option R × Inflight K R) :=
  match s.waits wait with
  | some (.locking entry) =>
      let value := (s.entries entry).result
      some (value, s.setWait wait (.returned entry value))
  | _ => none

def cancelWait (s : Inflight K R) (wait : WaitId) : Option (Inflight K R) :=
  match s.waits wait with
  | some (.notified entry _) | some (.locking entry) => some (s.setWait wait (.cancelled entry))
  | _ => none

end Inflight

/-- What the tasks that share an inflight map can do next, in any order. -/
inductive InflightAction (K R : Type) where
  | acquire (key : K)
  | complete (guard : EntryId) (result : R)
  | store (guard : EntryId)
  | release (guard : EntryId)
  | dropGuard (guard : EntryId)
  | spawned (guard : EntryId)
  | wait (entry : EntryId)
  | wake (wait : WaitId)
  | read (wait : WaitId)
  | cancelWait (wait : WaitId)

namespace Inflight

variable {K R : Type} [DecidableEq K]

/-- Ownership decides what can be done with a guard: `complete` consumes it,
dropping it or cancelling `complete` before it ends runs `Drop`. -/
def step (s : Inflight K R) : InflightAction K R → Option (Inflight K R)
  | .acquire key => some (s.acquire key).2
  | .complete guard result =>
      match s.guards guard with
      | some ⟨_, .held⟩ => some (s.beginComplete guard result)
      | _ => none
  | .store guard =>
      match s.guards guard with
      | some ⟨_, .completing result⟩ => some (s.storeResult guard result)
      | _ => none
  | .release guard =>
      match s.guards guard with
      | some ⟨_, .releasing⟩ => some (s.finishRelease guard)
      | _ => none
  | .dropGuard guard =>
      match s.guards guard with
      | some ⟨_, .held⟩ | some ⟨_, .completing _⟩ | some ⟨_, .releasing⟩ => some (s.dropGuard guard)
      | _ => none
  | .spawned guard =>
      match s.guards guard with
      | some ⟨_, .dropped⟩ => some (s.finishRelease guard)
      | _ => none
  | .wait entry => if s.cloned entry then some (s.callWait entry).2 else none
  | .wake wait => s.wake wait
  | .read wait => (s.readResult wait).map Prod.snd
  | .cancelWait wait => s.cancelWait wait

def system (K R : Type) [DecidableEq K] : System (Inflight K R) (InflightAction K R) := ⟨step⟩

theorem reaches_step {s t : Inflight K R} (action : InflightAction K R) (taken : s.step action = some t) :
    (system K R).Reaches System.Always s t :=
  Relation.ReflTransGen.single ⟨action, trivial, taken⟩

end Inflight

end Cachegate
