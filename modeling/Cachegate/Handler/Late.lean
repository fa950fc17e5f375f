import Cachegate.Handler.Rest
import Cachegate.Handler.Trace

/-! Which requests are left without an answer: those whose call of `wait` came
after the entry had left the map, and at rest no others. -/

namespace Cachegate

open Transition TaskPool Inflight

/-- The task called `wait` on an entry that was in the map no more. -/
def CalledLate (past : ProxyPast) (i : Nat) : Prop :=
  ∃ (s : Proxy) (reply : Reply) (key : CacheKey) (entry : EntryId), (s, .poll i reply) ∈ past ∧
    s.tasks i = some (.get key (.running (.follow entry))) ∧ ¬ s.shared.flights.Mapped entry

/-- The task is suspended in a call of `wait` that has seen so many notifications. -/
def Task.Suspended (f : Flights) (seen : Nat) (task : Task) : Prop :=
  ∃ key wait entry, task = .get key (.running (.notified wait)) ∧ f.waits wait = some (.notified entry ⟨seen⟩) ∧
    Follows f key entry

/-- The task was dropped in a call of `wait`. -/
def Task.Forsaken (task : Task) : Prop := ∃ key wait, task = .get key (.dropped (.notified wait))

/-- Late calls of `wait` have seen the one notification, all others have not. -/
structure Noticed (past : ProxyPast) (s : Proxy) : Prop where
  late : ∀ i, CalledLate past i → ∃ task, s.tasks i = some task ∧ (task.Suspended s.shared.flights 1 ∨ task.Forsaken)
  timely : ∀ i task seen, s.tasks i = some task → task.Suspended s.shared.flights seen → CalledLate past i ∨ seen = 0

section Notified

variable {f f' : Flights} {task : Task}

/-- An entry is notified once at most. -/
theorem Inflight.Owned.calls_le (owned : f.Owned) (follows : Follows f key entry) :
    (f.entries entry).notify.calls ≤ 1 := by
  obtain ⟨guard, present, _⟩ := follows
  rw [owned.calls entry guard present]
  exact Bool.toNat_le _

theorem Task.Suspended.stranded (suspended : task.Suspended f 1) (owned : f.Owned) : task.Stranded f := by
  obtain ⟨key, wait, entry, named, present, follows⟩ := suspended
  have once := owned.calls_le follows
  exact ⟨key, wait, entry, ⟨1⟩, named, present, by simpa [Notified.ready] using once⟩

theorem Task.Suspended.frame (suspended : task.Suspended f seen) (frame : Frame f f' own call)
    (kept : ∀ w, task.wait? = some w → f'.waits w = f.waits w) : task.Suspended f' seen := by
  obtain ⟨key, wait, entry, rfl, present, follows⟩ := suspended
  exact ⟨key, wait, entry, rfl, (kept wait rfl).trans present, follows.frame frame⟩

end Notified

section Steps

variable {cfg : AppConfig} {s t : Proxy} {past : ProxyPast}

theorem CalledLate.mono (late : CalledLate past i) (latest : Proxy × ProxyAction) :
    CalledLate (latest :: past) i := by
  obtain ⟨s, reply, key, entry, listed, rest⟩ := late
  exact ⟨s, reply, key, entry, List.mem_cons_of_mem latest listed, rest⟩

/-- Only a task's own poll makes it late. -/
theorem calledLate_cons (late : CalledLate ((s, action) :: past) i) :
    CalledLate past i ∨ ∃ reply key entry, action = .poll i reply ∧
      s.tasks i = some (.get key (.running (.follow entry))) ∧ ¬ s.shared.flights.Mapped entry := by
  obtain ⟨source, reply, key, entry, listed, present, unmapped⟩ := late
  rcases List.mem_cons.mp listed with same | earlier
  · cases same
    exact .inr ⟨reply, key, entry, rfl, present, unmapped⟩
  · exact .inl ⟨source, reply, key, entry, earlier, present, unmapped⟩

/-- The call of `wait` has seen the entry's notification if the entry is in the
map no more. -/
theorem Inflight.Owned.calls_of_follows {f : Flights} (owned : f.Owned) (follows : Follows f key entry) :
    (f.entries entry).notify.calls = 0 ∧ f.Mapped entry ∨ (f.entries entry).notify.calls = 1 ∧ ¬ f.Mapped entry := by
  obtain ⟨guard, present, _⟩ := follows
  rw [owned.calls entry guard present, owned.mapped_iff present]
  cases guard.phase.released <;> simp

/-- A task suspended in `wait` was so before, or has just called it. -/
theorem suspended_step (links : linked.Holds s) (taken : (proxy cfg).step s action = some t)
    (present : t.tasks i = some (.get key (.running (.notified wait)))) :
    s.tasks i = some (.get key (.running (.notified wait))) ∧ ¬ action.Touches i ∨
      ∃ entry, action = .poll i .ready ∧ s.tasks i = some (.get key (.running (.follow entry))) ∧
        Follows s.shared.flights key entry ∧
        t.shared.flights.waits wait = some (.notified entry (s.shared.flights.entries entry).notify.notified) := by
  obtain ⟨shared, same, step⟩ := became taken present
  rw [same]
  cases step with
  | kept before untouched => exact .inl ⟨before, untouched⟩
  | start _ spawned => cases spawned
  | get before polled =>
    have link := links.each _ _ before
    cases polled with
    | wait => exact .inr ⟨_, rfl, before, link.2, Function.update_self ..⟩

/-- A task stranded in `wait`, or dropped there, has no step but to be dropped. -/
theorem stranded_step (present : s.tasks i = some task) (stranded : task.Stranded s.shared.flights ∨ task.Forsaken)
    (taken : (proxy cfg).step s action = some t) (touches : action.Touches i) :
    ∃ later, t.tasks i = some later ∧ later.Forsaken := by
  rcases stranded with ⟨key, wait, entry, future, rfl, suspended, asleep⟩ | ⟨key, wait, rfl⟩
  · cases proxy_step taken with
    | get found polled =>
      cases touches
      cases present.symm.trans found
      cases polled with
      | wake woken => simp [wake, suspended, asleep] at woken
    | dropGet found =>
      cases touches
      cases present.symm.trans found
      exact ⟨_, State.replace_self .., key, wait, rfl⟩
    | head found | put found | prefetch found | late found | dropHead found | dropPut found | dropPrefetch found =>
      cases touches
      cases present.symm.trans found
    | start | evict | release => cases touches
  · cases proxy_step taken with
    | get found | head found | put found | prefetch found | late found | dropGet found | dropHead found
    | dropPut found | dropPrefetch found =>
      cases touches
      cases present.symm.trans found
    | start | evict | release => cases touches

theorem Noticed.step (noticed : Noticed past s) (links : linked.Holds s)
    (taken : (proxy cfg).step s action = some t) : Noticed ((s, action) :: past) t := by
  obtain ⟨own, call, frame, _⟩ := frame_step links taken
  constructor
  · intro i late
    rcases calledLate_cons late with earlier | ⟨reply, key, entry, rfl, present, unmapped⟩
    · obtain ⟨task, present, left⟩ := noticed.late i earlier
      by_cases touches : action.Touches i
      · have stranded := left.imp_left fun suspended => suspended.stranded links.global
        obtain ⟨later, moved, forsaken⟩ := stranded_step present stranded taken touches
        exact ⟨later, moved, .inr forsaken⟩
      · have kept := (Program.step_other taken touches (links.bounded i task present)).trans present
        refine ⟨task, kept, left.imp_left fun suspended => suspended.frame frame ?_⟩
        exact fun w waiting => waits_step links taken touches present waiting
    · have follows := (links.each i _ present).2
      obtain ⟨wait, moved⟩ : ∃ wait, t.tasks i = some (.get key (.running (.notified wait))) := by
        cases proxy_step taken with
        | get found polled =>
          cases present.symm.trans found
          cases polled with
          | wait => exact ⟨_, State.replace_self ..⟩
        | head found | put found | prefetch found | late found => cases present.symm.trans found
      refine ⟨_, moved, .inl ⟨key, wait, entry, rfl, ?_, follows.frame frame⟩⟩
      rcases suspended_step links taken moved with ⟨before, _⟩ | ⟨_, _, before, _, called⟩
      · cases present.symm.trans before
      · cases present.symm.trans before
        rcases links.global.calls_of_follows follows with ⟨_, mapped⟩ | ⟨once, _⟩
        · exact absurd mapped unmapped
        · rw [called, Notify.notified, once]
  · rintro i task seen present ⟨key, wait, entry, rfl, suspended, _⟩
    rcases suspended_step links taken present with ⟨before, untouched⟩ | ⟨_, rfl, before, follows, called⟩
    · have same := waits_step links taken untouched before rfl
      have link := links.each i _ before
      obtain ⟨_, _, waiting, follows⟩ := link
      cases waiting.symm.trans (same.symm.trans suspended)
      exact (noticed.timely i _ seen before ⟨key, wait, entry, rfl, waiting, follows⟩).imp_left (·.mono _)
    · cases called.symm.trans suspended
      rcases links.global.calls_of_follows follows with ⟨none_, _⟩ | ⟨_, unmapped⟩
      · exact .inr none_
      · exact .inl ⟨s, .ready, key, entry, List.mem_cons_self, before, unmapped⟩

theorem noticed_history
    (history : (proxy cfg).system.History allowed (Proxy.initial upstream cache) past t) : Noticed past t := by
  apply history.invariantWith (motive := Noticed) (fun _ prior => linked_reaches prior)
  · constructor
    · rintro i ⟨_, _, _, _, listed, _⟩
      cases listed
    · intro i task seen present
      simp [Proxy.initial, State.start] at present
  · intro past source action next links noticed _ taken
    exact noticed.step links taken

end Steps

/-- A request that calls `wait` late is never answered, and at rest no other is
left without its answer. -/
theorem unanswered_iff_late (cfg : AppConfig) (upstream : ObjectId → Option Bytes) (cache : FoyerCache)
    (past : ProxyPast) (t : Proxy)
    (history : (proxy cfg).system.History System.Always (Proxy.initial upstream cache) past t) :
    (∀ i, CalledLate past i →
        ∃ task, t.tasks i = some task ∧ (task.Stranded t.shared.flights ∨ task.Forsaken)) ∧
      (AtRest t → ∀ i task, t.tasks i = some task → task.ended = false → CalledLate past i) := by
  have links := linked_reaches history.reaches
  have noticed := noticed_history history
  constructor
  · intro i late
    obtain ⟨task, present, left⟩ := noticed.late i late
    exact ⟨task, present, left.imp_left fun suspended => suspended.stranded links.global⟩
  · intro rest i task present running
    rcases rest.tasks i task present with ended | ⟨key, wait, entry, future, rfl, suspended, asleep⟩
    · cases running.symm.trans ended
    · obtain ⟨_, _, waiting, follows⟩ := links.each i _ present
      cases waiting.symm.trans suspended
      rcases noticed.timely i _ future.seen present ⟨key, wait, entry, rfl, suspended, follows⟩ with late | unseen
      · exact late
      · obtain ⟨guard, held, _⟩ := follows
        have calls := links.global.calls entry guard held
        simp [rest.released entry guard held, GuardPhase.released] at calls
        simp [Notified.ready, unseen, calls] at asleep

private def awaitedByte (_ : ObjectId) : Option Bytes := some [1]

/-- A follower calls `wait` when its leader has just been answered. -/
theorem unanswered_iff_late_wait :
    ∃ past t task, (proxy (.single "b" 4 .unknown)).system.History System.Always (Proxy.initial awaitedByte .empty)
      past t ∧ t.tasks 1 = some task ∧ (task.Stranded t.shared.flights ∨ task.Forsaken) := by
  have replayed : (proxy (.single "b" 4 .unknown)).system.run (Proxy.initial awaitedByte .empty)
      [.start (.get ⟨"b", "p"⟩), .start (.get ⟨"b", "p"⟩), .poll 0 .ready, .poll 1 .ready, .poll 0 .ready,
        .poll 1 .ready, .poll 0 .ready, .poll 0 .ready, .poll 0 .ready, .poll 0 .ready,
        .poll 0 .ready] = some _ := rfl
  obtain ⟨past, history⟩ := (System.reaches_of_run replayed).history
  have called := history.snoc (show System.Always _ (.poll 1 .ready : ProxyAction) from trivial) rfl
  obtain ⟨task, present, left⟩ := (unanswered_iff_late _ _ _ _ _ called).1 1
    ⟨_, .ready, ⟨"b", "p"⟩, 0, List.mem_cons_self, rfl, by
      rintro ⟨guard, present, mapped⟩
      cases present
      cases mapped⟩
  exact ⟨_, _, task, called, present, left⟩

end Cachegate
