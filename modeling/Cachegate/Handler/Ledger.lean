import Cachegate.Handler.Commit
import Cachegate.Handler.FailedPut
import Cachegate.Library.Journal

/-! The stores as a log of commits: each PUT writes once at most, all of its body
and to its own object, and what is stored is what these writes leave. -/

namespace Cachegate

open Transition TaskPool

/-- The commit that a step is: which task writes what, and where. -/
def commitOf : Proxy × ProxyAction → Option (Nat × ObjectId × Bytes)
  | (s, .poll index .ready) => ((s.tasks index).bind Task.commits?).map fun write => (index, write)
  | _ => none

/-- The commits of a run, the latest first. -/
def ledger (past : ProxyPast) : List (Nat × ObjectId × Bytes) := past.filterMap commitOf

/-- The tasks that have committed. -/
def writers (past : ProxyPast) : List Nat := (ledger past).map Prod.fst

/-- The stores are what the log leaves of them, and the log has one entry for each
PUT past its commit, of its whole body to its own object. -/
structure Ledgered (cfg : AppConfig) (upstream : ObjectId → Option Bytes) (past : ProxyPast) (t : Proxy) : Prop where
  replays : t.shared.upstream = Journal.replay upstream ((ledger past).map Prod.snd)
  once : (writers past).Nodup
  whole : ∀ index object bytes, (index, object, bytes) ∈ ledger past →
    ∃ request phase, t.tasks index = some (.put request phase) ∧ cfg.object request.key = some object ∧
      request.body.flatten = bytes
  settled : ∀ index request phase, t.tasks index = some (.put request phase) →
    (index ∈ writers past ↔ PutSucceeds phase)

section Steps

variable {cfg : AppConfig} {s t : Proxy} {past : ProxyPast} {index : Nat}

theorem ledger_cons (step : Proxy × ProxyAction) (past : ProxyPast) :
    ledger (step :: past) = (commitOf step).toList ++ ledger past := by
  unfold ledger
  cases committed : commitOf step with
  | none => simp [committed]
  | some entry => simp [committed]

/-- A reply to this task is the commit of what it has uploaded, or none. -/
theorem commitOf_poll (present : s.tasks index = some task) :
    commitOf (s, .poll index .ready) = task.commits?.map fun write => (index, write) := by
  simp only [commitOf, present, Option.bind_some]

theorem commitOf_task (present : s.tasks index = some task) (idle : task.commits? = none) (reply : Reply) :
    commitOf (s, .poll index reply) = none := by
  cases reply with
  | ready => rw [commitOf_poll present, idle, Option.map_none]
  | failed | cacheError | streamError => rfl

/-- A step changes the stores by its commit, and otherwise not at all. -/
theorem upstream_commit (taken : (proxy cfg).step s action = some t) :
    t.shared.upstream = Journal.replay s.shared.upstream ((commitOf (s, action)).toList.map Prod.snd) := by
  have idle (quiet : commitOf (s, action) = none) (same : t.shared.upstream = s.shared.upstream) :
      t.shared.upstream = Journal.replay s.shared.upstream ((commitOf (s, action)).toList.map Prod.snd) := by
    rw [quiet, same]
    rfl
  cases proxy_step taken with
  | start spawned => exact idle rfl spawned.upstream
  | get present polled => exact idle (commitOf_task present rfl _) polled.untouched.upstream
  | prefetch present polled => exact idle (commitOf_task present rfl _) polled.untouched.upstream
  | head present polled =>
    exact idle (commitOf_task present rfl _)
      ((congrArg Shared.upstream (State.pushAll_shared _ _)).trans polled.untouched.upstream)
  | put present polled =>
    cases polled with
    | committed =>
      rw [commitOf_poll present]
      rfl
    | finishFailed | finishAborted => exact idle rfl rfl
    | checked | opened | initFailed | chunk | ended | bodyFailed | aborted | abortFailed | refused | uncached | caching
    | inserted => exact idle (commitOf_task present rfl _) rfl
  | late present landed =>
    cases landed with
    | opened | aborted => exact idle (commitOf_task present rfl _) rfl
    | committed =>
      rw [commitOf_poll present]
      rfl
  | dropGet | dropHead | dropPut | dropPrefetch | evict | release => exact idle rfl rfl

theorem commitOf_eq_some {write : ObjectId × Bytes} : commitOf (s, action) = some (index, write) ↔
    action = .poll index .ready ∧ ∃ task, s.tasks index = some task ∧ task.commits? = some write := by
  constructor
  · intro committed
    unfold commitOf at committed
    split at committed
    · rename_i source polled same
      cases same
      obtain ⟨written, found, same⟩ := Option.map_eq_some_iff.mp committed
      cases same
      exact ⟨rfl, Option.bind_eq_some_iff.mp found⟩
    · cases committed
  · rintro ⟨rfl, task, present, commits⟩
    rw [commitOf_poll present, commits, Option.map_some]

theorem writers_cons : index ∈ writers ((s, action) :: past) ↔
    (∃ write, commitOf (s, action) = some (index, write)) ∨ index ∈ writers past := by
  simp only [writers, ledger_cons, List.map_append, List.mem_append, List.mem_map, Option.mem_toList]
  refine or_congr_left ?_
  constructor
  · rintro ⟨⟨_, write⟩, committed, rfl⟩
    exact ⟨write, committed⟩
  · rintro ⟨write, committed⟩
    exact ⟨_, committed, rfl⟩

/-- A task that is about to commit is a PUT in `finish`. -/
theorem Task.commits_finish {task : Task} (commits : task.commits? = some (object, bytes)) :
    ∃ request upload loop, (task = .put request (.running (.finish object upload loop)) ∨
      task = .put request (.dropped (.finish object upload loop))) ∧ loop.uploaded = bytes := by
  unfold Task.commits? at commits
  split at commits
  · cases commits
    exact ⟨_, _, _, .inl rfl, rfl⟩
  · cases commits
    exact ⟨_, _, _, .inr rfl, rfl⟩
  · cases commits

theorem AppError.fromStore_failed (err : StoreError) : (fromStore err).status ≠ .ok := by
  cases err <;> decide

/-- A PUT comes past its commit by the commit alone, and stays there. -/
theorem PutMove.settles (move : PutMove cfg request index shared phase action shared' phase') :
    PutSucceeds phase' ↔
      PutSucceeds phase ∨ action = .poll index .ready ∧ ∃ write, (Task.put request phase).commits? = some write := by
  cases move with
  | polled step =>
    cases step with
    | committed => simp [PutSucceeds, PutAwait.Committed, Task.commits?]
    | finishFailed err | finishAborted err | initFailed err =>
      simp [PutSucceeds, PutAwait.Committed, statusOf, AppError.fromStore_failed err]
    | checked | opened | chunk | ended | bodyFailed | aborted | abortFailed | refused | uncached | caching | inserted =>
      simp [PutSucceeds, PutAwait.Committed, Task.commits?, statusOf, AppError.badRequest, buildPutResponse]
  | @dropped at_ => simp [PutSucceeds]
  | late landed => cases landed <;> simp [PutSucceeds, PutAwait.Committed, Task.commits?]

/-- A PUT found after a step was there before, is new, or has moved. -/
theorem put_became (taken : (proxy cfg).step s action = some t)
    (present : t.tasks index = some (.put request phase')) :
    (s.tasks index = some (.put request phase') ∧ ¬ action.Touches index) ∨
      (index = s.next ∧ ¬ PutSucceeds phase' ∧ ∀ i reply, action ≠ .poll i reply) ∨
      ∃ phase, s.tasks index = some (.put request phase) ∧
        PutMove cfg request index s.shared phase action t.shared phase' := by
  obtain ⟨shared, same, step⟩ := became taken present
  rw [same]
  cases step with
  | kept before untouched => exact .inl ⟨before, untouched⟩
  | start fresh spawned =>
    right; left
    cases spawned with
    | putInvalid | putUnknown =>
      exact ⟨fresh, by simp [PutSucceeds, statusOf, AppError.badRequest, AppError.notFound], by simp⟩
    | put => exact ⟨fresh, id, by simp⟩
  | put before polled => exact .inr (.inr ⟨_, before, .polled polled⟩)
  | late before landed => exact .inr (.inr ⟨_, before, .late landed⟩)
  | dropPut before => exact .inr (.inr ⟨_, before, .dropped⟩)

theorem Ledgered.step (kept : Ledgered cfg upstream past s) (links : linked.Holds s)
    (formed : s.All (Task.Formed cfg)) (taken : (proxy cfg).step s action = some t) :
    Ledgered cfg upstream ((s, action) :: past) t := by
  have committing {i : Nat} {write : ObjectId × Bytes} (committed : commitOf (s, action) = some (i, write)) :
      ∃ request phase phase', s.tasks i = some (.put request phase) ∧ ¬ PutSucceeds phase ∧
        cfg.object request.key = some write.1 ∧ request.body.flatten = write.2 ∧
        t.tasks i = some (.put request phase') := by
    obtain ⟨rfl, task, present, commits⟩ := commitOf_eq_some.mp committed
    obtain ⟨request, upload, loop, rfl | rfl, uploaded⟩ := task.commits_finish commits
    · obtain ⟨known, rfl⟩ := formed i _ present
      obtain ⟨shared, phase', _, rfl⟩ := put_move present taken rfl
      exact ⟨request, _, phase', present, id, known, by rw [← uploaded, UploadLoop.run_uploaded],
        State.replace_self ..⟩
    · obtain ⟨known, rfl⟩ := (formed i _ present :)
      obtain ⟨shared, phase', _, rfl⟩ := put_move present taken rfl
      exact ⟨request, _, phase', present, id, known, by rw [← uploaded, UploadLoop.run_uploaded],
        State.replace_self ..⟩
  constructor
  · rw [ledger_cons, List.map_append, Journal.replay_append, ← kept.replays]
    exact upstream_commit taken
  · cases committed : commitOf (s, action) with
    | none => simpa [writers, ledger_cons, committed] using kept.once
    | some entry =>
      obtain ⟨i, write⟩ := entry
      obtain ⟨request, phase, _, present, before, _⟩ := committing committed
      have unwritten : i ∉ writers past := fun written => before ((kept.settled i request phase present).mp written)
      simpa [writers, ledger_cons, committed] using And.intro unwritten kept.once
  · intro i object bytes listed
    rw [ledger_cons, List.mem_append, Option.mem_toList] at listed
    rcases listed with now | earlier
    · obtain ⟨request, _, phase', _, _, known, whole, moved⟩ := committing now
      exact ⟨request, phase', moved, known, whole⟩
    · obtain ⟨request, phase, present, known, whole⟩ := kept.whole i object bytes earlier
      by_cases touches : action.Touches i
      · obtain ⟨shared, phase', _, rfl⟩ := put_move present taken touches
        exact ⟨request, phase', State.replace_self .., known, whole⟩
      · have same := Program.step_other taken touches (links.bounded i _ present)
        exact ⟨request, phase, same.trans present, known, whole⟩
  · intro i request phase' present
    rw [writers_cons]
    rcases put_became taken present with ⟨before, untouched⟩ | ⟨rfl, unsettled, unpolled⟩ | ⟨phase, before, move⟩
    · rw [← kept.settled i request phase' before]
      refine or_iff_right ?_
      rintro ⟨write, committed⟩
      obtain ⟨rfl, _⟩ := commitOf_eq_some.mp committed
      exact untouched rfl
    · refine iff_of_false ?_ unsettled
      rintro (⟨write, committed⟩ | earlier)
      · exact unpolled _ _ (commitOf_eq_some.mp committed).1
      · obtain ⟨⟨_, object, bytes⟩, listed, rfl⟩ := List.mem_map.mp earlier
        obtain ⟨_, _, found, _⟩ := kept.whole _ object bytes listed
        exact absurd (links.bounded _ _ found) (Nat.lt_irrefl _)
    · rw [move.settles, kept.settled i request phase before, or_comm]
      refine or_congr_right ?_
      simp only [commitOf_eq_some, before, Option.some.injEq, exists_eq_left', exists_and_left]

/-- A PUT past its commit has its body in the log. -/
theorem Ledgered.wrote (kept : Ledgered cfg upstream past s) (present : s.tasks index = some (.put request phase))
    (succeeds : PutSucceeds phase) :
    ∃ object, cfg.object request.key = some object ∧ (index, object, request.body.flatten) ∈ ledger past := by
  have written : index ∈ writers past := (kept.settled index request phase present).mpr succeeds
  obtain ⟨⟨_, object, bytes⟩, committed, rfl⟩ := List.mem_map.mp written
  obtain ⟨_, _, found, known, whole⟩ := kept.whole _ object bytes committed
  cases present.symm.trans found
  exact ⟨object, known, whole ▸ committed⟩

end Steps

theorem ledgered_initial (cfg : AppConfig) (upstream : ObjectId → Option Bytes) (cache : FoyerCache) :
    Ledgered cfg upstream [] (Proxy.initial upstream cache) := by
  refine ⟨rfl, List.nodup_nil, ?_, ?_⟩
  · intro index object bytes listed
    cases listed
  · intro index request phase present
    simp [Proxy.initial, State.start] at present

/-- In every run the stores are what the commits of its PUTs leave of them, each of
which is whole and made once: by every PUT answered 200, and by none that fails. -/
theorem ledgered_history (cfg : AppConfig) (upstream : ObjectId → Option Bytes) (cache : FoyerCache)
    (past : ProxyPast) (t : Proxy)
    (history : (proxy cfg).system.History System.Always (Proxy.initial upstream cache) past t) :
    Ledgered cfg upstream past t := by
  apply history.invariantWith (motive := Ledgered cfg upstream)
    (fun _ prior => And.intro (linked_reaches prior) (formed_reaches prior))
  · exact ledgered_initial cfg upstream cache
  · rintro past source action next ⟨links, formed⟩ kept _ taken
    exact kept.step links formed taken

private def replacedByte (_ : ObjectId) : Option Bytes := some [9]

/-- The client of a second PUT leaves while `finish` is under way, and it is
committed all the same. -/
theorem ledgered_history_overwrite :
    ∃ past t, Ledgered (.single "b" 4 .unknown) replacedByte past t ∧ t.shared.upstream ⟨0, "p"⟩ = some [2, 3] := by
  have replayed : (proxy (.single "b" 4 .unknown)).system.run (Proxy.initial replacedByte .empty)
      [.start (.put ⟨⟨"b", "p"⟩, ⟨none, none⟩, [[1]]⟩), .start (.put ⟨⟨"b", "p"⟩, ⟨none, none⟩, [[2], [3]]⟩),
        .poll 0 .ready, .poll 1 .ready, .poll 0 .ready, .poll 1 .ready, .poll 1 .ready, .poll 1 .ready,
        .poll 1 .ready, .poll 0 .ready, .poll 0 .ready, .poll 0 .ready, .poll 0 .ready, .poll 0 .ready, .cancel 1,
        .poll 1 .ready] = some _ := rfl
  obtain ⟨past, history⟩ := (System.reaches_of_run replayed).history
  exact ⟨past, _, ledgered_history _ _ _ _ _ history, rfl⟩

end Cachegate
