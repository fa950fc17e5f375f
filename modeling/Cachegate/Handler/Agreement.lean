import Cachegate.Handler.Found
import Cachegate.Handler.Ledger

/-! Overwrites under concurrency. A PUT commits and inserts in two steps, and a
fetch reads and inserts in two steps, so the cache agrees with the stores in
the end only where no commit came in between the two steps of the last insertion. -/

namespace Cachegate

open Transition TaskPool

/-- A PUT that has committed these bytes and still has its insertion ahead. -/
def Task.pending? : Task → Option (ObjectId × Bytes)
  | .put _ (.running (.committed object loop)) | .put _ (.running (.insert object loop)) =>
      some (object, loop.uploaded)
  | _ => none

def Phase.ended {Await Result : Type} : Phase Await Result → Bool
  | .running _ => false
  | .returned _ | .dropped _ => true

def Task.ended : Task → Bool
  | .get _ phase => phase.ended
  | .head _ _ phase => phase.ended
  | .put _ phase => phase.ended
  | .prefetch _ phase => phase.ended

/-- No request and no prefetch is running. -/
def Quiescent (s : Proxy) : Prop := ∀ i < s.next, ∀ task ∈ s.tasks i, task.ended = true

instance (s : Proxy) : Decidable (Quiescent s) :=
  inferInstanceAs (Decidable (∀ i < s.next, ∀ task ∈ s.tasks i, task.ended = true))

/-- A cached entry is a copy of its object. -/
def Agrees (cfg : AppConfig) (s : Shared) : Prop :=
  ∀ key object entry, cfg.object key = some object → s.cache.entries key = some entry →
    s.upstream object = some entry.bytes

/-- The object that a task asks the stores for, or commits, in its next step. -/
def Task.accesses? (task : Task) : Option ObjectId := task.reads?.or (task.commits?.map Prod.fst)

/-- The access to the stores that a step is. -/
def accessOf : Proxy × ProxyAction → Option (Nat × ObjectId)
  | (s, .poll index .ready) => ((s.tasks index).bind Task.accesses?).map fun object => (index, object)
  | _ => none

/-- The insertion in the cache that a step is. -/
def insertionOf : Proxy × ProxyAction → Option (Nat × CacheKey × Bytes)
  | (s, .poll index .ready) => ((s.tasks index).bind Task.inserts?).map fun insertion => (index, insertion)
  | _ => none

/-- The step commits to the object. -/
def Commits (object : ObjectId) (step : Proxy × ProxyAction) : Prop :=
  ∃ write ∈ commitOf step, write.2.1 = object

instance (object : ObjectId) (step : Proxy × ProxyAction) : Decidable (Commits object step) :=
  inferInstanceAs (Decidable (∃ write ∈ commitOf step, write.2.1 = object))

/-- The object was committed to since this task last read it or committed to it. -/
def Overtaken (index : Nat) (object : ObjectId) : ProxyPast → Prop
  | [] => False
  | step :: past => accessOf step ≠ some (index, object) ∧ (Commits object step ∨ Overtaken index object past)

/-- The last insertion under the key was overtaken: another commit came in between
the read or the commit of the task that made it and the insertion. -/
def Outdated (key : CacheKey) (object : ObjectId) : ProxyPast → Prop
  | [] => False
  | step :: past =>
      (∃ insertion ∈ insertionOf step, insertion.2.1 = key ∧ Overtaken insertion.1 object past) ∨
        (∀ insertion ∈ insertionOf step, insertion.2.1 ≠ key) ∧ Outdated key object past

instance decidableOvertaken (index : Nat) (object : ObjectId) :
    (past : ProxyPast) → Decidable (Overtaken index object past)
  | [] => isFalse id
  | step :: past =>
      have : Decidable (Overtaken index object past) := decidableOvertaken index object past
      inferInstanceAs (Decidable (accessOf step ≠ some (index, object) ∧
        (Commits object step ∨ Overtaken index object past)))

instance decidableOutdated (key : CacheKey) (object : ObjectId) :
    (past : ProxyPast) → Decidable (Outdated key object past)
  | [] => isFalse id
  | step :: past =>
      have : Decidable (Outdated key object past) := decidableOutdated key object past
      inferInstanceAs (Decidable (
        (∃ insertion ∈ insertionOf step, insertion.2.1 = key ∧ Overtaken insertion.1 object past) ∨
          (∀ insertion ∈ insertionOf step, insertion.2.1 ≠ key) ∧ Outdated key object past))

/-- No request is cancelled, and every PUT body is one that the cache takes. -/
def WithinCap (cfg : AppConfig) (_ : Proxy) : ProxyAction → Prop
  | .start (.put request) => (UploadLoop.run cfg.capBytes request.body).capped = false
  | .cancel _ => False
  | _ => True

instance (cfg : AppConfig) (s : Proxy) : (action : ProxyAction) → Decidable (WithinCap cfg s action)
  | .start (.put request) =>
      inferInstanceAs (Decidable ((UploadLoop.run cfg.capBytes request.body).capped = false))
  | .cancel _ => isFalse id
  | .start (.get _) | .start (.head _ _) | .poll _ _ | .env _ => isTrue trivial

/-- No call to a store fails, and no body stream does. -/
def Succeeds (_ : Proxy) : ProxyAction → Prop
  | .poll _ (.failed _) | .poll _ .streamError => False
  | _ => True

instance (s : Proxy) : (action : ProxyAction) → Decidable (Succeeds s action)
  | .poll _ (.failed _) | .poll _ .streamError => isFalse id
  | .poll _ .ready | .poll _ .cacheError | .start _ | .cancel _ | .env _ => isTrue trivial

section Copies

variable (cfg : AppConfig) (key : CacheKey)

def FetchAwait.copy? : FetchAwait → Option (ObjectId × Bytes)
  | .bytes object data => some (object, data)
  | .put data _ => (cfg.object key).map (·, data)
  | .get _ | .missing _ => none

def LeaderAwait.copy? : LeaderAwait → Option (ObjectId × Bytes)
  | .fetch stage => stage.copy? cfg key
  | .store _ | .release _ => none

/-- What a task has read or committed, and of which object, until it is inserted. -/
def Task.copy? : Task → Option (ObjectId × Bytes)
  | .get key (.running (.leader _ stage)) | .prefetch key (.running (.leader _ stage)) => stage.copy? cfg key
  | .get key (.running (.fallback stage)) => stage.copy? cfg key
  | .put request phase => (Task.put request phase).pending?
  | _ => none

end Copies

/-- What a task has in its hands is what is stored, unless it was overtaken. -/
def UpToDate (cfg : AppConfig) (past : ProxyPast) (s : Proxy) : Prop :=
  ∀ i task object bytes, s.tasks i = some task → task.copy? cfg = some (object, bytes) →
    Overtaken i object past ∨ s.shared.upstream object = some bytes

/-- Some PUT has committed to the object and has its insertion ahead. -/
def Pending (object : ObjectId) (s : Proxy) : Prop :=
  ∃ i task bytes, s.tasks i = some task ∧ task.pending? = some (object, bytes)

/-- Each cached entry is a copy of its object, was overtaken, or is about to be replaced. -/
def Agreeing (cfg : AppConfig) (past : ProxyPast) (s : Proxy) : Prop :=
  ∀ key object entry, cfg.object key = some object → s.shared.cache.entries key = some entry →
    Outdated key object past ∨ s.shared.upstream object = some entry.bytes ∨ Pending object s

/-- A PUT, in whatever phase, has a body that the cache takes. -/
def Task.Cacheable (cfg : AppConfig) : Task → Prop
  | .put request phase =>
      (UploadLoop.run cfg.capBytes request.body).capped = false ∧ ∀ at_, phase ≠ .dropped at_
  | _ => True

section Steps

variable {cfg : AppConfig} {key : CacheKey} {s s' : Shared} {guard : EntryId}

/-- A fetch has in its hands what it had before or what it has just read. -/
theorem FetchStep.copy (step : FetchStep cfg key method s at_ reply s' (.inl stage)) (formed : at_.Formed cfg key)
    (copy : stage.copy? cfg key = some (object, bytes)) :
    (at_.copy? cfg key = some (object, bytes) ∧ at_.reads? = none) ∨ s'.upstream object = some bytes := by
  cases step with
  | got stored =>
    cases copy
    exact .inr stored
  | absent => cases copy
  | read =>
    simp only [FetchAwait.Formed] at formed
    simp only [FetchAwait.copy?, formed, Option.map_some] at copy
    exact .inl ⟨copy, rfl⟩

theorem FetchStart.copy (start : FetchStart cfg key s s' (.inl stage)) : stage.copy? cfg key = none := by
  cases start
  rfl

theorem LeaderStart.copy (start : LeaderStart cfg key guard s s' stage) : stage.copy? cfg key = none := by
  cases start with
  | fetch started => exact started.copy
  | complete => rfl

/-- The step of a task that has this in its hands: it had so before without
asking the stores now, or it is stored. -/
def Task.Keeps (cfg : AppConfig) (task : Task) (upstream : ObjectId → Option Bytes) (object : ObjectId)
    (bytes : Bytes) : Prop :=
  (task.copy? cfg = some (object, bytes) ∧ task.accesses? = none) ∨ upstream object = some bytes

theorem FetchStep.keeps {task : Task} (step : FetchStep cfg key method s at_ reply s' (.inl stage))
    (formed : at_.Formed cfg key) (held : task.copy? cfg = at_.copy? cfg key) (reads : task.reads? = at_.reads?)
    (commits : task.commits? = none) (copy : stage.copy? cfg key = some (object, bytes)) :
    task.Keeps cfg s'.upstream object bytes := by
  refine (step.copy formed copy).imp_left ?_
  rintro ⟨had, idle⟩
  exact ⟨held.trans had, by simp [Task.accesses?, reads, idle, commits]⟩

theorem GetStep.copy (step : GetStep cfg key s at_ reply s' phase) (formed : at_.Formed cfg key)
    (copy : (Task.get key phase).copy? cfg = some (object, bytes)) :
    (Task.get key (.running at_)).Keeps cfg s'.upstream object bytes := by
  cases step with
  | lead _ started => cases started.copy.symm.trans copy
  | leader led =>
    cases led with
    | fetch fetched => exact fetched.keeps formed rfl rfl rfl copy
    | complete | store => cases copy
  | abandoned _ started => cases started.copy.symm.trans copy
  | fallback fetched => exact fetched.keeps formed rfl rfl rfl copy
  | hit | miss | follow | led | wait | wake | joined | joinedError | abandonedEnds | recheckHit | recheckMiss
  | fallbackEnds => cases copy

theorem PrefetchStep.copy (step : PrefetchStep cfg key s at_ reply s' phase) (formed : at_.Formed cfg key)
    (copy : (Task.prefetch key phase).copy? cfg = some (object, bytes)) :
    (Task.prefetch key (.running at_)).Keeps cfg s'.upstream object bytes := by
  cases step with
  | lead _ started => cases started.copy.symm.trans copy
  | leader led =>
    cases led with
    | fetch fetched => exact fetched.keeps formed rfl rfl rfl copy
    | complete | store => cases copy
  | follow | led => cases copy

theorem PutStep.copy (step : PutStep cfg request s at_ reply s' phase)
    (copy : (Task.put request phase).copy? cfg = some (object, bytes)) :
    (Task.put request (.running at_)).Keeps cfg s'.upstream object bytes := by
  cases step with
  | committed =>
    cases copy
    right
    simp [Shared.commit, Shared.setUpload]
  | caching => exact .inl ⟨copy, rfl⟩
  | checked | opened | initFailed | chunk | ended | bodyFailed | aborted | abortFailed | refused | finishFailed
  | finishAborted | uncached | inserted => cases copy

/-- What is inserted is what the task had in its hands. -/
theorem Task.Formed.copy {task : Task} (formed : task.Formed cfg) (inserts : task.inserts? = some (key, bytes))
    (known : cfg.object key = some object) : task.copy? cfg = some (object, bytes) := by
  unfold Task.inserts? at inserts
  split at inserts
  · obtain ⟨rfl, contentType, rfl⟩ := LeaderAwait.inserts_put inserts
    simp [Task.copy?, LeaderAwait.copy?, FetchAwait.copy?, known]
  · obtain ⟨rfl, contentType, rfl⟩ := FetchAwait.inserts_put inserts
    simp [Task.copy?, FetchAwait.copy?, known]
  · obtain ⟨rfl, contentType, rfl⟩ := LeaderAwait.inserts_put inserts
    simp [Task.copy?, LeaderAwait.copy?, FetchAwait.copy?, known]
  · cases inserts
    obtain ⟨known', rfl, uncapped⟩ := (formed :)
    cases known.symm.trans known'
    rw [UploadLoop.run_buffer uncapped]
    simp [Task.copy?, Task.pending?]
  · cases inserts

end Steps

section Runs

variable {cfg : AppConfig} {s t : Proxy} {past : ProxyPast} {action : ProxyAction} {index : Nat} {object : ObjectId}

theorem cacheable_reaches (meets : ∀ s action, allowed s action → WithinCap cfg s action)
    (reach : (proxy cfg).system.Reaches allowed (Proxy.initial upstream cache) s) :
    s.All (Task.Cacheable cfg) := by
  refine reach.invariant (motive := fun s => s.All (Task.Cacheable cfg)) (State.all_start _) ?_
  intro source action next cacheable allow taken
  have within := meets _ _ allow
  cases proxy_step taken with
  | start spawned =>
    refine State.All.push cacheable ?_
    cases spawned with
    | putInvalid | putUnknown | put => exact ⟨within, by simp⟩
    | getInvalid | get | headInvalid | head => trivial
  | get | prefetch => exact cacheable.replace trivial
  | head => exact all_head (cacheable.replace trivial) trivial
  | put present polled =>
    refine cacheable.replace ⟨(cacheable _ _ present).1, ?_⟩
    cases polled <;> simp
  | late present => exact absurd rfl ((cacheable _ _ present).2 _)
  | dropGet | dropHead | dropPut | dropPrefetch => exact within.elim
  | evict | release => exact cacheable

theorem accessOf_untouched (untouched : ¬ action.Touches index) : accessOf (s, action) ≠ some (index, object) := by
  intro accessed
  unfold accessOf at accessed
  split at accessed
  · rename_i source polled same
    cases same
    obtain ⟨_, _, own⟩ := Option.map_eq_some_iff.mp accessed
    cases own
    exact untouched rfl
  · cases accessed

theorem accessOf_idle (present : s.tasks index = some task) (idle : task.accesses? = none) (reply : Reply) :
    accessOf (s, .poll index reply) ≠ some (index, object) := by
  cases reply with
  | ready => simp [accessOf, present, idle]
  | failed | cacheError | streamError => simp [accessOf]

/-- Only a commit changes an object. -/
theorem upstream_uncommitted (taken : (proxy cfg).step s action = some t) (idle : ¬ Commits object (s, action)) :
    t.shared.upstream object = s.shared.upstream object := by
  rw [upstream_commit taken]
  cases committed : commitOf (s, action) with
  | none => rfl
  | some entry =>
    have different : object ≠ entry.2.1 := by
      rintro rfl
      exact idle ⟨entry, committed, rfl⟩
    simp [different]

/-- A step in which the task does not access the object leaves its copy of it up
to date, or overtakes it. -/
theorem overtaken_cons (taken : (proxy cfg).step s action = some t)
    (idle : accessOf (s, action) ≠ some (index, object))
    (current : Overtaken index object past ∨ s.shared.upstream object = some bytes) :
    Overtaken index object ((s, action) :: past) ∨ t.shared.upstream object = some bytes := by
  rcases current with overtaken | stored
  · exact .inl ⟨idle, .inr overtaken⟩
  · by_cases commits : Commits object (s, action)
    · exact .inl ⟨idle, .inl commits⟩
    · exact .inr ((upstream_uncommitted taken commits).trans stored)

theorem UpToDate.step (current : UpToDate cfg past s) (formed : s.All (Task.Formed cfg))
    (taken : (proxy cfg).step s action = some t) : UpToDate cfg ((s, action) :: past) t := by
  intro i task object bytes present copy
  obtain ⟨shared, same, step⟩ := became taken present
  have moved {before : Task} {reply : Reply} (found : s.tasks i = some before) (polls : action = .poll i reply)
      (keeps : before.Keeps cfg shared.upstream object bytes) :
      Overtaken i object ((s, action) :: past) ∨ t.shared.upstream object = some bytes := by
    subst polls
    rcases keeps with ⟨had, idle⟩ | stored
    · exact overtaken_cons taken (accessOf_idle found idle reply) (current i before object bytes found had)
    · exact .inr (same ▸ stored)
  cases step with
  | kept found untouched =>
    exact overtaken_cons taken (accessOf_untouched untouched) (current i task object bytes found copy)
  | start _ spawned => cases spawned <;> cases copy
  | get found polled => exact moved found rfl (polled.copy (formed _ _ found) copy)
  | put found polled => exact moved found rfl (polled.copy copy)
  | prefetch found polled => exact moved found rfl (polled.copy (formed _ _ found) copy)
  | spawned | head | late | dropGet | dropHead | dropPut | dropPrefetch => cases copy

theorem insertionOf_eq_some {insertion : CacheKey × Bytes} : insertionOf (s, action) = some (index, insertion) ↔
    action = .poll index .ready ∧ ∃ task, s.tasks index = some task ∧ task.inserts? = some insertion := by
  constructor
  · intro inserted
    unfold insertionOf at inserted
    split at inserted
    · rename_i source polled same
      cases same
      obtain ⟨_, found, own⟩ := Option.map_eq_some_iff.mp inserted
      cases own
      exact ⟨rfl, Option.bind_eq_some_iff.mp found⟩
    · cases inserted
  · rintro ⟨rfl, task, present, inserts⟩
    simp [insertionOf, present, inserts]

theorem inserted_step (taken : (proxy cfg).step s action = some t)
    (inserted : insertionOf (s, action) = some (index, key, bytes)) :
    ∃ contentType, t.shared.cache = s.shared.cache.put key bytes contentType := by
  obtain ⟨rfl, task, present, inserts⟩ := insertionOf_eq_some.mp inserted
  obtain ⟨task', shared, _, child, found, polled, rfl⟩ := Program.step_poll taken
  cases present.symm.trans found
  obtain ⟨contentType, put⟩ := poll_inserts inserts polled
  exact ⟨contentType, by rw [State.pushAll_shared, State.replace_shared, put]⟩

/-- An entry that is not inserted under its key was there before. -/
theorem cached_before (taken : (proxy cfg).step s action = some t)
    (other : ∀ insertion ∈ insertionOf (s, action), insertion.2.1 ≠ key)
    (cached : t.shared.cache.entries key = some entry) : s.shared.cache.entries key = some entry := by
  rcases cache_moves taken with same | ⟨index, task, name, bytes, contentType, rfl, present, inserts, put⟩ |
    ⟨evicted, rfl, left⟩
  · rwa [same] at cached
  · have different : key ≠ name := fun same =>
      other (index, name, bytes) (insertionOf_eq_some.mpr ⟨rfl, task, present, inserts⟩) same.symm
    simpa [put, FoyerCache.put, different] using cached
  · by_cases own : key = evicted
    · simp [left, FoyerCache.evict, own] at cached
    · simpa [left, FoyerCache.evict, own] using cached

/-- A PUT that has committed still has its insertion ahead, or inserts now. -/
theorem pending_step (links : linked.Holds s) (formed : s.All (Task.Formed cfg))
    (cacheable : s.All (Task.Cacheable cfg)) (within : WithinCap cfg s action)
    (taken : (proxy cfg).step s action = some t) (pending : Pending object s) :
    Pending object t ∨ ∃ index key bytes, insertionOf (s, action) = some (index, key, bytes) ∧
      cfg.object key = some object := by
  obtain ⟨i, task, bytes, present, ahead⟩ := pending
  by_cases touches : action.Touches i
  · have own := formed i task present
    have takes := cacheable i task present
    unfold Task.pending? at ahead
    split at ahead <;> cases ahead
    · obtain ⟨shared, phase, move, rfl⟩ := put_move present taken touches
      cases move with
      | polled step =>
        cases step with
        | uncached capped =>
          obtain ⟨_, rfl⟩ := (own :)
          simp [takes.1] at capped
        | caching => exact .inl ⟨i, _, _, State.replace_self .., rfl⟩
      | dropped => exact within.elim
    · obtain ⟨shared, phase, move, rfl⟩ := put_move present taken touches
      cases move with
      | polled step =>
        cases step with
        | inserted => exact .inr ⟨i, _, _, insertionOf_eq_some.mpr ⟨rfl, _, present, rfl⟩, own.1⟩
      | dropped => exact within.elim
  · exact .inl ⟨i, task, bytes, (Program.step_other taken touches (links.bounded i task present)).trans present, ahead⟩

/-- A PUT that commits has its insertion ahead. -/
theorem pending_commit (cacheable : s.All (Task.Cacheable cfg)) (taken : (proxy cfg).step s action = some t)
    (commits : Commits object (s, action)) : Pending object t := by
  obtain ⟨⟨i, _, bytes⟩, committed, rfl⟩ := commits
  obtain ⟨rfl, task, present, writes⟩ := commitOf_eq_some.mp committed
  obtain ⟨request, upload, loop, rfl | rfl, uploaded⟩ := task.commits_finish writes
  · obtain ⟨shared, phase, move, rfl⟩ := put_move present taken rfl
    cases writes
    cases move with
    | polled step =>
      cases step with
      | committed => exact ⟨i, _, _, State.replace_self .., rfl⟩
  · exact absurd rfl ((cacheable i _ present).2 _)

theorem Agreeing.step (agreeing : Agreeing cfg past s) (current : UpToDate cfg past s) (links : linked.Holds s)
    (formed : s.All (Task.Formed cfg)) (cacheable : s.All (Task.Cacheable cfg))
    (injective : ∀ key key' object, cfg.object key = some object → cfg.object key' = some object → key = key')
    (within : WithinCap cfg s action) (taken : (proxy cfg).step s action = some t) :
    Agreeing cfg ((s, action) :: past) t := by
  intro key object entry known cached
  have stored (before : s.shared.upstream object = some entry.bytes) :
      t.shared.upstream object = some entry.bytes ∨ Pending object t := by
    by_cases commits : Commits object (s, action)
    · exact .inr (pending_commit cacheable taken commits)
    · exact .inl ((upstream_uncommitted taken commits).trans before)
  by_cases inserts : ∃ insertion ∈ insertionOf (s, action), insertion.2.1 = key
  · obtain ⟨⟨index, _, bytes⟩, inserted, rfl⟩ := inserts
    obtain ⟨contentType, put⟩ := inserted_step taken inserted
    have latest : ⟨bytes, contentType⟩ = entry := by simpa [put, FoyerCache.put] using cached
    subst latest
    obtain ⟨rfl, task, present, inserts⟩ := insertionOf_eq_some.mp inserted
    have copy := (formed index task present).copy inserts known
    rcases current index task object bytes present copy with overtaken | before
    · exact .inl (.inl ⟨_, inserted, rfl, overtaken⟩)
    · exact .inr (stored before)
  · have others : ∀ insertion ∈ insertionOf (s, action), insertion.2.1 ≠ key := fun insertion inserted same =>
      inserts ⟨insertion, inserted, same⟩
    rcases agreeing key object entry known (cached_before taken others cached) with outdated | before | pending
    · exact .inl (.inr ⟨others, outdated⟩)
    · exact .inr (stored before)
    · rcases pending_step links formed cacheable within taken pending with still | ⟨index, name, bytes, inserted, named⟩
      · exact .inr (.inr still)
      · exact absurd (injective name key object named known) (others _ inserted)

theorem agreeing_history
    (injective : ∀ key key' object, cfg.object key = some object → cfg.object key' = some object → key = key')
    (agrees : Agrees cfg (.initial upstream cache))
    (history : (proxy cfg).system.History (WithinCap cfg) (Proxy.initial upstream cache) past s) :
    UpToDate cfg past s ∧ Agreeing cfg past s := by
  refine history.invariantWith (motive := fun past s => UpToDate cfg past s ∧ Agreeing cfg past s)
    (fun _ prior => And.intro (linked_reaches prior) (And.intro (formed_reaches prior)
      (cacheable_reaches (fun _ _ within => within) prior))) ?_ ?_
  · constructor
    · intro i task object bytes present
      cases present
    · intro key object entry known found
      exact .inr (.inl (agrees key object entry known found))
  · rintro past source action next ⟨links, formed, cacheable⟩ ⟨current, agreeing⟩ within taken
    exact ⟨current.step formed taken, agreeing.step current links formed cacheable injective within taken⟩

end Runs

private def oldByte (_ : ObjectId) : Option Bytes := some [0]

end Cachegate
