import Cachegate.Config
import Cachegate.Handler.Uploads
import Cachegate.Handler.Commit

/-! What the handlers insert in the cache: nothing above the cap, from a PUT
nothing but its whole body, and how the decision of a PUT compares with the one
of a fetch. -/

namespace Cachegate

open Transition TaskPool

/-- The loop state that a PUT carries. -/
def Task.loop? : Task → Option UploadLoop
  | .put _ (.running (.next _ _ _ loop)) | .put _ (.running (.finish _ _ loop))
  | .put _ (.running (.committed _ loop)) | .put _ (.running (.insert _ loop)) => some loop
  | _ => none

/-- Sizes stay within a cap: those of the entries that are about to be inserted
and of the buffers of the PUTs. -/
structure WithinBytes (cap : Nat) (s : Proxy) : Prop where
  insertions : ∀ index task key bytes, s.tasks index = some task → task.inserts? = some (key, bytes) →
    bytes.length ≤ cap
  buffers : ∀ index task loop, s.tasks index = some task → task.loop? = some loop → loop.buffer.length ≤ cap

section Sizes

variable {cfg : AppConfig} {s t : Proxy} {key key' : CacheKey} {data : Bytes} {loop : UploadLoop}

theorem FetchAwait.Formed.bounded {stage : FetchAwait} (formed : stage.Formed cfg key)
    (inserts : stage.inserts? key = some (key', data)) : data.length ≤ cfg.capBytes := by
  cases stage with
  | put =>
    cases inserts
    have fits := formed.1
    omega
  | get | missing | bytes => cases inserts

theorem LeaderAwait.Formed.bounded {stage : LeaderAwait} (formed : stage.Formed cfg key)
    (inserts : stage.inserts? key = some (key', data)) : data.length ≤ cfg.capBytes := by
  cases stage with
  | fetch stage => exact FetchAwait.Formed.bounded formed inserts
  | store | release => cases inserts

/-- The loop of a PUT is the loop over the chunks it has taken. -/
theorem Task.Formed.loop_run {task : Task} (formed : task.Formed cfg) (found : task.loop? = some loop) :
    ∃ read, loop = .run cfg.capBytes read := by
  unfold Task.loop? at found
  split at found <;> cases found
  · obtain ⟨_, read, _, rfl⟩ := (formed :)
    exact ⟨read, rfl⟩
  · exact ⟨_, formed.2⟩
  · exact ⟨_, formed.2⟩
  · exact ⟨_, formed.2.1⟩

theorem Task.Formed.buffer {task : Task} (formed : task.Formed cfg) (found : task.loop? = some loop) :
    loop.buffer.length ≤ cfg.capBytes := by
  obtain ⟨read, rfl⟩ := formed.loop_run found
  exact (UploadLoop.copies_run cfg.capBytes read).bounded

theorem Task.Formed.insertion {task : Task} (formed : task.Formed cfg) (inserts : task.inserts? = some (key', data)) :
    data.length ≤ cfg.capBytes := by
  unfold Task.inserts? at inserts
  split at inserts
  · exact LeaderAwait.Formed.bounded formed inserts
  · exact FetchAwait.Formed.bounded formed inserts
  · exact LeaderAwait.Formed.bounded formed inserts
  · cases inserts
    exact formed.buffer rfl
  · cases inserts

theorem withinBytes_of_formed (formed : s.All (Task.Formed cfg)) : WithinBytes cfg.capBytes s where
  insertions := fun index task _ _ present inserts => (formed index task present).insertion inserts
  buffers := fun index task _ present found => (formed index task present).buffer found

/-- What a step puts in the cache is the insertion of the task that takes it. -/
theorem cache_step (taken : (proxy cfg).step s action = some t) (cached : t.shared.cache.entries key = some entry) :
    s.shared.cache.entries key = some entry ∨
      ∃ index task, action = .poll index .ready ∧ s.tasks index = some task ∧
        task.inserts? = some (key, entry.bytes) := by
  rcases cache_moves taken with same | ⟨index, task, inserted, bytes, contentType, rfl, present, inserts, put⟩ |
    ⟨evicted, rfl, left⟩
  · rw [same] at cached
    exact .inl cached
  · by_cases own : key = inserted
    · subst own
      simp only [put, FoyerCache.put, Function.update_self, Option.some.injEq] at cached
      subst cached
      exact .inr ⟨index, task, rfl, present, inserts⟩
    · left
      simpa [put, FoyerCache.put, own] using cached
  · left
    by_cases own : key = evicted
    · simp [left, FoyerCache.evict, own] at cached
    · simpa [left, FoyerCache.evict, own] using cached

end Sizes

/-- No insertion and no buffer exceeds the configured cap, and so does no entry
that the cache ever has, besides those it was started with. -/
theorem withinCap_reaches (policy : CachePolicy) (pointerWidth : PointerWidth) (stores : String → Option StoreId)
    (location : String → String) (mime : MimeRules) (finishAborts : Nat → StoreError → Bool)
    (upstream : ObjectId → Option Bytes) (cache : FoyerCache) (s : Proxy)
    (reach : (proxy (.asyncMain policy pointerWidth stores location mime finishAborts)).system.Reaches System.Always
      (Proxy.initial upstream cache) s) :
    WithinBytes policy.cacheMaxObjectBytes.toNat s ∧
      ∀ key entry, s.shared.cache.entries key = some entry →
        cache.entries key = some entry ∨ entry.bytes.length ≤ policy.cacheMaxObjectBytes.toNat := by
  have capped : (AppConfig.asyncMain policy pointerWidth stores location mime finishAborts).capBytes ≤
      policy.cacheMaxObjectBytes.toNat := AppConfig.capBytes_le _
  have within {s : Proxy}
      (reach : (proxy (.asyncMain policy pointerWidth stores location mime finishAborts)).system.Reaches
        System.Always (Proxy.initial upstream cache) s) : WithinBytes policy.cacheMaxObjectBytes.toNat s := by
    have bounded := withinBytes_of_formed (formed_reaches reach)
    constructor
    · intro index task key bytes present inserts
      exact Nat.le_trans (bounded.insertions index task key bytes present inserts) capped
    · intro index task loop present found
      exact Nat.le_trans (bounded.buffers index task loop present found) capped
  refine ⟨within reach, ?_⟩
  refine reach.invariantWith (motive := fun s : Proxy => ∀ key entry, s.shared.cache.entries key = some entry →
    cache.entries key = some entry ∨ entry.bytes.length ≤ policy.cacheMaxObjectBytes.toNat)
    (fun _ prior => within prior) (fun _ _ found => .inl found) ?_
  intro source action next bounded _ before _ taken key entry found
  rcases cache_step taken found with kept | ⟨index, task, _, present, inserts⟩
  · exact before key entry kept
  · exact .inr (bounded.insertions index task key entry.bytes present inserts)

private def oneStore (name : String) : Option StoreId := if name = "b" then some 0 else none

/-- A cap of four bytes: a body of five is cut in the buffer and not inserted,
a body of four is. -/
theorem withinCap_reaches_cut :
    ∃ s, (proxy (.asyncMain ⟨60, 4, 0, none⟩ .w32 oneStore id .unknown fun _ _ => true)).system.Reaches System.Always
        (Proxy.initial (fun _ => none) .empty) s ∧
      (WithinBytes 4 s ∧ ∀ key entry, s.shared.cache.entries key = some entry →
        FoyerCache.empty.entries key = some entry ∨ entry.bytes.length ≤ 4) ∧
      (s.tasks 0).bind Task.loop? = some ⟨[[1, 2, 3], [4, 5]], [1, 2, 3, 4], true⟩ ∧
      (s.shared.cache.entries ⟨"b", "q"⟩).isSome := by
  have replayed : (proxy (.asyncMain ⟨60, 4, 0, none⟩ .w32 oneStore id .unknown fun _ _ => true)).system.run
      (Proxy.initial (fun _ => none) .empty)
      [.start (.put ⟨⟨"b", "p"⟩, ⟨none, none⟩, [[1, 2, 3], [4, 5]]⟩), .poll 0 .ready, .poll 0 .ready, .poll 0 .ready,
        .poll 0 .ready, .start (.put ⟨⟨"b", "q"⟩, ⟨none, none⟩, [[1, 2, 3, 4]]⟩), .poll 1 .ready, .poll 1 .ready,
        .poll 1 .ready, .poll 1 .ready, .poll 1 .ready, .poll 1 .ready, .poll 1 .ready] = some _ := rfl
  have reach := System.reaches_of_run replayed
  exact ⟨_, reach, withinCap_reaches ⟨60, 4, 0, none⟩ .w32 oneStore id .unknown _ _ _ _ reach, rfl, rfl⟩

/-- A PUT whose upload has succeeded goes on to `cache.put`. -/
def PutInserts (cfg : AppConfig) (s : Shared) (request : PutRequest) (object : ObjectId) (loop : UploadLoop) : Prop :=
  ∃ s', putPoll cfg s request (.committed object loop) .ready = some (s', .running (.insert object loop))

/-- A fetch that has read an object goes on to `cache.put`. -/
def FetchInserts (cfg : AppConfig) (s : Shared) (key : CacheKey) (method : Method) (object : ObjectId)
    (data : Bytes) : Prop :=
  ∃ s' contentType, fetchPoll cfg s key method (.bytes object data) .ready = some (s', .inl (.put data contentType))

section Decisions

variable {cfg : AppConfig} {s : Shared} {request : PutRequest} {loop : UploadLoop} {data : Bytes}

theorem putInserts_iff : PutInserts cfg s request object loop ↔ loop.capped = false := by
  unfold PutInserts putPoll
  cases capped : loop.capped with
  | true => simp [capped, Shared.respond]
  | false => simp [capped]

theorem fetchInserts_iff :
    FetchInserts cfg s key method object data ↔ cfg.capBytes ≠ 0 ∧ data.length ≤ cfg.capBytes := by
  unfold FetchInserts fetchPoll
  simp only []
  split
  · rename_i skipped
    simp
    omega
  · rename_i taken
    simp
    omega

end Decisions

/-- The upload takes the whole body in order, and what is inserted is all of it. -/
def PutAwait.Faithful (request : PutRequest) : PutAwait → Prop
  | .next _ _ rest loop => loop.sent ++ rest = request.body
  | .finish _ _ loop | .committed _ loop => loop.sent = request.body
  | .insert _ loop => loop.sent = request.body ∧ loop.buffer = request.body.flatten
  | .head _ | .init _ | .abort _ | .aborted => True

theorem PutAwait.Formed.faithful {at_ : PutAwait} (formed : at_.Formed cfg request) : at_.Faithful request := by
  cases at_ with
  | next =>
    obtain ⟨_, read, body, rfl⟩ := formed
    simp [Faithful, body]
  | finish | committed =>
    obtain ⟨_, rfl⟩ := formed
    exact UploadLoop.run_sent ..
  | insert =>
    obtain ⟨_, rfl, uncapped⟩ := formed
    exact ⟨UploadLoop.run_sent .., UploadLoop.run_buffer uncapped⟩
  | head | init | abort | aborted => trivial

/-- What a reply to a PUT does to the cache and the stores: a commit replaces the
object by the whole body, an insertion the entry, and nothing else changes either. -/
def PutAwait.Leaves (cfg : AppConfig) (request : PutRequest) (s s' : Shared) : PutAwait → Reply → Prop
  | .finish _ _ _, .ready =>
      s'.cache.entries = s.cache.entries ∧ ∃ object, cfg.object request.key = some object ∧
        s'.upstream = Function.update s.upstream object (some request.body.flatten)
  | .insert _ _, .ready =>
      s'.upstream = s.upstream ∧ s'.cache.entries = Function.update s.cache.entries request.key
        (some ⟨request.body.flatten, contentTypeFromHeaders cfg.mime request.headers request.key.path⟩)
  | _, _ => s'.cache.entries = s.cache.entries ∧ s'.upstream = s.upstream

theorem PutStep.leaves (step : PutStep cfg request s at_ reply s' phase) (formed : at_.Formed cfg request) :
    at_.Leaves cfg request s s' reply := by
  cases step with
  | committed =>
    obtain ⟨known, rfl⟩ := formed
    exact ⟨rfl, _, known, by simp [Shared.commit, Shared.setUpload]⟩
  | inserted =>
    have copied := formed.faithful.2
    exact ⟨rfl, by simp [Shared.insert, Shared.answered, Shared.count, FoyerCache.put, copied]⟩
  | checked | opened | initFailed | chunk | ended | bodyFailed | aborted | abortFailed | refused | finishFailed
  | finishAborted | uncached | caching => exact ⟨rfl, rfl⟩

/-- Whatever the chunks, a PUT uploads its body and inserts nothing else, and
its slices are in range: what its steps write is the whole body. -/
theorem put_faithful (cfg : AppConfig) (upstream : ObjectId → Option Bytes) (cache : FoyerCache) (s : Proxy)
    (index : Nat) (request : PutRequest) (phase : Phase PutAwait HandlerResult) (at_ : PutAwait)
    (reach : (proxy cfg).system.Reaches System.Always (Proxy.initial upstream cache) s)
    (present : s.tasks index = some (.put request phase)) (suspended : phase = .running at_ ∨ phase = .dropped at_) :
    at_.Faithful request ∧
      (∀ reply t, (proxy cfg).step s (.poll index reply) = some t →
        at_.Leaves cfg request s.shared t.shared reply) ∧
      (∀ key bytes, (Task.put request phase).inserts? = some (key, bytes) →
        key = request.key ∧ bytes = request.body.flatten) ∧
      request.body.foldlM (UploadLoop.pushChecked cfg.capBytes) (.start cfg.capBytes) =
        some (.run cfg.capBytes request.body) := by
  have formed : at_.Formed cfg request := by
    have formed := formed_reaches reach index _ present
    rcases suspended with rfl | rfl <;> exact formed
  refine ⟨formed.faithful, ?_, ?_, UploadLoop.foldlM_pushChecked cfg.capBytes request.body⟩
  · intro reply t taken
    obtain ⟨shared, phase', move, rfl⟩ := put_move present taken rfl
    cases move with
    | polled step =>
      rcases suspended with ⟨⟨⟩⟩ | ⟨⟨⟩⟩
      exact step.leaves formed
    | late landed =>
      rcases suspended with ⟨⟨⟩⟩ | ⟨⟨⟩⟩
      exact landed.step.leaves formed
  · intro key bytes inserts
    rcases suspended with rfl | rfl
    · cases at_ with
      | insert =>
        cases inserts
        exact ⟨rfl, formed.faithful.2⟩
      | head | init | next | abort | aborted | finish | committed => cases inserts
    · cases inserts

/-- A PUT in three chunks is inserted. -/
theorem put_faithful_chunks :
    ∃ s t, (proxy (.single "b" 4 .unknown)).system.Reaches System.Always (Proxy.initial (fun _ => none) .empty) s ∧
      (proxy (.single "b" 4 .unknown)).step s (.poll 0 .ready) = some t ∧
      t.shared.cache.entries ⟨"b", "p"⟩ = some ⟨[1, 2, 3], none⟩ := by
  have replayed : (proxy (.single "b" 4 .unknown)).system.run (Proxy.initial (fun _ => none) .empty)
      [.start (.put ⟨⟨"b", "p"⟩, ⟨none, none⟩, [[1], [], [2, 3]]⟩), .poll 0 .ready, .poll 0 .ready, .poll 0 .ready,
        .poll 0 .ready, .poll 0 .ready, .poll 0 .ready, .poll 0 .ready, .poll 0 .ready] = some _ := rfl
  have reach := System.reaches_of_run replayed
  obtain ⟨_, leaves, _⟩ := put_faithful (.single "b" 4 .unknown) _ _ _ 0 _ _ _ reach rfl (.inl rfl)
  obtain ⟨_, inserted⟩ := leaves .ready _ rfl
  exact ⟨_, _, reach, rfl, congrFun inserted ⟨"b", "p"⟩⟩

end Cachegate
