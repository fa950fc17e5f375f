import Cachegate.Handler.Ledger
import Cachegate.Handler.Provenance

/-! What the proxy serves under overwrites, failures and cancellation: never less
than a whole version that the key's own object has had. -/

namespace Cachegate

open Transition TaskPool

section Genuine

variable (cfg : AppConfig) (upstream : ObjectId → Option Bytes) (recovered : FoyerCache) (past : ProxyPast)
variable (key : CacheKey)

/-- The key's object had these bytes at the start, or a PUT has written them there. -/
def Version (data : Bytes) : Prop :=
  ∃ object, cfg.object key = some object ∧
    (upstream object = some data ∨ ∃ index, (index, object, data) ∈ ledger past)

/-- The content type was told from path and bytes, or comes from the headers of a
PUT of this key with this very body. -/
def Typed (entry : CacheEntry) : Prop :=
  entry.contentType = some (resolveContentType cfg.mime key.path entry.bytes) ∨
    ∃ (s : Proxy) (request : PutRequest), (s, .start (.put request)) ∈ past ∧ request.key = key ∧
      request.body.flatten = entry.bytes ∧
      entry.contentType = contentTypeFromHeaders cfg.mime request.headers key.path

/-- The cache held the entry when the proxy started, or it is a version of the key's object. -/
def Genuine (entry : CacheEntry) : Prop :=
  recovered.entries key = some entry ∨ Version cfg upstream past key entry.bytes ∧ Typed cfg past key entry

end Genuine

/-- Every PUT was requested. -/
def Requested (past : ProxyPast) (task : Task) : Prop :=
  ∀ request phase, task = .put request phase → ∃ s, (s, .start (.put request)) ∈ past

section Steps

variable {cfg : AppConfig} {upstream : ObjectId → Option Bytes} {recovered : FoyerCache} {past : ProxyPast}
variable {s t : Proxy}

theorem Genuine.mono (genuine : Genuine cfg upstream recovered past key entry) (latest : Proxy × ProxyAction) :
    Genuine cfg upstream recovered (latest :: past) key entry := by
  rcases genuine with found | ⟨⟨object, known, version⟩, typed⟩
  · exact .inl found
  · refine .inr ⟨⟨object, known, version.imp_right ?_⟩, typed.imp_right ?_⟩
    · rintro ⟨index, listed⟩
      exact ⟨index, by rw [ledger_cons]; exact List.mem_append_right _ listed⟩
    · rintro ⟨source, request, listed, rest⟩
      exact ⟨source, request, List.mem_cons_of_mem latest listed, rest⟩

theorem requested_step (requested : s.All (Requested past)) (taken : (proxy cfg).step s action = some t) :
    t.All (Requested ((s, action) :: past)) := by
  rintro i task present request phase rfl
  have earlier {phase' : Phase PutAwait HandlerResult} (before : s.tasks i = some (.put request phase')) :
      ∃ source, (source, .start (.put request)) ∈ (s, action) :: past := by
    obtain ⟨source, listed⟩ := requested i _ before request phase' rfl
    exact ⟨source, List.mem_cons_of_mem _ listed⟩
  obtain ⟨shared, same, step⟩ := became taken present
  cases step with
  | kept before => exact earlier before
  | start _ spawned =>
    cases spawned <;> exact ⟨s, List.mem_cons_self⟩
  | put before => exact earlier before
  | late before => exact earlier before
  | dropPut before => exact earlier before

/-- What is stored is a version. -/
theorem Ledgered.fetched (kept : Ledgered cfg upstream past s) (key : CacheKey) :
    Fetched (Genuine cfg upstream recovered past) cfg key s.shared := by
  intro object data known stored
  rw [kept.replays] at stored
  refine .inr ⟨⟨object, known, ?_⟩, .inl rfl⟩
  rcases Journal.replay_found stored with initial | written
  · exact .inl initial
  · obtain ⟨⟨index, _⟩, listed, rfl⟩ := List.mem_map.mp written
    exact .inr ⟨index, listed⟩

/-- What a PUT inserts it has written. -/
theorem Ledgered.inserted (kept : Ledgered cfg upstream past s) (formed : s.All (Task.Formed cfg))
    (requested : s.All (Requested past)) : Inserted (Genuine cfg upstream recovered past) cfg s := by
  intro index request object loop present
  obtain ⟨known, rfl, uncapped⟩ := formed index _ present
  obtain ⟨source, listed⟩ := requested index _ present request _ rfl
  obtain ⟨written, known', committed⟩ := kept.wrote present trivial
  rw [UploadLoop.run_buffer uncapped]
  exact .inr ⟨⟨written, known', .inr ⟨index, committed⟩⟩, .inr ⟨source, request, listed, rfl, rfl, rfl⟩⟩

end Steps

/-- Along every run the stores are what the log leaves of them, and all that is
cached, carried by a flight or answered is genuine. -/
theorem sound_history {cfg : AppConfig} {past : ProxyPast} {t : Proxy}
    (history : (proxy cfg).system.History System.Always (Proxy.initial upstream cache) past t) :
    Ledgered cfg upstream past t ∧ t.All (Requested past) ∧ t.Sound (Genuine cfg upstream cache past) cfg := by
  refine history.invariantWith
    (motive := fun past t => Ledgered cfg upstream past t ∧ t.All (Requested past) ∧
      t.Sound (Genuine cfg upstream cache past) cfg)
    (fun _ prior => And.intro (linked_reaches prior) (formed_reaches prior)) ?_ ?_
  · refine ⟨ledgered_initial cfg upstream cache, State.all_start _, Proxy.sound_initial ?_⟩
    intro key entry found
    exact .inl found
  · rintro past source action next ⟨links, formed⟩ ⟨kept, requested, sound⟩ _ taken
    refine ⟨kept.step links formed taken, requested_step requested taken, ?_⟩
    have moved := sound.step links formed kept.fetched (kept.inserted formed requested) taken
    exact moved.imp fun key entry genuine => genuine.mono _

/-- Whatever is overwritten, fails or is cancelled: what the cache holds and what a
GET or a HEAD answers with 200 is a whole version of the key's object, if it was
not in the cache from the start. -/
theorem genuine_history (cfg : AppConfig) (upstream : ObjectId → Option Bytes) (cache : FoyerCache)
    (past : ProxyPast) (t : Proxy)
    (history : (proxy cfg).system.History System.Always (Proxy.initial upstream cache) past t) :
    (∀ key entry, t.shared.cache.entries key = some entry → Genuine cfg upstream cache past key entry) ∧
      (∀ i key result, t.tasks i = some (.get key (.returned result)) →
        Answers (Genuine cfg upstream cache past) key result) ∧
      ∀ i key params result, t.tasks i = some (.head key params (.returned result)) →
        HeadAnswers (Genuine cfg upstream cache past) key result := by
  obtain ⟨_, _, sound⟩ := sound_history history
  exact ⟨sound.cache, fun i key result returned => sound.tasks i _ returned,
    fun i key params result returned => sound.tasks i _ returned⟩

private def firstVersion (_ : ObjectId) : Option Bytes := some [9]

/-- A body that does not fit in the cache leaves the old version there, which the
next GET is answered with. -/
theorem genuine_history_replaced :
    ∃ past t result, (proxy (.single "b" 1 .unknown)).system.History System.Always (Proxy.initial firstVersion .empty)
        past t ∧ t.tasks 2 = some (.get ⟨"b", "p"⟩ (.returned result)) ∧
      Answers (Genuine (.single "b" 1 .unknown) firstVersion .empty past) ⟨"b", "p"⟩ result ∧
      t.shared.upstream ⟨0, "p"⟩ = some [2, 3] := by
  have replayed : (proxy (.single "b" 1 .unknown)).system.run (Proxy.initial firstVersion .empty)
      [.start (.get ⟨"b", "p"⟩), .poll 0 .ready, .poll 0 .ready, .poll 0 .ready, .poll 0 .ready, .poll 0 .ready,
        .poll 0 .ready, .poll 0 .ready, .start (.put ⟨⟨"b", "p"⟩, ⟨none, none⟩, [[2, 3]]⟩), .poll 1 .ready,
        .poll 1 .ready, .poll 1 .ready, .poll 1 .ready, .poll 1 .ready, .poll 1 .ready, .start (.get ⟨"b", "p"⟩),
        .poll 2 .ready] = some _ := rfl
  obtain ⟨past, history⟩ := (System.reaches_of_run replayed).history
  have answers := (genuine_history _ _ _ _ _ history).2.1 2 _ _ rfl
  exact ⟨past, _, _, history, rfl, answers, rfl⟩

end Cachegate
