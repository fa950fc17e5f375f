import Cachegate.Handler.Versions

/-! The proxy over several lives. The stores outlast a process, and foyer recovers
entries that an earlier one has written to disk. -/

namespace Cachegate

open Transition TaskPool

/-- The stores, every entry that the cache has held, and every commit, the latest first. -/
structure Remains where
  upstream : ObjectId → Option Bytes
  cached : CacheKey → CacheEntry → Prop
  written : List (ObjectId × Bytes)

/-- What one more life leaves behind. -/
def Remains.after (left : Remains) (past : ProxyPast) (s : Proxy) : Remains where
  upstream := s.shared.upstream
  cached := fun key entry => left.cached key entry ∨ s.shared.cache.entries key = some entry ∨
    ∃ source action, (source, action) ∈ past ∧ source.shared.cache.entries key = some entry
  written := (ledger past).map Prod.snd ++ left.written

/-- Lives of the proxy one after the other, each ended at any moment. They may differ
in their settings, but not in the objects that keys name. A life recovers nothing that
was not cached before. -/
inductive Lives (object : CacheKey → Option ObjectId) (upstream : ObjectId → Option Bytes) : Remains → Prop
  | none : Lives object upstream ⟨upstream, fun _ _ => False, []⟩
  | life {cfg : AppConfig} {cache : FoyerCache} {past : ProxyPast} {s : Proxy}
      (before : Lives object upstream left) (same : cfg.object = object)
      (recovered : ∀ key entry, cache.entries key = some entry → left.cached key entry)
      (history : (proxy cfg).system.History System.Always (Proxy.initial left.upstream cache) past s) :
      Lives object upstream (left.after past s)

/-- The key's object had these bytes before the first life, or a PUT has written them there. -/
def Had (object : CacheKey → Option ObjectId) (upstream : ObjectId → Option Bytes) (written : List (ObjectId × Bytes))
    (key : CacheKey) (entry : CacheEntry) : Prop :=
  ∃ at_, object key = some at_ ∧ (upstream at_ = some entry.bytes ∨ (at_, entry.bytes) ∈ written)

/-- The stores are what all commits leave of them, and what was cached was stored. -/
structure Remains.Genuine (object : CacheKey → Option ObjectId) (upstream : ObjectId → Option Bytes)
    (left : Remains) : Prop where
  replays : left.upstream = Journal.replay upstream left.written
  cached : ∀ key entry, left.cached key entry → Had object upstream left.written key entry

section Lives

variable {object : CacheKey → Option ObjectId} {upstream : ObjectId → Option Bytes} {left : Remains}
variable {cfg : AppConfig} {cache : FoyerCache} {past earlier : ProxyPast} {s : Proxy}

theorem Had.mono (had : Had object upstream written key entry) (more : written ⊆ written') :
    Had object upstream written' key entry := by
  obtain ⟨at_, known, version⟩ := had
  exact ⟨at_, known, version.imp_right fun listed => more listed⟩

theorem ledger_suffix (within : earlier <:+ past) : ledger earlier ⊆ ledger past :=
  (within.sublist.filterMap commitOf).subset

/-- In one more life all that is cached or answered was stored in this or an earlier one. -/
theorem Remains.Genuine.life (genuine : left.Genuine object upstream) (same : cfg.object = object)
    (recovered : ∀ key entry, cache.entries key = some entry → left.cached key entry)
    (history : (proxy cfg).system.History System.Always (Proxy.initial left.upstream cache) past s) :
    s.shared.upstream = Journal.replay upstream (left.after past s).written ∧
      s.Sound (Had object upstream (left.after past s).written) cfg := by
  obtain ⟨ledgered, _, sound⟩ := sound_history history
  constructor
  · rw [ledgered.replays, genuine.replays]
    exact (Journal.replay_append ..).symm
  · refine sound.imp ?_
    rintro key entry (found | ⟨⟨at_, known, version⟩, _⟩)
    · exact (genuine.cached key entry (recovered key entry found)).mono (List.subset_append_right _ _)
    · refine ⟨at_, same ▸ known, ?_⟩
      rcases version with initial | ⟨index, listed⟩
      · rw [genuine.replays] at initial
        exact (Journal.replay_found initial).imp_right (List.mem_append_right _)
      · exact .inr (List.mem_append_left _ (List.mem_map_of_mem listed))

/-- So do all lives together. -/
theorem genuine_lives (lives : Lives object upstream left) : left.Genuine object upstream := by
  induction lives with
  | none => exact ⟨rfl, fun _ _ => False.elim⟩
  | @life left cfg cache past s before same recovered history genuine =>
    obtain ⟨replays, sound⟩ := genuine.life same recovered history
    refine ⟨replays, ?_⟩
    rintro key entry (older | last | ⟨source, action, listed, held⟩)
    · exact (genuine.cached key entry older).mono (List.subset_append_right _ _)
    · exact sound.cache key entry last
    · obtain ⟨earlier, up, within⟩ := history.earlier listed
      obtain ⟨_, sound⟩ := genuine.life same recovered up
      have fewer := List.map_subset Prod.snd (ledger_suffix within)
      exact (sound.cache key entry held).mono
        (List.append_subset.mpr ⟨List.Subset.trans fewer (List.subset_append_left _ _), List.subset_append_right _ _⟩)

end Lives

/-- Over any number of restarts, with whatever foyer recovers from disk: the stores are
what all commits so far leave of them, and what the cache holds and what a GET or a HEAD
answers with 200 is a whole version that the key's own object has had. -/
theorem lives_genuine (object : CacheKey → Option ObjectId) (upstream : ObjectId → Option Bytes) (left : Remains)
    (lives : Lives object upstream left) (cfg : AppConfig) (same : cfg.object = object) (cache : FoyerCache)
    (recovered : ∀ key entry, cache.entries key = some entry → left.cached key entry) (past : ProxyPast) (s : Proxy)
    (history : (proxy cfg).system.History System.Always (Proxy.initial left.upstream cache) past s) :
    s.shared.upstream = Journal.replay upstream (left.after past s).written ∧
      (∀ key entry, s.shared.cache.entries key = some entry →
        Had object upstream (left.after past s).written key entry) ∧
      (∀ i key result, s.tasks i = some (.get key (.returned result)) →
        Answers (Had object upstream (left.after past s).written) key result) ∧
      ∀ i key params result, s.tasks i = some (.head key params (.returned result)) →
        HeadAnswers (Had object upstream (left.after past s).written) key result := by
  obtain ⟨replays, sound⟩ := (genuine_lives lives).life same recovered history
  exact ⟨replays, sound.cache, fun i key result returned => sound.tasks i _ returned,
    fun i key params result returned => sound.tasks i _ returned⟩

private def sampleLife : List ProxyAction :=
  .start (.put ⟨⟨"b", "p"⟩, ⟨none, none⟩, [[1]]⟩) :: List.replicate 7 (.poll 0 .ready)

/-- What an earlier life has cached is recovered, and a GET answered with it. -/
theorem lives_genuine_recovered :
    ∃ left past s result, Lives (AppConfig.single "b" 4 .unknown).object (fun _ => none) left ∧
      s.tasks 0 = some (.get ⟨"b", "p"⟩ (.returned result)) ∧
      Answers (Had (AppConfig.single "b" 4 .unknown).object (fun _ => none) (left.after past s).written)
        ⟨"b", "p"⟩ result ∧
      s.shared.getCalls ⟨"b", "p"⟩ = 0 := by
  obtain ⟨t, first, held⟩ : ∃ t, (proxy (.single "b" 4 .unknown)).system.run
      (Proxy.initial (fun _ => none) .empty) sampleLife = some t ∧
        t.shared.cache.entries ⟨"b", "p"⟩ = some ⟨[1], none⟩ := ⟨_, rfl, rfl⟩
  obtain ⟨past, ended⟩ := (System.reaches_of_run first).history
  have untouched : ∀ key entry, FoyerCache.empty.entries key = some entry → False := by simp [FoyerCache.empty]
  have before := Lives.none.life rfl untouched ended
  have second : (proxy (.single "b" 4 .unknown)).system.run (Proxy.initial t.shared.upstream
      (FoyerCache.empty.put ⟨"b", "p"⟩ [1] none)) [.start (.get ⟨"b", "p"⟩), .poll 0 .ready] = some _ := rfl
  obtain ⟨past', history⟩ := (System.reaches_of_run second).history
  have recovered : ∀ key entry, (FoyerCache.empty.put ⟨"b", "p"⟩ [1] none).entries key = some entry →
      (Remains.after ⟨fun _ => none, fun _ _ => False, []⟩ past t).cached key entry := by
    intro key entry found
    by_cases same : key = ⟨"b", "p"⟩
    · subst same
      cases found
      exact .inr (.inl held)
    · simp [FoyerCache.put, FoyerCache.empty, same] at found
  have answers := (lives_genuine _ _ _ before _ rfl _ recovered _ _ history).2.2.1 0 _ _ rfl
  exact ⟨_, past', _, _, before, rfl, answers, rfl⟩

end Cachegate
