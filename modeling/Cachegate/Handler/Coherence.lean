import Cachegate.Handler.Provenance

/-! Write-once objects: whatever the interleaving and the cancellations, the
cache and the answers have the bytes of the stores. -/

namespace Cachegate

open Transition TaskPool

/-- The object of a key is stored with these bytes. -/
def Stored (cfg : AppConfig) (upstream : ObjectId → Option Bytes) (key : CacheKey) (bytes : Bytes) : Prop :=
  ∃ object, cfg.object key = some object ∧ upstream object = some bytes

/-- The entry is a copy of its key's object, if that is one of these. -/
def Copy (cfg : AppConfig) (objects : ObjectId → Prop) (upstream : ObjectId → Option Bytes) (key : CacheKey)
    (entry : CacheEntry) : Prop :=
  ∀ object, cfg.object key = some object → objects object → upstream object = some entry.bytes

section Copies

variable {cfg : AppConfig} {objects : ObjectId → Prop} {upstream : ObjectId → Option Bytes} {s : Proxy}

/-- A PUT that inserts has uploaded exactly what it inserts. -/
theorem Copy.inserted (formed : s.All (Task.Formed cfg))
    (uploaded : ∀ object, objects object → s.All (Task.Uploaded cfg object s.shared.upstream)) :
    Inserted (Copy cfg objects s.shared.upstream) cfg s := by
  intro index request object loop present object' known' member
  obtain ⟨known, rfl, uncapped⟩ := (formed _ _ present :)
  cases known.symm.trans known'
  rw [UploadLoop.run_buffer uncapped]
  exact uploaded object member _ _ present _ rfl

/-- Where every object is written once, whatever the proxy holds is a copy. -/
theorem copy_reaches (meets : ∀ s action, allowed s action → ∀ object, objects object → OnceAt object s action)
    (recovered : cache.Sound (Copy cfg objects upstream))
    (reach : (proxy cfg).system.Reaches allowed (Proxy.initial upstream cache) s) :
    s.Sound (Copy cfg objects s.shared.upstream) cfg := by
  refine reach.invariantWith (motive := fun s : Proxy => s.Sound (Copy cfg objects s.shared.upstream) cfg)
    (fun _ prior => And.intro (linked_reaches prior) (And.intro (formed_reaches prior)
      fun object member => uploaded_reaches (fun s action allow => meets s action allow object member) prior))
    (Proxy.sound_initial recovered) ?_
  rintro source action next ⟨links, formed, uploaded⟩ - sound allow taken
  have moved := sound.step links formed ?_ (Copy.inserted formed uploaded) taken
  · refine moved.imp ?_
    intro key entry copy object known member
    exact upstream_grows (meets _ _ allow object member) taken (copy object known member)
  · intro key object data known stored object' known' member
    cases known.symm.trans known'
    exact stored

/-- Whatever the proxy holds is held under a configured bucket. -/
theorem known_reaches (recovered : cache.Sound fun key _ => ∃ object, cfg.object key = some object)
    (reach : (proxy cfg).system.Reaches allowed (Proxy.initial upstream cache) s) :
    s.Sound (fun key _ => ∃ object, cfg.object key = some object) cfg := by
  refine reach.invariantWith
    (motive := fun s : Proxy => s.Sound (fun key _ => ∃ object, cfg.object key = some object) cfg)
    (fun _ prior => And.intro (linked_reaches prior) (formed_reaches prior)) (Proxy.sound_initial recovered) ?_
  rintro source action next ⟨links, formed⟩ - sound allow taken
  refine sound.step links formed (fun key object _ known _ => ⟨object, known⟩) ?_ taken
  intro index request object loop present
  exact ⟨object, (formed _ _ present :).1⟩

end Copies

/-- Every cached entry and every 200 answer to a GET is the stored object. -/
theorem coherent_of_writeOnce (cfg : AppConfig) (upstream : ObjectId → Option Bytes) (cache : FoyerCache)
    (recovered : ∀ key entry, cache.entries key = some entry → Stored cfg upstream key entry.bytes)
    (s : Proxy) (reach : (proxy cfg).system.Reaches WriteOnce (Proxy.initial upstream cache) s) :
    (∀ key entry, s.shared.cache.entries key = some entry →
      Stored cfg s.shared.upstream key entry.bytes) ∧
    ∀ index key response, s.tasks index = some (.get key (.returned (.ok response))) →
      response.status = .ok ∧ Stored cfg s.shared.upstream key response.body := by
  have known := known_reaches (fun key entry found =>
    (recovered key entry found).imp fun _ stored => stored.1) reach
  have copies : s.Sound (Copy cfg (fun _ => True) s.shared.upstream) cfg := by
    refine copy_reaches (fun _ _ once object _ => once.onceAt object) ?_ reach
    intro key entry found object name _
    obtain ⟨object', name', stored⟩ := recovered key entry found
    cases name.symm.trans name'
    exact stored
  constructor
  · intro key entry found
    obtain ⟨object, name⟩ := known.cache key entry found
    exact ⟨object, name, copies.cache key entry found object name trivial⟩
  · intro index key response present
    obtain ⟨entry, hit, own, rfl⟩ := copies.tasks index _ present response rfl
    obtain ⟨_, _, ⟨object, name⟩, _⟩ := known.tasks index _ present _ rfl
    exact ⟨rfl, object, name, own object name trivial⟩

/-- A PUT, its hit, an eviction, and a GET whose leader is dropped while a
follower waits: the follower fetches for itself and answers with the body. -/
theorem coherent_of_writeOnce_fallback :
    ∃ s, (proxy (.single "b" 4 .unknown)).system.Reaches WriteOnce (Proxy.initial (fun _ => none) .empty) s ∧
      ((∀ key entry, s.shared.cache.entries key = some entry →
          Stored (.single "b" 4 .unknown) s.shared.upstream key entry.bytes) ∧
        ∀ index key response, s.tasks index = some (.get key (.returned (.ok response))) →
          response.status = .ok ∧ Stored (.single "b" 4 .unknown) s.shared.upstream key response.body) ∧
      (s.tasks 2).any (fun | .get _ (.returned (.ok response)) => response.body == [1, 2] | _ => false) := by
  have replayed : ((proxy (.single "b" 4 .unknown)).system.restrict WriteOnce).run
      (Proxy.initial (fun _ => none) .empty)
      [.start (.put ⟨⟨"b", "p"⟩, ⟨none, none⟩, [[1, 2]]⟩), .poll 0 (.failed .notFound), .poll 0 .ready,
        .poll 0 .ready, .poll 0 .ready, .poll 0 .ready, .poll 0 .ready, .poll 0 .ready,
        .env (.evict ⟨"b", "p"⟩), .start (.get ⟨"b", "p"⟩), .start (.get ⟨"b", "p"⟩), .poll 1 .ready,
        .poll 1 .ready, .poll 2 .ready, .poll 2 .ready, .poll 2 .ready, .cancel 1, .env (.release 0),
        .poll 2 .ready, .poll 2 .ready, .poll 2 .ready, .poll 2 .ready, .poll 2 .ready] = some _ := rfl
  have reach := System.reaches_of_restrict (System.reaches_of_run replayed)
  exact ⟨_, reach, coherent_of_writeOnce _ _ _ (by intro key entry found; cases found) _ reach, rfl⟩

end Cachegate
