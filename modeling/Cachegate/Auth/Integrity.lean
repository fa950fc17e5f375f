import Cachegate.Auth.Refusals
import Cachegate.Handler.Versions

/-! The whole service: what it stores, caches and serves was put there by requests
that were authorised for it. -/

namespace Cachegate

open Transition TaskPool

section Trusted

variable (gate : Gate) (signed : Bytes → Prop) (cfg : AppConfig) (s : Service)

/-- A PUT that was authorised for a path of this object has brought these bytes. -/
def Authored (object : ObjectId) (data : Bytes) : Prop :=
  ∃ arrival ∈ s.arrivals, ∃ request : PutRequest, gate.route arrival.request = .ok (.put request) ∧
    Authorised gate signed arrival.now arrival.request request.key.bucketId request.key.path ∧
    cfg.object request.key = some object ∧ request.body.flatten = data

/-- The handler runs for a request that was authorised for this key. -/
def Entitled (index : Nat) (key : CacheKey) : Prop :=
  ∃ arrival ∈ s.arrivals, ∃ method, arrival.verdict = .handled method index ∧
    Authorised gate signed arrival.now arrival.request key.bucketId key.path

variable (upstream : ObjectId → Option Bytes) (recovered : FoyerCache)

/-- The cache held the entry from the start, or its bytes are a version of the key's
object: its first one, or what an authorised PUT has brought. -/
def Trusted (key : CacheKey) (entry : CacheEntry) : Prop :=
  recovered.entries key = some entry ∨ ∃ object, cfg.object key = some object ∧
    (upstream object = some entry.bytes ∨ Authored gate signed cfg s object entry.bytes)

end Trusted

section Runs

variable {gate : Gate} {signed : Bytes → Prop} {cfg : AppConfig} {s : Service} {past : ProxyPast}
variable {upstream : ObjectId → Option Bytes} {cache : FoyerCache}

theorem Admitted.entitled (admitted : Admitted gate signed s) (present : s.pool.tasks index = some task)
    (requested : task.request? = some job) : Entitled gate signed s index job.key := by
  obtain ⟨arrival, listed, method, handled, _, authorised⟩ := admitted.handlers index task job present requested
  exact ⟨arrival, listed, method, handled, authorised⟩

/-- Every commit is an authorised PUT's. -/
theorem Admitted.authored (admitted : Admitted gate signed s) (kept : Ledgered cfg upstream past s.pool.unrefused)
    (listed : (index, object, data) ∈ ledger past) : Authored gate signed cfg s object data := by
  obtain ⟨request, phase, present, known, whole⟩ := kept.whole index object data listed
  obtain ⟨arrival, member, _, _, routed, authorised⟩ := admitted.handlers index _ (.put request) present rfl
  exact ⟨arrival, member, request, routed, authorised, known, whole⟩

theorem Genuine.trusted (genuine : Genuine cfg upstream cache past key entry) (admitted : Admitted gate signed s)
    (kept : Ledgered cfg upstream past s.pool.unrefused) :
    Trusted gate signed cfg s upstream cache key entry := by
  rcases genuine with found | ⟨⟨object, known, version⟩, _⟩
  · exact .inl found
  · refine .inr ⟨object, known, version.imp_right ?_⟩
    rintro ⟨index, listed⟩
    exact admitted.authored kept listed

end Runs

/-- With an ideal signature, in every run of the service: the stores are what authorised
PUTs leave of them, what the cache holds and what GETs and HEADs answer with 200 is
trusted, and every handler runs for a request authorised for its key. -/
theorem service_integrity (gate : Gate) (cfg : AppConfig) (signed : Bytes → Prop)
    (ideal : ∀ message signature, gate.libs.verifyStrict gate.auth.verifyingKey message signature = true →
      signed message)
    (upstream : ObjectId → Option Bytes) (cache : FoyerCache) (s : Service)
    (reach : (Service.system gate cfg).Reaches System.Always (Service.initial upstream cache) s) :
    (∃ writes : List (ObjectId × Bytes), s.pool.shared.upstream = Journal.replay upstream writes ∧
        ∀ object data, (object, data) ∈ writes → Authored gate signed cfg s object data) ∧
      (∀ key entry, s.pool.shared.cache.entries key = some entry →
        Trusted gate signed cfg s upstream cache key entry) ∧
      (∀ index key result, s.pool.tasks index = some (.get key (.returned result)) →
        Entitled gate signed s index key ∧ Answers (Trusted gate signed cfg s upstream cache) key result) ∧
      ∀ index key params result, s.pool.tasks index = some (.head key params (.returned result)) →
        Entitled gate signed s index key ∧ HeadAnswers (Trusted gate signed cfg s upstream cache) key result := by
  have admitted := admitted_reaches ideal reach
  have refined : (proxy cfg).system.Reaches System.Always (Proxy.initial upstream cache) s.pool.unrefused :=
    reach.project (fun s => s.pool.unrefused) (fun _ _ => trivial) fun _ _ _ _ _ taken => unrefused_step taken
  obtain ⟨past, history⟩ := refined.history
  obtain ⟨kept, _, genuine⟩ := sound_history history
  have sound : s.pool.unrefused.Sound (Trusted gate signed cfg s upstream cache) cfg :=
    genuine.imp fun _ _ entry => entry.trusted admitted kept
  refine ⟨⟨(ledger past).map Prod.snd, kept.replays, ?_⟩, sound.cache, ?_, ?_⟩
  · intro object data listed
    obtain ⟨⟨index, _⟩, member, rfl⟩ := List.mem_map.mp listed
    exact admitted.authored kept member
  · intro index key result returned
    exact ⟨admitted.entitled returned rfl, sound.tasks index _ returned⟩
  · intro index key params result returned
    exact ⟨admitted.entitled returned rfl, sound.tasks index _ returned⟩

private def tokenOnly : Gate where
  auth := ⟨[], some "abc"⟩
  libs := ⟨fun _ => none, fun _ => none, fun _ _ _ => false, fun char => [char]⟩
  path := fun _ => some ⟨"b", "p"⟩
  query := fun _ => some []

private def writerRequest (method : String) (token : String) (body : List Bytes) : HttpRequest where
  method
  uri := "/b/p"
  headers := ⟨none, some ("Bearer " ++ token).toByteArray.data.toList⟩
  body

set_option maxRecDepth 8000 in
/-- A PUT with a wrong token comes in between, and a GET is answered with the body
of the one let through. -/
theorem service_integrity_token :
    ∃ s : Service, s.pool.shared.upstream ⟨0, "p"⟩ = some [1] ∧ s.arrivals.length = 3 ∧
      s.pool.tasks 1 = some (.get ⟨"b", "p"⟩ (.returned (.ok (buildResponse ⟨[1], none⟩ true)))) ∧
      Answers (Trusted tokenOnly (fun _ => False) (.single "b" 4 .unknown) s (fun _ => none) .empty) ⟨"b", "p"⟩
        (.ok (buildResponse ⟨[1], none⟩ true)) := by
  have replayed : (Service.system tokenOnly (.single "b" 4 .unknown)).run (Service.initial (fun _ => none) .empty)
      ([.arrive 0 (writerRequest "PUT" "abc" [[1]])] ++ List.replicate 7 (.inner (.poll 0 .ready)) ++
        [.arrive 0 (writerRequest "PUT" "abd" [[2]]), .arrive 0 (writerRequest "GET" "abc" []),
          .inner (.poll 1 .ready)]) = some _ := rfl
  have integrity := service_integrity tokenOnly (.single "b" 4 .unknown) (fun _ => False)
    (by intro message signature verified; cases verified) _ _ _ (System.reaches_of_run replayed)
  exact ⟨_, rfl, rfl, rfl, (integrity.2.2.1 1 _ _ rfl).2⟩

end Cachegate
