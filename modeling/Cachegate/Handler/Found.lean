import Cachegate.Handler.Formed

/-! What the stores answer about an object that is there: as long as they do
not fail, no stage of its fetch and of the leader is on the way to an error. -/

namespace Cachegate

open Transition TaskPool

/-- No `NotFound` is under way. -/
def FetchAwait.Clean : FetchAwait → Prop
  | .missing _ => False
  | _ => True

def LeaderAwait.Clean : LeaderAwait → Prop
  | .fetch stage => stage.Clean
  | .store result | .release result => ∃ entry, result = .ok entry

/-- The task is not on the way to an error of its own fetch. -/
def Task.Clean : Task → Prop
  | .get _ (.running (.leader _ stage)) => stage.Clean
  | .get _ (.running (.fallback stage)) => stage.Clean
  | .prefetch _ (.running (.leader _ stage)) => stage.Clean
  | _ => True

instance : (stage : FetchAwait) → Decidable stage.Clean
  | .missing _ => isFalse id
  | .get _ | .bytes _ _ | .put _ _ => isTrue trivial

instance : (stage : LeaderAwait) → Decidable stage.Clean
  | .fetch stage => inferInstanceAs (Decidable stage.Clean)
  | .store (.ok entry) | .release (.ok entry) => isTrue ⟨entry, rfl⟩
  | .store (.error _) | .release (.error _) => isFalse (by rintro ⟨_, ⟨⟩⟩)

instance : (task : Task) → Decidable task.Clean
  | .get _ (.running (.leader _ stage)) | .prefetch _ (.running (.leader _ stage)) =>
      inferInstanceAs (Decidable stage.Clean)
  | .get _ (.running (.fallback stage)) => inferInstanceAs (Decidable stage.Clean)
  | .get _ (.running .lookup) | .get _ (.running .acquire) | .get _ (.running (.follow _))
  | .get _ (.running (.notified _)) | .get _ (.running (.result _)) | .get _ (.running (.recheck _))
  | .get _ (.returned _) | .get _ (.dropped _) | .prefetch _ (.running .acquire) | .prefetch _ (.returned _)
  | .prefetch _ (.dropped _) | .head _ _ _ | .put _ _ => isTrue trivial

def FetchAwait.reads? : FetchAwait → Option ObjectId
  | .get object => some object
  | _ => none

/-- The object that the task has asked the stores for. -/
def Task.reads? : Task → Option ObjectId
  | .get _ (.running (.leader _ (.fetch stage))) | .get _ (.running (.fallback stage))
  | .prefetch _ (.running (.leader _ (.fetch stage))) => stage.reads?
  | .head _ _ (.running (.head object)) | .put _ (.running (.head object)) => some object
  | _ => none

/-- The only failure is that an object is not there when it is asked for, and
nothing is cancelled. -/
def Honest (s : Proxy) : ProxyAction → Prop
  | .poll index (.failed err) =>
      err = .notFound ∧ ∃ task ∈ s.tasks index, ∃ object ∈ task.reads?, s.shared.upstream object = none
  | .poll _ .streamError | .cancel _ => False
  | _ => True

instance (s : Proxy) : (action : ProxyAction) → Decidable (Honest s action)
  | .poll index (.failed err) =>
      inferInstanceAs (Decidable (err = .notFound ∧ ∃ task ∈ s.tasks index, ∃ object ∈ task.reads?,
        s.shared.upstream object = none))
  | .poll _ .streamError | .cancel _ => isFalse id
  | .poll _ .ready | .poll _ .cacheError | .start _ | .env _ => isTrue trivial

/-- The object of the key exists. -/
def Found (cfg : AppConfig) (key : CacheKey) (s : Shared) : Prop :=
  ∃ object data, cfg.object key = some object ∧ s.upstream object = some data

section Steps

variable {cfg : AppConfig} {key : CacheKey} {s s' : Shared} {guard : EntryId}

theorem FetchStart.clean (start : FetchStart cfg key s s' next) (known : cfg.object key = some object) :
    next.elim FetchAwait.Clean (fun result => ∃ entry, result = .ok entry) := by
  cases start with
  | unknown absent => simp [absent] at known
  | called => trivial

theorem FetchStep.clean (step : FetchStep cfg key method s at_ reply s' next) (formed : at_.Formed cfg key)
    (found : Found cfg key s) (spared : ∀ err, reply ≠ .failed err) (clean : at_.Clean) :
    next.elim FetchAwait.Clean (fun result => ∃ entry, result = .ok entry) := by
  cases step with
  | absent vacant =>
    obtain ⟨object, data, known, stored⟩ := found
    cases known.symm.trans formed
    simp [stored] at vacant
  | missed => exact clean.elim
  | getFailed err | readFailed err => exact absurd rfl (spared err)
  | got | read => trivial
  | skipped | cached => exact ⟨_, rfl⟩

theorem LeaderStart.clean (start : LeaderStart cfg key guard s s' stage) (known : cfg.object key = some object) :
    stage.Clean := by
  cases start with
  | fetch started => exact started.clean known
  | complete started => exact started.clean known

theorem LeaderStep.clean (step : LeaderStep cfg key method guard s at_ reply s' next)
    (formed : at_.Formed cfg key) (found : Found cfg key s) (spared : ∀ err, reply ≠ .failed err)
    (clean : at_.Clean) : next.elim LeaderAwait.Clean (fun result => ∃ entry, result = .ok entry) := by
  cases step with
  | fetch step => exact step.clean formed found spared clean
  | complete step => exact step.clean formed found spared clean
  | store | release => exact clean

theorem GetStep.clean (step : GetStep cfg key s at_ reply s' phase) (formed : at_.Formed cfg key)
    (found : Found cfg key s) (spared : ∀ err, reply ≠ .failed err)
    (clean : (Task.get key (.running at_)).Clean) : (Task.get key phase).Clean := by
  obtain ⟨object, data, known, stored⟩ := id found
  cases step with
  | lead _ started => exact started.clean known
  | leader led => exact led.clean formed found spared clean
  | abandoned _ started => exact started.clean known
  | fallback step => exact step.clean formed found spared clean
  | hit | miss | follow | led | wait | wake | joined | joinedError | abandonedEnds | recheckHit
  | recheckMiss | fallbackEnds => trivial

/-- A GET answers 200 unless it joined a flight that ended in an error. -/
theorem GetStep.answers (step : GetStep cfg key s at_ reply s' (.returned result)) (formed : at_.Formed cfg key)
    (found : Found cfg key s) (spared : ∀ err, reply ≠ .failed err)
    (clean : (Task.get key (.running at_)).Clean)
    (joined : ∀ wait err flights, at_ = .result wait →
      s.flights.readResult wait ≠ some (some (.error err), flights)) :
    ∃ response, result = .ok response := by
  obtain ⟨object, data, known, stored⟩ := id found
  have built (fetched : InflightResult) (ok : ∃ entry, fetched = .ok entry) :
      ∃ response, fetched.map (buildResponse · false) = .ok response := by
    obtain ⟨entry, rfl⟩ := ok
    exact ⟨_, rfl⟩
  cases step with
  | hit | recheckHit | recheckMiss => exact ⟨_, rfl⟩
  | led led => exact built _ (led.clean formed found spared clean)
  | joinedError read => exact absurd read (joined _ _ _ rfl)
  | abandonedEnds _ started => exact built _ (started.clean known)
  | fallbackEnds step => exact built _ (step.clean formed found spared clean)

theorem PrefetchStep.clean (step : PrefetchStep cfg key s at_ reply s' phase) (formed : at_.Formed cfg key)
    (found : Found cfg key s) (spared : ∀ err, reply ≠ .failed err)
    (clean : (Task.prefetch key (.running at_)).Clean) : (Task.prefetch key phase).Clean := by
  obtain ⟨object, data, known, stored⟩ := id found
  cases step with
  | lead _ started => exact started.clean known
  | leader led => exact led.clean formed found spared clean
  | follow | led => trivial

end Steps
end Cachegate
