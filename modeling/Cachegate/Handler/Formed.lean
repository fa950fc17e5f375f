import Cachegate.Handler.Runs
import Cachegate.Handler.Upload

/-! What a suspended task says about its own request: which object it works
on, and that a PUT has looped over exactly the chunks it has taken. -/

namespace Cachegate

open Transition TaskPool

/-- The await at which a task is suspended or was dropped. -/
def Phase.At {Await Result : Type} (motive : Await → Prop) : Phase Await Result → Prop
  | .running at_ | .dropped at_ => motive at_
  | .returned _ => True

section Awaits

variable (cfg : AppConfig) (key : CacheKey)

def FetchAwait.Formed : FetchAwait → Prop
  | .get object | .missing object | .bytes object _ => cfg.object key = some object
  | .put data contentType =>
      ¬ (cfg.capBytes = 0 ∨ cfg.capBytes < data.length) ∧
        contentType = some (resolveContentType cfg.mime key.path data)

def LeaderAwait.Formed : LeaderAwait → Prop
  | .fetch stage => stage.Formed cfg key
  | _ => True

def GetAwait.Formed : GetAwait → Prop
  | .leader _ stage => stage.Formed cfg key
  | .fallback stage => stage.Formed cfg key
  | _ => True

def HeadAwait.Formed : HeadAwait → Prop
  | .head object => cfg.object key = some object
  | _ => True

def PrefetchAwait.Formed : PrefetchAwait → Prop
  | .leader _ stage => stage.Formed cfg key
  | .acquire => True

def PutAwait.Formed (request : PutRequest) : PutAwait → Prop
  | .head object | .init object => cfg.object request.key = some object
  | .next object _ rest loop =>
      cfg.object request.key = some object ∧
        ∃ read, request.body = read ++ rest ∧ loop = .run cfg.capBytes read
  | .abort _ | .aborted => True
  | .finish object _ loop | .committed object loop =>
      cfg.object request.key = some object ∧ loop = .run cfg.capBytes request.body
  | .insert object loop =>
      cfg.object request.key = some object ∧ loop = .run cfg.capBytes request.body ∧ loop.capped = false

end Awaits

def Task.Formed (cfg : AppConfig) : Task → Prop
  | .get key phase => phase.At (GetAwait.Formed cfg key)
  | .head key _ phase => phase.At (HeadAwait.Formed cfg key)
  | .put request phase => phase.At (PutAwait.Formed cfg request)
  | .prefetch key phase => phase.At (PrefetchAwait.Formed cfg key)

section Steps

variable {cfg : AppConfig} {key : CacheKey} {s s' : Shared} {guard : EntryId}

theorem FetchStart.formed (start : FetchStart cfg key s s' (.inl stage)) : stage.Formed cfg key := by
  cases start with
  | called known => exact known

theorem FetchStep.formed (step : FetchStep cfg key method s at_ reply s' (.inl stage))
    (formed : at_.Formed cfg key) : stage.Formed cfg key := by
  cases step with
  | got | absent => exact formed
  | read fits => exact ⟨fits, rfl⟩

theorem LeaderStart.formed (start : LeaderStart cfg key guard s s' stage) : stage.Formed cfg key := by
  cases start with
  | fetch started => exact started.formed
  | complete => trivial

theorem LeaderStep.formed (step : LeaderStep cfg key method guard s at_ reply s' (.inl stage))
    (formed : at_.Formed cfg key) : stage.Formed cfg key := by
  cases step with
  | fetch fetched => exact fetched.formed formed
  | complete | store => trivial

theorem GetStep.formed (step : GetStep cfg key s at_ reply s' phase) (formed : at_.Formed cfg key) :
    phase.At (GetAwait.Formed cfg key) := by
  cases step with
  | lead _ started => exact started.formed
  | leader led => exact led.formed formed
  | abandoned _ started => exact started.formed
  | fallback fetched => exact fetched.formed formed
  | hit | miss | follow | led | wait | wake | joined | joinedError | abandonedEnds | recheckHit
  | recheckMiss | fallbackEnds => trivial

theorem HeadStep.formed (step : HeadStep cfg key params s at_ reply s' phase spawned) :
    phase.At (HeadAwait.Formed cfg key) := by
  cases step with
  | miss _ known => exact known
  | hit | unknown | sized | headFailed | answer => trivial

theorem PrefetchStep.formed (step : PrefetchStep cfg key s at_ reply s' phase) (formed : at_.Formed cfg key) :
    phase.At (PrefetchAwait.Formed cfg key) := by
  cases step with
  | lead _ started => exact started.formed
  | leader led => exact led.formed formed
  | follow | led => trivial

theorem PutStep.formed (step : PutStep cfg request s at_ reply s' phase) (formed : at_.Formed cfg request) :
    phase.At (PutAwait.Formed cfg request) := by
  cases step with
  | checked => exact formed
  | opened => exact ⟨formed, [], rfl, rfl⟩
  | chunk =>
    obtain ⟨known, read, body, rfl⟩ := formed
    exact ⟨known, read ++ [_], by simp [body], (UploadLoop.run_append ..).symm⟩
  | ended =>
    obtain ⟨known, read, body, rfl⟩ := formed
    exact ⟨known, by rw [body, List.append_nil]⟩
  | committed => exact formed
  | caching uncapped => exact ⟨formed.1, formed.2, uncapped⟩
  | initFailed | bodyFailed | aborted | abortFailed | refused | finishFailed | finishAborted | uncached | inserted =>
    trivial

theorem Spawned.formed (spawned : Spawned cfg s request s' task) : task.Formed cfg := by
  cases spawned with
  | put _ known => exact known
  | getInvalid | get | headInvalid | head | putInvalid | putUnknown => trivial

end Steps

theorem formed_reaches (reach : (proxy cfg).system.Reaches allowed (Proxy.initial upstream cache) s) :
    s.All (Task.Formed cfg) := by
  refine reach.invariant (motive := fun s => s.All (Task.Formed cfg)) (State.all_start _) ?_
  intro source action next formed meets taken
  cases proxy_step taken with
  | start spawned => exact State.All.push formed spawned.formed
  | get present polled => exact formed.replace (polled.formed (formed _ _ present))
  | head present polled => exact all_head (formed.replace polled.formed) trivial
  | put present polled => exact formed.replace (polled.formed (formed _ _ present))
  | prefetch present polled => exact formed.replace (polled.formed (formed _ _ present))
  | late present landed => exact formed.replace (landed.step.formed (formed _ _ present))
  | dropGet present => exact formed.replace (formed _ _ present :)
  | dropHead present => exact formed.replace (formed _ _ present :)
  | dropPut present => exact formed.replace (formed _ _ present :)
  | dropPrefetch present => exact formed.replace (formed _ _ present :)
  | evict | release => exact formed

/-- A PUT has a valid path and a configured bucket unless it has failed. -/
def Task.Accepted (cfg : AppConfig) : Task → Prop
  | .put _ (.returned (.error _)) => True
  | .put request _ => invalidPath request.key.path = false ∧ ∃ object, cfg.object request.key = some object
  | _ => True

theorem accepted_reaches (reach : (proxy cfg).system.Reaches allowed (Proxy.initial upstream cache) s) :
    s.All (Task.Accepted cfg) := by
  refine reach.invariant (motive := fun s => s.All (Task.Accepted cfg)) (State.all_start _) ?_
  intro source action next accepted meets taken
  cases proxy_step taken with
  | start spawned =>
    refine State.All.push accepted ?_
    cases spawned with
    | put valid known => exact ⟨valid, _, known⟩
    | getInvalid | get | headInvalid | head | putInvalid | putUnknown => trivial
  | put present polled =>
    have own : _ ∧ _ := accepted _ _ present
    refine accepted.replace ?_
    cases polled with
    | initFailed | abortFailed | refused | finishFailed | finishAborted => trivial
    | checked | opened | chunk | ended | bodyFailed | aborted | committed | uncached | caching | inserted => exact own
  | late present => exact accepted.replace (accepted _ _ present :)
  | dropPut present => exact accepted.replace (accepted _ _ present :)
  | head => exact all_head (accepted.replace trivial) trivial
  | get | prefetch | dropGet | dropHead | dropPrefetch => exact accepted.replace trivial
  | evict | release => exact accepted

end Cachegate
