import Cachegate.Handler.Commit
import Cachegate.Store.Location

/-! What a PUT through one path can change under another. -/

namespace Cachegate

open Transition TaskPool

/-- No step of a PUT under one key touches the cache entry or the object of
another. -/
def Isolated (cfg : AppConfig) (key other : CacheKey) : Prop :=
  ∀ upstream cache s t index request phase action,
    (proxy cfg).system.Reaches System.Always (Proxy.initial upstream cache) s →
    s.tasks index = some (.put request phase) → request.key = key → action.Touches index →
    (proxy cfg).step s action = some t →
      t.shared.cache.entries other = s.shared.cache.entries other ∧
        ∀ object, cfg.object other = some object → t.shared.upstream object = s.shared.upstream object

section Steps

variable {cfg : AppConfig} {request : PutRequest} {s s' : Shared} {at_ : PutAwait}

theorem PutStep.entry (step : PutStep cfg request s at_ reply s' phase) {other : CacheKey}
    (different : other ≠ request.key) : s'.cache.entries other = s.cache.entries other := by
  cases step with
  | inserted => exact Function.update_of_ne different ..
  | checked | opened | initFailed | chunk | ended | bodyFailed | aborted | abortFailed | refused | committed
  | finishFailed | finishAborted | uncached | caching => rfl

theorem PutStep.object (step : PutStep cfg request s at_ reply s' phase) (formed : at_.Formed cfg request)
    {object : ObjectId} (apart : cfg.object request.key ≠ some object) : s'.upstream object = s.upstream object := by
  rcases step.upstream with same | ⟨written, upload, loop, rfl, _, _, changed⟩
  · rw [same]
  · rw [changed]
    apply Function.update_of_ne
    rintro rfl
    exact apart formed.1

end Steps

/-- A PUT is isolated from every key that names another object. -/
theorem isolated_of_apart {cfg : AppConfig} {key other : CacheKey} (different : other ≠ key)
    (apart : ∀ object, cfg.object other = some object → cfg.object key ≠ some object) : Isolated cfg key other := by
  rintro upstream cache s t index request phase action reach present rfl touches taken
  have formed := formed_reaches reach index _ present
  cases proxy_step taken with
  | put found polled =>
    cases touches
    cases found.symm.trans present
    constructor
    · exact polled.entry different
    · intro object known
      exact polled.object formed (apart object known)
  | late found landed =>
    cases touches
    cases found.symm.trans present
    constructor
    · exact landed.step.entry different
    · intro object known
      exact landed.step.object formed (apart object known)
  | dropPut found => exact ⟨rfl, fun _ _ => rfl⟩
  | get found | head found | prefetch found | dropGet found | dropHead found | dropPrefetch found =>
    cases touches
    cases found.symm.trans present
  | start | evict | release => exact touches.elim

/-- Keys and locations correspond, and with them PUTs are isolated, except for
different paths with the same segments, where only slashes are added. -/
theorem location_oneToOne (cfg : AppConfig) (reserved : UInt8 → Bool) (located : cfg.location = pathFrom reserved)
    (percent : reserved 37 = true) (bucket p q : String) :
    (((⟨bucket, p⟩ : CacheKey) = ⟨bucket, q⟩ ↔ cfg.location p = cfg.location q) ∧
        (p ≠ q → Isolated cfg ⟨bucket, p⟩ ⟨bucket, q⟩)) ↔
      ¬ (p ≠ q ∧ segments p = segments q) := by
  have keys : (⟨bucket, p⟩ : CacheKey) = ⟨bucket, q⟩ ↔ p = q := by simp
  rw [keys, located, pathFrom_eq_iff percent]
  constructor
  · rintro ⟨corresponds, _⟩ ⟨different, same⟩
    exact different (corresponds.mpr same)
  · intro spared
    have corresponds : p = q ↔ segments p = segments q := by
      constructor
      · rintro rfl
        rfl
      · intro same
        by_contra different
        exact spared ⟨different, same⟩
    refine ⟨corresponds, fun different => isolated_of_apart (by simpa using Ne.symm different) ?_⟩
    intro object known known'
    obtain ⟨store, _, rfl⟩ := Option.map_eq_some_iff.mp known
    obtain ⟨store', _, same⟩ := Option.map_eq_some_iff.mp known'
    apply different
    apply corresponds.mpr
    apply (pathFrom_eq_iff percent p q).mp
    rw [← located]
    exact congrArg ObjectId.location same

/-- One bucket whose locations encode the percent sign. -/
private def percentBucket : AppConfig :=
  { AppConfig.single "b" 4 .unknown with location := pathFrom (· == 37) }

/-- Two paths that only the encoding of the percent sign keeps apart. -/
theorem location_oneToOne_percent :
    percentBucket.location "." ≠ percentBucket.location "%2E" ∧ Isolated percentBucket ⟨"b", "."⟩ ⟨"b", "%2E"⟩ := by
  have apart := (location_oneToOne percentBucket (· == 37) rfl rfl "b" "." "%2E").mpr (by decide)
  constructor
  · intro same
    exact absurd (apart.1.mpr same) (by decide)
  · exact apart.2 (by decide)

/-- A trailing slash makes another key of the same location. -/
theorem location_shared :
    ¬ ∀ p q, invalidPath p = false → invalidPath q = false →
      ((⟨"b", p⟩ : CacheKey) = ⟨"b", q⟩ ↔ percentBucket.location p = percentBucket.location q) := by
  intro corresponds
  have same := (corresponds "a" "a/" (by decide) (by decide)).mpr (by decide)
  exact absurd same (by decide)

end Cachegate
