import Cachegate.Handler.Runs
import Cachegate.Library.TaskCount
import Mathlib.Algebra.GroupWithZero.Nat

/-! What the segments of the handlers add to the counters, stated once for the
code that the handlers share. -/

namespace Cachegate

open Transition TaskPool

theorem bump_apply {Label : Type} [DecidableEq Label] (counter : Label → Nat) (label other : Label) :
    Metrics.bump counter label other = counter other + (decide (label = other)).toNat := by
  unfold Metrics.bump
  by_cases same : label = other
  · subst same
    simp
  · simp [same, Ne.symm same]

/-- The kinds that `upstream_err_total` tells apart. -/
def UpstreamErrorKind.all : List UpstreamErrorKind :=
  [.notFound, .permissionDenied, .unauthenticated, .notSupported, .precondition, .other]

/-- `upstream_err_total` of a method, summed over the kinds. -/
def Metrics.upstreamErrs (m : Metrics) (method : Method) : Nat :=
  (UpstreamErrorKind.all.map fun kind => m.upstreamErrTotal (method, kind)).sum

theorem upstreamErrs_bump (m : Metrics) (method other : Method) (kind : UpstreamErrorKind) :
    (m.incUpstreamErr method kind).upstreamErrs other = m.upstreamErrs other + (decide (method = other)).toNat := by
  unfold Metrics.upstreamErrs Metrics.incUpstreamErr
  simp only [UpstreamErrorKind.all, List.map_cons, List.map_nil, List.sum_cons, List.sum_nil, bump_apply,
    Prod.mk.injEq]
  by_cases same : method = other
  · cases kind <;> simp [same] <;> omega
  · simp [same]

/-- What the end of an upstream call adds, if it ends in this segment. -/
inductive Calls (method : Method) (m : Metrics) : Metrics → Bool → Prop
  | silent : Calls method m m false
  | failed (kind : UpstreamErrorKind) :
      Calls method m ((m.observeUpstreamLatencyMs method).incUpstreamErr method kind) true
  | succeeded : Calls method m ((m.observeUpstreamLatencyMs method).incUpstreamOk method) true

theorem Calls.requests (calls : Calls method m m' ends) : m'.requestsTotal = m.requestsTotal := by
  cases calls <;> rfl

/-- The upstream read has not ended yet. -/
def FetchAwait.reading : FetchAwait → Bool
  | .get _ | .missing _ | .bytes _ _ => true
  | .put _ _ => false

def LeaderAwait.reading : LeaderAwait → Bool
  | .fetch stage => stage.reading
  | .store _ | .release _ => false

section Steps

variable {cfg : AppConfig} {key : CacheKey} {s s' : Shared} {guard : EntryId}

theorem FetchStart.metrics (start : FetchStart cfg key s s' next) : s'.metrics = s.metrics := by
  cases start <;> rfl

/-- A fetch counts its outcome when its upstream read ends. -/
theorem FetchStep.calls (step : FetchStep cfg key method s at_ reply s' next) :
    ∃ ends, Calls method s.metrics s'.metrics ends ∧
      (next.elim FetchAwait.reading fun _ => false).toNat + ends.toNat = at_.reading.toNat := by
  cases step with
  | got | absent | cached => exact ⟨false, .silent, rfl⟩
  | missed | getFailed | readFailed => exact ⟨true, .failed _, rfl⟩
  | skipped | read => exact ⟨true, .succeeded, rfl⟩

theorem LeaderStart.metrics (start : LeaderStart cfg key guard s s' stage) : s'.metrics = s.metrics := by
  cases start with
  | fetch started => exact started.metrics
  | complete started => exact started.metrics

theorem LeaderStep.calls (step : LeaderStep cfg key method guard s at_ reply s' next) :
    ∃ ends, Calls method s.metrics s'.metrics ends ∧
      (next.elim LeaderAwait.reading fun _ => false).toNat + ends.toNat = at_.reading.toNat := by
  cases step with
  | fetch fetched => exact fetched.calls
  | complete fetched => exact fetched.calls
  | store | release => exact ⟨false, .silent, rfl⟩

end Steps

end Cachegate
