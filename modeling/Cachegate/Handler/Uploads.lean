import Cachegate.Handler.Runs

/-! The multipart uploads that PUTs open. An upload is in the hands of the one
handler that opened it until it is completed or aborted, so it is lost where the
handler ends before. -/

namespace Cachegate

open Transition TaskPool

/-- The upload that a PUT is working on. -/
def PutAwait.upload? : PutAwait → Option Nat
  | .next _ upload _ _ | .abort upload | .finish _ upload _ => some upload
  | .head _ | .init _ | .aborted | .committed _ _ | .insert _ _ => none

/-- The upload that a later reply to this task may close. -/
def Task.upload? : Task → Option Nat
  | .put _ (.running at_) => at_.upload?
  | .put _ (.dropped (.abort upload)) | .put _ (.dropped (.finish _ upload _)) => some upload
  | _ => none

def Upload.closed : Upload → Bool
  | .open => false
  | .completed | .aborted => true

/-- The upload has been completed or aborted. -/
def UploadClosed (s : Shared) (upload : Nat) : Prop := (s.uploads upload).any Upload.closed = true

/-- `WriteMultipart::abort` aborts the upload. -/
def AbortsSucceed (s : Proxy) : ProxyAction → Prop
  | .poll index (.failed _) => ∀ request upload, s.tasks index ≠ some (.put request (.running (.abort upload)))
  | _ => True

/-- Nobody is dropped while working on this upload, and a `finish` of it that
fails has aborted it. -/
def Orderly (cfg : AppConfig) (upload : Nat) (s : Proxy) : ProxyAction → Prop
  | .cancel index => ∀ request at_, s.tasks index = some (.put request (.running at_)) → at_.upload? ≠ some upload
  | .poll index (.failed err) => ∀ request object loop,
      s.tasks index = some (.put request (.running (.finish object upload loop))) →
        cfg.finishAborts upload err = true
  | _ => True

/-- Whoever works on an upload has it open, and alone. -/
def uploading : Assertion Shared Task where
  global := fun _ => True
  each := fun s task => ∀ upload, task.upload? = some upload → upload < s.nextUpload ∧ s.uploads upload = some .open
  apart := fun task other => ∀ upload, task.upload? = some upload → other.upload? ≠ some upload

/-- What a segment does to the uploads, by what its task works on before and after. -/
inductive UploadMove (s s' : Shared) : Option Nat → Option Nat → Prop
  | kept (uploads : s'.uploads = s.uploads) (next : s'.nextUpload = s.nextUpload)
      (held : after = before ∨ after = none) : UploadMove s s' before after
  | opened (uploads : s'.uploads = Function.update s.uploads s.nextUpload (some .open))
      (next : s'.nextUpload = s.nextUpload + 1) (held : after = some s.nextUpload ∨ after = none) :
      UploadMove s s' none after
  | closed (uploads : s'.uploads = Function.update s.uploads upload (some state)) (ends : state.closed = true)
      (next : s'.nextUpload = s.nextUpload) : UploadMove s s' (some upload) none

/-- The uploads are as they were. -/
def SameUploads (s s' : Shared) : Prop := s'.uploads = s.uploads ∧ s'.nextUpload = s.nextUpload

/-- A step of the proxy, by what it does to the uploads. -/
inductive UploadStep (s : Proxy) : Proxy → Prop
  | idle (same : SameUploads s.shared s') : UploadStep s (s.reshare s')
  | started (same : SameUploads s.shared s') (fresh : task.upload? = none) :
      UploadStep s ((s.reshare s').push task)
  | moved (present : s.tasks index = some task) (move : UploadMove s.shared s' task.upload? task'.upload?) :
      UploadStep s (s.replace index s' task')
  | left (present : s.tasks index = some task) (move : UploadMove s.shared s' task.upload? task'.upload?)
      (fresh : child.upload? = none) : UploadStep s ((s.replace index s' task').push child)

/-- The steps of one PUT: a segment of its handler, its drop, and what the store
does after the drop. -/
inductive PutMove (cfg : AppConfig) (request : PutRequest) (index : Nat) (s : Shared) :
    Phase PutAwait HandlerResult → ProxyAction → Shared → Phase PutAwait HandlerResult → Prop
  | polled (step : PutStep cfg request s at_ reply s' phase) :
      PutMove cfg request index s (.running at_) (.poll index reply) s' phase
  | dropped : PutMove cfg request index s (.running at_) (.cancel index) s (.dropped at_)
  | late (landed : LateStep cfg request s at_ s' at_') :
      PutMove cfg request index s (.dropped at_) (.poll index .ready) s' (.dropped at_')

section Steps

variable {cfg : AppConfig} {key : CacheKey} {s s' : Shared} {guard : EntryId} {before after : Option Nat} {upload : Nat}

theorem Untouched.same (untouched : Untouched s s') : SameUploads s s' := ⟨untouched.uploads, untouched.nextUpload⟩

theorem Spawned.uploads (spawned : Spawned cfg s job s' task) : SameUploads s s' ∧ task.upload? = none := by
  cases spawned <;> exact ⟨⟨rfl, rfl⟩, rfl⟩

theorem SameUploads.move (same : SameUploads s s') (held : after = before ∨ after = none) :
    UploadMove s s' before after :=
  .kept same.1 same.2 held

theorem PutStep.uploads (step : PutStep cfg request s at_ reply s' phase) :
    UploadMove s s' at_.upload? (Task.put request phase).upload? := by
  cases step with
  | opened => exact .opened rfl rfl (.inl rfl)
  | aborted | committed | finishAborted => exact .closed rfl rfl rfl
  | chunk | ended | bodyFailed => exact .kept rfl rfl (.inl rfl)
  | checked | initFailed | abortFailed | refused | finishFailed | uncached | caching | inserted =>
    exact .kept rfl rfl (.inr rfl)

theorem LateStep.uploads (late : LateStep cfg request s at_ s' at_') :
    UploadMove s s' (Task.put request (.dropped at_)).upload? (Task.put request (.dropped at_')).upload? := by
  cases late with
  | opened => exact .opened rfl rfl (.inr rfl)
  | aborted | committed => exact .closed rfl rfl rfl

/-- The task's own upload is open afterwards, if it still has one. -/
theorem UploadMove.own (move : UploadMove s s' before after)
    (open_ : ∀ upload, before = some upload → upload < s.nextUpload ∧ s.uploads upload = some .open)
    (held : after = some upload) : upload < s'.nextUpload ∧ s'.uploads upload = some .open := by
  cases move with
  | kept uploads next same =>
    rw [uploads, next]
    rcases same with rfl | rfl
    · exact open_ upload held
    · cases held
  | opened uploads next own =>
    rcases own with rfl | rfl <;> cases held
    rw [uploads, next]
    exact ⟨Nat.lt_succ_self _, Function.update_self ..⟩
  | closed => cases held

/-- An upload that the task does not work on stays open. -/
theorem UploadMove.frame (move : UploadMove s s' before after) (other : before ≠ some upload)
    (open_ : upload < s.nextUpload ∧ s.uploads upload = some .open) :
    upload < s'.nextUpload ∧ s'.uploads upload = some .open ∧ after ≠ some upload := by
  obtain ⟨bounded, open_⟩ := open_
  cases move with
  | kept uploads next same =>
    rw [uploads, next]
    refine ⟨bounded, open_, ?_⟩
    rcases same with rfl | rfl
    · exact other
    · rintro ⟨⟩
  | opened uploads next own =>
    have different : upload ≠ s.nextUpload := Nat.ne_of_lt bounded
    rw [uploads, next]
    refine ⟨Nat.lt_succ_of_lt bounded, by simp [different, open_], ?_⟩
    rcases own with rfl | rfl <;> rintro ⟨⟩
    exact different rfl
  | @closed closing state uploads _ next =>
    have different : upload ≠ closing := by
      rintro rfl
      exact other rfl
    rw [uploads, next]
    exact ⟨bounded, by simp [different, open_], by rintro ⟨⟩⟩

/-- What is closed stays closed. -/
theorem UploadMove.closes (move : UploadMove s s' before after) (bounded : upload < s.nextUpload)
    (closed : UploadClosed s upload) : UploadClosed s' upload := by
  unfold UploadClosed at closed ⊢
  cases move with
  | kept uploads => rwa [uploads]
  | opened uploads =>
    have different : upload ≠ s.nextUpload := Nat.ne_of_lt bounded
    simpa [uploads, different] using closed
  | @closed closing state uploads ends =>
    by_cases same : upload = closing
    · simp [uploads, same, ends]
    · simpa [uploads, same] using closed

theorem UploadMove.next_le (move : UploadMove s s' before after) : s.nextUpload ≤ s'.nextUpload := by
  cases move with
  | kept _ next => exact Nat.le_of_eq next.symm
  | opened _ next => exact Nat.le_of_lt (by rw [next]; exact Nat.lt_succ_self _)
  | closed _ _ next => exact Nat.le_of_eq next.symm

end Steps

section Runs

variable {cfg : AppConfig} {s t : Proxy} {upload index : Nat} {task task' : Task} {shared : Shared}

/-- A task that moves leaves the uploads of the others open and to them. -/
theorem uploading_replace (holds : uploading.Holds s) (present : s.tasks index = some task)
    (move : UploadMove s.shared shared task.upload? task'.upload?) :
    uploading.Holds (s.replace index shared task') := by
  refine holds.replace present trivial ?_ ?_
  · intro upload held
    exact move.own (holds.each index task present) held
  · intro j other different found
    have kept {upload : Nat} (held : other.upload? = some upload) := move.frame
      (fun own => holds.apart index j task other (Ne.symm different) present found upload own held)
      (holds.each j other found upload held)
    refine ⟨?_, ?_, ?_⟩
    · intro upload held
      exact ⟨(kept held).1, (kept held).2.1⟩
    · intro upload own held
      exact (kept held).2.2 own
    · intro upload held own
      exact (kept held).2.2 own

/-- A new task works on no upload. -/
theorem uploading_push (holds : uploading.Holds s) (idle : task.upload? = none) : uploading.Holds (s.push task) := by
  refine holds.push ?_ ?_
  · intro upload held
    simp [idle] at held
  · intro j other _
    constructor
    · intro upload held
      simp [idle] at held
    · intro upload _
      simp [idle]

theorem upload_step (taken : (proxy cfg).step s action = some t) : UploadStep s t := by
  cases proxy_step taken with
  | start spawned => exact .started spawned.uploads.1 spawned.uploads.2
  | get present polled => exact .moved present (polled.untouched.same.move (.inr rfl))
  | put present polled => exact .moved present polled.uploads
  | prefetch present polled => exact .moved present (polled.untouched.same.move (.inr rfl))
  | head present polled =>
    split
    · exact .left present (polled.untouched.same.move (.inr rfl)) rfl
    · exact .moved present (polled.untouched.same.move (.inr rfl))
  | late present landed => exact .moved present landed.uploads
  | dropGet present | dropHead present | dropPrefetch present => exact .moved present (.kept rfl rfl (.inr rfl))
  | @dropPut index request at_ present =>
    refine .moved present (.kept rfl rfl ?_)
    cases at_ with
    | abort | finish => exact .inl rfl
    | head | init | next | aborted | committed | insert => exact .inr rfl
  | evict | release => exact .idle ⟨rfl, rfl⟩

theorem uploading_reaches (reach : (proxy cfg).system.Reaches allowed (Proxy.initial upstream cache) s) :
    uploading.Holds s := by
  refine reach.invariant (motive := uploading.Holds) (Assertion.holds_start trivial) ?_
  intro source action next holds _ taken
  have reshared {shared : Shared} (same : SameUploads source.shared shared) :
      uploading.Holds (source.reshare shared) := by
    refine holds.reshare trivial ?_
    intro j other found upload held
    rw [same.1, same.2]
    exact holds.each j other found upload held
  cases upload_step taken with
  | idle same => exact reshared same
  | started same idle => exact uploading_push (reshared same) idle
  | moved present move => exact uploading_replace holds present move
  | left present move idle => exact uploading_push (uploading_replace holds present move) idle

/-- An upload that was opened stays known, and closed once it is closed. -/
theorem closed_step (bounded : upload < s.shared.nextUpload) (taken : (proxy cfg).step s action = some t) :
    upload < t.shared.nextUpload ∧ (UploadClosed s.shared upload → UploadClosed t.shared upload) := by
  have moved {shared : Shared} {before after : Option Nat} (move : UploadMove s.shared shared before after) :
      upload < shared.nextUpload ∧ (UploadClosed s.shared upload → UploadClosed shared upload) :=
    ⟨Nat.lt_of_lt_of_le bounded move.next_le, move.closes bounded⟩
  cases upload_step taken with
  | idle same | started same =>
    have move : UploadMove _ _ none none := same.move (.inl rfl)
    exact moved move
  | moved _ move | left _ move => exact moved move

/-- A PUT's handler has not returned and was not dropped. -/
def PutRunning (s : Proxy) (index : Nat) : Prop :=
  ∃ request at_, s.tasks index = some (.put request (.running at_))

/-- The upload is closed, or its handler is running and works on it. -/
structure UploadHeld (index upload : Nat) (s : Proxy) : Prop where
  started : index < s.next
  bounded : upload < s.shared.nextUpload
  held : UploadClosed s.shared upload ∨
    ∃ request at_, s.tasks index = some (.put request (.running at_)) ∧ at_.upload? = some upload

theorem put_move (present : s.tasks index = some (.put request phase))
    (taken : (proxy cfg).step s action = some t) (touches : action.Touches index) :
    ∃ shared phase', PutMove cfg request index s.shared phase action shared phase' ∧
      t = s.replace index shared (.put request phase') := by
  cases proxy_step taken with
  | put found polled =>
    cases touches
    cases found.symm.trans present
    exact ⟨_, _, .polled polled, rfl⟩
  | dropPut found =>
    cases touches
    cases found.symm.trans present
    exact ⟨_, _, .dropped, rfl⟩
  | late found landed =>
    cases touches
    cases found.symm.trans present
    exact ⟨_, _, .late landed, rfl⟩
  | get found | head found | prefetch found | dropGet found | dropHead found | dropPrefetch found =>
    cases touches
    cases found.symm.trans present
  | start | evict | release => exact touches.elim

/-- A step of a running PUT is a segment of its handler, or drops it. -/
theorem put_own_step {at_ : PutAwait} (present : s.tasks index = some (.put request (.running at_)))
    (taken : (proxy cfg).step s action = some t) (touches : action.Touches index) :
    (∃ reply shared phase, action = .poll index reply ∧ PutStep cfg request s.shared at_ reply shared phase ∧
        t = s.replace index shared (.put request phase)) ∨
      action = .cancel index ∧ t = s.replace index s.shared (.put request (.dropped at_)) := by
  obtain ⟨shared, phase, move, rfl⟩ := put_move present taken touches
  cases move with
  | polled step => exact .inl ⟨_, _, _, rfl, step, rfl⟩
  | dropped => exact .inr ⟨rfl, rfl⟩

theorem UploadHeld.step (held : UploadHeld index upload s) (aborts : AbortsSucceed s action)
    (orderly : Orderly cfg upload s action)
    (taken : (proxy cfg).step s action = some t) : UploadHeld index upload t := by
  obtain ⟨bounded, closes⟩ := closed_step held.bounded taken
  refine ⟨Nat.lt_of_lt_of_le held.started (Program.step_next taken), bounded, ?_⟩
  rcases held.held with closed | ⟨request, at_, present, works⟩
  · exact .inl (closes closed)
  · by_cases touches : action.Touches index
    · rcases put_own_step present taken touches with ⟨reply, shared, phase, rfl, polled, rfl⟩ | ⟨rfl, rfl⟩
      · cases polled with
        | chunk | ended | bodyFailed => exact .inr ⟨request, _, State.replace_self .., works⟩
        | aborted | committed | finishAborted =>
          cases works
          left
          simp [UploadClosed, Shared.setUpload, Shared.upstreamFailed, Shared.answered, Shared.count, Upload.closed]
        | finishFailed err leaves =>
          cases works
          exact absurd (orderly _ _ _ present) (by simp [leaves])
        | abortFailed => exact absurd present (aborts _ _)
        | checked | opened | initFailed | refused | uncached | caching | inserted => cases works
      · exact absurd works (orderly _ _ present)
    · right
      refine ⟨request, at_, ?_, works⟩
      rw [Program.step_other taken touches held.started]
      exact present

theorem disorderly_cases (disorderly : ¬ Orderly cfg upload s action) :
    (∃ i request at_, action = .cancel i ∧ s.tasks i = some (.put request (.running at_)) ∧
        at_.upload? = some upload) ∨
      ∃ i err request object loop, action = .poll i (.failed err) ∧
        s.tasks i = some (.put request (.running (.finish object upload loop))) ∧
        cfg.finishAborts upload err = false := by
  unfold Orderly at disorderly
  split at disorderly
  · simp only [not_forall, not_not, exists_prop] at disorderly
    obtain ⟨request, at_, present, works⟩ := disorderly
    exact .inl ⟨_, request, at_, rfl, present, works⟩
  · simp only [not_forall, exists_prop, Bool.not_eq_true] at disorderly
    obtain ⟨request, object, loop, present, leaves⟩ := disorderly
    exact .inr ⟨_, _, request, object, loop, rfl, present, leaves⟩
  · exact absurd trivial disorderly

/-- Who works on an open upload is the handler that opened it. -/
theorem UploadHeld.owner (held : UploadHeld index upload s) (holds : uploading.Holds s) {at_ : PutAwait}
    (present : s.tasks i = some (.put request (.running at_))) (works : at_.upload? = some upload) :
    i = index ∧ s.shared.uploads upload = some .open := by
  obtain ⟨_, open_⟩ := holds.each i _ present upload works
  refine ⟨?_, open_⟩
  rcases held.held with closed | ⟨request', at_', found, works'⟩
  · simp [UploadClosed, open_, Upload.closed] at closed
  · by_contra different
    exact holds.apart i index _ _ different present found upload works works'

/-- The handler has ended only if its upload is closed. -/
def UploadSettled (index upload : Nat) (s : Proxy) : Prop := ¬ PutRunning s index → UploadClosed s.shared upload

theorem UploadHeld.settled (held : UploadHeld index upload s) : UploadSettled index upload s := by
  intro ended
  rcases held.held with closed | ⟨request, at_, present, _⟩
  · exact closed
  · exact absurd ⟨request, at_, present⟩ ended

/-- Where the handler ends out of order its upload stays open. -/
theorem UploadHeld.abandons (held : UploadHeld index upload s) (holds : uploading.Holds s)
    (disorderly : ¬ Orderly cfg upload s action) (taken : (proxy cfg).step s action = some t) :
    ¬ UploadSettled index upload t := by
  have left {shared : Shared} {task : Task} (ended : ∀ request at_, task ≠ .put request (.running at_))
      (open_ : shared.uploads upload = some .open) : ¬ UploadSettled index upload (s.replace index shared task) := by
    intro settled
    have closed : UploadClosed shared upload := by
      apply settled
      rintro ⟨request, at_, running⟩
      rw [State.replace_self] at running
      exact ended request at_ (Option.some.inj running)
    simp [UploadClosed, open_, Upload.closed] at closed
  rcases disorderly_cases disorderly with
    ⟨i, request, at_, rfl, present, works⟩ | ⟨i, err, request, object, loop, rfl, present, leaves⟩
  · obtain ⟨rfl, open_⟩ := held.owner holds present works
    rcases put_own_step present taken rfl with ⟨_, _, _, ⟨⟩, _⟩ | ⟨_, rfl⟩
    exact left (by rintro _ _ ⟨⟩) open_
  · obtain ⟨rfl, open_⟩ := held.owner holds present rfl
    rcases put_own_step present taken rfl with ⟨reply, shared, phase, same, polled, rfl⟩ | ⟨⟨⟩, _⟩
    cases same
    cases polled with
    | finishFailed => exact left (by rintro _ _ ⟨⟩) open_
    | finishAborted _ aborts => simp [leaves] at aborts

/-- The handler's upload once it is opened. -/
theorem held_opened (bounded : ∀ i task, s.tasks i = some task → i < s.next)
    (present : s.tasks index = some (.put request (.running (.init object))))
    (opened : (proxy cfg).step s (.poll index .ready) = some t) : UploadHeld index s.shared.nextUpload t := by
  have started := Nat.lt_of_lt_of_le (bounded index _ present) (Program.step_next opened)
  rcases put_own_step present opened rfl with ⟨reply, shared, phase, same, polled, rfl⟩ | ⟨⟨⟩, _⟩
  cases same
  cases polled with
  | opened => exact ⟨started, Nat.lt_succ_self _, .inr ⟨request, _, State.replace_self .., rfl⟩⟩

/-- The upload is open, and nobody is there to close it. -/
structure UploadLost (index upload : Nat) (s : Proxy) : Prop where
  started : index < s.next
  gone : ∃ request at_, s.tasks index = some (.put request (.dropped at_))
  bounded : upload < s.shared.nextUpload
  open_ : s.shared.uploads upload = some .open
  nobody : ∀ i task, s.tasks i = some task → task.upload? ≠ some upload

theorem UploadLost.unsettled (lost : UploadLost index upload s) : ¬ UploadSettled index upload s := by
  intro settled
  obtain ⟨request, at_, gone⟩ := lost.gone
  have closed : UploadClosed s.shared upload := by
    apply settled
    rintro ⟨request', at_', running⟩
    cases gone.symm.trans running
  simp [UploadClosed, lost.open_, Upload.closed] at closed

/-- A PUT that was dropped stays so. -/
theorem gone_step (started : index < s.next) (gone : s.tasks index = some (.put request (.dropped at_)))
    (taken : (proxy cfg).step s action = some t) : ∃ at_', t.tasks index = some (.put request (.dropped at_')) := by
  by_cases touches : action.Touches index
  · obtain ⟨shared, phase, move, rfl⟩ := put_move gone taken touches
    cases move with
    | late landed => exact ⟨_, State.replace_self ..⟩
  · exact ⟨at_, (Program.step_other taken touches started).trans gone⟩

theorem UploadLost.step (lost : UploadLost index upload s) (taken : (proxy cfg).step s action = some t) :
    UploadLost index upload t := by
  obtain ⟨started, ⟨request, at_, gone⟩, bounded, open_, nobody⟩ := lost
  have started' := Nat.lt_of_lt_of_le started (Program.step_next taken)
  obtain ⟨at_', gone'⟩ := gone_step started gone taken
  -- a task that moves leaves the upload as it is, and does not take it
  have moved {i : Nat} {before after : Task} {shared : Shared} (present : s.tasks i = some before)
      (move : UploadMove s.shared shared before.upload? after.upload?) :
      upload < shared.nextUpload ∧ shared.uploads upload = some .open ∧
        ∀ j task, (s.replace i shared after).tasks j = some task → task.upload? ≠ some upload := by
    obtain ⟨bounded, open_, other⟩ := move.frame (nobody i before present) ⟨bounded, open_⟩
    refine ⟨bounded, open_, ?_⟩
    intro j task found
    rcases State.replace_tasks found with ⟨_, rfl⟩ | ⟨_, earlier⟩
    · exact other
    · exact nobody j task earlier
  have pushed {source : Proxy} {child : Task} (fresh : child.upload? = none)
      (nobody : ∀ j task, source.tasks j = some task → task.upload? ≠ some upload) :
      ∀ j task, (source.push child).tasks j = some task → task.upload? ≠ some upload := by
    intro j task found
    rcases State.push_tasks found with ⟨_, rfl⟩ | ⟨_, earlier⟩
    · simp [fresh]
    · exact nobody j task earlier
  cases upload_step taken with
  | idle same => exact ⟨started', ⟨_, _, gone'⟩, same.2 ▸ bounded, same.1 ▸ open_, nobody⟩
  | started same fresh => exact ⟨started', ⟨_, _, gone'⟩, same.2 ▸ bounded, same.1 ▸ open_, pushed fresh nobody⟩
  | moved present move =>
    obtain ⟨bounded, open_, nobody⟩ := moved present move
    exact ⟨started', ⟨_, _, gone'⟩, bounded, open_, nobody⟩
  | left present move fresh =>
    obtain ⟨bounded, open_, nobody⟩ := moved present move
    exact ⟨started', ⟨_, _, gone'⟩, bounded, open_, pushed fresh nobody⟩

/-- The upload that the store opens for a PUT that was dropped. -/
theorem lost_opened (holds : uploading.Holds s)
    (present : s.tasks index = some (.put request (.dropped (.init object))))
    (opened : (proxy cfg).step s (.poll index .ready) = some t) : UploadLost index s.shared.nextUpload t := by
  have started := Nat.lt_of_lt_of_le (holds.bounded index _ present) (Program.step_next opened)
  obtain ⟨shared, phase, move, rfl⟩ := put_move present opened rfl
  cases move with
  | late landed =>
    cases landed with
    | opened =>
      refine ⟨started, ⟨request, _, State.replace_self ..⟩, Nat.lt_succ_self _, Function.update_self .., ?_⟩
      intro i task found
      rcases State.replace_tasks found with ⟨_, rfl⟩ | ⟨_, earlier⟩
      · rintro ⟨⟩
      · intro works
        exact Nat.lt_irrefl _ (holds.each i task earlier _ works).1

end Runs

/-- The upload of a PUT is closed when its handler has returned or been dropped,
as long as the handler is still there when the store opens it, is not dropped
while it works on it, and a `finish` that fails aborts it; the first step that
is otherwise leaves the upload open. -/
theorem uploadSettled_of_orderly (cfg : AppConfig) (upstream : ObjectId → Option Bytes) (cache : FoyerCache)
    (s s' : Proxy) (index : Nat) (request : PutRequest) (object : ObjectId) (phase : Phase PutAwait HandlerResult)
    (before : (proxy cfg).system.Reaches System.Always (Proxy.initial upstream cache) s)
    (present : s.tasks index = some (.put request phase))
    (opening : phase = .running (.init object) ∨ phase = .dropped (.init object))
    (opened : (proxy cfg).step s (.poll index .ready) = some s') :
    (∀ t, (proxy cfg).system.Reaches
        (fun t action => AbortsSucceed t action ∧ Orderly cfg s.shared.nextUpload t action) s' t →
      (UploadSettled index s.shared.nextUpload t ↔ phase = .running (.init object))) ∧
      ∀ t t' action, phase = .running (.init object) → (proxy cfg).system.Reaches
          (fun t action => AbortsSucceed t action ∧ Orderly cfg s.shared.nextUpload t action) s' t →
        AbortsSucceed t action → (proxy cfg).step t action = some t' →
        (UploadSettled index s.shared.nextUpload t' ↔ Orderly cfg s.shared.nextUpload t action) := by
  have first : (proxy cfg).system.Reaches System.Always (Proxy.initial upstream cache) s' :=
    before.step (show System.Always s (.poll index .ready) from trivial) opened
  have held (running : phase = .running (.init object)) {t : Proxy} (reach : (proxy cfg).system.Reaches
      (fun t action => AbortsSucceed t action ∧ Orderly cfg s.shared.nextUpload t action) s' t) :
      UploadHeld index s.shared.nextUpload t := by
    subst running
    refine reach.invariant (held_opened (uploading_reaches before).bounded present opened) ?_
    intro source action next held allow taken
    exact held.step allow.1 allow.2 taken
  constructor
  · intro t reach
    rcases opening with running | rfl
    · exact iff_of_true (held running reach).settled running
    · have lost : UploadLost index s.shared.nextUpload t :=
        reach.invariant (lost_opened (uploading_reaches before) present opened)
          fun _ _ _ lost _ taken => lost.step taken
      exact iff_of_false lost.unsettled (by rintro ⟨⟩)
  · intro t t' action running reach aborts taken
    constructor
    · intro settled
      by_contra disorderly
      exact (held running reach).abandons (uploading_reaches (first.trans reach.always)) disorderly taken settled
    · intro orderly
      exact ((held running reach).step aborts orderly taken).settled

/-- The proxy after some steps from the start, with one bucket and nothing stored. -/
private def putRun (actions : List ProxyAction) : Proxy :=
  ((proxy (.single "b" 4 .unknown)).system.run (Proxy.initial (fun _ => none) .empty) actions).getD
    (Proxy.initial (fun _ => none) .empty)

private def putOpening : List ProxyAction :=
  [.start (.put ⟨⟨"b", "p"⟩, ⟨none, none⟩, [[1], [2]]⟩), .poll 0 .ready]

/-- A PUT whose body stream fails: the upload is aborted before the handler returns. -/
theorem uploadSettled_of_orderly_aborted :
    ∃ t, (proxy (.single "b" 4 .unknown)).system.Reaches System.Always (Proxy.initial (fun _ => none) .empty) t ∧
      UploadSettled 0 0 t ∧ (t.tasks 0).any (fun | .put _ (.returned _) => true | _ => false) ∧
      t.shared.uploads 0 = some .aborted := by
  have replayed : (proxy (.single "b" 4 .unknown)).system.run (Proxy.initial (fun _ => none) .empty) putOpening =
      some (putRun putOpening) := rfl
  have opened : (proxy (.single "b" 4 .unknown)).step (putRun putOpening) (.poll 0 .ready) =
      some (putRun (putOpening ++ [.poll 0 .ready])) := rfl
  have failed : (proxy (.single "b" 4 .unknown)).system.run (putRun (putOpening ++ [.poll 0 .ready]))
      [.poll 0 .ready, .poll 0 .streamError, .poll 0 .ready, .poll 0 .ready] =
      some (putRun (putOpening ++
        [.poll 0 .ready, .poll 0 .ready, .poll 0 .streamError, .poll 0 .ready, .poll 0 .ready])) := rfl
  have before := System.reaches_of_run replayed
  have after : (proxy (.single "b" 4 .unknown)).system.Reaches
      (fun t action => AbortsSucceed t action ∧ Orderly (.single "b" 4 .unknown) 0 t action) _ _ :=
    System.reaches_of_run_meets failed (by simp [AbortsSucceed, Orderly])
  have settled := ((uploadSettled_of_orderly (.single "b" 4 .unknown) _ _ _ _ 0 _ _ _ before rfl (.inl rfl) opened).1
    _ after).mpr rfl
  have opening := before.step (show System.Always (putRun putOpening) (.poll 0 .ready) from trivial) opened
  exact ⟨_, opening.trans after.always, settled, rfl, rfl⟩

/-- A client disconnects while its body is read: the upload stays open. -/
theorem openUpload_reachable :
    ¬ ∀ s s' t index request object, (proxy (.single "b" 4 .unknown)).system.Reaches System.Always
        (Proxy.initial (fun _ => none) .empty) s →
      s.tasks index = some (.put request (.running (.init object))) →
      (proxy (.single "b" 4 .unknown)).step s (.poll index .ready) = some s' →
      (proxy (.single "b" 4 .unknown)).system.Reaches AbortsSucceed s' t →
      UploadSettled index s.shared.nextUpload t := by
  intro settled
  have replayed : (proxy (.single "b" 4 .unknown)).system.run (Proxy.initial (fun _ => none) .empty) putOpening =
      some (putRun putOpening) := rfl
  have opened : (proxy (.single "b" 4 .unknown)).step (putRun putOpening) (.poll 0 .ready) =
      some (putRun (putOpening ++ [.poll 0 .ready])) := rfl
  have disconnected : (proxy (.single "b" 4 .unknown)).system.run (putRun (putOpening ++ [.poll 0 .ready]))
      [.cancel 0] = some (putRun (putOpening ++ [.poll 0 .ready, .cancel 0])) := rfl
  have cancelled : (proxy (.single "b" 4 .unknown)).system.Reaches AbortsSucceed _ _ :=
    System.reaches_of_run_meets disconnected (by simp [AbortsSucceed])
  have closed : UploadClosed (putRun (putOpening ++ [.poll 0 .ready, .cancel 0])).shared 0 := by
    apply settled _ _ _ 0 _ _ (System.reaches_of_run replayed) rfl opened cancelled
    rintro ⟨request, at_, running⟩
    cases running
  cases closed

end Cachegate
