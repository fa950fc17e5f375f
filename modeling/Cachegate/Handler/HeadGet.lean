import Cachegate.Handler.Commit
import Cachegate.Handler.ContentType
import Cachegate.Handler.Solo

/-! A HEAD and a GET of one key, each served from the same state while other
requests go on that leave the key alone. Both come to an answer that the cache
and the stores determine. -/

namespace Cachegate

open Transition TaskPool Inflight

/-- The task has its answer, or is at such an await. -/
def Phase.Bound {Await Result : Type} (onward : Await → Prop) (answer : Result) : Phase Await Result → Prop
  | .running at_ => onward at_
  | .returned result => result = answer
  | .dropped _ => False

theorem Phase.Bound.cases {Await Result : Type} {onward : Await → Prop} {answer : Result} {phase : Phase Await Result}
    (placed : phase.Bound onward answer) : (∃ at_, phase = .running at_ ∧ onward at_) ∨ phase = .returned answer := by
  cases phase with
  | running at_ => exact .inl ⟨at_, rfl, placed⟩
  | returned result => exact .inr (congrArg Phase.returned placed)
  | dropped at_ => exact placed.elim

section Answers

variable (cfg : AppConfig) (key : CacheKey)

/-- What a fetch of the key brings. -/
def fetchAnswer (upstream : ObjectId → Option Bytes) : InflightResult :=
  match cfg.object key with
  | none => .error (.notFound "unknown bucket")
  | some object =>
      match upstream object with
      | none => .error (.fromStore .notFound)
      | some data => .ok ⟨data, some (resolveContentType cfg.mime key.path data)⟩

/-- What a GET answers, by the cache and the stores. -/
def getAnswer (s : Shared) : HandlerResult :=
  match s.cache.entries key with
  | some entry => .ok (buildResponse entry true)
  | none => (fetchAnswer cfg key s.upstream).map (buildResponse · false)

/-- What a HEAD answers, by the cache and the stores. -/
def headAnswer (s : Shared) : HandlerResult :=
  match s.cache.entries key with
  | some entry => .ok (buildHeadResponse entry)
  | none =>
      match cfg.object key with
      | none => .error (.notFound "unknown bucket")
      | some object =>
          match s.upstream object with
          | none => .error (.fromStore .notFound)
          | some data => .ok (buildHeadResponseWithMeta data.length (cfg.mime.fromPath key.path))

/-- The stage of a fetch leads to this result. -/
def FetchAwait.Yields (upstream : ObjectId → Option Bytes) (result : InflightResult) : FetchAwait → Prop
  | .get object => cfg.object key = some object ∧ fetchAnswer cfg key upstream = result
  | .missing _ => .error (.fromStore .notFound) = result
  | .bytes _ data => .ok ⟨data, some (resolveContentType cfg.mime key.path data)⟩ = result
  | .put data contentType => .ok ⟨data, contentType⟩ = result

def LeaderAwait.Yields (upstream : ObjectId → Option Bytes) (result : InflightResult) : LeaderAwait → Prop
  | .fetch stage => stage.Yields cfg key upstream result
  | .store stored | .release stored => stored = result

/-- The object of the key is as it was. -/
def SameObject (upstream upstream' : ObjectId → Option Bytes) : Prop :=
  ∀ object, cfg.object key = some object → upstream' object = upstream object

/-- Where a GET is that has been served undisturbed since this state. -/
def GetAwait.Served (s shared : Shared) : GetAwait → Prop
  | .lookup =>
      shared.cache.entries key = s.cache.entries key ∧ SameObject cfg key s.upstream shared.upstream ∧
        shared.flights.inner key = none
  | .acquire =>
      s.cache.entries key = none ∧ SameObject cfg key s.upstream shared.upstream ∧
        shared.flights.inner key = none
  | .leader _ stage =>
      s.cache.entries key = none ∧ SameObject cfg key s.upstream shared.upstream ∧
        stage.Yields cfg key s.upstream (fetchAnswer cfg key s.upstream)
  | .follow _ | .notified _ | .result _ | .recheck _ | .fallback _ => False

/-- Where a HEAD is that has been served undisturbed since this state. -/
def HeadAwait.Served (s shared : Shared) : HeadAwait → Prop
  | .lookup =>
      shared.cache.entries key = s.cache.entries key ∧ SameObject cfg key s.upstream shared.upstream
  | .head object =>
      s.cache.entries key = none ∧ SameObject cfg key s.upstream shared.upstream ∧ cfg.object key = some object
  | .answered size =>
      s.cache.entries key = none ∧
        ∃ object data, cfg.object key = some object ∧ s.upstream object = some data ∧ data.length = size

/-- The entry of the key and its object are left alone, and no fetch of the key is begun. -/
structure LeavesAlone (s s' : Shared) : Prop where
  entry : s'.cache.entries key = s.cache.entries key
  object : SameObject cfg key s.upstream s'.upstream
  free : s.flights.inner key = none → s'.flights.inner key = none

/-- The task of a GET or HEAD that has been served undisturbed since this state. -/
inductive ServedSince (s : Shared) : Request → Shared → Task → Prop
  | get (placed : phase.Bound (GetAwait.Served cfg key s shared) (getAnswer cfg key s)) :
      ServedSince s (.get key) shared (.get key phase)
  | head (placed : phase.Bound (HeadAwait.Served cfg key s shared) (headAnswer cfg key s)) :
      ServedSince s (.head key params) shared (.head key params phase)

/-- A step of this request, to which the cache answers, and the stores but for what
is not there; or a step of others that leaves the key alone. -/
def Amid (index : Nat) (s : Proxy) (action : ProxyAction) : Prop :=
  (∃ reply, action = .poll index reply ∧ reply ≠ .cacheError ∧ Honest s action) ∨
    ¬ action.Touches index ∧ ∀ t, (proxy cfg).step s action = some t → LeavesAlone cfg key s.shared t.shared

end Answers

def Task.returned? : Task → Option HandlerResult
  | .get _ (.returned result) | .head _ _ (.returned result) | .put _ (.returned result) => some result
  | _ => none

/-- The request, served from this state while its key is left alone, ends here
with this result. -/
def Serves (cfg : AppConfig) (s : Proxy) (request : Request) (t : Proxy) (result : HandlerResult) : Prop :=
  ∃ s', (proxy cfg).step s (.start request) = some s' ∧
    (proxy cfg).system.Reaches (Amid cfg request.key s.next) s' t ∧
    (t.tasks s.next).bind Task.returned? = some result

def polls (index : Nat) : ProxyAction → Bool
  | .poll i _ => decide (i = index)
  | .start _ | .cancel _ | .env _ => false

/-- The request, served from this state while its key is left alone, ends after so
many steps of its own at most, and short of that can take one. -/
def Completes (cfg : AppConfig) (s : Proxy) (request : Request) : Prop :=
  ∃ s' bound, (proxy cfg).step s (.start request) = some s' ∧
    (proxy cfg).system.Exhausts (Amid cfg request.key s.next) (polls s.next)
      (fun t => ((t.tasks s.next).bind Task.returned?).isSome) s' bound

section Steps

variable {cfg : AppConfig} {key : CacheKey} {origin s s' : Shared} {guard : EntryId} {result : InflightResult}

/-- A failure is that the object asked for is not there. -/
def Sincere (s : Shared) (reads : Option ObjectId) (reply : Reply) : Prop :=
  ∀ err, reply = .failed err → err = .notFound ∧ ∃ object ∈ reads, s.upstream object = none

theorem fetchAnswer_stored {upstream : ObjectId → Option Bytes} (known : cfg.object key = some object)
    (stored : upstream object = some data) :
    fetchAnswer cfg key upstream = .ok ⟨data, some (resolveContentType cfg.mime key.path data)⟩ := by
  simp [fetchAnswer, known, stored]

theorem fetchAnswer_missing {upstream : ObjectId → Option Bytes} (known : cfg.object key = some object)
    (vacant : upstream object = none) : fetchAnswer cfg key upstream = .error (.fromStore .notFound) := by
  simp [fetchAnswer, known, vacant]

theorem FetchStart.yields (start : FetchStart cfg key s s' next) :
    next.elim (FetchAwait.Yields cfg key s.upstream (fetchAnswer cfg key s.upstream))
      (· = fetchAnswer cfg key s.upstream) := by
  cases start with
  | unknown absent =>
    simp only [Sum.elim_inr, fetchAnswer]
    rw [absent]
  | called known => exact ⟨known, rfl⟩

theorem fetchAnswer_same {upstream upstream' : ObjectId → Option Bytes} (same : SameObject cfg key upstream upstream') :
    fetchAnswer cfg key upstream' = fetchAnswer cfg key upstream := by
  unfold fetchAnswer
  cases known : cfg.object key with
  | none => rfl
  | some object => simp only [same object known]

theorem FetchStep.yields (step : FetchStep cfg key method s at_ reply s' next) (sincere : Sincere s at_.reads? reply)
    (same : SameObject cfg key upstream s.upstream) (yields : at_.Yields cfg key upstream result) :
    next.elim (FetchAwait.Yields cfg key upstream result) (· = result) := by
  cases step with
  | got stored =>
    have answer := fetchAnswer_stored yields.1 stored
    rw [fetchAnswer_same same] at answer
    exact answer.symm.trans yields.2
  | absent vacant =>
    have answer := fetchAnswer_missing yields.1 vacant
    rw [fetchAnswer_same same] at answer
    exact answer.symm.trans yields.2
  | getFailed err =>
    obtain ⟨rfl, object, reads, vacant⟩ := sincere err rfl
    cases reads
    have answer := fetchAnswer_missing yields.1 vacant
    rw [fetchAnswer_same same] at answer
    exact answer.symm.trans yields.2
  | readFailed err =>
    obtain ⟨_, object, reads, _⟩ := sincere err rfl
    cases reads
  | missed | skipped | read | cached => exact yields

theorem LeaderStart.yields (start : LeaderStart cfg key guard s s' stage) :
    stage.Yields cfg key s.upstream (fetchAnswer cfg key s.upstream) := by
  cases start with
  | fetch started => exact started.yields
  | complete started => exact started.yields

theorem FetchAwait.Yields.congr {stage : FetchAwait} {upstream upstream' : ObjectId → Option Bytes}
    (same : SameObject cfg key upstream upstream') (yields : stage.Yields cfg key upstream' result) :
    stage.Yields cfg key upstream result := by
  cases stage with
  | get => exact ⟨yields.1, (fetchAnswer_same same).symm.trans yields.2⟩
  | missing | bytes | put => exact yields

theorem LeaderAwait.Yields.congr {stage : LeaderAwait} {upstream upstream' : ObjectId → Option Bytes}
    (same : SameObject cfg key upstream upstream') (yields : stage.Yields cfg key upstream' result) :
    stage.Yields cfg key upstream result := by
  cases stage with
  | fetch stage => exact FetchAwait.Yields.congr same yields
  | store | release => exact yields

def LeaderAwait.reads? : LeaderAwait → Option ObjectId
  | .fetch stage => stage.reads?
  | .store _ | .release _ => none

theorem LeaderStep.yields (step : LeaderStep cfg key method guard s at_ reply s' next)
    (sincere : Sincere s at_.reads? reply) (same : SameObject cfg key upstream s.upstream)
    (yields : at_.Yields cfg key upstream result) :
    next.elim (LeaderAwait.Yields cfg key upstream result) (· = result) := by
  cases step with
  | fetch fetched => exact fetched.yields sincere same yields
  | complete fetched => exact fetched.yields sincere same yields
  | store | release => exact yields

/-- What the cache answers, when it does. -/
theorem lookup_entries (same : s.cache.entries key = origin.cache.entries key) (answers : reply ≠ .cacheError)
    (found : s.lookup key reply = some cached) : origin.cache.entries key = cached := by
  rw [← same]
  cases reply with
  | ready => exact Option.some.inj found
  | cacheError => exact absurd rfl answers
  | failed | streamError => cases found

theorem SameObject.trans {upstream upstream' upstream'' : ObjectId → Option Bytes}
    (first : SameObject cfg key upstream upstream') (second : SameObject cfg key upstream' upstream'') :
    SameObject cfg key upstream upstream'' :=
  fun object known => (second object known).trans (first object known)

/-- A segment that writes no object leaves it as it was. -/
theorem SameObject.untouched {upstream : ObjectId → Option Bytes} (same : SameObject cfg key upstream s.upstream)
    (untouched : Untouched s s') : SameObject cfg key upstream s'.upstream := by
  intro object known
  rw [untouched.upstream]
  exact same object known

theorem GetStep.served (step : GetStep cfg key s at_ reply s' phase) (served : at_.Served cfg key origin s)
    (answers : reply ≠ .cacheError)
    (sincere : ∀ guard stage, at_ = .leader guard stage → Sincere s stage.reads? reply) :
    phase.Bound (GetAwait.Served cfg key origin s') (getAnswer cfg key origin) := by
  cases step with
  | hit found =>
    have cached := lookup_entries served.1 answers found
    simp [Phase.Bound, getAnswer, cached]
  | miss found =>
    have vacant := lookup_entries served.1 answers found
    exact ⟨vacant, served.2⟩
  | lead acquired started =>
    obtain ⟨vacant, same, _⟩ := served
    refine ⟨vacant, ?_, fetchAnswer_same same ▸ LeaderAwait.Yields.congr same started.yields⟩
    intro object known
    rw [started.untouched.upstream]
    exact same object known
  | follow acquired =>
    obtain ⟨_, _, free⟩ := served
    simp [acquire, free] at acquired
  | leader led =>
    obtain ⟨vacant, same, yields⟩ := served
    have onward := led.yields (sincere _ _ rfl) same yields
    exact ⟨vacant, same.untouched led.untouched, onward⟩
  | led led =>
    obtain ⟨vacant, same, yields⟩ := served
    have onward := led.yields (sincere _ _ rfl) same yields
    cases onward
    simp [Phase.Bound, getAnswer, vacant]
  | wait | wake | joined | joinedError | abandoned | abandonedEnds | recheckHit | recheckMiss | fallback
  | fallbackEnds => exact served.elim

theorem HeadStep.served (step : HeadStep cfg key params s at_ reply s' phase spawned)
    (served : at_.Served cfg key origin s) (answers : reply ≠ .cacheError)
    (sincere : ∀ object, at_ = .head object → Sincere s (some object) reply) :
    phase.Bound (HeadAwait.Served cfg key origin s') (headAnswer cfg key origin) := by
  cases step with
  | hit found =>
    have cached := lookup_entries served.1 answers found
    simp [Phase.Bound, headAnswer, cached]
  | unknown found absent =>
    have vacant := lookup_entries served.1 answers found
    simp only [Phase.Bound, headAnswer, vacant]
    rw [absent]
  | miss found known =>
    have vacant := lookup_entries served.1 answers found
    exact ⟨vacant, served.2, known⟩
  | sized stored =>
    obtain ⟨vacant, same, known⟩ := served
    rw [same _ known] at stored
    exact ⟨vacant, _, _, known, stored, rfl⟩
  | headFailed err =>
    obtain ⟨vacant, same, known⟩ := served
    obtain ⟨rfl, object, ⟨rfl⟩, missing⟩ := sincere _ rfl err rfl
    rw [same _ known] at missing
    simp [Phase.Bound, headAnswer, vacant, known, missing]
  | answer =>
    obtain ⟨vacant, object, data, known, stored, rfl⟩ := served
    simp [Phase.Bound, headAnswer, vacant, known, stored]

/-- Steps that leave the key alone do not disturb those that are served. -/
theorem GetAwait.Served.undisturbed {at_ : GetAwait} (served : at_.Served cfg key origin s)
    (undisturbed : LeavesAlone cfg key s s') : at_.Served cfg key origin s' := by
  cases at_ with
  | lookup =>
    exact ⟨undisturbed.entry.trans served.1, served.2.1.trans undisturbed.object, undisturbed.free served.2.2⟩
  | acquire => exact ⟨served.1, served.2.1.trans undisturbed.object, undisturbed.free served.2.2⟩
  | leader => exact ⟨served.1, served.2.1.trans undisturbed.object, served.2.2⟩
  | follow | notified | result | recheck | fallback => exact served.elim

theorem HeadAwait.Served.undisturbed {at_ : HeadAwait} (served : at_.Served cfg key origin s)
    (undisturbed : LeavesAlone cfg key s s') : at_.Served cfg key origin s' := by
  cases at_ with
  | lookup => exact ⟨undisturbed.entry.trans served.1, served.2.trans undisturbed.object⟩
  | head => exact ⟨served.1, served.2.1.trans undisturbed.object, served.2.2⟩
  | answered => exact served

theorem ServedSince.undisturbed {task : Task} (since : ServedSince cfg key origin request s task)
    (undisturbed : LeavesAlone cfg key s s') : ServedSince cfg key origin request s' task := by
  cases since with
  | get placed =>
    rcases placed.cases with ⟨at_, rfl, served⟩ | rfl
    · exact .get (GetAwait.Served.undisturbed served undisturbed)
    · exact .get placed
  | head placed =>
    rcases placed.cases with ⟨at_, rfl, served⟩ | rfl
    · exact .head (HeadAwait.Served.undisturbed served undisturbed)
    · exact .head placed

end Steps

section Runs

variable {cfg : AppConfig} {origin : Shared} {request : Request} {s t : Proxy} {index : Nat} {key : CacheKey}

/-- The task of this index has been served undisturbed since this state. -/
structure ServedTask (cfg : AppConfig) (key : CacheKey) (origin : Shared) (request : Request) (index : Nat)
    (s : Proxy) : Prop where
  bounded : index < s.next
  task : ∃ task, s.tasks index = some task ∧ ServedSince cfg key origin request s.shared task

theorem ServedTask.step (served : ServedTask cfg key origin request index s) (amid : Amid cfg key index s action)
    (taken : (proxy cfg).step s action = some t) : ServedTask cfg key origin request index t := by
  obtain ⟨bounded, task, found, since⟩ := served
  refine ⟨Nat.lt_of_lt_of_le bounded (Program.step_next taken), ?_⟩
  rcases amid with ⟨reply, rfl, answers, honest⟩ | ⟨untouched, alone⟩
  · have sincere {object? : Option ObjectId} (reads : task.reads? = object?) : Sincere s.shared object? reply := by
      rintro err rfl
      obtain ⟨missing, task', present, object, read, vacant⟩ := honest
      cases found.symm.trans present
      exact ⟨missing, object, reads ▸ read, vacant⟩
    cases proxy_step taken with
    | get present polled =>
      cases found.symm.trans present
      cases since with
      | get placed =>
        refine ⟨_, State.replace_self .., .get (polled.served placed answers ?_)⟩
        rintro guard stage rfl
        cases stage <;> exact sincere rfl
    | @head _ key params at_ _ shared phase spawned present polled =>
      cases found.symm.trans present
      cases since with
      | head placed =>
        refine ⟨.head key params phase, ?_, ?_⟩
        · rw [State.pushAll_other _ _ (show index ≠ (s.replace _ _ _).next from Nat.ne_of_lt bounded)]
          exact State.replace_self ..
        · rw [State.pushAll_shared]
          apply ServedSince.head
          apply polled.served placed answers
          rintro object rfl
          exact sincere rfl
    | put present | prefetch present | late present =>
      cases found.symm.trans present
      cases since
  · exact ⟨task, (Program.step_other taken untouched bounded).trans found, since.undisturbed (alone t taken)⟩

/-- The request arrives, and waits for the cache. -/
theorem served_start (cfg : AppConfig) (s : Proxy) (serving : request = .get key ∨ ∃ params, request = .head key params)
    (valid : invalidPath key.path = false) (free : s.shared.flights.inner key = none) :
    ∃ s', (proxy cfg).step s (.start request) = some s' ∧ ServedTask cfg key s.shared request s.next s' := by
  rcases serving with rfl | ⟨params, rfl⟩
  · have opened : Task.spawn cfg s.shared (.get key) = (s.shared, .get key (.running .lookup)) := by
      simp [Task.spawn, getStart, valid]
    refine ⟨s.push (.get key (.running .lookup)), ?_, Nat.lt_succ_self _, .get key (.running .lookup),
      by simp [State.push], .get ?_⟩
    · exact Program.step_of_spawn opened
    · exact ⟨rfl, fun _ _ => rfl, free⟩
  · have opened : Task.spawn cfg s.shared (.head key params) = (s.shared, .head key params (.running .lookup)) := by
      simp [Task.spawn, headStart, valid]
    refine ⟨s.push (.head key params (.running .lookup)), ?_, Nat.lt_succ_self _,
      .head key params (.running .lookup), by simp [State.push], .head ?_⟩
    · exact Program.step_of_spawn opened
    · exact ⟨rfl, fun _ _ => rfl⟩

theorem served_reaches (served : ServedTask cfg key origin request index s)
    (reach : (proxy cfg).system.Reaches (Amid cfg key index) s t) : ServedTask cfg key origin request index t :=
  reach.invariant served fun _ _ _ served amid taken => served.step amid taken

/-- A request served undisturbed follows nobody. -/
theorem ServedSince.direct {shared : Shared} {task : Task} (since : ServedSince cfg key origin request shared task) :
    task.Direct := by
  cases since with
  | get placed =>
    rcases placed.cases with ⟨at_, rfl, served⟩ | rfl
    · cases at_ with
      | lookup | acquire | leader => trivial
      | follow | notified | result | recheck | fallback => exact served.elim
    · trivial
  | head placed =>
    rcases placed.cases with ⟨at_, rfl, _⟩ | rfl
    · trivial
    · trivial

theorem ServedSince.returned {shared : Shared} {task : Task} (since : ServedSince cfg key origin request shared task)
    (ended : task.ended = true) : task.returned?.isSome := by
  cases since with
  | get placed | head placed =>
    rcases placed.cases with ⟨at_, rfl, _⟩ | rfl
    · cases ended
    · rfl

/-- The steps that the request has ahead. -/
def stepsOf (index : Nat) (s : Proxy) : Nat := (s.tasks index).elim 0 Task.ahead

theorem ServedTask.descends (served : ServedTask cfg key origin request index s)
    (served' : ServedTask cfg key origin request index t) (amid : Amid cfg key index s action)
    (taken : (proxy cfg).step s action = some t) :
    stepsOf index t ≤ stepsOf index s ∧ (polls index action = true → stepsOf index t < stepsOf index s) := by
  obtain ⟨bounded, task, found, since⟩ := served
  obtain ⟨_, task', found', since'⟩ := served'
  rcases amid with ⟨reply, rfl, _⟩ | ⟨untouched, _⟩
  · suffices less : stepsOf index t < stepsOf index s from ⟨Nat.le_of_lt less, fun _ => less⟩
    have fewer {before after : Task} (present : s.tasks index = some before) (left : t.tasks index = some after)
        (less : after.ahead < before.ahead) : stepsOf index t < stepsOf index s := by
      simpa [stepsOf, present, left] using less
    cases proxy_step taken with
    | get present polled =>
      cases found.symm.trans present
      have left := found'.symm.trans (State.replace_self ..)
      cases left
      exact fewer present found' (polled.ahead since.direct since'.direct)
    | head present polled =>
      refine fewer present ?_ polled.ahead.1
      rw [State.pushAll_other _ _ (show _ ≠ (s.replace _ _ _).next from Nat.ne_of_lt bounded)]
      exact State.replace_self ..
    | put present | prefetch present | late present =>
      cases found.symm.trans present
      cases since
  · have same : stepsOf index t = stepsOf index s := by
      simp only [stepsOf, Program.step_other taken untouched bounded]
    refine ⟨Nat.le_of_eq same, ?_⟩
    intro own
    cases action with
    | poll i reply => exact absurd (of_decide_eq_true own) untouched
    | start | cancel | env => cases own

/-- A request served undisturbed comes to its end. -/
theorem served_completes (served : ServedTask cfg key origin request index s) :
    (proxy cfg).system.Exhausts (Amid cfg key index) (polls index)
      (fun t => ((t.tasks index).bind Task.returned?).isSome) s (stepsOf index s) := by
  refine System.Exhausts.of_measure (ServedTask cfg key origin request index) (stepsOf index) served ?_ ?_
  · intro state served
    obtain ⟨_, task, found, since⟩ := served
    cases ended : task.ended with
    | true =>
      left
      rw [found]
      exact since.returned ended
    | false =>
      right
      obtain ⟨reply, answers, honest, polled⟩ := since.direct.enabled cfg ended found
      obtain ⟨t, taken⟩ : ∃ t, (proxy cfg).step state (.poll index reply) = some t := Program.poll_enabled found polled
      exact ⟨.poll index reply, t, by simp [polls], .inl ⟨reply, rfl, answers, honest⟩, taken⟩
  · intro state action target served amid taken
    have onward := served.step amid taken
    exact ⟨onward, served.descends onward amid taken⟩

/-- What has returned was served undisturbed. -/
theorem Serves.served (serves : Serves cfg s request t result)
    (serving : request = .get key ∨ ∃ params, request = .head key params) (valid : invalidPath key.path = false)
    (free : s.shared.flights.inner key = none) :
    ∃ task, ServedSince cfg key s.shared request t.shared task ∧ task.returned? = some result := by
  obtain ⟨s', started, reach, returned⟩ := serves
  obtain ⟨first, started', served⟩ := served_start cfg s serving valid free
  cases started.symm.trans started'
  have own : request.key = key := by rcases serving with rfl | ⟨_, rfl⟩ <;> rfl
  rw [own] at reach
  obtain ⟨_, task, found, since⟩ := served_reaches served reach
  rw [found] at returned
  exact ⟨task, since, returned⟩

theorem getAnswer_of_serves (valid : invalidPath key.path = false) (free : s.shared.flights.inner key = none)
    (serves : Serves cfg s (.get key) t result) : result = getAnswer cfg key s.shared := by
  obtain ⟨task, since, returned⟩ := serves.served (.inl rfl) valid free
  cases since with
  | get placed =>
    rcases placed.cases with ⟨at_, rfl, _⟩ | rfl
    · cases returned
    · exact (Option.some.inj returned).symm

theorem headAnswer_of_serves (valid : invalidPath key.path = false) (free : s.shared.flights.inner key = none)
    (serves : Serves cfg s (.head key params) t result) : result = headAnswer cfg key s.shared := by
  obtain ⟨task, since, returned⟩ := serves.served (.inr ⟨params, rfl⟩) valid free
  cases since with
  | head placed =>
    rcases placed.cases with ⟨at_, rfl, _⟩ | rfl
    · cases returned
    · exact (Option.some.inj returned).symm

end Runs

/-- The object is there, the cache has no entry of it, and its path has no type
of its own. -/
def Untyped (cfg : AppConfig) (key : CacheKey) (s : Shared) : Prop :=
  s.cache.entries key = none ∧ Found cfg key s ∧ cfg.mime.fromPath key.path = none

/-- The two answers differ in the type of such an object only. -/
theorem answers_agree (cfg : AppConfig) (key : CacheKey) (s : Shared)
    (inferred : ∀ bytes kind, cfg.mime.infer bytes = some kind → (HeaderValue.fromStr kind).isSome) :
    (intoResponse (headAnswer cfg key s)).status = (intoResponse (getAnswer cfg key s)).status ∧
      (intoResponse (headAnswer cfg key s)).contentLength = (intoResponse (getAnswer cfg key s)).contentLength ∧
      ((intoResponse (headAnswer cfg key s)).contentType = (intoResponse (getAnswer cfg key s)).contentType ↔
        ¬ Untyped cfg key s) := by
  unfold headAnswer getAnswer fetchAnswer
  cases cached : s.cache.entries key with
  | some entry =>
    have typed : ¬ Untyped cfg key s := by
      rintro ⟨vacant, _⟩
      cases cached.symm.trans vacant
    exact ⟨rfl, rfl, iff_of_true rfl typed⟩
  | none =>
    cases known : cfg.object key with
    | none =>
      have typed : ¬ Untyped cfg key s := by
        rintro ⟨_, ⟨object, _, known', _⟩, _⟩
        cases known.symm.trans known'
      exact ⟨rfl, rfl, iff_of_true rfl typed⟩
    | some object =>
      dsimp only
      cases stored : s.upstream object with
      | none =>
        have typed : ¬ Untyped cfg key s := by
          rintro ⟨_, ⟨object', data, known', stored'⟩, _⟩
          cases known.symm.trans known'
          cases stored.symm.trans stored'
        exact ⟨rfl, rfl, iff_of_true rfl typed⟩
      | some data =>
        refine ⟨rfl, rfl, ?_⟩
        change typeHeader (cfg.mime.fromPath key.path) =
          typeHeader (some (resolveContentType cfg.mime key.path data)) ↔ _
        rw [resolveContentType_eq]
        cases guess : cfg.mime.fromPath key.path with
        | some guess' =>
          have typed : ¬ Untyped cfg key s := by
            rintro ⟨_, _, unknown⟩
            cases guess.symm.trans unknown
          exact iff_of_true rfl typed
        | none =>
          have made : (typeHeader (some ((cfg.mime.infer data).getD "application/octet-stream"))).isSome := by
            cases kind : cfg.mime.infer data with
            | some kind' => exact inferred data kind' kind
            | none => decide
          apply iff_of_false
          · intro same
            rw [Option.getD_none] at same
            rw [← same] at made
            cases made
          · exact not_not_intro ⟨cached, ⟨object, data, known, stored⟩, guess⟩

/-- A HEAD and a GET of one key, each served from the same state with no fetch of
the key under way and none begun by others, nothing written or evicted under it
meanwhile, and answered by the cache: both end, with the same status and the same
length, and with the same type unless the object is there untyped. -/
theorem headGet_agree (cfg : AppConfig) (key : CacheKey) (params : Query) (s : Proxy)
    (valid : invalidPath key.path = false) (free : s.shared.flights.inner key = none)
    (inferred : ∀ bytes kind, cfg.mime.infer bytes = some kind → (HeaderValue.fromStr kind).isSome) :
    Completes cfg s (.head key params) ∧ Completes cfg s (.get key) ∧
      ∀ t t' head get, Serves cfg s (.head key params) t head → Serves cfg s (.get key) t' get →
        (intoResponse head).status = (intoResponse get).status ∧
          (intoResponse head).contentLength = (intoResponse get).contentLength ∧
          ((intoResponse head).contentType = (intoResponse get).contentType ↔ ¬ Untyped cfg key s.shared) := by
  refine ⟨?_, ?_, ?_⟩
  · obtain ⟨s', started, served⟩ := served_start cfg s (.inr ⟨params, rfl⟩) valid free
    exact ⟨s', _, started, served_completes served⟩
  · obtain ⟨s', started, served⟩ := served_start cfg s (.inl rfl) valid free
    exact ⟨s', _, started, served_completes served⟩
  · intro t t' head get serves serves'
    rw [headAnswer_of_serves valid free serves, getAnswer_of_serves valid free serves']
    exact answers_agree cfg key s.shared inferred

private def oneObject (_ : ObjectId) : Option Bytes := some [1]

private def pageTypes : MimeRules := ⟨fun path => if path = "a.html" then some "text/html" else none, fun _ => none⟩

/-- What one request does in so many steps after it has arrived. -/
private theorem serves_of_polls {request : Request} {task : Task} {t : Proxy} {result : HandlerResult} (steps : Nat)
    (started : (proxy (.single "b" 4 pageTypes)).step (Proxy.initial oneObject .empty) (.start request) =
      some ((Proxy.initial oneObject .empty).push task))
    (polled : (proxy (.single "b" 4 pageTypes)).system.run ((Proxy.initial oneObject .empty).push task)
      (List.replicate steps (.poll 0 .ready)) = some t)
    (returned : (t.tasks 0).bind Task.returned? = some result) :
    Serves (.single "b" 4 pageTypes) (Proxy.initial oneObject .empty) request t result := by
  refine ⟨_, started, System.reaches_of_run_meets polled ?_, returned⟩
  intro label listed state
  obtain rfl := List.eq_of_mem_replicate listed
  exact .inl ⟨.ready, rfl, Reply.noConfusion, trivial⟩

/-- A path with a type, whatever the bytes. -/
theorem headGet_agree_typed :
    ∃ t t' head get,
      Serves (.single "b" 4 pageTypes) (Proxy.initial oneObject .empty) (.head ⟨"b", "a.html"⟩ []) t head ∧
      Serves (.single "b" 4 pageTypes) (Proxy.initial oneObject .empty) (.get ⟨"b", "a.html"⟩) t' get ∧
        (intoResponse head).contentType = (intoResponse get).contentType := by
  have served : Serves _ _ (.head ⟨"b", "a.html"⟩ []) _ _ := serves_of_polls 3 rfl rfl rfl
  have served' : Serves _ _ (.get ⟨"b", "a.html"⟩) _ _ := serves_of_polls 7 rfl rfl rfl
  obtain ⟨_, _, agree⟩ := headGet_agree (.single "b" 4 pageTypes) ⟨"b", "a.html"⟩ [] (Proxy.initial oneObject .empty)
    (by decide) rfl (by rintro bytes kind ⟨⟩)
  refine ⟨_, _, _, _, served, served', (agree _ _ _ _ served served').2.2.mpr ?_⟩
  rintro ⟨_, _, untyped⟩
  exact absurd untyped (by decide)

/-- The request, served from this state while what is running goes on, ends here
with this result, and nothing was written or evicted meanwhile. -/
def ServesAmid (cfg : AppConfig) (s : Proxy) (request : Request) (t : Proxy) (result : HandlerResult) : Prop :=
  ∃ s', (proxy cfg).step s (.start request) = some s' ∧ (proxy cfg).system.Reaches Onward s' t ∧
    t.shared.cache = s.shared.cache ∧ t.shared.upstream = s.shared.upstream ∧
    (t.tasks s.next).bind Task.returned? = some result

private theorem onward_of_polls {cfg : AppConfig} {s t : Proxy} (replies : List (Nat × Reply))
    (answered : ∀ reply ∈ replies, reply.2 = .ready ∨ reply.2 = .cacheError)
    (polled : (proxy cfg).system.run s (replies.map fun reply => .poll reply.1 reply.2) = some t) :
    (proxy cfg).system.Reaches Onward s t := by
  refine System.reaches_of_run_meets polled ?_
  intro label listed state
  obtain ⟨⟨index, reply⟩, chosen, rfl⟩ := List.mem_map.mp listed
  rcases answered _ chosen with rfl | rfl
  · trivial
  · trivial

/-- A GET finds no object, and before it ends a PUT stores one that is too large
for the cache. -/
private theorem stale_reachable :
    ∃ s, (proxy (.single "b" 4 pageTypes)).system.Reaches WriteOnce (Proxy.initial (fun _ => none) .empty) s ∧
      ∃ t t' head get, ServesAmid (.single "b" 4 pageTypes) s (.head ⟨"b", "a.html"⟩ []) t head ∧
        ServesAmid (.single "b" 4 pageTypes) s (.get ⟨"b", "a.html"⟩) t' get ∧
        (intoResponse head).status = .ok ∧ (intoResponse get).status = .notFound := by
  have replayed : ((proxy (.single "b" 4 pageTypes)).system.restrict WriteOnce).run
      (Proxy.initial (fun _ => none) .empty)
      [.start (.get ⟨"b", "a.html"⟩), .poll 0 .ready, .poll 0 .ready, .poll 0 .ready,
        .start (.put ⟨⟨"b", "a.html"⟩, ⟨none, none⟩, [[1, 2, 3, 4, 5]]⟩), .poll 1 (.failed .notFound), .poll 1 .ready,
        .poll 1 .ready, .poll 1 .ready, .poll 1 .ready, .poll 1 .ready] = some _ := rfl
  refine ⟨_, System.reaches_of_restrict (System.reaches_of_run replayed), ?_⟩
  exact ⟨_, _, _, _, ⟨_, rfl, onward_of_polls (List.replicate 3 (2, .ready)) (by decide) rfl, rfl, rfl, rfl⟩,
    ⟨_, rfl, onward_of_polls
      [(2, .ready), (2, .ready), (2, .ready), (0, .ready), (0, .ready), (0, .ready), (2, .ready), (2, .ready)]
      (by decide) rfl, rfl, rfl, rfl⟩, rfl, rfl⟩

/-- An entry with the type of its bytes, for a HEAD whose lookup the cache does
not answer. -/
private theorem unanswered_reachable :
    ∃ s, (proxy (.single "b" 4 pageTypes)).system.Reaches WriteOnce (Proxy.initial oneObject .empty) s ∧
      s.shared.flights.inner ⟨"b", "p"⟩ = none ∧ ¬ Untyped (.single "b" 4 pageTypes) ⟨"b", "p"⟩ s.shared ∧
      ∃ t t' head get, ServesAmid (.single "b" 4 pageTypes) s (.head ⟨"b", "p"⟩ []) t head ∧
        ServesAmid (.single "b" 4 pageTypes) s (.get ⟨"b", "p"⟩) t' get ∧
        (intoResponse head).contentType ≠ (intoResponse get).contentType := by
  have replayed : ((proxy (.single "b" 4 pageTypes)).system.restrict WriteOnce).run
      (Proxy.initial oneObject .empty)
      (.start (.get ⟨"b", "p"⟩) :: List.replicate 7 (.poll 0 .ready)) = some _ := rfl
  refine ⟨_, System.reaches_of_restrict (System.reaches_of_run replayed), rfl, ?_, ?_⟩
  · rintro ⟨vacant, _⟩
    cases vacant
  · exact ⟨_, _, _, _,
      ⟨_, rfl, onward_of_polls [(1, .cacheError), (1, .ready), (1, .ready)] (by decide) rfl, rfl, rfl, rfl⟩,
      ⟨_, rfl, onward_of_polls [(1, .ready)] (by decide) rfl, rfl, rfl, rfl⟩, by decide⟩

/-- An object whose path has no type: the GET has one, the HEAD before any
insertion has none, nor has the HEAD whose lookup fails after one. And a GET that
follows a fetch from before the object was there says that it is not, where the
HEAD finds it. -/
theorem headGet_disagree :
    (¬ ∀ s key params, invalidPath key.path = false → s.shared.flights.inner key = none →
      ∀ t t' head get, Serves (.single "b" 4 pageTypes) s (.head key params) t head →
        Serves (.single "b" 4 pageTypes) s (.get key) t' get →
          (intoResponse head).contentType = (intoResponse get).contentType) ∧
    (¬ ∀ s key params, invalidPath key.path = false →
      (proxy (.single "b" 4 pageTypes)).system.Reaches WriteOnce (Proxy.initial (fun _ => none) .empty) s →
      ∀ t t' head get, ServesAmid (.single "b" 4 pageTypes) s (.head key params) t head →
        ServesAmid (.single "b" 4 pageTypes) s (.get key) t' get →
          (intoResponse head).status = (intoResponse get).status) ∧
    ¬ ∀ s key params, invalidPath key.path = false →
      (proxy (.single "b" 4 pageTypes)).system.Reaches WriteOnce (Proxy.initial oneObject .empty) s →
      s.shared.flights.inner key = none → ¬ Untyped (.single "b" 4 pageTypes) key s.shared →
      ∀ t t' head get, ServesAmid (.single "b" 4 pageTypes) s (.head key params) t head →
        ServesAmid (.single "b" 4 pageTypes) s (.get key) t' get →
          (intoResponse head).contentType = (intoResponse get).contentType := by
  refine ⟨?_, ?_, ?_⟩
  · intro agree
    have served : Serves _ _ (.head ⟨"b", "p"⟩ []) _ _ := serves_of_polls 3 rfl rfl rfl
    have served' : Serves _ _ (.get ⟨"b", "p"⟩) _ _ := serves_of_polls 7 rfl rfl rfl
    have same := agree _ ⟨"b", "p"⟩ [] (by decide) rfl _ _ _ _ served served'
    exact absurd same (by decide)
  · intro agree
    obtain ⟨s, reach, t, t', head, get, served, served', found, missing⟩ := stale_reachable
    have same := agree s ⟨"b", "a.html"⟩ [] (by decide) reach t t' head get served served'
    rw [found, missing] at same
    cases same
  · intro agree
    obtain ⟨s, reach, free, typed, t, t', head, get, served, served', differ⟩ := unanswered_reachable
    exact differ (agree s ⟨"b", "p"⟩ [] (by decide) reach free typed t t' head get served served')

end Cachegate
