import Cachegate.Handler.Provenance
import Cachegate.Handler.Solo

/-! Overwrites, one request after another. A PUT that is not copied for the
cache leaves there what an earlier one had inserted. -/

namespace Cachegate

open Transition TaskPool Inflight

/-- What a PUT answered 200 has written, and under which key. -/
def Task.wrote? : Task → Option (CacheKey × Bytes)
  | .put request (.returned (.ok _)) => some (request.key, request.body.flatten)
  | _ => none

/-- The body of the most recent PUT of the key that was answered 200, among the
requests before this one. -/
def latestBody (s : Proxy) (key : CacheKey) : Nat → Option Bytes
  | 0 => none
  | before + 1 =>
      match (s.tasks before).bind Task.wrote? with
      | some (name, body) => if name = key then some body else latestBody s key before
      | none => latestBody s key before

/-- A GET was answered 200 with this body, a HEAD 200 with its length. -/
def Task.Reads (body : Bytes) : Task → Prop
  | .get _ (.returned result) => ∃ response, result = .ok response ∧ response.status = .ok ∧ response.body = body
  | .head _ _ (.returned result) =>
      ∃ response, result = .ok response ∧ response.status = .ok ∧ response.contentLength = some body.length
  | _ => True

/-- Every answered read saw the most recent PUT of its key before it. -/
def ReadsLatest (s : Proxy) : Prop :=
  ∀ i task body, s.tasks i = some task → latestBody s task.key i = some body → task.Reads body

/-- No other key under which the object was written names it, and a body that
is not copied for the cache leaves no other bytes there. -/
def Task.Replaces (cfg : AppConfig) (s : Proxy) : Task → Prop
  | .put request (.running (.finish object _ _)) =>
      ∀ i < s.next, ∀ other ∈ s.tasks i, ∀ write ∈ other.wrote?,
        cfg.object write.1 = some object → write.1 = request.key
  | .put request (.running (.committed _ _)) =>
      UploadLoop.Copied cfg.capBytes request.body ∨
        ∀ entry ∈ s.shared.cache.entries request.key, entry.bytes = request.body.flatten
  | _ => True

/-- The PUT that commits or answers in this step replaces what was there. -/
def Replaces (cfg : AppConfig) (s : Proxy) : ProxyAction → Prop
  | .poll index .ready => ∀ task ∈ s.tasks index, task.Replaces cfg s
  | _ => True

instance (cfg : AppConfig) (s : Proxy) : (task : Task) → Decidable (task.Replaces cfg s)
  | .put request (.running (.finish object _ _)) =>
      inferInstanceAs (Decidable (∀ i < s.next, ∀ other ∈ s.tasks i, ∀ write ∈ other.wrote?,
        cfg.object write.1 = some object → write.1 = request.key))
  | .put request (.running (.committed _ _)) =>
      inferInstanceAs (Decidable (UploadLoop.Copied cfg.capBytes request.body ∨
        ∀ entry ∈ s.shared.cache.entries request.key, entry.bytes = request.body.flatten))
  | .put _ (.running (.head _)) | .put _ (.running (.init _)) | .put _ (.running (.next _ _ _ _))
  | .put _ (.running (.abort _)) | .put _ (.running .aborted) | .put _ (.running (.insert _ _)) | .put _ (.returned _)
  | .put _ (.dropped _) | .get _ _ | .head _ _ _ | .prefetch _ _ => isTrue trivial

instance (cfg : AppConfig) (s : Proxy) : (action : ProxyAction) → Decidable (Replaces cfg s action)
  | .poll index .ready => inferInstanceAs (Decidable (∀ task ∈ s.tasks index, task.Replaces cfg s))
  | .poll _ (.failed _) | .poll _ .cacheError | .poll _ .streamError | .start _ | .cancel _ | .env _ =>
      isTrue trivial

/-- An entry is what readers of its key should see. -/
def Expected (s : Proxy) (key : CacheKey) (entry : CacheEntry) : Prop :=
  ∀ body, latestBody s key s.next = some body → entry.bytes = body

/-- What was last written under a key is stored, and cached if anything is,
except while the key's own PUT has yet to answer. -/
structure Current (cfg : AppConfig) (s : Proxy) : Prop where
  stored : ∀ key body, latestBody s key s.next = some body →
    (s.All fun task => task.key = key → task.pending? = none) →
    ∃ object, cfg.object key = some object ∧ s.shared.upstream object = some body ∧
      ∀ entry, s.shared.cache.entries key = some entry → entry.bytes = body
  pending : s.All fun task => ∀ object bytes, task.pending? = some (object, bytes) →
    s.shared.upstream object = some bytes
  sound : s.All fun task => task.ended = false →
    task.Sound (Expected s) cfg ∧ ((latestBody s task.key s.next).isSome → task.Clean)
  reads : ReadsLatest s

section Latest

variable {s : Proxy} {task task' : Task} {key : CacheKey}

theorem Task.wrote_running (running : task.ended = false) : task.wrote? = none := by
  unfold Task.wrote?
  split
  · cases running
  · rfl

theorem Task.pending_ended (ended : task.ended = true) : task.pending? = none := by
  unfold Task.pending?
  split
  · cases ended
  · cases ended
  · rfl

theorem latest_congr {t : Proxy}
    (same : ∀ j < i, (t.tasks j).bind Task.wrote? = (s.tasks j).bind Task.wrote?) :
    latestBody t key i = latestBody s key i := by
  induction i with
  | zero => rfl
  | succ i ih =>
    simp only [latestBody, same i (Nat.lt_succ_self i), ih fun j before => same j (Nat.lt_succ_of_lt before)]

/-- Only the answer of a PUT changes what readers should see. -/
theorem latest_replace (present : s.tasks index = some task) (same : task'.wrote? = task.wrote?) (i : Nat) :
    latestBody (s.replace index shared task') key i = latestBody s key i := by
  refine latest_congr fun j _ => ?_
  by_cases own : j = index
  · rw [own, s.replace_self, present]
    exact same
  · rw [s.replace_other shared task' own]

/-- What the requests before this one have written does not change. -/
theorem latest_before (s : Proxy) (index : Nat) (shared : Shared) (task : Task) (bound : i ≤ index) :
    latestBody (s.replace index shared task) key i = latestBody s key i :=
  latest_congr fun j before => by rw [s.replace_other shared task (by omega)]

theorem latest_push (s : Proxy) (task : Task) (bound : i ≤ s.next) :
    latestBody (s.push task) key i = latestBody s key i :=
  latest_congr fun j before => by rw [s.push_other task (by omega)]

theorem latest_push_next (s : Proxy) (quiet : task.wrote? = none) :
    latestBody (s.push task) key (s.push task).next = latestBody s key s.next := by
  have own : (s.push task).tasks s.next = some task := by simp [State.push]
  show latestBody (s.push task) key (s.next + 1) = _
  simp only [latestBody, own, Option.bind_some, quiet, latest_push s task (Nat.le_refl _)]

/-- A request that is not a PUT answered 200 adds nothing. -/
theorem latest_last (present : s.tasks index = some task) (last : index + 1 = s.next) (quiet : task.wrote? = none) :
    latestBody s key s.next = latestBody s key index := by
  rw [← last]
  simp [latestBody, present, quiet]

/-- What readers should see was written by a PUT answered 200. -/
theorem latest_found (latest : latestBody s key i = some body) :
    ∃ j < i, ∃ request answer, s.tasks j = some (.put request (.returned (.ok answer))) ∧ request.key = key ∧
      request.body.flatten = body := by
  induction i with
  | zero => cases latest
  | succ i ih =>
    simp only [latestBody] at latest
    have earlier (before : latestBody s key i = some body) : _ :=
      (ih before).imp fun _ found => And.intro (Nat.lt_succ_of_lt found.1) found.2
    split at latest
    · rename_i name written wrote
      obtain ⟨task, present, wrote⟩ := Option.bind_eq_some_iff.mp wrote
      split at latest
      · rename_i same
        unfold Task.wrote? at wrote
        split at wrote <;> cases wrote
        cases latest
        exact ⟨i, Nat.lt_succ_self i, _, _, present, same, rfl⟩
      · exact earlier latest
    · exact earlier latest

end Latest

section Contents

variable {cfg : AppConfig} {s t : Proxy} {task task' : Task} {key : CacheKey}

/-- Nothing is pending while a task runs that has nothing pending itself. -/
theorem Solo.settled (solo : Solo s) (present : s.tasks index = some task) (running : task.ended = false)
    (settled : task.pending? = none) : s.All fun other => other.pending? = none := by
  intro i other found
  cases awake : other.ended with
  | true => exact Task.pending_ended awake
  | false =>
    have own : i = index := solo.only present running found awake
    subst own
    cases found.symm.trans present
    exact settled

namespace Current

theorem cache (current : Current cfg s) (settled : s.All fun task => task.pending? = none) :
    s.shared.cache.Sound (Expected s) := by
  intro key entry found body latest
  obtain ⟨_, _, _, cached⟩ := current.stored key body latest fun i task present _ => settled i task present
  exact cached entry found

theorem fetched (current : Current cfg s) (settled : s.All fun task => task.pending? = none) (key : CacheKey) :
    Fetched (Expected s) cfg key s.shared := by
  intro object data known stored body latest
  obtain ⟨object', known', stored', _⟩ :=
    current.stored key body latest fun i task present _ => settled i task present
  cases known.symm.trans known'
  exact Option.some.inj (stored.symm.trans stored')

theorem found (current : Current cfg s) (settled : s.All fun task => task.pending? = none)
    (latest : latestBody s key s.next = some body) : Found cfg key s.shared := by
  obtain ⟨object, known, stored, _⟩ :=
    current.stored key body latest fun i task present _ => settled i task present
  exact ⟨object, body, known, stored⟩

/-- A step that writes to no store and answers no PUT. -/
theorem replace (current : Current cfg s) (solo : Solo s) (present : s.tasks index = some task)
    (running : task.ended = false) (settled : task.pending? = none)
    (upstream : shared.upstream = s.shared.upstream) (cache : shared.cache.Sound (Expected s))
    (same : task'.key = task.key) (wrote : task'.wrote? = none) (settled' : task'.pending? = none)
    (sound : task'.ended = false →
      task'.Sound (Expected s) cfg ∧ ((latestBody s task.key s.next).isSome → task'.Clean))
    (reads : ∀ body, latestBody s task.key s.next = some body → task'.Reads body) :
    Current cfg (s.replace index shared task') := by
  have nothing := solo.settled present running settled
  have idle := Task.wrote_running running
  have kept (key : CacheKey) (i : Nat) : latestBody (s.replace index shared task') key i = latestBody s key i :=
    latest_replace present (wrote.trans idle.symm) i
  have expected : Expected (s.replace index shared task') = Expected s := by
    funext key entry
    simp only [Expected, kept, State.replace_next]
  have last := solo.last index task present running
  refine ⟨?_, ?_, ?_, ?_⟩
  · intro key body latest _
    rw [kept] at latest
    obtain ⟨object, known, stored, _⟩ :=
      current.stored key body latest fun i other found _ => nothing i other found
    exact ⟨object, known, by rw [State.replace_shared, upstream]; exact stored,
      fun entry found => cache key entry found body latest⟩
  · intro i other found object bytes ahead
    rcases State.replace_tasks found with ⟨_, rfl⟩ | ⟨_, before⟩
    · simp [settled'] at ahead
    · simp [nothing i other before] at ahead
  · intro i other found awake
    rcases State.replace_tasks found with ⟨_, rfl⟩ | ⟨different, before⟩
    · rw [expected, kept, same]
      exact sound awake
    · simp [solo.others present running before different] at awake
  · intro i other body found latest
    rw [kept] at latest
    rcases State.replace_tasks found with ⟨own, rfl⟩ | ⟨_, before⟩
    · refine reads body ?_
      rwa [latest_last present last idle, ← same, ← own]
    · exact current.reads i other body before latest

/-- A new task, when all others have ended. -/
theorem push (current : Current cfg s) (links : linked.Holds s)
    (ended : ∀ i other, s.tasks i = some other → other.ended = true) (wrote : task.wrote? = none)
    (settled : task.pending? = none) (sound : task.Sound (Expected s) cfg) (clean : task.Clean)
    (reads : ∀ body, latestBody s task.key s.next = some body → task.Reads body) : Current cfg (s.push task) := by
  have next (key : CacheKey) : latestBody (s.push task) key (s.push task).next = latestBody s key s.next :=
    latest_push_next s wrote
  have expected : Expected (s.push task) = Expected s := by
    funext key entry
    simp only [Expected, next]
  have nothing : s.All fun other => other.pending? = none := fun i other found =>
    Task.pending_ended (ended i other found)
  refine ⟨?_, ?_, ?_, ?_⟩
  · intro key body latest _
    exact current.stored key body (by rwa [next] at latest) fun i other found _ => nothing i other found
  · intro i other found object bytes ahead
    rcases State.push_tasks found with ⟨_, rfl⟩ | ⟨_, before⟩
    · simp [settled] at ahead
    · simp [nothing i other before] at ahead
  · intro i other found awake
    rcases State.push_tasks found with ⟨_, rfl⟩ | ⟨_, before⟩
    · rw [expected]
      exact ⟨sound, fun _ => clean⟩
    · simp [ended i other before] at awake
  · intro i other body found latest
    rcases State.push_tasks found with ⟨rfl, rfl⟩ | ⟨_, before⟩
    · exact reads body (by rwa [latest_push s other (Nat.le_refl _)] at latest)
    · have bound := links.bounded i other before
      rw [latest_push s task (Nat.le_of_lt bound)] at latest
      exact current.reads i other body before latest

theorem reshare (current : Current cfg s) (upstream : shared.upstream = s.shared.upstream)
    (cache : ∀ key entry, shared.cache.entries key = some entry → s.shared.cache.entries key = some entry) :
    Current cfg (s.reshare shared) := by
  have kept (key : CacheKey) (i : Nat) : latestBody (s.reshare shared) key i = latestBody s key i :=
    latest_congr fun _ _ => rfl
  have expected : Expected (s.reshare shared) = Expected s := by
    funext key entry
    simp only [Expected, kept]
    rfl
  refine ⟨?_, ?_, ?_, ?_⟩
  · intro key body latest settled
    rw [kept] at latest
    obtain ⟨object, known, stored, cached⟩ := current.stored key body latest settled
    exact ⟨object, known, by rw [State.reshare_shared, upstream]; exact stored,
      fun entry found => cached entry (cache key entry found)⟩
  · intro i task present object bytes ahead
    rw [State.reshare_shared, upstream]
    exact current.pending i task present object bytes ahead
  · intro i task present awake
    rw [expected, kept]
    exact current.sound i task present awake
  · intro i task body present latest
    rw [kept] at latest
    exact current.reads i task body present latest

end Current

/-- The object that a task asks the stores for is the one that its key names. -/
theorem Task.Formed.reads (formed : task.Formed cfg) (reads : task.reads? = some object) :
    cfg.object task.key = some object := by
  have fetch {key : CacheKey} {stage : FetchAwait} (formed : stage.Formed cfg key)
      (reads : stage.reads? = some object) : cfg.object key = some object := by
    cases stage <;> cases reads
    exact formed
  unfold Task.reads? at reads
  split at reads
  · exact fetch formed reads
  · exact fetch formed reads
  · exact fetch formed reads
  · cases reads
    exact formed
  · cases reads
    exact formed
  · cases reads

/-- No call about an object that is there fails. -/
theorem Sequential.spared (sequential : Sequential s (.poll index reply)) (present : s.tasks index = some task)
    (formed : task.Formed cfg) (found : Found cfg task.key s.shared) (err : StoreError) : reply ≠ .failed err := by
  rintro rfl
  obtain ⟨object, data, known, stored⟩ := found
  obtain ⟨_, other, present', object', reads, absent⟩ := sequential
  cases present.symm.trans present'
  cases known.symm.trans (formed.reads reads)
  simp [stored] at absent

/-- What a read step needs of the state it is taken in. -/
structure Reading (cfg : AppConfig) (s : Proxy) (index : Nat) (task : Task) : Prop where
  links : linked.Holds s
  formed : task.Formed cfg
  solo : Solo s
  current : Current cfg s
  present : s.tasks index = some task
  running : task.ended = false
  settled : task.pending? = none

namespace Reading

theorem nothing (reading : Reading cfg s index task) : s.All fun other => other.pending? = none :=
  reading.solo.settled reading.present reading.running reading.settled

theorem found (reading : Reading cfg s index task) (latest : latestBody s key s.next = some body) :
    Found cfg key s.shared :=
  reading.current.found reading.nothing latest

theorem get (reading : Reading cfg s index (.get key (.running at_))) (sequential : Sequential s (.poll index reply))
    (polled : GetStep cfg key s.shared at_ reply shared phase) :
    Current cfg (s.replace index shared (.get key phase)) := by
  have direct := reading.solo.direct _ _ reading.present
  have joined : Joined (Expected s) s.shared key at_ := by
    rintro wait entry flights rfl _
    exact direct.elim
  obtain ⟨own, clean⟩ := reading.current.sound _ _ reading.present rfl
  obtain ⟨cache, sound⟩ := polled.sound reading.formed (reading.current.fetched reading.nothing key) joined
    (reading.current.cache reading.nothing) own
  refine reading.current.replace reading.solo reading.present rfl rfl polled.untouched.upstream cache rfl rfl rfl ?_ ?_
  · intro awake
    refine ⟨sound, fun latest => ?_⟩
    obtain ⟨body, latest⟩ := Option.isSome_iff_exists.mp latest
    have found := reading.found latest
    exact polled.clean reading.formed found (sequential.spared reading.present reading.formed found)
      (clean (by simp [latest]))
  · intro body latest
    cases phase with
    | running | dropped => trivial
    | returned result =>
      have found := reading.found latest
      obtain ⟨response, rfl⟩ := polled.answers reading.formed found
        (sequential.spared reading.present reading.formed found) (clean (by simp [latest]))
        (by rintro wait err flights rfl; exact direct.elim)
      obtain ⟨entry, hit, same, rfl⟩ := sound response rfl
      exact ⟨_, rfl, rfl, same body latest⟩

theorem prefetch (reading : Reading cfg s index (.prefetch key (.running at_)))
    (sequential : Sequential s (.poll index reply))
    (polled : PrefetchStep cfg key s.shared at_ reply shared phase) :
    Current cfg (s.replace index shared (.prefetch key phase)) := by
  obtain ⟨own, clean⟩ := reading.current.sound _ _ reading.present rfl
  obtain ⟨cache, sound⟩ := polled.sound reading.formed (reading.current.fetched reading.nothing key)
    (reading.current.cache reading.nothing) own
  refine reading.current.replace reading.solo reading.present rfl rfl polled.untouched.upstream cache rfl rfl rfl ?_ ?_
  · intro awake
    refine ⟨sound, fun latest => ?_⟩
    obtain ⟨body, latest⟩ := Option.isSome_iff_exists.mp latest
    have found := reading.found latest
    exact polled.clean reading.formed found (sequential.spared reading.present reading.formed found)
      (clean (by simp [latest]))
  · intro body latest
    trivial

theorem head (reading : Reading cfg s index (.head key params (.running at_)))
    (sequential : Sequential s (.poll index reply))
    (polled : HeadStep cfg key params s.shared at_ reply shared phase spawned) :
    Current cfg (s.replace index shared (.head key params phase)) := by
  obtain ⟨own, _⟩ := reading.current.sound _ _ reading.present rfl
  have cache := reading.current.cache reading.nothing
  have sound := polled.sound reading.formed (reading.current.fetched reading.nothing key) cache own
  refine reading.current.replace reading.solo reading.present rfl rfl polled.untouched.upstream
    (by rw [polled.cache]; exact cache) rfl rfl rfl ?_ ?_
  · intro awake
    exact ⟨sound, fun _ => trivial⟩
  · intro body latest
    cases phase with
    | running | dropped => trivial
    | returned result =>
      have found := reading.found latest
      obtain ⟨response, rfl⟩ : ∃ response, result = .ok response := by
        cases polled with
        | hit | answer => exact ⟨_, rfl⟩
        | unknown _ absent =>
          obtain ⟨object, _, known, _⟩ := found
          cases absent.symm.trans known
        | headFailed err => exact absurd rfl (sequential.spared reading.present reading.formed found err)
      obtain ⟨entry, same, ok, length⟩ := sound response rfl
      exact ⟨response, rfl, ok, by rw [length, same body latest]⟩

end Reading

/-- The commit of a PUT: the object is the last written one, and no other key
under which it was written names it. -/
theorem Current.commit (current : Current cfg s) (solo : Solo s)
    (present : s.tasks index = some (.put request (.running (.finish object upload loop))))
    (replaces : (Task.put request (.running (.finish object upload loop))).Replaces cfg s)
    (links : linked.Holds s) :
    Current cfg (s.replace index ((s.shared.commit object loop.uploaded).setUpload upload .completed)
      (.put request (.running (.committed object loop)))) := by
  have nothing := solo.settled present rfl rfl
  have kept (key : CacheKey) (i : Nat) : latestBody (s.replace index
      ((s.shared.commit object loop.uploaded).setUpload upload .completed)
      (.put request (.running (.committed object loop)))) key i = latestBody s key i :=
    latest_replace present (show (Task.put request (.running (.committed object loop))).wrote? = none from rfl) i
  refine ⟨?_, ?_, ?_, ?_⟩
  · intro key body latest settled
    rw [kept] at latest
    obtain ⟨object', known, stored, cached⟩ :=
      current.stored key body latest fun i other found _ => nothing i other found
    have different : object' ≠ object := by
      rintro rfl
      obtain ⟨j, _, earlier, answer, found, rfl, _⟩ := latest_found latest
      have same := replaces j (links.bounded j _ found) _ found _ rfl known
      have ahead := settled index _ (s.replace_self index _ _) same.symm
      cases ahead
    exact ⟨object', known, by simpa [Shared.commit, Shared.setUpload, different] using stored, cached⟩
  · intro i other found object' bytes ahead
    rcases State.replace_tasks found with ⟨_, rfl⟩ | ⟨_, before⟩
    · cases ahead
      simp [Shared.commit, Shared.setUpload]
    · simp [nothing i other before] at ahead
  · intro i other found awake
    rcases State.replace_tasks found with ⟨_, rfl⟩ | ⟨different, before⟩
    · exact ⟨trivial, fun _ => trivial⟩
    · simp [solo.others present rfl before different] at awake
  · intro i other body found latest
    rw [kept] at latest
    rcases State.replace_tasks found with ⟨_, rfl⟩ | ⟨_, before⟩
    · trivial
    · exact current.reads i other body before latest

/-- The answer of a PUT: its body is stored, and cached if anything is. -/
theorem Current.answer {answer : Response} (current : Current cfg s) (solo : Solo s) (links : linked.Holds s)
    (present : s.tasks index = some (.put request (.running at_)))
    (ahead : (Task.put request (.running at_)).pending? = some (object, request.body.flatten))
    (known : cfg.object request.key = some object) (upstream : shared.upstream = s.shared.upstream)
    (cached : ∀ entry, shared.cache.entries request.key = some entry → entry.bytes = request.body.flatten)
    (others : ∀ key, key ≠ request.key → shared.cache.entries key = s.shared.cache.entries key) :
    Current cfg (s.replace index shared (.put request (.returned (.ok answer)))) := by
  have last := solo.last index _ present rfl
  have ended {i : Nat} {other : Task} (different : i ≠ index) (found : s.tasks i = some other) :
      other.ended = true := solo.others present rfl found different
  have after (key : CacheKey) : latestBody (s.replace index shared (.put request (.returned (.ok answer)))) key s.next =
      if request.key = key then some request.body.flatten else latestBody s key s.next := by
    rw [latest_last present last rfl, ← last]
    simp only [latestBody, s.replace_self, Option.bind_some, Task.wrote?,
      latest_before s index shared _ (Nat.le_refl index)]
  refine ⟨?_, ?_, ?_, ?_⟩
  · intro key body latest _
    rw [State.replace_next, after key] at latest
    split at latest
    · rename_i same
      subst same
      cases latest
      have stored := current.pending _ _ present object _ ahead
      exact ⟨object, known, by rw [State.replace_shared, upstream]; exact stored, cached⟩
    · rename_i different
      have free : s.All fun task => task.key = key → task.pending? = none := by
        intro i other found same
        by_cases own : i = index
        · subst own
          cases found.symm.trans present
          exact absurd same different
        · exact Task.pending_ended (ended own found)
      obtain ⟨object', known', stored, kept⟩ := current.stored key body latest free
      refine ⟨object', known', by rw [State.replace_shared, upstream]; exact stored, ?_⟩
      intro entry found
      exact kept entry (by rwa [State.replace_shared, others key (Ne.symm different)] at found)
  · intro i other found object' bytes ahead
    rcases State.replace_tasks found with ⟨_, rfl⟩ | ⟨different, before⟩
    · cases ahead
    · simp [Task.pending_ended (ended different before)] at ahead
  · intro i other found awake
    rcases State.replace_tasks found with ⟨_, rfl⟩ | ⟨different, before⟩
    · cases awake
    · simp [ended different before] at awake
  · intro i other body found latest
    rcases State.replace_tasks found with ⟨_, rfl⟩ | ⟨different, before⟩
    · trivial
    · have bound := links.bounded i other before
      rw [latest_before s index shared _ (by omega)] at latest
      exact current.reads i other body before latest

/-- A PUT past its commit goes on to its insertion. -/
theorem Current.caching (current : Current cfg s) (solo : Solo s)
    (present : s.tasks index = some (.put request (.running (.committed object loop))))
    (upstream : shared.upstream = s.shared.upstream) (cache : shared.cache = s.shared.cache)
    (same : phase = .running (.insert object loop)) : Current cfg (s.replace index shared (.put request phase)) := by
  subst same
  have kept (key : CacheKey) (i : Nat) :
      latestBody (s.replace index shared (.put request (.running (.insert object loop)))) key i = latestBody s key i :=
    latest_replace present (show (Task.put request (.running (.insert object loop))).wrote? = none from rfl) i
  refine ⟨?_, ?_, ?_, ?_⟩
  · intro key body latest settled
    rw [kept] at latest
    have free : s.All fun task => task.key = key → task.pending? = none := by
      intro i other found name
      by_cases own : i = index
      · subst own
        cases found.symm.trans present
        have ahead := settled i _ (s.replace_self i shared _) name
        cases ahead
      · exact settled i other ((s.replace_other shared _ own).trans found) name
    obtain ⟨object', known, stored, cached⟩ := current.stored key body latest free
    exact ⟨object', known, by rw [State.replace_shared, upstream]; exact stored,
      fun entry found => cached entry (by rwa [State.replace_shared, cache] at found)⟩
  · intro i other found object' bytes ahead
    rw [State.replace_shared, upstream]
    rcases State.replace_tasks found with ⟨_, rfl⟩ | ⟨_, before⟩
    · exact current.pending _ _ present object' bytes ahead
    · exact current.pending i other before object' bytes ahead
  · intro i other found awake
    rcases State.replace_tasks found with ⟨_, rfl⟩ | ⟨different, before⟩
    · exact ⟨trivial, fun _ => trivial⟩
    · simp [solo.others present rfl before different] at awake
  · intro i other body found latest
    rw [kept] at latest
    rcases State.replace_tasks found with ⟨_, rfl⟩ | ⟨_, before⟩
    · trivial
    · exact current.reads i other body before latest

/-- A PUT that is not committing and not past its commit. -/
theorem Reading.put (reading : Reading cfg s index (.put request (.running at_)))
    (upstream : shared.upstream = s.shared.upstream) (cache : shared.cache = s.shared.cache)
    (wrote : (Task.put request phase).wrote? = none) (settled : (Task.put request phase).pending? = none) :
    Current cfg (s.replace index shared (.put request phase)) := by
  refine reading.current.replace reading.solo reading.present rfl reading.settled upstream ?_ rfl wrote settled
    (fun _ => ⟨trivial, fun _ => trivial⟩) (fun _ _ => trivial)
  rw [cache]
  exact reading.current.cache reading.nothing

theorem Current.put (current : Current cfg s) (solo : Solo s) (links : linked.Holds s)
    (formed : s.All (Task.Formed cfg)) (present : s.tasks index = some (.put request (.running at_)))
    (replaces : Replaces cfg s (.poll index reply)) (step : PutStep cfg request s.shared at_ reply shared phase) :
    Current cfg (s.replace index shared (.put request phase)) := by
  have reading (settled : (Task.put request (.running at_)).pending? = none) :
      Reading cfg s index (.put request (.running at_)) :=
    ⟨links, formed _ _ present, solo, current, present, rfl, settled⟩
  have own := formed _ _ present
  cases step with
  | checked | opened | initFailed | chunk | ended | bodyFailed | aborted | abortFailed | refused | finishFailed
  | finishAborted =>
    exact (reading rfl).put rfl rfl rfl rfl
  | committed => exact current.commit solo present (replaces _ present) links
  | uncached capped =>
    obtain ⟨known, rfl⟩ := own
    refine current.answer solo links present (by simp [Task.pending?]) known rfl ?_ fun _ _ => rfl
    rcases replaces _ present with copied | same
    · simp [(UploadLoop.run_open _ _).mpr copied] at capped
    · exact same
  | caching => exact current.caching solo present rfl rfl rfl
  | inserted =>
    obtain ⟨known, rfl, uncapped⟩ := own
    refine current.answer solo links present (by simp [Task.pending?]) known rfl ?_ ?_
    · intro entry found
      simp only [Shared.insert, Shared.answered, Shared.count, FoyerCache.put, Function.update_self,
        Option.some.injEq] at found
      rw [← found, UploadLoop.run_buffer uncapped]
    · intro key different
      simp [Shared.insert, Shared.answered, Shared.count, FoyerCache.put, different]

theorem Spawned.current (spawned : Spawned cfg s.shared request shared task) (current : Current cfg s)
    (links : linked.Holds s) (accepted : s.All (Task.Accepted cfg))
    (ended : ∀ i other, s.tasks i = some other → other.ended = true) :
    Current cfg ((s.reshare shared).push task) := by
  have kept : Current cfg (s.reshare shared) :=
    current.reshare spawned.upstream (by rw [spawned.cache]; exact fun _ _ found => found)
  have links' : linked.Holds (s.reshare shared) := linked_reshare links spawned.flights
  have invalid {key : CacheKey} {body : Bytes} (invalid : invalidPath key.path = true)
      (latest : latestBody (s.reshare shared) key (s.reshare shared).next = some body) : False := by
    obtain ⟨_, _, request, answer, found, rfl, _⟩ := latest_found latest
    obtain ⟨valid, _⟩ : _ ∧ _ := accepted _ _ found
    simp [valid] at invalid
  have sound : task.Sound (Expected (s.reshare shared)) cfg := spawned.sound _
  cases spawned with
  | getInvalid bad | headInvalid bad =>
    exact kept.push links' ended rfl rfl sound trivial fun _ latest => (invalid bad latest).elim
  | get | head | putInvalid | putUnknown | put =>
    exact kept.push links' ended rfl rfl sound trivial fun _ _ => trivial

theorem Current.step (current : Current cfg s) (solo : Solo s) (links : linked.Holds s)
    (formed : s.All (Task.Formed cfg)) (accepted : s.All (Task.Accepted cfg))
    (sequential : Sequential s action) (replaces : Replaces cfg s action)
    (taken : (proxy cfg).step s action = some t) : Current cfg t := by
  have reading {task : Task} {index : Nat} (present : s.tasks index = some task) (running : task.ended = false)
      (settled : task.pending? = none) : Reading cfg s index task :=
    ⟨links, formed _ _ present, solo, current, present, running, settled⟩
  cases proxy_step taken with
  | start spawned =>
    exact spawned.current current links accepted fun i other found =>
      sequential i (links.bounded i other found) other found
  | get present polled => exact (reading present rfl rfl).get sequential polled
  | prefetch present polled => exact (reading present rfl rfl).prefetch sequential polled
  | put present polled => exact current.put solo links formed present replaces polled
  | @head index key params at_ reply shared phase spawned present polled =>
    have moved : Current cfg (s.replace index shared (.head key params phase)) :=
      (reading present rfl rfl).head sequential polled
    have links : linked.Holds (s.replace index shared (.head key params phase)) :=
      linked_idle links present polled.flights rfl trivial rfl rfl
    split
    · exact moved.push links (solo.quiet present rfl (polled.ended ‹_›)) rfl rfl trivial trivial fun _ _ => trivial
    · exact moved
  | late present => exact (solo.direct _ _ present).elim
  | dropGet | dropHead | dropPut | dropPrefetch => exact sequential.elim
  | evict key =>
    refine current.reshare rfl ?_
    intro other entry found
    by_cases same : other = key
    · simp [FoyerCache.evict, same] at found
    · simpa [FoyerCache.evict, same] using found
  | release => exact current.reshare rfl fun _ _ found => found

end Contents

/-- In a sequential run whose PUTs replace what was there, every request comes
to its end and every read sees the most recent PUT. -/
theorem readsLatest_of_replaces (cfg : AppConfig) (upstream : ObjectId → Option Bytes) (cache : FoyerCache)
    (s : Proxy) (reach : (proxy cfg).system.Reaches (fun s action => Sequential s action ∧ Replaces cfg s action)
      (Proxy.initial upstream cache) s) :
    ReadsLatest s ∧ (proxy cfg).system.Inevitably Onward Quiescent s := by
  have current : Current cfg s := by
    refine reach.invariantWith (motive := Current cfg)
      (fun _ prior => And.intro (linked_reaches prior) (And.intro (formed_reaches prior)
        (And.intro (accepted_reaches prior) (solo_reaches (fun _ _ allow => allow.1) prior)))) ?_ ?_
    · refine ⟨?_, State.all_start _, State.all_start _, ?_⟩
      · rintro key body ⟨⟩
      · rintro i task body ⟨⟩
    · rintro source action next ⟨links, formed, accepted, solo⟩ - current ⟨sequential, replaces⟩ taken
      exact current.step solo links formed accepted sequential replaces taken
  exact ⟨current.reads, quiescent_inevitable (reach.weaken fun _ _ allow => allow.1)⟩

private def putOne : ProxyAction := .start (.put ⟨⟨"b", "p"⟩, ⟨none, none⟩, [[1]]⟩)

private def putFive : ProxyAction := .start (.put ⟨⟨"b", "p"⟩, ⟨none, none⟩, [[1, 2, 3], [4, 5]]⟩)

/-- The first entry is evicted before the second PUT, which is not cached. -/
theorem readsLatest_of_replaces_evicted :
    ∃ s, (proxy (.single "b" 4 .unknown)).system.Reaches
        (fun s action => Sequential s action ∧ Replaces (.single "b" 4 .unknown) s action)
        (Proxy.initial (fun _ => none) .empty) s ∧
      (ReadsLatest s ∧ (proxy (.single "b" 4 .unknown)).system.Inevitably Onward Quiescent s) ∧
      (s.tasks 4).any (fun | .get _ (.returned (.ok response)) => response.body == [1, 2, 3, 4, 5] | _ => false) := by
  have replayed : ((proxy (.single "b" 4 .unknown)).system.restrict
      (fun s action => Sequential s action ∧ Replaces (.single "b" 4 .unknown) s action)).run
      (Proxy.initial (fun _ => none) .empty)
      [putOne, .poll 0 (.failed .notFound), .poll 0 .ready, .poll 0 .ready, .poll 0 .ready, .poll 0 .ready,
        .poll 0 .ready, .poll 0 .ready, .env (.evict ⟨"b", "p"⟩), putFive, .poll 1 .ready, .poll 1 .ready,
        .poll 1 .ready, .poll 1 .ready, .poll 1 .ready, .poll 1 .ready, .poll 1 .ready,
        .start (.head ⟨"b", "p"⟩ [("prefetch", "true")]), .poll 2 .ready, .poll 2 .ready, .poll 2 .ready,
        .poll 3 .ready, .poll 3 .ready, .poll 3 .ready, .poll 3 .ready, .poll 3 .ready,
        .start (.get ⟨"b", "p"⟩), .poll 4 .ready, .poll 4 .ready, .poll 4 .ready, .poll 4 .ready, .poll 4 .ready,
        .poll 4 .ready] = some _ := rfl
  have reach := System.reaches_of_restrict (System.reaches_of_run replayed)
  exact ⟨_, reach, readsLatest_of_replaces (.single "b" 4 .unknown) _ _ _ reach, rfl⟩

/-- A body within the cap, then one above it: the GET hits the first. -/
theorem staleRead_reachable :
    ¬ ∀ s, (proxy (.single "b" 4 .unknown)).system.Reaches Sequential (Proxy.initial (fun _ => none) .empty) s →
      ReadsLatest s := by
  intro reads
  have replayed : ((proxy (.single "b" 4 .unknown)).system.restrict Sequential).run
      (Proxy.initial (fun _ => none) .empty)
      [putOne, .poll 0 (.failed .notFound), .poll 0 .ready, .poll 0 .ready, .poll 0 .ready, .poll 0 .ready,
        .poll 0 .ready, .poll 0 .ready, putFive, .poll 1 .ready, .poll 1 .ready, .poll 1 .ready,
        .poll 1 .ready, .poll 1 .ready, .poll 1 .ready, .poll 1 .ready, .start (.get ⟨"b", "p"⟩),
        .poll 2 .ready] = some _ := rfl
  obtain ⟨response, same, _, body⟩ :=
    reads _ (System.reaches_of_restrict (System.reaches_of_run replayed)) 2 _ [1, 2, 3, 4, 5] rfl rfl
  cases same
  exact absurd body (by decide)

end Cachegate
