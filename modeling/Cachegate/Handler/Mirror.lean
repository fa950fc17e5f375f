import Cachegate.Handler.Formed
import Cachegate.Inflight.Mirror

/-! One segment of a handler on two shared states that agree on some of the keys.
It can be taken on both sides or on neither, and what it does is the same up to
the numbers of entries, of calls of `wait` and of uploads. -/

namespace Cachegate

open Transition TaskPool Inflight

section Alike

variable {Await Result : Type}

inductive Phase.Alike (alike : Await → Await → Prop) : Phase Await Result → Phase Await Result → Prop
  | running (same : alike at_ at') : Alike alike (.running at_) (.running at')
  | returned : Alike alike (.returned result) (.returned result)
  | dropped (same : alike at_ at') : Alike alike (.dropped at_) (.dropped at')

variable (entries waits : Pairing)

inductive GetAwait.Alike : GetAwait → GetAwait → Prop
  | lookup : Alike .lookup .lookup
  | acquire : Alike .acquire .acquire
  | leader (pair : entries.Pairs owner owner') : Alike (.leader owner stage) (.leader owner' stage)
  | follow (pair : entries.Pairs entry entry') : Alike (.follow entry) (.follow entry')
  | notified (pair : waits.Pairs wait wait') : Alike (.notified wait) (.notified wait')
  | result (pair : waits.Pairs wait wait') : Alike (.result wait) (.result wait')
  | recheck : Alike (.recheck leaderEntry) (.recheck leaderEntry)
  | fallback : Alike (.fallback stage) (.fallback stage)

inductive PrefetchAwait.Alike : PrefetchAwait → PrefetchAwait → Prop
  | acquire : Alike .acquire .acquire
  | leader (pair : entries.Pairs owner owner') : Alike (.leader owner stage) (.leader owner' stage)

/-- Nothing depends on the number of an upload. -/
inductive PutAwait.Alike : PutAwait → PutAwait → Prop
  | head : Alike (.head object) (.head object)
  | init : Alike (.init object) (.init object)
  | next : Alike (.next object upload rest loop) (.next object upload' rest loop)
  | abort : Alike (.abort upload) (.abort upload')
  | aborted : Alike .aborted .aborted
  | finish : Alike (.finish object upload loop) (.finish object upload' loop)
  | committed : Alike (.committed object loop) (.committed object loop)
  | insert : Alike (.insert object loop) (.insert object loop)

/-- Two tasks that do the same work and have come to the same point. -/
inductive Task.Alike : Task → Task → Prop
  | get {key : CacheKey} (same : phase.Alike (GetAwait.Alike entries waits) phase') :
      Alike (.get key phase) (.get key phase')
  | head {key : CacheKey} : Alike (.head key params phase) (.head key params phase)
  | put (same : phase.Alike PutAwait.Alike phase') : Alike (.put request phase) (.put request phase')
  | prefetch {key : CacheKey} (same : phase.Alike (PrefetchAwait.Alike entries) phase') :
      Alike (.prefetch key phase) (.prefetch key phase')

variable {entries waits} {entries' waits' : Pairing}

theorem Phase.Alike.imp {alike weaker : Await → Await → Prop} {phase phase' : Phase Await Result}
    (same : phase.Alike alike phase') (imp : ∀ at_ at', alike at_ at' → weaker at_ at') :
    phase.Alike weaker phase' := by
  cases same with
  | running same => exact .running (imp _ _ same)
  | returned => exact .returned
  | dropped same => exact .dropped (imp _ _ same)

theorem GetAwait.Alike.mono {at_ at' : GetAwait} (alike : at_.Alike entries waits at')
    (within : entries.Within entries') (within' : waits.Within waits') : at_.Alike entries' waits' at' := by
  cases alike with
  | lookup => exact .lookup
  | acquire => exact .acquire
  | leader pair => exact .leader (within _ _ pair)
  | follow pair => exact .follow (within _ _ pair)
  | notified pair => exact .notified (within' _ _ pair)
  | result pair => exact .result (within' _ _ pair)
  | recheck => exact .recheck
  | fallback => exact .fallback

theorem PrefetchAwait.Alike.mono {at_ at' : PrefetchAwait} (alike : at_.Alike entries at')
    (within : entries.Within entries') : at_.Alike entries' at' := by
  cases alike with
  | acquire => exact .acquire
  | leader pair => exact .leader (within _ _ pair)

theorem Task.Alike.mono {task task' : Task} (alike : task.Alike entries waits task')
    (within : entries.Within entries') (within' : waits.Within waits') : task.Alike entries' waits' task' := by
  cases alike with
  | get same => exact .get (same.imp fun _ _ alike => alike.mono within within')
  | head => exact .head
  | put same => exact .put same
  | prefetch same => exact .prefetch (same.imp fun _ _ alike => alike.mono within)

theorem Task.Alike.key {task task' : Task} (alike : task.Alike entries waits task') : task'.key = task.key := by
  cases alike <;> rfl

end Alike

section Shared

variable (cfg : AppConfig) (mine : CacheKey → Prop)

/-- The two sides agree on what there is of these keys. Their counters of requests
and their uploads may differ. -/
structure Shared.Mirror (entries waits : Pairing) (s t : Shared) : Prop where
  cache : ∀ key, mine key → t.cache.entries key = s.cache.entries key
  upstream : ∀ key object, mine key → cfg.object key = some object → t.upstream object = s.upstream object
  getCalls : ∀ key, mine key → t.getCalls key = s.getCalls key
  flights : s.flights.Mirror mine entries waits t.flights

variable {cfg mine} {entries waits : Pairing} {s t : Shared} {f g : Flights} {key : CacheKey}

namespace Shared.Mirror

theorem count (mirror : s.Mirror cfg mine entries waits t) (update update' : Metrics → Metrics) :
    (s.count update).Mirror cfg mine entries waits (t.count update') :=
  ⟨mirror.cache, mirror.upstream, mirror.getCalls, mirror.flights⟩

theorem answered (mirror : s.Mirror cfg mine entries waits t) (method : Method) (result : HandlerResult) :
    (s.answered method result).Mirror cfg mine entries waits (t.answered method result) := mirror.count _ _

theorem failed (mirror : s.Mirror cfg mine entries waits t) (method : Method) (err : StoreError) :
    (s.upstreamFailed method err).Mirror cfg mine entries waits (t.upstreamFailed method err) := mirror.count _ _

theorem succeeded (mirror : s.Mirror cfg mine entries waits t) (method : Method) :
    (s.upstreamSucceeded method).Mirror cfg mine entries waits (t.upstreamSucceeded method) := mirror.count _ _

theorem reflight (mirror : s.Mirror cfg mine entries waits t) (moved : f.Mirror mine entries' waits' g) :
    { s with flights := f }.Mirror cfg mine entries' waits' { t with flights := g } :=
  ⟨mirror.cache, mirror.upstream, mirror.getCalls, moved⟩

theorem lookup (mirror : s.Mirror cfg mine entries waits t) (own : mine key) (reply : Reply) :
    t.lookup key reply = s.lookup key reply := by
  have same := mirror.cache key own
  cases reply with
  | ready => simp only [Shared.lookup, FoyerCache.get, same]
  | failed | cacheError | streamError => rfl

theorem insert (mirror : s.Mirror cfg mine entries waits t) (key : CacheKey) (bytes : Bytes)
    (contentType : Option String) :
    (s.insert key bytes contentType).Mirror cfg mine entries waits (t.insert key bytes contentType) := by
  refine ⟨?_, mirror.upstream, mirror.getCalls, mirror.flights⟩
  intro other own
  by_cases same : other = key
  · simp [Shared.insert, FoyerCache.put, same]
  · simpa [Shared.insert, FoyerCache.put, same] using mirror.cache other own

theorem commit (mirror : s.Mirror cfg mine entries waits t) (object : ObjectId) (bytes : Bytes) :
    (s.commit object bytes).Mirror cfg mine entries waits (t.commit object bytes) := by
  refine ⟨mirror.cache, ?_, mirror.getCalls, mirror.flights⟩
  intro key other own known
  by_cases same : other = object
  · simp [Shared.commit, same]
  · simpa [Shared.commit, same] using mirror.upstream key other own known

/-- An upload may end in one of the two alone. -/
theorem leftUpload (mirror : s.Mirror cfg mine entries waits t) (upload upload' : Nat) (ends ends' : Bool)
    (state : Upload) : (if ends then s.setUpload upload state else s).Mirror cfg mine entries waits
      (if ends' then t.setUpload upload' state else t) := by
  split <;> split <;> exact ⟨mirror.cache, mirror.upstream, mirror.getCalls, mirror.flights⟩

theorem setUpload (mirror : s.Mirror cfg mine entries waits t) (upload upload' : Nat) (state : Upload) :
    (s.setUpload upload state).Mirror cfg mine entries waits (t.setUpload upload' state) :=
  ⟨mirror.cache, mirror.upstream, mirror.getCalls, mirror.flights⟩

theorem called (mirror : s.Mirror cfg mine entries waits t) (key : CacheKey) :
    { s with getCalls := Metrics.bump s.getCalls key }.Mirror cfg mine entries waits
      { t with getCalls := Metrics.bump t.getCalls key } := by
  refine ⟨mirror.cache, mirror.upstream, ?_, mirror.flights⟩
  intro other own
  by_cases same : other = key
  · subst same
    simpa [Metrics.bump] using mirror.getCalls other own
  · simpa [Metrics.bump, same] using mirror.getCalls other own

end Shared.Mirror

/-- Both sides come to the same point, with shared states that agree. -/
def Meets (cfg : AppConfig) (mine : CacheKey → Prop) (entries waits : Pairing) {Result : Type}
    (outcome outcome' : Shared × Result) : Prop :=
  outcome'.2 = outcome.2 ∧ outcome.1.Mirror cfg mine entries waits outcome'.1

/-- Both sides come to points alike, perhaps under new numbers. -/
def Resumes (cfg : AppConfig) (mine : CacheKey → Prop) (entries waits : Pairing) {Result : Type}
    (alike : Pairing → Pairing → Result → Result → Prop) (outcome outcome' : Shared × Result) : Prop :=
  ∃ entries' waits', entries.Within entries' ∧ waits.Within waits' ∧
    outcome.1.Mirror cfg mine entries' waits' outcome'.1 ∧ alike entries' waits' outcome.2 outcome'.2

theorem Resumes.still {Result : Type} {alike : Pairing → Pairing → Result → Result → Prop} {result result' : Result}
    (mirror : s.Mirror cfg mine entries waits t) (same : alike entries waits result result') :
    Resumes cfg mine entries waits alike (s, result) (t, result') :=
  ⟨entries, waits, .refl _, .refl _, mirror, same⟩

end Shared

/-- Options related before are related after. -/
theorem rel_map {A B A' B' : Type} {related : A → B → Prop} {related' : A' → B' → Prop} {f : A → A'} {g : B → B'}
    {x : Option A} {y : Option B} (both : Option.Rel related x y)
    (maps : ∀ a b, related a b → related' (f a) (g b)) : Option.Rel related' (x.map f) (y.map g) := by
  cases both with
  | some related => exact .some (maps _ _ related)
  | none => exact .none

theorem rel_found {A B : Type} {related : A → B → Prop} {a : A} {y : Option B}
    (both : Option.Rel related (some a) y) : ∃ b, y = some b ∧ related a b := by
  cases both with
  | some related => exact ⟨_, rfl, related⟩

section Segments

variable {cfg : AppConfig} {mine : CacheKey → Prop} {entries waits : Pairing} {s t : Shared} {key : CacheKey}

theorem fetchStart_mirror (mirror : s.Mirror cfg mine entries waits t) :
    Meets cfg mine entries waits (fetchStart cfg s key) (fetchStart cfg t key) := by
  unfold fetchStart
  cases cfg.object key with
  | none => exact ⟨rfl, mirror⟩
  | some object => exact ⟨rfl, mirror.called key⟩

theorem fetchPoll_mirror (mirror : s.Mirror cfg mine entries waits t) (own : mine key)
    (formed : FetchAwait.Formed cfg key at_) :
    Option.Rel (Meets cfg mine entries waits) (fetchPoll cfg s key method at_ reply)
      (fetchPoll cfg t key method at_ reply) := by
  cases at_ with
  | get object =>
    cases reply with
    | ready =>
      simp only [fetchPoll, mirror.upstream key object own formed]
      cases s.upstream object with
      | none => exact .some ⟨rfl, mirror⟩
      | some data => exact .some ⟨rfl, mirror⟩
    | failed err => exact .some ⟨rfl, mirror.failed method err⟩
    | cacheError | streamError => exact .none
  | missing object =>
    cases reply with
    | ready => exact .some ⟨rfl, mirror.failed method .notFound⟩
    | failed | cacheError | streamError => exact .none
  | bytes object data =>
    cases reply with
    | ready =>
      simp only [fetchPoll]
      split
      · exact .some ⟨rfl, mirror.succeeded method⟩
      · exact .some ⟨rfl, mirror.succeeded method⟩
    | failed err => exact .some ⟨rfl, mirror.failed method err⟩
    | cacheError | streamError => exact .none
  | put data contentType =>
    cases reply with
    | ready => exact .some ⟨rfl, mirror.insert key data contentType⟩
    | failed | cacheError | streamError => exact .none

theorem leaderNext_mirror {outcome outcome' : Outcome FetchAwait InflightResult}
    (meets : Meets cfg mine entries waits outcome outcome') (pair : entries.Pairs owner owner') :
    Meets cfg mine entries waits (leaderNext owner outcome) (leaderNext owner' outcome') := by
  obtain ⟨shared, next⟩ := outcome
  obtain ⟨shared', next'⟩ := outcome'
  obtain ⟨rfl, mirror⟩ := meets
  cases next' with
  | inl stage => exact ⟨rfl, mirror⟩
  | inr result => exact ⟨rfl, mirror.reflight (mirror.flights.setPhase pair _)⟩

theorem leaderPoll_mirror (mirror : s.Mirror cfg mine entries waits t) (owned : s.flights.Owned)
    (owned' : t.flights.Owned) (own : mine key) (pair : entries.Pairs owner owner')
    (leads : Leads s.flights key owner at_) (formed : LeaderAwait.Formed cfg key at_) :
    Option.Rel (Meets cfg mine entries waits) (leaderPoll cfg s key method owner at_ reply)
      (leaderPoll cfg t key method owner' at_ reply) := by
  cases at_ with
  | fetch stage => exact rel_map (fetchPoll_mirror mirror own formed) fun _ _ meets =>
      ⟨congrArg Sum.inl (leaderNext_mirror meets pair).1, (leaderNext_mirror meets pair).2⟩
  | store result =>
    cases reply with
    | ready => exact .some ⟨rfl, mirror.reflight (mirror.flights.storeResult pair result)⟩
    | failed | cacheError | streamError => exact .none
  | release result =>
    cases reply with
    | ready =>
      refine .some ⟨rfl, mirror.reflight (mirror.flights.finishRelease owned owned' pair ?_)⟩
      intro found present
      cases leads.present.symm.trans present
      rfl
    | failed | cacheError | streamError => exact .none

/-- A leader's first segment, from the permit on. -/
theorem lead_mirror (mirror : s.Mirror cfg mine entries waits t) (moved : f.Mirror mine entries' waits g)
    (pair : entries'.Pairs owner owner') :
    Meets cfg mine entries' waits (leaderNext owner (fetchStart cfg { s with flights := f } key))
      (leaderNext owner' (fetchStart cfg { t with flights := g } key)) :=
  leaderNext_mirror (fetchStart_mirror (mirror.reflight moved)) pair

/-- What one segment of `get_object` comes to. -/
def GetResumes (cfg : AppConfig) (mine : CacheKey → Prop) (entries waits : Pairing) :
    Shared × Phase GetAwait HandlerResult → Shared × Phase GetAwait HandlerResult → Prop :=
  Resumes cfg mine entries waits fun entries waits => Phase.Alike (GetAwait.Alike entries waits)

theorem GetResumes.returned (mirror : s.Mirror cfg mine entries waits t) (result : HandlerResult) :
    GetResumes cfg mine entries waits (s.respond .get result) (t.respond .get result) :=
  .still (mirror.answered .get result) .returned

theorem getPoll_mirror (mirror : s.Mirror cfg mine entries waits t) (owned : s.flights.Owned)
    (owned' : t.flights.Owned) (own : mine key) (alike : at_.Alike entries waits at')
    (linked : GetAwait.Linked s.flights key at_) (formed : GetAwait.Formed cfg key at_) :
    Option.Rel (GetResumes cfg mine entries waits) (getPoll cfg s key at_ reply) (getPoll cfg t key at' reply) := by
  cases alike with
  | lookup =>
    simp only [getPoll, mirror.lookup own reply]
    cases s.lookup key reply with
    | none => exact .none
    | some found =>
      cases found with
      | none => exact .some (.still (mirror.count _ _) (.running .acquire))
      | some entry => exact .some (.returned (mirror.count _ _) _)
  | acquire =>
    cases reply with
    | failed | cacheError | streamError => exact .none
    | ready =>
      simp only [getPoll]
      cases mirror.flights.acquire owned owned' own with
      | follower pair joined joined' moved =>
        rw [joined, joined']
        exact .some (.still (mirror.reflight moved) (.running (.follow pair)))
      | leader within pair opened opened' moved =>
        rw [opened, opened']
        obtain ⟨same, led⟩ : Meets cfg mine _ waits (leaderNext _ (fetchStart cfg _ key)) _ :=
          lead_mirror mirror moved pair
        refine .some ⟨_, waits, within, .refl _, led, ?_⟩
        exact same ▸ .running (.leader pair)
  | leader pair =>
    refine rel_map (leaderPoll_mirror mirror owned owned' own pair linked formed) ?_
    rintro ⟨shared, next⟩ ⟨shared', next'⟩ ⟨rfl, moved⟩
    cases next' with
    | inl stage => exact .still moved (.running (.leader pair))
    | inr result => exact .returned moved _
  | follow pair =>
    cases reply with
    | failed | cacheError | streamError => exact .none
    | ready =>
      refine .some ⟨entries, _, .refl _, Pairing.within_extend (mirror.flights.waits_below owned owned'),
        mirror.reflight (mirror.flights.callWait owned owned' pair), ?_⟩
      exact .running (.notified (Pairing.pairs_extend _))
  | notified pair =>
    cases reply with
    | failed | cacheError | streamError => exact .none
    | ready =>
      refine rel_map (mirror.flights.wake owned owned' pair) ?_
      intro f g moved
      exact .still (mirror.reflight moved) (.running (.result pair))
  | result pair =>
    cases reply with
    | failed | cacheError | streamError => exact .none
    | ready =>
      refine rel_map (mirror.flights.readResult pair) ?_
      rintro ⟨value, f⟩ ⟨value', g⟩ ⟨rfl, moved⟩
      have reflown := mirror.reflight moved
      cases value' with
      | some read =>
        cases read with
        | ok leaderEntry => exact .still reflown (.running .recheck)
        | error err => exact .returned reflown _
      | none =>
        obtain ⟨same, moved⟩ : Meets cfg mine entries waits (fetchStart cfg _ key) _ := fetchStart_mirror reflown
        dsimp only
        generalize fetchStart cfg { s with flights := f } key = outcome at same moved ⊢
        generalize fetchStart cfg { t with flights := g } key = outcome' at same moved ⊢
        obtain ⟨shared, next⟩ := outcome
        obtain ⟨shared', next'⟩ := outcome'
        obtain rfl : next' = next := same
        cases next' with
        | inl stage => exact .still moved (.running .fallback)
        | inr result => exact .returned moved _
  | recheck =>
    simp only [getPoll, mirror.lookup own reply]
    cases s.lookup key reply with
    | none => exact .none
    | some found =>
      cases found with
      | none => exact .some (.returned mirror _)
      | some cached => exact .some (.returned mirror _)
  | fallback =>
    refine rel_map (fetchPoll_mirror mirror own formed) ?_
    rintro ⟨shared, next⟩ ⟨shared', next'⟩ ⟨rfl, moved⟩
    cases next' with
    | inl stage => exact .still moved (.running .fallback)
    | inr result => exact .returned moved _

theorem headPoll_mirror (mirror : s.Mirror cfg mine entries waits t) (own : mine key)
    (formed : HeadAwait.Formed cfg key at_) :
    Option.Rel (Meets cfg mine entries waits) (headPoll cfg s key params at_ reply)
      (headPoll cfg t key params at_ reply) := by
  cases at_ with
  | lookup =>
    simp only [headPoll, mirror.lookup own reply]
    have missed := mirror.count (·.incCacheMiss .head) (·.incCacheMiss .head)
    cases s.lookup key reply with
    | none => exact .none
    | some found =>
      cases found with
      | some entry =>
        have hit := mirror.count (·.incCacheHit .head) (·.incCacheHit .head)
        exact .some ⟨rfl, hit.answered .head _⟩
      | none =>
        dsimp only [Option.map_some]
        cases cfg.object key with
        | none => exact .some ⟨rfl, missed⟩
        | some object => exact .some ⟨rfl, missed⟩
  | head object =>
    cases reply with
    | ready =>
      simp only [headPoll, mirror.upstream key object own formed]
      cases s.upstream object with
      | none => exact .none
      | some data => exact .some ⟨rfl, mirror⟩
    | failed err => exact .some ⟨rfl, mirror.failed .head err⟩
    | cacheError | streamError => exact .none
  | answered size =>
    cases reply with
    | ready => exact .some ⟨rfl, (mirror.succeeded .head).answered .head _⟩
    | failed | cacheError | streamError => exact .none

theorem prefetchPoll_mirror (mirror : s.Mirror cfg mine entries waits t) (owned : s.flights.Owned)
    (owned' : t.flights.Owned) (own : mine key) (alike : at_.Alike entries at')
    (linked : PrefetchAwait.Linked s.flights key at_) (formed : PrefetchAwait.Formed cfg key at_) :
    Option.Rel (Resumes cfg mine entries waits fun entries _ => Phase.Alike (PrefetchAwait.Alike entries))
      (prefetchPoll cfg s key at_ reply) (prefetchPoll cfg t key at' reply) := by
  cases alike with
  | acquire =>
    cases reply with
    | failed | cacheError | streamError => exact .none
    | ready =>
      simp only [prefetchPoll]
      cases mirror.flights.acquire owned owned' own with
      | follower pair joined joined' moved =>
        rw [joined, joined']
        exact .some (.still (mirror.reflight moved) .returned)
      | leader within pair opened opened' moved =>
        rw [opened, opened']
        obtain ⟨same, led⟩ : Meets cfg mine _ waits (leaderNext _ (fetchStart cfg _ key)) _ :=
          lead_mirror mirror moved pair
        refine .some ⟨_, waits, within, .refl _, led, ?_⟩
        exact same ▸ .running (.leader pair)
  | leader pair =>
    refine rel_map (leaderPoll_mirror mirror owned owned' own pair linked formed) ?_
    rintro ⟨shared, next⟩ ⟨shared', next'⟩ ⟨rfl, moved⟩
    cases next' with
    | inl stage => exact .still moved (.running (.leader pair))
    | inr result => exact .still moved .returned

/-- A PUT never looks at what it shares. -/
theorem putPoll_mirror (mirror : s.Mirror cfg mine entries waits t) (alike : at_.Alike at') :
    Option.Rel (Resumes cfg mine entries waits fun _ _ => Phase.Alike PutAwait.Alike)
      (putPoll cfg s request at_ reply) (putPoll cfg t request at' reply) := by
  cases alike with
  | head =>
    cases reply with
    | ready | failed => exact .some (.still mirror (.running .init))
    | cacheError | streamError => exact .none
  | init =>
    cases reply with
    | ready =>
      have opened := mirror.setUpload s.nextUpload t.nextUpload .open
      exact .some (.still ⟨opened.cache, opened.upstream, opened.getCalls, opened.flights⟩ (.running .next))
    | failed err => exact .some (.still ((mirror.failed .put err).answered .put _) .returned)
    | cacheError | streamError => exact .none
  | @next object upload rest loop upload' =>
    cases reply with
    | ready =>
      cases rest with
      | nil => exact .some (.still mirror (.running .finish))
      | cons chunk rest => exact .some (.still mirror (.running .next))
    | streamError => cases rest <;> exact .some (.still mirror (.running .abort))
    | failed | cacheError => cases rest <;> exact .none
  | abort =>
    cases reply with
    | ready => exact .some (.still (mirror.setUpload _ _ .aborted) (.running .aborted))
    | failed => exact .some (.still (mirror.answered .put _) .returned)
    | cacheError | streamError => exact .none
  | aborted =>
    cases reply with
    | ready => exact .some (.still (mirror.answered .put _) .returned)
    | failed | cacheError | streamError => exact .none
  | @finish object upload loop upload' =>
    cases reply with
    | ready => exact .some (.still ((mirror.commit _ _).setUpload _ _ .completed) (.running .committed))
    | failed err =>
      have left :=
        mirror.leftUpload upload upload' (cfg.finishAborts upload err) (cfg.finishAborts upload' err) .aborted
      exact .some (.still ((left.failed .put err).answered .put _) .returned)
    | cacheError | streamError => exact .none
  | committed =>
    cases reply with
    | ready =>
      simp only [putPoll]
      split
      · exact .some (.still ((mirror.succeeded .put).answered .put _) .returned)
      · exact .some (.still (mirror.succeeded .put) (.running .insert))
    | failed | cacheError | streamError => exact .none
  | insert =>
    cases reply with
    | ready => exact .some (.still ((mirror.insert _ _ _).answered .put _) .returned)
    | failed | cacheError | streamError => exact .none

end Segments

section Tasks

variable {cfg : AppConfig} {mine : CacheKey → Prop} {entries waits : Pairing} {s t : Shared} {task task' : Task}

/-- The first segment of a handler. -/
theorem spawn_mirror (mirror : s.Mirror cfg mine entries waits t) (request : Request) :
    (Task.spawn cfg s request).1.Mirror cfg mine entries waits (Task.spawn cfg t request).1 ∧
      (Task.spawn cfg s request).2.Alike entries waits (Task.spawn cfg t request).2 := by
  cases request with
  | get key =>
    simp only [Task.spawn, getStart]
    split
    · exact ⟨mirror.answered .get _, .get .returned⟩
    · exact ⟨mirror, .get (.running .lookup)⟩
  | head key params =>
    simp only [Task.spawn, headStart]
    split
    · exact ⟨mirror.answered .head _, .head⟩
    · exact ⟨mirror, .head⟩
  | put request =>
    simp only [Task.spawn, putStart]
    split
    · exact ⟨mirror.answered .put _, .put .returned⟩
    · cases cfg.object request.key with
      | none => exact ⟨mirror, .put .returned⟩
      | some object => exact ⟨mirror, .put (.running .head)⟩

/-- What a task of this key has become, and the prefetch task it may have left behind. -/
def Advanced (key : CacheKey) (entries waits : Pairing) (left left' : Task × Option Task) : Prop :=
  left.1.key = key ∧ left.1.Alike entries waits left'.1 ∧ left'.2 = left.2 ∧
    (left.2 = none ∨ left.2 = some (.prefetch key (.running .acquire)))

theorem poll_mirror (mirror : s.Mirror cfg mine entries waits t) (owned : s.flights.Owned)
    (owned' : t.flights.Owned) (own : mine task.key) (alike : task.Alike entries waits task')
    (linked : task.Linked s.flights) (formed : task.Formed cfg) :
    Option.Rel (Resumes cfg mine entries waits (Advanced task.key)) (Task.poll cfg s task reply)
      (Task.poll cfg t task' reply) := by
  cases alike with
  | get same =>
    cases same with
    | running same =>
      refine rel_map (getPoll_mirror mirror owned owned' own same linked formed) ?_
      rintro ⟨shared, phase⟩ ⟨shared', phase'⟩ ⟨entries', waits', within, within', moved, alike⟩
      exact ⟨entries', waits', within, within', moved, rfl, .get alike, rfl, .inl rfl⟩
    | returned | dropped => exact .none
  | @head params phase key =>
    cases phase with
    | running at_ =>
      refine rel_map (headPoll_mirror mirror own formed) ?_
      rintro ⟨shared, phase, spawned⟩ ⟨shared', phase', spawned'⟩ ⟨same, moved⟩
      cases same
      refine .still moved ⟨rfl, .head, rfl, ?_⟩
      cases spawned with
      | false => exact .inl rfl
      | true => exact .inr rfl
    | returned | dropped => exact .none
  | put same =>
    cases same with
    | running same =>
      refine rel_map (putPoll_mirror mirror same) ?_
      rintro ⟨shared, phase⟩ ⟨shared', phase'⟩ ⟨entries', waits', within, within', moved, alike⟩
      exact ⟨entries', waits', within, within', moved, rfl, .put alike, rfl, .inl rfl⟩
    | returned => exact .none
    | dropped same =>
      cases same with
      | finish =>
        cases reply with
        | ready =>
          exact .some (.still ((mirror.commit _ _).setUpload _ _ .completed)
            ⟨rfl, .put (.dropped .committed), rfl, .inl rfl⟩)
        | failed | cacheError | streamError => exact .none
      | init =>
        cases reply with
        | ready =>
          have opened := mirror.setUpload s.nextUpload t.nextUpload .open
          exact .some (.still ⟨opened.cache, opened.upstream, opened.getCalls, opened.flights⟩
            ⟨rfl, .put (.dropped .next), rfl, .inl rfl⟩)
        | failed | cacheError | streamError => exact .none
      | abort =>
        cases reply with
        | ready => exact .some (.still (mirror.setUpload _ _ .aborted) ⟨rfl, .put (.dropped .aborted), rfl, .inl rfl⟩)
        | failed | cacheError | streamError => exact .none
      | head | next | aborted | committed | insert => exact .none
  | prefetch same =>
    cases same with
    | running same =>
      refine rel_map (prefetchPoll_mirror mirror owned owned' own same linked formed) ?_
      rintro ⟨shared, phase⟩ ⟨shared', phase'⟩ ⟨entries', waits', within, within', moved, alike⟩
      exact ⟨entries', waits', within, within', moved, rfl, .prefetch alike, rfl, .inl rfl⟩
    | returned | dropped => exact .none

theorem drop_mirror (mirror : s.Mirror cfg mine entries waits t) (alike : task.Alike entries waits task') :
    Option.Rel (fun left left' => left.1.Mirror cfg mine entries waits left'.1 ∧ left.2.key = task.key ∧
      left.2.Alike entries waits left'.2) (Task.drop s task) (Task.drop t task') := by
  cases alike with
  | get same =>
    cases same with
    | @running at_ at' same =>
      have moved : (s.flights.dropGet at_).Mirror mine entries waits (t.flights.dropGet at') := by
        cases same with
        | leader pair => exact mirror.flights.setPhase pair .dropped
        | notified pair | result pair => exact mirror.flights.cancelWait pair
        | lookup | acquire | follow | recheck | fallback => exact mirror.flights
      exact .some ⟨mirror.reflight moved, rfl, .get (.dropped same)⟩
    | returned | dropped => exact .none
  | @head params phase key =>
    cases phase with
    | running => exact .some ⟨mirror, rfl, .head⟩
    | returned | dropped => exact .none
  | put same =>
    cases same with
    | running same => exact .some ⟨mirror, rfl, .put (.dropped same)⟩
    | returned | dropped => exact .none
  | prefetch same =>
    cases same with
    | @running at_ at' same =>
      have moved : (s.flights.dropPrefetch at_).Mirror mine entries waits (t.flights.dropPrefetch at') := by
        cases same with
        | leader pair => exact mirror.flights.setPhase pair .dropped
        | acquire => exact mirror.flights
      exact .some ⟨mirror.reflight moved, rfl, .prefetch (.dropped same)⟩
    | returned | dropped => exact .none

end Tasks

end Cachegate
