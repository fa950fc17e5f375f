import Cachegate.Handler.Mirror
import Cachegate.Handler.Origins

/-! Requests for other keys leave no trace on a set of keys whose objects nobody
else names. Taken out of a run, with all that was done for them, they leave a run
in which the requests for these keys take the same steps to the same answers. -/

namespace Cachegate

open Transition TaskPool Inflight

/-- No other key names the object of one of these. -/
def Separate (cfg : AppConfig) (mine : CacheKey → Prop) : Prop :=
  ∀ key other object, mine key → cfg.object key = some object → cfg.object other = some object → mine other

section Spares

/-- What there is of these keys outside the inflight map has not changed. -/
structure Spares (cfg : AppConfig) (mine : CacheKey → Prop) (s s' : Shared) : Prop where
  cache : ∀ key, mine key → s'.cache.entries key = s.cache.entries key
  upstream : ∀ key object, mine key → cfg.object key = some object → s'.upstream object = s.upstream object
  getCalls : ∀ key, mine key → s'.getCalls key = s.getCalls key

variable {cfg : AppConfig} {mine : CacheKey → Prop} {key : CacheKey} {s s' t : Shared} {owner : EntryId}
variable {entries waits : Pairing}

theorem spares_same (cache : s'.cache = s.cache) (upstream : s'.upstream = s.upstream)
    (getCalls : s'.getCalls = s.getCalls) : Spares cfg mine s s' :=
  ⟨fun _ _ => by rw [cache], fun _ _ _ _ => by rw [upstream], fun _ _ => by rw [getCalls]⟩

theorem Spares.mirror (spares : Spares cfg mine s s') (mirror : s.Mirror cfg mine entries waits t)
    (flights : s'.flights.Mirror mine entries waits t.flights) : s'.Mirror cfg mine entries waits t where
  cache := fun key own => (mirror.cache key own).trans (spares.cache key own).symm
  upstream := fun key object own known =>
    (mirror.upstream key object own known).trans (spares.upstream key object own known).symm
  getCalls := fun key own => (mirror.getCalls key own).trans (spares.getCalls key own).symm
  flights := flights

theorem FetchStep.spares (step : FetchStep cfg key method s at_ reply s' next) (foreign : ¬ mine key) :
    Spares cfg mine s s' := by
  cases step with
  | cached =>
    refine ⟨?_, fun _ _ _ _ => rfl, fun _ _ => rfl⟩
    intro other own
    have different : other ≠ key := fun same => foreign (same ▸ own)
    simp [Shared.insert, FoyerCache.put, different]
  | got | absent | missed | getFailed | skipped | read | readFailed => exact spares_same rfl rfl rfl

theorem FetchStart.spares (start : FetchStart cfg key s s' next) (foreign : ¬ mine key) : Spares cfg mine s s' := by
  cases start with
  | unknown => exact spares_same rfl rfl rfl
  | called =>
    refine ⟨fun _ _ => rfl, fun _ _ _ _ => rfl, ?_⟩
    intro other own
    have different : other ≠ key := fun same => foreign (same ▸ own)
    simp [Metrics.bump, different]

theorem LeaderStart.spares (start : LeaderStart cfg key owner s s' stage) (foreign : ¬ mine key) :
    Spares cfg mine s s' := by
  cases start with
  | fetch started => exact started.spares foreign
  | complete started =>
    have spares := started.spares foreign
    exact ⟨spares.cache, spares.upstream, spares.getCalls⟩

theorem LeaderStep.spares (step : LeaderStep cfg key method owner s at_ reply s' next) (foreign : ¬ mine key) :
    Spares cfg mine s s' := by
  cases step with
  | fetch fetched => exact fetched.spares foreign
  | complete fetched =>
    have spares := fetched.spares foreign
    exact ⟨spares.cache, spares.upstream, spares.getCalls⟩
  | store | release => exact spares_same rfl rfl rfl

theorem GetStep.spares (step : GetStep cfg key s at_ reply s' phase) (foreign : ¬ mine key) :
    Spares cfg mine s s' := by
  cases step with
  | lead _ started | abandoned _ started | abandonedEnds _ started =>
    have spares := started.spares foreign
    exact ⟨spares.cache, spares.upstream, spares.getCalls⟩
  | leader led | led led =>
    have spares := led.spares foreign
    exact ⟨spares.cache, spares.upstream, spares.getCalls⟩
  | fallback fetched | fallbackEnds fetched =>
    have spares := fetched.spares foreign
    exact ⟨spares.cache, spares.upstream, spares.getCalls⟩
  | hit | miss | follow | wait | wake | joined | joinedError | recheckHit | recheckMiss =>
    exact spares_same rfl rfl rfl

theorem HeadStep.spares (step : HeadStep cfg key params s at_ reply s' phase spawned) : Spares cfg mine s s' := by
  cases step <;> exact spares_same rfl rfl rfl

theorem PrefetchStep.spares (step : PrefetchStep cfg key s at_ reply s' phase) (foreign : ¬ mine key) :
    Spares cfg mine s s' := by
  cases step with
  | lead _ started =>
    have spares := started.spares foreign
    exact ⟨spares.cache, spares.upstream, spares.getCalls⟩
  | leader led | led led => exact led.spares foreign
  | follow => exact spares_same rfl rfl rfl

theorem commit_spares (separate : Separate cfg mine) (known : cfg.object key = some object) (foreign : ¬ mine key)
    (bytes : Bytes) : Spares cfg mine s (s.commit object bytes) := by
  refine ⟨fun _ _ => rfl, ?_, fun _ _ => rfl⟩
  intro other stored own named
  have different : stored ≠ object := by
    rintro rfl
    exact foreign (separate other key stored own named known)
  simp [Shared.commit, different]

theorem PutStep.spares (step : PutStep cfg request s at_ reply s' phase) (separate : Separate cfg mine)
    (formed : at_.Formed cfg request) (foreign : ¬ mine request.key) : Spares cfg mine s s' := by
  cases step with
  | @committed object upload loop =>
    have spares := commit_spares (s := s) separate formed.1 foreign loop.uploaded
    exact ⟨spares.cache, spares.upstream, spares.getCalls⟩
  | inserted =>
    refine ⟨?_, fun _ _ _ _ => rfl, fun _ _ => rfl⟩
    intro other own
    have different : other ≠ request.key := fun same => foreign (same ▸ own)
    simp [Shared.answered, Shared.count, Shared.insert, FoyerCache.put, different]
  | checked | opened | initFailed | chunk | ended | bodyFailed | aborted | abortFailed | refused | finishFailed
  | finishAborted | uncached | caching => exact spares_same rfl rfl rfl

end Spares

section Guards

variable {cfg : AppConfig} {mine : CacheKey → Prop} {key : CacheKey} {f f' g : Flights} {s s' : Shared}
variable {entries waits : Pairing} {task task' : Task} {owner : EntryId}

/-- A task's call of `wait` is on an entry of its own key. -/
theorem Task.Linked.call_key (linked : task.Linked f) (holds : task.wait? = some w)
    (suspended : f.waits w = some phase) (present : f.guards phase.entry = some found) : found.key = task.key := by
  unfold Task.wait? at holds
  split at holds <;> cases holds
  · obtain ⟨entry, future, waiting, guard, made, name⟩ := linked
    cases waiting.symm.trans suspended
    cases made.symm.trans present
    exact name
  · obtain ⟨entry, waiting, guard, made, name⟩ := linked
    cases waiting.symm.trans suspended
    cases made.symm.trans present
    exact name

/-- A new guard is its maker's. -/
def Opens (f f' : Flights) (key : CacheKey) : Prop :=
  ∀ e found, f'.guards e = some found → f.guards e = none → found.key = key

theorem opens_same (same : f'.guards = f.guards) : Opens f f' key := by
  intro e found present absent
  rw [same, absent] at present
  cases present

theorem setPhase_opens (e : EntryId) (p : GuardPhase InflightResult) : Opens f (f.setPhase e p) key := by
  intro other found present absent
  by_cases same : other = e
  · subst same
    simp [Inflight.setPhase, absent] at present
  · simp [Inflight.setPhase, same, absent] at present

theorem finishRelease_opens (owned : f.Owned) (present : f.guards owner = some held)
    (unreleased : held.phase.released = false) : Opens f (f.finishRelease owner) key := by
  have released := owned.finishRelease_eq present unreleased
  intro e found later absent
  by_cases same : e = owner
  · subst same
    cases absent.symm.trans present
  · simp [released, same, absent] at later

theorem Led.opens (led : Led f f' key owner stage) : Opens f f' key := by
  intro e found present absent
  rcases led.others e found present with rfl | before
  · cases led.leads.present.symm.trans present
    rfl
  · cases absent.symm.trans before

theorem LeaderStep.opens (step : LeaderStep cfg key method owner s at_ reply s' next) (owned : s.flights.Owned)
    (leads : Leads s.flights key owner at_) : Opens s.flights s'.flights key := by
  cases next with
  | inl stage => exact (step.led leads).opens
  | inr result =>
    obtain ⟨rfl, rfl, _⟩ := step.ends owned leads
    exact finishRelease_opens owned leads.present rfl

theorem acquire_opens (owned : f.Owned) (acquired : f.acquire key = (.leader owner, f'))
    (led : Led f' g key owner stage) : Opens f g key := by
  obtain ⟨_, _, guards⟩ := acquire_leader owned acquired
  intro e found present absent
  rcases led.others e found present with rfl | opened
  · cases led.leads.present.symm.trans present
    rfl
  · by_cases same : e = owner
    · subst same
      cases led.leads.present.symm.trans present
      rfl
    · rw [guards, Function.update_of_ne same, absent] at opened
      cases opened

theorem GetStep.opens (step : GetStep cfg key s at_ reply s' phase) (owned : s.flights.Owned)
    (linked : at_.Linked s.flights key) : Opens s.flights s'.flights key := by
  cases step with
  | lead acquired started =>
    obtain ⟨_, _, guards⟩ := acquire_leader owned acquired
    exact acquire_opens owned acquired (started.led (by simp [guards]))
  | follow acquired => exact opens_same (acquire_follower owned acquired).2.1
  | leader led | led led => exact led.opens owned linked
  | wake woken =>
    obtain ⟨entry, future, present, _⟩ := linked
    simp only [Inflight.wake, present] at woken
    split at woken <;> cases woken
    exact opens_same rfl
  | joined read | joinedError read => exact opens_same (readResult_quiet linked read).2.2
  | abandoned read started | abandonedEnds read started =>
    refine opens_same ?_
    simp only [Shared.answered, Shared.count, started.flights]
    exact (readResult_quiet linked read).2.2
  | fallback fetched | fallbackEnds fetched =>
    refine opens_same ?_
    simp only [Shared.answered, Shared.count, fetched.flights]
  | hit | miss | wait | recheckHit | recheckMiss => exact opens_same rfl

theorem PrefetchStep.opens (step : PrefetchStep cfg key s at_ reply s' phase) (owned : s.flights.Owned)
    (linked : at_.Linked s.flights key) : Opens s.flights s'.flights key := by
  cases step with
  | lead acquired started =>
    obtain ⟨_, _, guards⟩ := acquire_leader owned acquired
    exact acquire_opens owned acquired (started.led (by simp [guards]))
  | follow acquired => exact opens_same (acquire_follower owned acquired).2.1
  | leader led | led led => exact led.opens owned linked

theorem dropGet_opens (f : Flights) (at_ : GetAwait) : Opens f (f.dropGet at_) key := by
  have cancelled (wait : WaitId) : ((f.cancelWait wait).getD f).guards = f.guards := by
    unfold Inflight.cancelWait
    split <;> rfl
  cases at_ with
  | leader owner => exact setPhase_opens owner .dropped
  | notified wait | result wait => exact opens_same (cancelled wait)
  | lookup | acquire | follow | recheck | fallback => exact opens_same rfl

theorem dropPrefetch_opens (f : Flights) (at_ : PrefetchAwait) : Opens f (f.dropPrefetch at_) key := by
  cases at_ with
  | leader owner => exact setPhase_opens owner .dropped
  | acquire => exact opens_same rfl

/-- What a task for another key does to the inflight map does not show. -/
theorem Moves.foreign (moves : Moves allowed f f' task task') (mirror : f.Mirror mine entries waits g)
    (linked : task.Linked f) (foreign : ¬ mine task.key) (opens : Opens f f' task.key) :
    f'.Mirror mine entries waits g := by
  refine mirror.frame moves.frame ?_ ?_ ?_
  · intro e found holds present own
    exact foreign (linked.guard_key holds present ▸ own)
  · intro w phase found holds suspended present own
    exact foreign (linked.call_key holds suspended present ▸ own)
  · intro e found present absent own
    exact foreign (opens e found present absent ▸ own)

end Guards

section Pool

variable (cfg : AppConfig) (mine : CacheKey → Prop)

/-- The second proxy does for these keys what the first does, and nothing else. -/
structure Proxy.Mirror (tasks entries waits : Pairing) (s t : Proxy) : Prop where
  shared : s.shared.Mirror cfg mine entries waits t.shared
  tasks : tasks.Couples (fun task => mine task.key) (Task.Alike entries waits) s.tasks t.tasks

/-- A step that has nothing to do with these keys. -/
def Foreign (s : Proxy) : ProxyAction → Prop
  | .start request => ¬ mine request.key
  | .poll index _ | .cancel index => ∀ task, s.tasks index = some task → ¬ mine task.key
  | .env (.evict key) => ¬ mine key
  | .env (.release owner) => ∀ guard, s.shared.flights.guards owner = some guard → ¬ mine guard.key

/-- No other requests arrive. -/
def Among (_ : Proxy) (action : ProxyAction) : Prop := ∀ request, action = .start request → mine request.key

/-- The same action under other numbers. -/
inductive SameAct (tasks entries : Pairing) : ProxyAction → ProxyAction → Prop
  | start (request : Request) : SameAct tasks entries (.start request) (.start request)
  | poll (pair : tasks.Pairs i i') (reply : Reply) : SameAct tasks entries (.poll i reply) (.poll i' reply)
  | cancel (pair : tasks.Pairs i i') : SameAct tasks entries (.cancel i) (.cancel i')
  | evict (key : CacheKey) : SameAct tasks entries (.env (.evict key)) (.env (.evict key))
  | release (pair : entries.Pairs e e') : SameAct tasks entries (.env (.release e)) (.env (.release e'))

variable {cfg mine} {tasks entries waits : Pairing} {s s' t : Proxy} {task task' : Task} {shared shared' : Shared}

theorem SameAct.mono (same : SameAct tasks entries action action') (within : tasks.Within tasks')
    (within' : entries.Within entries') : SameAct tasks' entries' action action' := by
  cases same with
  | start request => exact .start request
  | poll pair reply => exact .poll (within _ _ pair) reply
  | cancel pair => exact .cancel (within _ _ pair)
  | evict key => exact .evict key
  | release pair => exact .release (within' _ _ pair)

theorem Spawned.key (spawned : Spawned cfg shared request shared' task) : task.key = request.key := by
  cases spawned <;> rfl

theorem linked_numbered (links : linked.Holds s) : s.Numbered := links.bounded

namespace Proxy.Mirror

/-- Another key's task moves. -/
theorem foreignReplace (mirror : s.Mirror cfg mine tasks entries waits t) (present : s.tasks index = some task)
    (foreign : ¬ mine task.key) (same : task'.key = task.key)
    (moved : shared.Mirror cfg mine entries waits t.shared) :
    Proxy.Mirror cfg mine tasks entries waits (s.replace index shared task') t := by
  refine ⟨moved, mirror.tasks.frame ?_ ?_⟩
  · intro i other found own
    by_cases here : i = index
    · subst here
      cases found.symm.trans present
      exact absurd own foreign
    · rw [State.replace_other _ _ _ here]
      exact found
  · intro i other found own
    rcases State.replace_tasks found with ⟨_, rfl⟩ | ⟨_, before⟩
    · exact absurd (same ▸ own) foreign
    · exact ⟨other, before, own⟩

/-- Another key's task starts. -/
theorem foreignPush (mirror : s.Mirror cfg mine tasks entries waits t) (numbered : s.Numbered)
    (foreign : ¬ mine task.key) : Proxy.Mirror cfg mine tasks entries waits (s.push task) t := by
  refine ⟨mirror.shared, mirror.tasks.frame ?_ ?_⟩
  · intro i other found own
    rw [State.push_other _ _ (Nat.ne_of_lt (numbered i other found))]
    exact found
  · intro i other found own
    rcases State.push_tasks found with ⟨_, rfl⟩ | ⟨_, before⟩
    · exact absurd own foreign
    · exact ⟨other, before, own⟩

theorem reshare (mirror : s.Mirror cfg mine tasks entries waits t)
    (moved : shared.Mirror cfg mine entries waits t.shared) :
    Proxy.Mirror cfg mine tasks entries waits (s.reshare shared) t := ⟨moved, mirror.tasks⟩

/-- Whatever is done for other keys, the second proxy need not follow. -/
theorem silent (mirror : s.Mirror cfg mine tasks entries waits t) (links : linked.Holds s)
    (formed : s.All (Task.Formed cfg)) (separate : Separate cfg mine)
    (taken : (proxy cfg).step s action = some s') (foreign : Foreign mine s action) :
    s'.Mirror cfg mine tasks entries waits t := by
  have numbered := linked_numbered links
  cases proxy_step taken with
  | @start request shared task spawned =>
    have other : ¬ mine task.key := by
      rw [spawned.key]
      exact foreign
    have moved : Spares cfg mine s.shared shared := by
      cases spawned <;> exact spares_same rfl rfl rfl
    have kept := moved.mirror mirror.shared (spawned.flights ▸ mirror.shared.flights)
    exact (mirror.reshare kept).foreignPush numbered other
  | get present polled =>
    have other := foreign _ present
    have link := links.each _ _ present
    have moves := polled.moves links.global link
    have flights := moves.foreign mirror.shared.flights link other (polled.opens links.global link)
    exact mirror.foreignReplace present other rfl ((polled.spares other).mirror mirror.shared flights)
  | @head index key params at_ reply shared phase spawned present polled =>
    have other := foreign _ present
    have kept := polled.spares.mirror mirror.shared (polled.flights ▸ mirror.shared.flights)
    have moved : Proxy.Mirror cfg mine tasks entries waits (s.replace index shared (.head key params phase)) t :=
      mirror.foreignReplace present other rfl kept
    have child : ¬ mine (Task.prefetch key (.running .acquire)).key := other
    cases spawned with
    | false => exact moved
    | true => exact moved.foreignPush (numbered.replace present _ _) child
  | put present polled =>
    have other := foreign _ present
    have spares := polled.spares separate (formed _ _ present) other
    exact mirror.foreignReplace present other rfl
      (spares.mirror mirror.shared (polled.flights ▸ mirror.shared.flights))
  | prefetch present polled =>
    have other := foreign _ present
    have link := links.each _ _ present
    have moves := polled.moves links.global link
    have flights := moves.foreign mirror.shared.flights link other (polled.opens links.global link)
    exact mirror.foreignReplace present other rfl ((polled.spares other).mirror mirror.shared flights)
  | late present landed =>
    have other := foreign _ present
    have spares := landed.step.spares separate (formed _ _ present) other
    exact mirror.foreignReplace present other rfl
      (spares.mirror mirror.shared (landed.step.flights ▸ mirror.shared.flights))
  | dropGet present =>
    have other := foreign _ present
    have link := links.each _ _ present
    have flights := (dropGet_moves link).foreign mirror.shared.flights link other (dropGet_opens _ _)
    exact mirror.foreignReplace present other rfl ⟨mirror.shared.cache, mirror.shared.upstream,
      mirror.shared.getCalls, flights⟩
  | dropHead present => exact mirror.foreignReplace present (foreign _ present) rfl mirror.shared
  | dropPut present => exact mirror.foreignReplace present (foreign _ present) rfl mirror.shared
  | dropPrefetch present =>
    have other := foreign _ present
    have link := links.each _ _ present
    have flights := (dropPrefetch_moves link).foreign mirror.shared.flights link other (dropPrefetch_opens _ _)
    exact mirror.foreignReplace present other rfl ⟨mirror.shared.cache, mirror.shared.upstream,
      mirror.shared.getCalls, flights⟩
  | evict key =>
    refine ⟨⟨?_, mirror.shared.upstream, mirror.shared.getCalls, mirror.shared.flights⟩, mirror.tasks⟩
    intro name own
    have different : name ≠ key := by
      rintro rfl
      exact foreign own
    simpa [FoyerCache.evict, different] using mirror.shared.cache name own
  | @release key owner present =>
    have frame : Frame s.shared.flights (s.shared.flights.finishRelease owner) (some owner) none :=
      frame_finishRelease links.global present rfl
    have flights := mirror.shared.flights.frame frame ?_ (fun _ _ _ none => by cases none) ?_
    · exact ⟨⟨mirror.shared.cache, mirror.shared.upstream, mirror.shared.getCalls, flights⟩, mirror.tasks⟩
    · rintro e guard ⟨⟩ held
      exact foreign guard held
    · intro e guard later absent own
      have name : guard.key = key := finishRelease_opens links.global present rfl e guard later absent
      exact foreign _ present (show mine key from name ▸ own)

/-- Both sides go on numbering their tasks. -/
theorem below (mirror : s.Mirror cfg mine tasks entries waits t) (numbered : s.Numbered) (numbered' : t.Numbered) :
    tasks.Below s.next t.next := by
  intro i i' pair
  obtain ⟨task, task', present, present', _⟩ := mirror.tasks.same i i' pair
  exact ⟨numbered i task present, numbered' i' task' present'⟩

/-- A pair of tasks moves. -/
theorem replace (mirror : s.Mirror cfg mine tasks entries waits t) (pair : tasks.Pairs i i') (own : mine task.key)
    (within : entries.Within entries') (within' : waits.Within waits')
    (moved : shared.Mirror cfg mine entries' waits' shared') (alike : task.Alike entries' waits' task') :
    Proxy.Mirror cfg mine tasks entries' waits' (s.replace i shared task) (t.replace i' shared' task') :=
  ⟨moved, (mirror.tasks.imp fun _ _ alike => alike.mono within within').update pair own alike⟩

theorem push (mirror : s.Mirror cfg mine tasks entries waits t) (below : tasks.Below s.next t.next)
    (own : mine task.key) (alike : task.Alike entries waits task') :
    Proxy.Mirror cfg mine (tasks.extend below) entries waits (s.push task) (t.push task') :=
  ⟨mirror.shared, mirror.tasks.extend below own alike⟩

end Proxy.Mirror

/-- The second proxy takes the same step. -/
inductive Echoes (cfg : AppConfig) (mine : CacheKey → Prop) (tasks entries : Pairing) (t : Proxy)
    (action : ProxyAction) (s' : Proxy) : Prop
  | intro {tasks' entries' waits' : Pairing} {action' : ProxyAction} {t' : Proxy} (within : tasks.Within tasks')
      (within' : entries.Within entries') (same : SameAct tasks' entries' action action')
      (among : Among mine t action') (taken : (proxy cfg).step t action' = some t')
      (mirror : Proxy.Mirror cfg mine tasks' entries' waits' s' t')

namespace Proxy.Mirror

theorem start (mirror : s.Mirror cfg mine tasks entries waits t) (numbered : s.Numbered) (numbered' : t.Numbered)
    (own : mine request.key) (taken : (proxy cfg).step s (.start request) = some s') :
    Echoes cfg mine tasks entries t (.start request) s' := by
  cases taken
  have below := mirror.below numbered numbered'
  obtain ⟨moved, alike⟩ := spawn_mirror mirror.shared request
  have name := (spawn_step cfg s.shared request).key
  refine .intro (Pairing.within_extend below) (.refl _) (.start request) ?_ rfl ⟨moved, ?_⟩
  · rintro _ ⟨⟩
    exact own
  · exact mirror.tasks.extend below (show mine (Task.spawn cfg s.shared request).2.key from name ▸ own) alike

theorem poll (mirror : s.Mirror cfg mine tasks entries waits t) (links : linked.Holds s) (links' : linked.Holds t)
    (formed : s.All (Task.Formed cfg)) (present : s.tasks index = some task) (own : mine task.key)
    (taken : (proxy cfg).step s (.poll index reply) = some s') :
    Echoes cfg mine tasks entries t (.poll index reply) s' := by
  obtain ⟨_, shared, moved, child, found, polled, rfl⟩ := Program.step_poll taken
  cases found.symm.trans present
  obtain ⟨index', pair⟩ := mirror.tasks.covered index task present own
  obtain ⟨task', present', _, alike⟩ := mirror.tasks.same.found pair present
  have served : Task.poll cfg s.shared task reply = some (shared, moved, child) := polled
  have both := served ▸ poll_mirror mirror.shared links.global links'.global own alike
    (links.each index task present) (formed index task present)
  obtain ⟨⟨shared', moved', child'⟩, polled', entries', waits', within, within', agree, name, alike', left,
    spawned⟩ := rel_found both
  obtain rfl : child' = child := left
  have next : (proxy cfg).step t (.poll index' reply) = _ := Program.step_of_poll present' polled'
  have replaced := mirror.replace pair (name ▸ own) within within' agree alike'
  have among : Among mine t (.poll index' reply) := by
    rintro _ ⟨⟩
  rcases spawned with childless | prefetch
  · obtain rfl : child' = none := childless
    exact .intro (.refl _) within (.poll pair reply) among next replaced
  · obtain rfl : child' = some (.prefetch task.key (.running .acquire)) := prefetch
    have below := replaced.below ((linked_numbered links).replace present _ _)
      ((linked_numbered links').replace present' _ _)
    have onward := Pairing.within_extend below
    exact .intro onward within (.poll (onward _ _ pair) reply) among next
      (replaced.push below own (.prefetch (.running .acquire)))

theorem cancel (mirror : s.Mirror cfg mine tasks entries waits t) (present : s.tasks index = some task)
    (own : mine task.key) (taken : (proxy cfg).step s (.cancel index) = some s') :
    Echoes cfg mine tasks entries t (.cancel index) s' := by
  obtain ⟨_, shared, moved, found, dropped, rfl⟩ := Program.step_cancel taken
  cases found.symm.trans present
  obtain ⟨index', pair⟩ := mirror.tasks.covered index task present own
  obtain ⟨task', present', _, alike⟩ := mirror.tasks.same.found pair present
  have both := drop_mirror mirror.shared alike
  rw [show Task.drop s.shared task = some (shared, moved) from dropped] at both
  obtain ⟨⟨shared', moved'⟩, dropped', agree, name, alike'⟩ := rel_found both
  have next : (proxy cfg).step t (.cancel index') = _ := Program.step_of_cancel present' dropped'
  refine .intro (.refl _) (.refl _) (.cancel pair) ?_ next
    (mirror.replace pair (show mine moved.key from name ▸ own) (.refl _) (.refl _) agree alike')
  rintro _ ⟨⟩

theorem evict (mirror : s.Mirror cfg mine tasks entries waits t) (key : CacheKey) :
    Echoes cfg mine tasks entries t (.env (.evict key))
      (s.reshare { s.shared with cache := s.shared.cache.evict key }) := by
  refine .intro (.refl _) (.refl _) (.evict key) ?_ rfl
    ⟨⟨?_, mirror.shared.upstream, mirror.shared.getCalls, mirror.shared.flights⟩, mirror.tasks⟩
  · rintro _ ⟨⟩
  · intro name own
    by_cases same : name = key
    · simp [FoyerCache.evict, same]
    · simpa [FoyerCache.evict, same] using mirror.shared.cache name own

theorem release (mirror : s.Mirror cfg mine tasks entries waits t) (links : linked.Holds s) (links' : linked.Holds t)
    (present : s.shared.flights.guards e = some ⟨key, .dropped⟩) (own : mine key) :
    Echoes cfg mine tasks entries t (.env (.release e))
      (s.reshare { s.shared with flights := s.shared.flights.finishRelease e }) := by
  obtain ⟨e', pair⟩ := mirror.shared.flights.guards.covered e _ present own
  obtain ⟨_, present', _, rfl⟩ := mirror.shared.flights.guards.same.found pair present
  have moved := mirror.shared.flights.finishRelease links.global links'.global pair ?_
  · have next : (proxy cfg).step t (.env (.release e')) =
        some (t.reshare { t.shared with flights := t.shared.flights.finishRelease e' }) := by
      simp only [Program.step, proxy, Shared.env, present', Option.map_some]
    refine .intro (.refl _) (.refl _) (.release pair) ?_ next ⟨mirror.shared.reflight moved, mirror.tasks⟩
    rintro _ ⟨⟩
  · intro guard held
    cases held.symm.trans present
    rfl

/-- Whatever is done for these keys, the second proxy does as well. -/
theorem echo (mirror : s.Mirror cfg mine tasks entries waits t) (links : linked.Holds s) (links' : linked.Holds t)
    (formed : s.All (Task.Formed cfg)) (taken : (proxy cfg).step s action = some s')
    (own : ¬ Foreign mine s action) : Echoes cfg mine tasks entries t action s' := by
  cases action with
  | start request => exact mirror.start (linked_numbered links) (linked_numbered links') (not_not.mp own) taken
  | poll index reply =>
    simp only [Foreign, not_forall, not_not] at own
    obtain ⟨task, present, own⟩ := own
    exact mirror.poll links links' formed present own taken
  | cancel index =>
    simp only [Foreign, not_forall, not_not] at own
    obtain ⟨task, present, own⟩ := own
    exact mirror.cancel present own taken
  | env event =>
    cases proxy_step taken with
    | evict key => exact mirror.evict key
    | release owner present =>
      simp only [Foreign, not_forall, not_not] at own
      obtain ⟨guard, held, own⟩ := own
      cases held.symm.trans present
      exact mirror.release links links' present own

end Proxy.Mirror

/-- The second past is the first without what was done for other keys. -/
inductive Replays (mine : CacheKey → Prop) (tasks entries : Pairing) : ProxyPast → ProxyPast → Prop
  | nil : Replays mine tasks entries [] []
  | own {source target : Proxy} (same : SameAct tasks entries action action')
      (earlier : Replays mine tasks entries past past') :
      Replays mine tasks entries ((source, action) :: past) ((target, action') :: past')
  | other {source : Proxy} (foreign : Foreign mine source action)
      (earlier : Replays mine tasks entries past past') :
      Replays mine tasks entries ((source, action) :: past) past'

theorem Replays.mono {past past' : ProxyPast} (replays : Replays mine tasks entries past past')
    (within : tasks.Within tasks') (within' : entries.Within entries') :
    Replays mine tasks' entries' past past' := by
  induction replays with
  | nil => exact .nil
  | own same _ ih => exact .own (same.mono within within') ih
  | other foreign _ ih => exact .other foreign ih

end Pool

section Runs

variable {cfg : AppConfig} {mine : CacheKey → Prop} {upstream upstream' : ObjectId → Option Bytes}
variable {cache cache' : FoyerCache}

/-- Before the first request two proxies agree on these keys if their stores and
their caches do. -/
theorem mirror_initial
    (stored : ∀ key object, mine key → cfg.object key = some object → upstream' object = upstream object)
    (cached : ∀ key, mine key → cache'.entries key = cache.entries key) :
    Proxy.Mirror cfg mine .empty .empty .empty (Proxy.initial upstream cache) (Proxy.initial upstream' cache') where
  shared := ⟨cached, stored, fun _ _ => rfl, mirror_new mine⟩
  tasks := by
    refine .empty ?_ fun _ => rfl
    intro i task present
    cases present

/-- The second proxy keeps up with the first. -/
theorem mirror_history (separate : Separate cfg mine)
    (stored : ∀ key object, mine key → cfg.object key = some object → upstream' object = upstream object)
    (cached : ∀ key, mine key → cache'.entries key = cache.entries key)
    (history : (proxy cfg).system.History System.Always (Proxy.initial upstream cache) past s) :
    ∃ tasks entries waits past' t,
      (proxy cfg).system.History (Among mine) (Proxy.initial upstream' cache') past' t ∧
        Replays mine tasks entries past past' ∧ Proxy.Mirror cfg mine tasks entries waits s t := by
  induction history with
  | nil => exact ⟨_, _, _, [], _, .nil, .nil, mirror_initial stored cached⟩
  | @snoc past source action target prior _ taken ih =>
    obtain ⟨tasks, entries, waits, past', t, history', replays, mirror⟩ := ih
    have links := linked_reaches prior.reaches
    have formed := formed_reaches prior.reaches
    by_cases foreign : Foreign mine source action
    · exact ⟨tasks, entries, waits, past', t, history', .other foreign replays,
        mirror.silent links formed separate taken foreign⟩
    · obtain ⟨within, within', same, among, taken', mirror'⟩ :=
        mirror.echo links (linked_reaches history'.reaches) formed taken foreign
      exact ⟨_, _, _, _, _, history'.snoc among taken', .own same (replays.mono within within'), mirror'⟩

theorem Task.Alike.answer {entries waits : Pairing} {task task' : Task} (alike : task.Alike entries waits task') :
    task'.answer? = task.answer? := by
  cases alike with
  | head => rfl
  | get same | put same | prefetch same => cases same <;> rfl

end Runs

/-- Taking out of a run all requests for other keys, and whatever else the stores
and the cache held for these, leaves a run in which the requests for these keys
take the same steps to the same answers, on the same cache entries and objects. -/
theorem keys_independent (cfg : AppConfig) (mine : CacheKey → Prop) (separate : Separate cfg mine)
    (upstream upstream' : ObjectId → Option Bytes) (cache cache' : FoyerCache)
    (stored : ∀ key object, mine key → cfg.object key = some object → upstream' object = upstream object)
    (cached : ∀ key, mine key → cache'.entries key = cache.entries key) (past : ProxyPast) (s : Proxy)
    (history : (proxy cfg).system.History System.Always (Proxy.initial upstream cache) past s) :
    ∃ tasks entries waits past' t,
      (proxy cfg).system.History (Among mine) (Proxy.initial upstream' cache') past' t ∧
      Replays mine tasks entries past past' ∧
      (∀ i task, s.tasks i = some task → mine task.key → ∃ i' task', tasks.Pairs i i' ∧
        t.tasks i' = some task' ∧ task.Alike entries waits task' ∧ task'.answer? = task.answer?) ∧
      (∀ i' task', t.tasks i' = some task' → ∃ i task, tasks.Pairs i i' ∧ s.tasks i = some task ∧ mine task.key) ∧
      ∀ key, mine key → t.shared.cache.entries key = s.shared.cache.entries key ∧
        t.shared.getCalls key = s.shared.getCalls key ∧
        ∀ object, cfg.object key = some object → t.shared.upstream object = s.shared.upstream object := by
  obtain ⟨tasks, entries, waits, past', t, history', replays, mirror⟩ :=
    mirror_history separate stored cached history
  refine ⟨tasks, entries, waits, past', t, history', replays, ?_, ?_, ?_⟩
  · intro i task present own
    obtain ⟨i', pair⟩ := mirror.tasks.covered i task present own
    obtain ⟨task', present', _, alike⟩ := mirror.tasks.same.found pair present
    exact ⟨i', task', pair, present', alike, alike.answer⟩
  · intro i' task' present'
    obtain ⟨i, pair⟩ := mirror.tasks.only i' task' present'
    obtain ⟨task, _, present, _, own, _⟩ := mirror.tasks.same i i' pair
    exact ⟨i, task, pair, present, own⟩
  · intro key own
    exact ⟨mirror.shared.cache key own, mirror.shared.getCalls key own,
      fun object => mirror.shared.upstream key object own⟩

private def bothStored (_ : ObjectId) : Option Bytes := some [7]

private def oneStored (object : ObjectId) : Option Bytes := if object.location = "p" then some [7] else none

/-- A GET in between two requests for another key is answered as it is alone, without
the other object. -/
theorem keys_independent_between :
    ∃ past' t i' task', (proxy (.single "b" 4 .unknown)).system.History (Among (· = ⟨"b", "p"⟩))
        (Proxy.initial oneStored .empty) past' t ∧ t.tasks i' = some task' ∧
      task'.answer? = some (.get ⟨"b", "p"⟩,
        .ok (buildResponse ⟨[7], some (resolveContentType .unknown "p" [7])⟩ false)) := by
  have replayed : (proxy (.single "b" 4 .unknown)).system.run (Proxy.initial bothStored .empty)
      [.start (.get ⟨"b", "q"⟩), .poll 0 .ready, .poll 0 .ready, .start (.get ⟨"b", "p"⟩), .poll 1 .ready,
        .poll 1 .ready, .poll 0 .ready, .poll 1 .ready, .start (.put ⟨⟨"b", "q"⟩, ⟨none, none⟩, [[2]]⟩),
        .poll 1 .ready, .cancel 0, .poll 2 .ready, .poll 1 .ready, .env (.evict ⟨"b", "q"⟩), .poll 1 .ready,
        .poll 1 .ready] = some _ := rfl
  obtain ⟨past, history⟩ := (System.reaches_of_run replayed).history
  have separate : Separate (.single "b" 4 .unknown) (· = ⟨"b", "p"⟩) := by
    rintro key other object rfl known known'
    exact AppConfig.single_injective known' known
  obtain ⟨_, _, _, past', t, history', _, kept, _⟩ := keys_independent (.single "b" 4 .unknown) (· = ⟨"b", "p"⟩)
    separate bothStored oneStored .empty .empty
    (by
      rintro key object rfl known
      cases known
      rfl)
    (fun _ _ => rfl) past _ history
  obtain ⟨i', task', _, present', _, same⟩ := kept 1 _ rfl rfl
  exact ⟨past', t, i', task', history', present', same⟩

end Cachegate
