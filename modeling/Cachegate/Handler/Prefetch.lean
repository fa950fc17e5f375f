import Cachegate.Handler.Head
import Cachegate.Handler.Solo
import Cachegate.Inflight.Verdict

/-! The prefetch task that a HEAD may leave behind. It is no follower: it leads
its key's flight or ends at once. What it caches it has read from the store, and
its flight is released however it ends. -/

namespace Cachegate

open Transition TaskPool Inflight

/-- A step of a prefetch task: a segment of it, or the drop of it. -/
inductive PrefetchMove (cfg : AppConfig) (key : CacheKey) (index : Nat) (s : Shared) :
    Phase PrefetchAwait Unit → ProxyAction → Shared → Phase PrefetchAwait Unit → Prop
  | polled (step : PrefetchStep cfg key s at_ reply s' phase) :
      PrefetchMove cfg key index s (.running at_) (.poll index reply) s' phase
  | dropped : PrefetchMove cfg key index s (.running at_) (.cancel index)
      { s with flights := s.flights.dropPrefetch at_ } (.dropped at_)

/-- The prefetch task has read these bytes, from its own key's object. -/
def PrefetchRead (cfg : AppConfig) (key : CacheKey) (index : Nat) (past : ProxyPast) (data : Bytes) : Prop :=
  ∃ source guard object, (source, .poll index .ready) ∈ past ∧ cfg.object key = some object ∧
    source.tasks index = some (.prefetch key (.running (.leader guard (.fetch (.get object))))) ∧
    source.shared.upstream object = some data

/-- What the past of a prefetch task says at each stage of its fetch. -/
def FetchAwait.Brings (cfg : AppConfig) (key : CacheKey) (index : Nat) (past : ProxyPast) : FetchAwait → Prop
  | .get object => cfg.object key = some object
  | .missing _ => True
  | .bytes _ data | .put data _ => PrefetchRead cfg key index past data

def PrefetchAwait.Brings (cfg : AppConfig) (key : CacheKey) (index : Nat) (past : ProxyPast) : PrefetchAwait → Prop
  | .leader _ (.fetch stage) => stage.Brings cfg key index past
  | .leader _ (.store _) | .leader _ (.release _) | .acquire => True

/-- What a step of a prefetch task leaves behind: at most the bytes it has read,
under its own key. -/
structure PrefetchDid (cfg : AppConfig) (key : CacheKey) (index : Nat) (past : ProxyPast)
    (source next : Proxy) : Prop where
  upstream : next.shared.upstream = source.shared.upstream
  cache : next.shared.cache = source.shared.cache ∨ ∃ data contentType, PrefetchRead cfg key index past data ∧
    next.shared.cache = source.shared.cache.put key data contentType

section Inserts

variable {cfg : AppConfig} {key : CacheKey} {index : Nat} {past : ProxyPast} {latest : Proxy × ProxyAction}
variable {s t : Proxy} {shared shared' : Shared} {phase phase' : Phase PrefetchAwait Unit} {data : Bytes}
variable {guard : EntryId}

theorem PrefetchRead.mono (read : PrefetchRead cfg key index past data) :
    PrefetchRead cfg key index (latest :: past) data := by
  obtain ⟨source, guard, object, listed, found⟩ := read
  exact ⟨source, guard, object, List.mem_cons_of_mem _ listed, found⟩

theorem PrefetchAwait.Brings.mono {at_ : PrefetchAwait} (brings : at_.Brings cfg key index past) :
    at_.Brings cfg key index (latest :: past) := by
  match at_ with
  | .leader _ (.fetch (.get _)) => exact brings
  | .leader _ (.fetch (.missing _)) | .leader _ (.store _) | .leader _ (.release _) | .acquire => trivial
  | .leader _ (.fetch (.bytes _ _)) | .leader _ (.fetch (.put _ _)) => exact PrefetchRead.mono brings

theorem PrefetchDid.mono (did : PrefetchDid cfg key index past s t) :
    PrefetchDid cfg key index (latest :: past) s t := by
  refine ⟨did.upstream, did.cache.imp_right ?_⟩
  rintro ⟨data, contentType, read, put⟩
  exact ⟨data, contentType, read.mono, put⟩

theorem prefetch_move (present : s.tasks index = some (.prefetch key phase))
    (taken : (proxy cfg).step s action = some t) (touches : action.Touches index) :
    ∃ shared phase', PrefetchMove cfg key index s.shared phase action shared phase' ∧
      t = s.replace index shared (.prefetch key phase') := by
  cases proxy_step taken with
  | prefetch found polled =>
    cases touches
    cases found.symm.trans present
    exact ⟨_, _, .polled polled, rfl⟩
  | dropPrefetch found =>
    cases touches
    cases found.symm.trans present
    exact ⟨_, _, .dropped, rfl⟩
  | get found | head found | put found | late found | dropGet found | dropHead found | dropPut found =>
    cases touches
    cases found.symm.trans present
  | start | evict | release => exact touches.elim

theorem FetchStep.brings (step : FetchStep cfg key method s.shared stage reply shared (.inl stage'))
    (present : s.tasks index = some (.prefetch key (.running (.leader guard (.fetch stage)))))
    (brings : stage.Brings cfg key index past) :
    stage'.Brings cfg key index ((s, .poll index reply) :: past) := by
  cases step with
  | got stored => exact ⟨s, guard, _, List.mem_cons_self, brings, present, stored⟩
  | absent => trivial
  | read => exact PrefetchRead.mono brings

theorem LeaderStart.brings (start : LeaderStart cfg key guard shared shared' stage) :
    (PrefetchAwait.leader guard stage).Brings cfg key index past := by
  cases start with
  | fetch started =>
    cases started with
    | called known => exact known
  | complete => trivial

theorem PrefetchMove.brings (move : PrefetchMove cfg key index s.shared phase action shared phase')
    (present : s.tasks index = some (.prefetch key phase))
    (brings : ∀ at_, phase = .running at_ → at_.Brings cfg key index past) :
    ∀ at_, phase' = .running at_ → at_.Brings cfg key index ((s, action) :: past) := by
  cases move with
  | dropped => exact nofun
  | polled step =>
    cases step with
    | follow | led => exact nofun
    | lead acquired started =>
      rintro at_ ⟨⟩
      exact started.brings
    | leader led =>
      rintro at_ ⟨⟩
      cases led with
      | fetch fetched => exact fetched.brings present (brings _ rfl)
      | complete | store => trivial

theorem prefetch_inserts {at_ : PrefetchAwait} {inserted : CacheKey}
    (inserts : (Task.prefetch key (.running at_)).inserts? = some (inserted, data)) :
    key = inserted ∧ ∃ guard contentType, at_ = .leader guard (.fetch (.put data contentType)) := by
  cases at_ with
  | acquire => cases inserts
  | leader guard stage =>
    obtain ⟨same, contentType, rfl⟩ := LeaderAwait.inserts_put inserts
    exact ⟨same, guard, contentType, rfl⟩

theorem PrefetchMove.did (move : PrefetchMove cfg key index s.shared phase action shared phase')
    (brings : ∀ at_, phase = .running at_ → at_.Brings cfg key index past) :
    shared.upstream = s.shared.upstream ∧ (shared.cache = s.shared.cache ∨
      ∃ data contentType, PrefetchRead cfg key index past data ∧
        shared.cache = s.shared.cache.put key data contentType) := by
  cases move with
  | dropped => exact ⟨rfl, .inl rfl⟩
  | @polled at_ _ _ _ step =>
    refine ⟨step.untouched.upstream, ?_⟩
    rcases step.caches with same | ⟨_, data, contentType, inserts, _, put⟩
    · exact .inl same
    · obtain ⟨rfl, guard, named, rfl⟩ := prefetch_inserts inserts
      exact .inr ⟨data, contentType, brings _ rfl, put⟩

/-- A prefetch task along any run: what each of its steps left behind. -/
theorem prefetch_history (present : s.tasks index = some (.prefetch key (.running .acquire)))
    (bounded : index < s.next) (history : (proxy cfg).system.History System.Always s past t) :
    (proxy cfg).OwnSteps past index (PrefetchDid cfg key index past) := by
  have followed := Program.followSteps (PrefetchDid cfg key index)
    (motive := fun past _ task => ∃ phase, task = .prefetch key phase ∧
      ∀ at_, phase = .running at_ → at_.Brings cfg key index past)
    history bounded present ⟨_, rfl, ?_⟩ (fun _ _ _ _ => PrefetchDid.mono) ?_ ?_
  · obtain ⟨_, _, _, _, steps⟩ := followed
    exact steps
  · rintro at_ ⟨⟩
    trivial
  · rintro past source next action _ ⟨phase, rfl, brings⟩ _ _ _ _
    exact ⟨phase, rfl, fun at_ running => (brings at_ running).mono⟩
  · rintro past source next action _ ⟨phase, rfl, brings⟩ _ present taken touches
    obtain ⟨shared, phase', move, rfl⟩ := prefetch_move present taken touches
    obtain ⟨upstream, cache⟩ := move.did brings
    have did : PrefetchDid cfg key index past source (source.replace index shared (.prefetch key phase')) :=
      ⟨upstream, cache⟩
    exact ⟨_, State.replace_self .., ⟨phase', rfl, move.brings present brings⟩, did.mono⟩

end Inserts

/-- A prefetch task that finds a flight for its key has a step, which ends it.
It has fetched nothing then, and waits for nothing. -/
structure PrefetchSkips (cfg : AppConfig) (key : CacheKey) (index : Nat) (s : Proxy) : Prop where
  ready : ∃ t, (proxy cfg).step s (.poll index .ready) = some t
  ends : ∀ reply t, (proxy cfg).step s (.poll index reply) = some t →
    ∀ labels u, (proxy cfg).system.run t labels = some u → u.tasks index = some (.prefetch key (.returned ()))
  idle : ∀ reply t, (proxy cfg).step s (.poll index reply) = some t →
    t.shared.getCalls = s.shared.getCalls ∧ t.shared.cache = s.shared.cache ∧
      t.shared.upstream = s.shared.upstream ∧ t.shared.flights.inner = s.shared.flights.inner ∧
      t.shared.flights.guards = s.shared.flights.guards ∧ t.shared.flights.waits = s.shared.flights.waits

/-- The steps that bring a flight to its release: its task's own, and that of
the task spawned by its guard when it was dropped. -/
def releasing (index : Nat) (e : EntryId) : ProxyAction → Bool
  | .poll i _ => i == index
  | .env (.release guard) => guard == e
  | .env (.evict _) | .start _ | .cancel _ => false

/-- The release of this entry has run, and no key is mapped to it. -/
structure FlightReleased (e : EntryId) (s : Proxy) : Prop where
  finished : ∃ key, s.shared.flights.guards e = some ⟨key, .finished⟩
  unmapped : ∀ key, s.shared.flights.inner key ≠ some e

/-- How far a prefetch that has led is from the release of its flight. -/
inductive ReleaseIn (cfg : AppConfig) (key : CacheKey) (e : EntryId) (index : Nat) (s : Proxy) : Nat → Prop
  | leading (present : s.tasks index = some (.prefetch key (.running (.leader e stage)))) :
      ReleaseIn cfg key e index s stage.ahead
  | dropped (present : s.tasks index = some task) (ended : (proxy cfg).Ended task)
      (held : s.shared.flights.guards e = some ⟨key, .dropped⟩) : ReleaseIn cfg key e index s 1
  | released (present : s.tasks index = some task) (ended : (proxy cfg).Ended task)
      (finished : s.shared.flights.guards e = some ⟨key, .finished⟩) : ReleaseIn cfg key e index s 0

section Release

variable {cfg : AppConfig} {key : CacheKey} {e : EntryId} {index n : Nat} {s t : Proxy}

theorem prefetch_returned (cfg : AppConfig) (key : CacheKey) :
    (proxy cfg).Ended (.prefetch key (.returned ())) :=
  ⟨fun _ _ => rfl, fun _ => rfl⟩

theorem prefetch_dropped (cfg : AppConfig) (key : CacheKey) (at_ : PrefetchAwait) :
    (proxy cfg).Ended (.prefetch key (.dropped at_)) :=
  ⟨fun _ _ => rfl, fun _ => rfl⟩

theorem prefetch_enabled (cfg : AppConfig) {at_ : PrefetchAwait}
    (present : s.tasks index = some (.prefetch key (.running at_))) :
    ∃ t, (proxy cfg).step s (.poll index .ready) = some t := by
  have ready := prefetchPoll_ready cfg s.shared key at_
  exact Program.poll_enabled present (by simpa [proxy, Task.poll] using ready)

theorem prefetchSkips_of_mapped (present : s.tasks index = some (.prefetch key (.running .acquire)))
    (bounded : index < s.next) (mapped : s.shared.flights.inner key = some e) : PrefetchSkips cfg key index s := by
  have follows (reply : Reply) (t : Proxy) (taken : (proxy cfg).step s (.poll index reply) = some t) :
      t = s.replace index { s.shared with flights := (s.shared.flights.acquire key).2 }
        (.prefetch key (.returned ())) := by
    obtain ⟨shared, phase, move, rfl⟩ := prefetch_move present taken rfl
    cases move with
    | polled step =>
      cases step with
      | lead acquired => simp [acquire, mapped] at acquired
      | follow acquired => rw [acquired]
  refine ⟨prefetch_enabled cfg present, ?_, ?_⟩
  · intro reply t taken labels u replayed
    have ended := follows reply t taken
    subst ended
    exact (prefetch_returned cfg key).reaches (System.reaches_of_run replayed) bounded (State.replace_self ..)
  · intro reply t taken
    have ended := follows reply t taken
    subst ended
    simp [acquire, mapped]

theorem ReleaseIn.enabled (release : ReleaseIn cfg key e index s n) (owned : s.shared.flights.Owned) :
    FlightReleased e s ∨
      (∃ action t, releasing index e action = true ∧ (proxy cfg).step s action = some t) ∧ 0 < n := by
  cases release with
  | leading present =>
    obtain ⟨t, taken⟩ := prefetch_enabled cfg present
    exact .inr ⟨⟨.poll index .ready, t, beq_self_eq_true index, taken⟩, LeaderAwait.ahead_pos _⟩
  | dropped present ended held =>
    have taken : (proxy cfg).step s (.env (.release e)) =
        some (s.reshare { s.shared with flights := s.shared.flights.finishRelease e }) := by
      simp only [Program.step, proxy, Shared.env, held, Option.map_some]
    exact .inr ⟨⟨.env (.release e), _, beq_self_eq_true e, taken⟩, Nat.one_pos⟩
  | released present ended finished =>
    refine .inl ⟨⟨key, finished⟩, ?_⟩
    intro other mapped
    obtain ⟨guard, found, _, unreleased⟩ := (owned.mapped other e).mp mapped
    cases finished.symm.trans found
    cases unreleased

theorem releasing_cases (releases : releasing index e action = true) :
    action.Touches index ∨ action = .env (.release e) := by
  unfold releasing at releases
  split at releases
  · exact .inl (beq_iff_eq.mp releases)
  · exact .inr (by rw [beq_iff_eq.mp releases])
  all_goals cases releases

/-- Only a dropped guard's flight is released by a task of its own. -/
theorem release_step (links : linked.Holds s) (taken : (proxy cfg).step s (.env (.release e)) = some t) :
    ∃ key, s.shared.flights.guards e = some ⟨key, .dropped⟩ ∧
      t.shared.flights.guards e = some ⟨key, .finished⟩ := by
  cases proxy_step taken with
  | @release key _ present =>
    refine ⟨key, present, ?_⟩
    simp [links.global.finishRelease_eq present rfl]

/-- Its own step brings the flight of a leading prefetch nearer to its release. -/
theorem ReleaseIn.lead (present : s.tasks index = some (.prefetch key (.running (.leader e stage))))
    (links : linked.Holds s) (taken : (proxy cfg).step s action = some t) (touches : action.Touches index) :
    ∃ m, m ≤ stage.ahead ∧ ReleaseIn cfg key e index t m ∧ (releasing index e action = true → m < stage.ahead) := by
  have leads : Leads s.shared.flights key e stage := links.each index _ present
  obtain ⟨shared, phase, move, rfl⟩ := prefetch_move present taken touches
  cases move with
  | polled step =>
    cases step with
    | leader led =>
      have less := led.ahead
      exact ⟨_, Nat.le_of_lt less, .leading (State.replace_self ..), fun _ => less⟩
    | led led =>
      obtain ⟨rfl, rfl, _⟩ := led.ends links.global leads
      refine ⟨0, Nat.zero_le _, ?_, fun _ => Nat.one_pos⟩
      refine .released (State.replace_self ..) (prefetch_returned cfg key) ?_
      simp [links.global.finishRelease_eq leads.present rfl]
  | dropped =>
    refine ⟨1, LeaderAwait.ahead_pos stage, ?_, nofun⟩
    refine .dropped (State.replace_self ..) (prefetch_dropped cfg key _) ?_
    simp [dropPrefetch, dropGuard, setPhase_guards leads.present]

theorem ReleaseIn.step (release : ReleaseIn cfg key e index s n) (links : linked.Holds s)
    (taken : (proxy cfg).step s action = some t) :
    ∃ m, m ≤ n ∧ ReleaseIn cfg key e index t m ∧ (releasing index e action = true → m < n) := by
  cases release with
  | @leading stage present =>
    by_cases touches : action.Touches index
    · exact ReleaseIn.lead present links taken touches
    · have leads : Leads s.shared.flights key e stage := links.each index _ present
      have kept := (Program.step_other taken touches (links.bounded _ _ present)).trans present
      refine ⟨stage.ahead, Nat.le_refl _, .leading kept, ?_⟩
      intro releases
      rcases releasing_cases releases with own | rfl
      · exact absurd own touches
      · obtain ⟨_, held, _⟩ := release_step links taken
        cases stage <;> cases held.symm.trans leads.present
  | dropped present ended held =>
    have untouched : ¬ action.Touches index := ended.untouched present taken
    have kept := (Program.step_other taken untouched (links.bounded _ _ present)).trans present
    rcases dropped_run links.global held (flights_step links taken).1 with waiting | finished
    · refine ⟨1, Nat.le_refl _, .dropped kept ended waiting, ?_⟩
      intro releases
      rcases releasing_cases releases with own | rfl
      · exact absurd own untouched
      · obtain ⟨_, _, after⟩ := release_step links taken
        cases waiting.symm.trans after
    · exact ⟨0, Nat.zero_le _, .released kept ended finished, fun _ => Nat.one_pos⟩
  | released present ended finished =>
    have untouched : ¬ action.Touches index := ended.untouched present taken
    have kept := (Program.step_other taken untouched (links.bounded _ _ present)).trans present
    have finished' := finished_run links.global finished (flights_step links taken).1
    refine ⟨0, Nat.le_refl _, .released kept ended finished', ?_⟩
    intro releases
    rcases releasing_cases releases with own | rfl
    · exact absurd own untouched
    · obtain ⟨_, held, _⟩ := release_step links taken
      cases finished.symm.trans held

theorem assures_release (reach : (proxy cfg).system.Reaches System.Always (Proxy.initial upstream cache) s)
    (present : s.tasks index = some (.prefetch key (.running (.leader e stage)))) :
    (proxy cfg).system.Assures (releasing index e) (FlightReleased e) s := by
  apply System.Assures.of_rank (fun s n => linked.Holds s ∧ ReleaseIn cfg key e index s n)
    ⟨linked_reaches reach, .leading present⟩
  · rintro state n ⟨links, release⟩
    exact release.enabled links.global
  · rintro source action next n ⟨links, release⟩ taken
    obtain ⟨m, least, release', less⟩ := release.step links taken
    exact ⟨m, least, ⟨linked_step links taken, release'⟩, less⟩

end Release

/-- A HEAD request and the prefetch that it may leave behind, from any state on
and whatever the other tasks do. -/
structure HeadSound (cfg : AppConfig) (s : Proxy) : Prop where
  readOnly : ∀ key params s₁ past t, (proxy cfg).step s (.start (.head key params)) = some s₁ →
    (proxy cfg).system.History System.Always s₁ past t → ¬ PrefetchOn params →
    LeavesNoTrace cfg s s₁ past t ∧
      (proxy cfg).OwnSteps past s.next fun source next =>
        OnlyReads source.shared next.shared ∧ next.next = source.next
  answer : ∀ key params params' s₁ s₁' labels t result,
    (proxy cfg).step s (.start (.head key params)) = some s₁ →
    (proxy cfg).step s (.start (.head key params')) = some s₁' →
    (proxy cfg).system.run s₁ labels = some t → HeadReturned t s.next result →
    AnswersAlike cfg s₁ s₁' labels s.next result
  grounds : ∀ key params s₁ past t, (proxy cfg).step s (.start (.head key params)) = some s₁ →
    (proxy cfg).system.History System.Always s₁ past t →
    (proxy cfg).OwnSteps past s.next (HeadDid cfg key params s.next past)
  follows : ∀ key index e, s.tasks index = some (.prefetch key (.running .acquire)) → index < s.next →
    s.shared.flights.inner key = some e → PrefetchSkips cfg key index s
  inserts : ∀ key index past t, s.tasks index = some (.prefetch key (.running .acquire)) → index < s.next →
    (proxy cfg).system.History System.Always s past t →
    (proxy cfg).OwnSteps past index (PrefetchDid cfg key index past)
  releases : ∀ upstream cache key index e stage,
    (proxy cfg).system.Reaches System.Always (Proxy.initial upstream cache) s →
    s.tasks index = some (.prefetch key (.running (.leader e stage))) →
    (proxy cfg).system.Assures (releasing index e) (FlightReleased e) s

theorem headSound (cfg : AppConfig) (s : Proxy) : HeadSound cfg s where
  readOnly := by
    intro key params s₁ past t started history off
    obtain ⟨_, spawned, _, _⟩ := step_start started
    have steps := head_history started history
    have own : OwnTraceless cfg past s.next := steps.imp fun _ _ did => did.reads.toTraceless
    refine ⟨own.leaves spawned.traceless history, steps.imp ?_⟩
    intro source next did
    refine ⟨did.reads, ?_⟩
    by_contra left
    exact off (did.child left).1
  answer := by
    intro key params params' s₁ s₁' labels t result started started' replayed answers
    exact alike_of_start started started' replayed answers
  grounds := by
    intro key params s₁ past t started history
    exact head_history started history
  follows := by
    intro key index e present bounded mapped
    exact prefetchSkips_of_mapped present bounded mapped
  inserts := by
    intro key index past t present bounded history
    exact prefetch_history present bounded history
  releases := by
    intro upstream cache key index e stage reach present
    exact assures_release reach present

/-- A HEAD that asks for a prefetch answers first; then the object is cached. -/
theorem headSound_prefetched :
    ∃ s₁ past t, (proxy (.single "b" 4 .unknown)).system.History System.Always s₁ past t ∧
      (proxy (.single "b" 4 .unknown)).OwnSteps past 0
        (HeadDid (.single "b" 4 .unknown) ⟨"b", "p"⟩ [("prefetch", "TRUE")] 0 past) ∧
      (t.tasks 0).any (fun | .head _ _ (.returned (.ok response)) => response.status == .ok | _ => false) ∧
      (t.shared.cache.entries ⟨"b", "p"⟩).map CacheEntry.bytes = some [9] ∧
      t.shared.flights.inner ⟨"b", "p"⟩ = none := by
  let start : Proxy := Proxy.initial (fun _ => some [9]) .empty
  have started : (proxy (.single "b" 4 .unknown)).step start (.start (.head ⟨"b", "p"⟩ [("prefetch", "TRUE")])) =
      some _ := rfl
  have replayed : (proxy (.single "b" 4 .unknown)).system.run
      (((proxy (.single "b" 4 .unknown)).step start (.start (.head ⟨"b", "p"⟩ [("prefetch", "TRUE")]))).getD start)
      [.poll 0 .ready, .poll 0 .ready, .poll 0 .ready, .poll 1 .ready, .poll 1 .ready, .poll 1 .ready,
        .poll 1 .ready, .poll 1 .ready, .poll 1 .ready] = some _ := rfl
  obtain ⟨past, history⟩ := (System.reaches_of_run replayed).history
  exact ⟨_, past, _, history, (headSound _ start).grounds _ _ _ _ _ started history, rfl, by decide, rfl⟩

end Cachegate
