import Cachegate.Handler.Coherence
import Cachegate.Handler.Found

/-! A GET that starts after a write-once PUT was answered. It asks the store
itself, or takes what another flight found, and that flight may have looked
before the PUT committed. -/

namespace Cachegate

open Transition TaskPool Inflight

/-- The flight of this entry has not failed, and its leader is on no way to it. -/
def Unfailed (s : Proxy) (e : EntryId) : Prop :=
  (s.shared.flights.entries e).result.all Except.isOk = true ∧
    ∀ i < s.next, ∀ task ∈ s.tasks i, task.guard? = some e → task.Clean

instance (s : Proxy) (e : EntryId) : Decidable (Unfailed s e) :=
  inferInstanceAs (Decidable ((s.shared.flights.entries e).result.all Except.isOk = true ∧
    ∀ i < s.next, ∀ task ∈ s.tasks i, task.guard? = some e → task.Clean))

/-- No call to the store made by the GET fails, and none made by the leader it
waits for; it joins no flight that has failed before. -/
def Spared (get : Nat) (s : Proxy) : ProxyAction → Prop
  | .poll index (.failed _) =>
      index ≠ get ∧ ∀ reader ∈ s.tasks get, ∀ e ∈ reader.awaits? s.shared.flights,
        ∀ task ∈ s.tasks index, task.guard? ≠ some e
  | .poll index .ready =>
      index = get → ∀ reader ∈ s.tasks get, ∀ key ∈ reader.acquires?, ∀ e ∈ s.shared.flights.inner key,
        Unfailed s e
  | _ => True

instance (get : Nat) (s : Proxy) : (action : ProxyAction) → Decidable (Spared get s action)
  | .poll index (.failed _) =>
      inferInstanceAs (Decidable (index ≠ get ∧ ∀ reader ∈ s.tasks get,
        ∀ e ∈ reader.awaits? s.shared.flights, ∀ task ∈ s.tasks index, task.guard? ≠ some e))
  | .poll index .ready =>
      inferInstanceAs (Decidable (index = get → ∀ reader ∈ s.tasks get, ∀ key ∈ reader.acquires?,
        ∀ e ∈ s.shared.flights.inner key, Unfailed s e))
  | .poll _ .cacheError | .poll _ .streamError | .start _ | .cancel _ | .env _ => isTrue trivial

/-- The GET has met no error, and waits for none. -/
structure OnCourse (get : Nat) (key : CacheKey) (s : Proxy) : Prop where
  clean : ∀ phase, s.tasks get = some (.get key phase) → (Task.get key phase).Clean
  unfailed : ∀ phase e, s.tasks get = some (.get key phase) →
    (Task.get key phase).awaits? s.shared.flights = some e → Unfailed s e
  answered : ∀ result, s.tasks get = some (.get key (.returned result)) → ∃ response, result = .ok response

section Steps

variable {cfg : AppConfig} {s t : Proxy} {key : CacheKey} {get : Nat}

theorem OnCourse.elsewhere (other : ∀ phase, s.tasks get ≠ some (.get key phase)) : OnCourse get key s :=
  ⟨fun phase present => absurd present (other phase), fun phase _ present => absurd present (other phase),
    fun _ present => absurd present (other _)⟩

theorem OnCourse.dropped (present : s.tasks get = some (.get name (.dropped at_))) : OnCourse get key s := by
  refine ⟨?_, ?_, ?_⟩
  · intro phase present'
    cases present.symm.trans present'
    trivial
  · intro phase e present' awaits
    cases present.symm.trans present'
    cases awaits
  · intro result present'
    cases present.symm.trans present'

/-- A task that holds a guard made earlier held it before this step, and is as
clean as it was. -/
theorem leads_step (holds : linked.Holds s) (formed : s.All (Task.Formed cfg))
    (follows : Follows s.shared.flights key e) (found : Found cfg key s.shared)
    (spared : ∀ index err, action = .poll index (.failed err) → ∀ task, s.tasks index = some task →
      task.guard? ≠ some e)
    (clean : ∀ i task, s.tasks i = some task → task.guard? = some e → task.Clean)
    (taken : (proxy cfg).step s action = some t) (present : t.tasks i = some task) (leads : task.guard? = some e) :
    task.Clean := by
  obtain ⟨made, at_, name⟩ := follows
  have owner {task : Task} {j : Nat} (found_ : s.tasks j = some task) (held : task.guard? = some e) :
      task.key = key := by
    have link := holds.each j task found_
    unfold Task.guard? at held
    split at held <;> cases held
    · cases at_.symm.trans (Leads.present link); exact name
    · cases at_.symm.trans (Leads.present link); exact name
  have earlier {before after : Task} {flights : Flights}
      (moves : Moves Undropped s.shared.flights flights before after) (held : after.guard? = some e) :
      before.guard? = some e := by
    rcases moves.guards e held with held | fresh
    · exact held
    · simp [at_] at fresh
  cases proxy_step taken with
  | start spawned =>
    rcases State.push_tasks present with ⟨_, rfl⟩ | ⟨_, old⟩
    · cases spawned <;> cases leads
    · exact clean i task old leads
  | @get index name_ stage reply shared phase old polled =>
    rcases State.replace_tasks present with ⟨_, rfl⟩ | ⟨_, other⟩
    · have held := earlier (polled.moves holds.global (holds.each _ _ old)) leads
      have own : name_ = key := owner old held
      subst own
      exact polled.clean (formed _ _ old) found (fun err failed => spared index err (by rw [failed]) _ old held)
        (clean _ _ old held)
    · exact clean i task other leads
  | @prefetch index name_ stage reply shared phase old polled =>
    rcases State.replace_tasks present with ⟨_, rfl⟩ | ⟨_, other⟩
    · have held := earlier (polled.moves holds.global (holds.each _ _ old)) leads
      have own : name_ = key := owner old held
      subst own
      exact polled.clean (formed _ _ old) found (fun err failed => spared index err (by rw [failed]) _ old held)
        (clean _ _ old held)
    · exact clean i task other leads
  | @head index name_ params stage reply shared phase spawned old polled =>
    have kept : (s.replace index shared (.head name_ params phase)).All fun task =>
        task.guard? = some e → task.Clean := by
      intro j other other_ held
      rcases State.replace_tasks other_ with ⟨_, rfl⟩ | ⟨_, before⟩
      · cases held
      · exact clean j other before held
    exact all_head kept (fun _ => trivial) i task present leads
  | put | late | dropGet | dropHead | dropPut | dropPrefetch =>
    rcases State.replace_tasks present with ⟨_, rfl⟩ | ⟨_, other⟩
    · cases leads
    · exact clean i task other leads
  | evict | release => exact clean i task present leads

/-- A leader that stores a result has its guard, and a clean one an entry. -/
theorem Task.Clean.stores {task : Task} (clean : task.guard? = some e → task.Clean)
    (stores : task.stores? = some (e, result)) : ∃ entry, result = .ok entry := by
  unfold Task.stores? at stores
  split at stores
  · rename_i stage
    cases stage <;> cases stores
    exact clean rfl
  · rename_i stage
    cases stage <;> cases stores
    exact clean rfl
  · cases stores

/-- A flight that has not failed goes on so, unless its leader's call fails. -/
theorem Unfailed.step (unfailed : Unfailed s e) (holds : linked.Holds s) (formed : s.All (Task.Formed cfg))
    (follows : Follows s.shared.flights key e) (found : Found cfg key s.shared)
    (spared : ∀ index err, action = .poll index (.failed err) → ∀ task, s.tasks index = some task →
      task.guard? ≠ some e)
    (taken : (proxy cfg).step s action = some t) : Unfailed t e := by
  obtain ⟨result, leader⟩ := unfailed
  have clean (i : Nat) (task : Task) (present : s.tasks i = some task) (held : task.guard? = some e) :
      task.Clean := leader i (holds.bounded i task present) task present held
  constructor
  · obtain ⟨own, call, frame, _⟩ := frame_step holds taken
    obtain ⟨guard, at_, _⟩ := follows.frame frame
    cases stored : (t.shared.flights.entries e).result with
    | none => rfl
    | some value =>
      rcases results_step holds taken at_ stored with ⟨_, _, _, before⟩ | ⟨index, task, _, present, stores, _⟩
      · rw [before] at result
        exact result
      · obtain ⟨entry, rfl⟩ := Task.Clean.stores (clean index task present) stores
        rfl
  · intro i _ task present held
    exact leads_step holds formed follows found spared clean taken present held

/-- A GET of the key that is new in this step has passed the path check, or has
failed it. -/
theorem new_get (holds : linked.Holds s) (taken : (proxy cfg).step s action = some t) (fresh : s.next ≤ get)
    (present : t.tasks get = some (.get key phase)) :
    phase = .running .lookup ∨ invalidPath key.path = true := by
  have old {index : Nat} {task task' : Task} {shared : Shared} (found : s.tasks index = some task)
      (at_ : (s.replace index shared task').tasks get = some (.get key phase)) :
      phase = .running .lookup ∨ invalidPath key.path = true := by
    have bound := holds.bounded index task found
    rcases State.replace_tasks at_ with ⟨same, _⟩ | ⟨_, before⟩
    · omega
    · have bound' := holds.bounded get _ before
      omega
  cases proxy_step taken with
  | start spawned =>
    rcases State.push_tasks present with ⟨_, same⟩ | ⟨_, before⟩
    · cases spawned <;> cases same
      · exact .inr ‹_›
      · exact .inl rfl
    · have bound := holds.bounded get _ before
      omega
  | get found | put found | prefetch found | late found | dropGet found | dropHead found | dropPut found
  | dropPrefetch found => exact old found present
  | head found =>
    split at present
    · rcases State.push_tasks present with ⟨_, same⟩ | ⟨_, before⟩
      · cases same
      · exact old found before
    · exact old found present
  | evict | release =>
    have bound := holds.bounded get _ present
    omega

/-- The GET's own step from a clean state, joining only a flight that has not
failed. -/
theorem OnCourse.own (onCourse : OnCourse get key s) (holds : linked.Holds s) (formed : s.All (Task.Formed cfg))
    (found : Found cfg key s.shared) (spared : Spared get s (.poll get reply))
    (present : s.tasks get = some (.get key (.running at_)))
    (polled : GetStep cfg key s.shared at_ reply shared phase)
    (taken : (proxy cfg).step s (.poll get reply) = some t)
    (moved : t = s.replace get shared (.get key phase)) : OnCourse get key t := by
  have link : (Task.get key (.running at_)).Linked s.shared.flights := holds.each _ _ present
  have replies (err : StoreError) : reply ≠ .failed err := by
    rintro rfl
    exact spared.1 rfl
  have now {phase' : Phase GetAwait HandlerResult} (at_ : t.tasks get = some (.get key phase')) :
      phase' = phase := by
    rw [moved, s.replace_self] at at_
    cases at_
    rfl
  have goes {e : EntryId} (follows : Follows s.shared.flights key e) (unfailed : Unfailed s e) : Unfailed t e :=
    unfailed.step holds formed follows found
      (by rintro index err ⟨⟩; exact absurd rfl (replies err)) taken
  have before {e : EntryId} (awaits : (Task.get key (.running at_)).awaits? s.shared.flights = some e) :
      Unfailed t e := goes (link.awaits awaits) (onCourse.unfailed _ _ present awaits)
  refine ⟨?_, ?_, ?_⟩
  · intro phase' present'
    cases now present'
    exact polled.clean (formed _ _ present) found replies (onCourse.clean _ present)
  · intro phase' e present' awaits
    cases now present'
    subst moved
    cases polled with
    | follow acquired =>
      cases awaits
      have joined : s.shared.flights.inner key = some e := by
        unfold acquire at acquired
        split at acquired <;> cases acquired
        assumption
      obtain ⟨guard, made, name, _⟩ := (holds.global.mapped key e).mp joined
      exact goes ⟨guard, made, name⟩ (spared rfl _ present key rfl e joined)
    | wait =>
      simp only [Task.awaits?, State.replace_shared, callWait, setWait, Function.update_self, Option.map_some,
        WaitPhase.entry, Option.some.injEq] at awaits
      exact before (by rw [← awaits]; rfl)
    | wake woken =>
      refine before ?_
      unfold Inflight.wake at woken
      split at woken <;> try cases woken
      rename_i suspended
      split at woken <;> cases woken
      simpa [Task.awaits?, setWait, suspended, WaitPhase.entry] using awaits
    | hit | miss | lead | leader | led | joined | joinedError | abandoned | abandonedEnds | recheckHit
    | recheckMiss | fallback | fallbackEnds => cases awaits
  · intro result present'
    cases now present'
    refine polled.answers (formed _ _ present) found replies (onCourse.clean _ present) ?_
    rintro wait err flights rfl read
    obtain ⟨entry, locking, _⟩ := id link
    have unfailed := onCourse.unfailed _ entry present (by simp [Task.awaits?, locking, WaitPhase.entry])
    simp only [readResult, locking, Option.some.injEq, Prod.mk.injEq] at read
    have failed := unfailed.1
    simp [read.1, Except.isOk, Except.toBool] at failed

theorem OnCourse.step (onCourse : OnCourse get key s) (holds : linked.Holds s) (formed : s.All (Task.Formed cfg))
    (found : Found cfg key s.shared) (valid : invalidPath key.path = false) (spared : Spared get s action)
    (taken : (proxy cfg).step s action = some t) : OnCourse get key t := by
  by_cases touches : action.Touches get
  · cases proxy_step taken with
    | @get index name at_ reply shared phase present polled =>
      cases touches
      by_cases same : name = key
      · subst same
        exact onCourse.own holds formed found spared present polled taken rfl
      · exact .elsewhere (by rw [s.replace_self]; rintro _ ⟨⟩; exact same rfl)
    | @head index name params at_ reply shared phase spawned present polled =>
      cases touches
      have bound := holds.bounded get _ present
      refine .elsewhere ?_
      rw [State.pushAll_other _ _ (by simpa using Nat.ne_of_lt bound), s.replace_self]
      rintro _ ⟨⟩
    | put | prefetch | late | dropHead | dropPut | dropPrefetch =>
      cases touches
      exact .elsewhere (by rw [s.replace_self]; rintro _ ⟨⟩)
    | dropGet present =>
      cases touches
      exact .dropped (s.replace_self get _ _)
    | start | evict | release => exact touches.elim
  · by_cases old : get < s.next
    · have same := Program.step_other taken touches old
      refine ⟨?_, ?_, ?_⟩
      · intro phase present
        exact onCourse.clean phase (same ▸ present)
      · intro phase e present awaits
        have present' : s.tasks get = some (.get key phase) := same ▸ present
        rw [awaits_step holds taken touches present'] at awaits
        refine (onCourse.unfailed phase e present' awaits).step holds formed
          ((holds.each _ _ present').awaits awaits) found ?_ taken
        rintro index err rfl task at_
        exact spared.2 _ present' e awaits task at_
      · intro result present
        exact onCourse.answered result (same ▸ present)
    · have opening {phase : Phase GetAwait HandlerResult} (present : t.tasks get = some (.get key phase)) :
          phase = .running .lookup := by
        rcases new_get holds taken (Nat.le_of_not_lt old) present with opened | invalid
        · exact opened
        · simp [valid] at invalid
      refine ⟨?_, ?_, ?_⟩
      · intro phase present
        cases opening present
        trivial
      · intro phase e present awaits
        cases opening present
        cases awaits
      · intro result present
        cases opening present

/-- A GET that starts in these states stays on course, and the object there. -/
theorem onCourse_reaches (valid : invalidPath key.path = false) (known : cfg.object key = some object)
    (before : (proxy cfg).system.Reaches (OnceAt object) (Proxy.initial upstream cache) s)
    (stored : s.shared.upstream object = some data) (later : s.next ≤ get)
    (after : (proxy cfg).system.Reaches (fun s action => OnceAt object s action ∧ Spared get s action) s t) :
    OnCourse get key t ∧ t.shared.upstream object = some data := by
  have whole {u : Proxy} (reach : (proxy cfg).system.Reaches
      (fun s action => OnceAt object s action ∧ Spared get s action) s u) :
      (proxy cfg).system.Reaches (OnceAt object) (Proxy.initial upstream cache) u :=
    before.trans (reach.weaken fun _ _ allow => allow.1)
  refine after.invariantWith (motive := fun t : Proxy => OnCourse get key t ∧ t.shared.upstream object = some data)
    (fun _ reach => And.intro (linked_reaches (whole reach)) (formed_reaches (whole reach))) ?_ ?_
  · have bounded := (linked_reaches before).bounded
    refine ⟨.elsewhere ?_, stored⟩
    intro phase present
    have bound := bounded get _ present
    omega
  · rintro source action next ⟨links, formed⟩ - ⟨onCourse, stored⟩ ⟨once, spared⟩ taken
    have found : Found cfg key source.shared := ⟨object, data, known, stored⟩
    exact ⟨onCourse.step links formed found valid spared taken, upstream_grows once taken stored⟩

end Steps

private def largePut : PutRequest := ⟨⟨"b", "p"⟩, ⟨none, none⟩, [[1, 2, 3], [4, 5]]⟩

private def leading : List ProxyAction := [.start (.get ⟨"b", "p"⟩), .poll 0 .ready, .poll 0 .ready]

private def writes : List ProxyAction :=
  [.start (.put largePut), .poll 1 (.failed .notFound), .poll 1 .ready, .poll 1 .ready, .poll 1 .ready,
    .poll 1 .ready, .poll 1 .ready, .poll 1 .ready]

/-- The PUT answered, after these steps of an earlier request. -/
private def writtenAfter (labels : List ProxyAction) : Proxy :=
  ((proxy (.single "b" 4 .unknown)).system.run (Proxy.initial (fun _ => none) .empty) (labels ++ writes)).getD
    (Proxy.initial (fun _ => none) .empty)

end Cachegate
