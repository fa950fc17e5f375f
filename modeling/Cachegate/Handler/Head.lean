import Cachegate.Handler.Commit
import Cachegate.Handler.FetchOnce
import Cachegate.Handler.Trace

/-! A HEAD along a run that others take part in. It only reads; the prefetch
parameter decides nothing but whether its last segment leaves a prefetch task
behind, and by then the lookup has missed and the upstream head has succeeded. -/

namespace Cachegate

open Transition TaskPool

/-- The parameter is `1`, or `true` in any case. -/
def PrefetchOn (params : Query) : Prop :=
  ∃ value, params.get "prefetch" = some value ∧ (value = "1" ∨ eqIgnoreAsciiCase value "true" = true)

theorem parsePrefetchValue_iff (value : String) :
    parsePrefetchValue value = some true ↔ value = "1" ∨ eqIgnoreAsciiCase value "true" = true := by
  have zero : eqIgnoreAsciiCase "0" "true" = false := by decide
  by_cases one : value = "1"
  · simp [parsePrefetchValue, one]
  · by_cases nil : value = "0"
    · simp [parsePrefetchValue, nil, zero]
    · cases word : eqIgnoreAsciiCase value "true" <;> simp [parsePrefetchValue, one, nil, word]

theorem parsePrefetch_iff (params : Query) : parsePrefetch params = true ↔ PrefetchOn params := by
  unfold parsePrefetch PrefetchOn
  cases params.get "prefetch" with
  | none => simp
  | some value =>
    rw [Option.bind_some, Option.getD_eq_iff]
    simp [parsePrefetchValue_iff]

/-- A step of a HEAD's task: a segment of its handler, or the drop of it. -/
inductive HeadMove (cfg : AppConfig) (key : CacheKey) (params : Query) (index : Nat) (s : Shared) :
    Phase HeadAwait HandlerResult → ProxyAction → Shared → Phase HeadAwait HandlerResult → Bool → Prop
  | polled (step : HeadStep cfg key params s at_ reply s' phase spawned) :
      HeadMove cfg key params index s (.running at_) (.poll index reply) s' phase spawned
  | dropped : HeadMove cfg key params index s (.running at_) (.cancel index) s (.dropped at_) false

/-- A HEAD of an accepted path in a known bucket has looked its key up when the
cache did not hold it, or the cache has failed to answer. -/
structure HeadMissed (cfg : AppConfig) (key : CacheKey) (params : Query) (index : Nat) (past : ProxyPast)
    (object : ObjectId) : Prop where
  valid : invalidPath key.path = false
  known : cfg.object key = some object
  missed : ∃ source reply, (source, .poll index reply) ∈ past ∧
    source.tasks index = some (.head key params (.running .lookup)) ∧
    (reply = .ready ∧ source.shared.cache.entries key = none ∨ reply = .cacheError)

/-- Moreover the upstream head of the object succeeded. -/
structure HeadSized (cfg : AppConfig) (key : CacheKey) (params : Query) (index : Nat) (past : ProxyPast)
    (object : ObjectId) : Prop extends HeadMissed cfg key params index past object where
  sized : ∃ source data, (source, .poll index .ready) ∈ past ∧
    source.tasks index = some (.head key params (.running (.head object))) ∧
    source.shared.upstream object = some data

/-- What the past of a HEAD says at each of its await points. -/
def HeadAwait.Grounds (cfg : AppConfig) (key : CacheKey) (params : Query) (index : Nat) (past : ProxyPast) :
    HeadAwait → Prop
  | .lookup => invalidPath key.path = false
  | .head object => HeadMissed cfg key params index past object
  | .answered _ => ∃ object, HeadSized cfg key params index past object

/-- The step reads, and counts. -/
structure OnlyReads (s s' : Shared) : Prop extends Traceless s s' where
  uploads : s'.uploads = s.uploads
  getCalls : s'.getCalls = s.getCalls

/-- What a step of a HEAD does: if it leaves a task behind, then a prefetch of
its own key, for which there are grounds. -/
structure HeadDid (cfg : AppConfig) (key : CacheKey) (params : Query) (index : Nat) (past : ProxyPast)
    (source next : Proxy) : Prop where
  reads : OnlyReads source.shared next.shared
  child : next.next ≠ source.next → PrefetchOn params ∧ (∃ object, HeadSized cfg key params index past object) ∧
    next.tasks source.next = some (.prefetch key (.running .acquire))

section Steps

variable {cfg : AppConfig} {key : CacheKey} {params params' : Query} {index : Nat} {past : ProxyPast}
variable {latest : Proxy × ProxyAction} {object : ObjectId} {s t : Proxy} {shared shared' : Shared}
variable {phase phase' : Phase HeadAwait HandlerResult}

theorem HeadMissed.mono (missed : HeadMissed cfg key params index past object) :
    HeadMissed cfg key params index (latest :: past) object := by
  obtain ⟨source, reply, listed, found⟩ := missed.missed
  exact ⟨missed.valid, missed.known, source, reply, List.mem_cons_of_mem _ listed, found⟩

theorem HeadSized.mono (sized : HeadSized cfg key params index past object) :
    HeadSized cfg key params index (latest :: past) object := by
  obtain ⟨source, data, listed, found⟩ := sized.sized
  exact ⟨sized.toHeadMissed.mono, source, data, List.mem_cons_of_mem _ listed, found⟩

theorem HeadAwait.Grounds.mono {at_ : HeadAwait} (grounds : at_.Grounds cfg key params index past) :
    at_.Grounds cfg key params index (latest :: past) := by
  cases at_ with
  | lookup => exact grounds
  | head => exact HeadMissed.mono grounds
  | answered =>
    obtain ⟨object, sized⟩ := grounds
    exact ⟨object, sized.mono⟩

theorem HeadDid.mono (did : HeadDid cfg key params index past s t) :
    HeadDid cfg key params index (latest :: past) s t := by
  refine ⟨did.reads, ?_⟩
  intro left
  obtain ⟨on, ⟨object, sized⟩, child⟩ := did.child left
  exact ⟨on, ⟨object, sized.mono⟩, child⟩

theorem HeadStep.onlyReads (step : HeadStep cfg key params shared at_ reply shared' phase spawned) :
    OnlyReads shared shared' :=
  ⟨⟨step.cache, step.flights, step.untouched.upstream⟩, step.untouched.uploads, step.getCalls⟩

theorem HeadMove.onlyReads (move : HeadMove cfg key params index shared phase action shared' phase' spawned) :
    OnlyReads shared shared' := by
  cases move with
  | polled step => exact step.onlyReads
  | dropped => exact ⟨.refl shared, rfl, rfl⟩

theorem head_move (present : s.tasks index = some (.head key params phase))
    (taken : (proxy cfg).step s action = some t) (touches : action.Touches index) :
    ∃ shared phase' spawned, HeadMove cfg key params index s.shared phase action shared phase' spawned ∧
      t = (s.replace index shared (.head key params phase')).pushAll
        (if spawned then some (.prefetch key (.running .acquire)) else none) := by
  cases proxy_step taken with
  | head found polled =>
    cases touches
    cases found.symm.trans present
    exact ⟨_, _, _, .polled polled, rfl⟩
  | dropHead found =>
    cases touches
    cases found.symm.trans present
    exact ⟨_, _, false, .dropped, rfl⟩
  | get found | put found | prefetch found | late found | dropGet found | dropPut found | dropPrefetch found =>
    cases touches
    cases found.symm.trans present
  | start | evict | release => exact touches.elim

/-- What a step finds out is the ground of the next await point. -/
theorem HeadStep.grounds (step : HeadStep cfg key params s.shared at_ reply shared phase spawned)
    (present : s.tasks index = some (.head key params (.running at_)))
    (grounds : at_.Grounds cfg key params index past) :
    (∀ next, phase = .running next → next.Grounds cfg key params index ((s, .poll index reply) :: past)) ∧
      (spawned = true → PrefetchOn params ∧ ∃ object, HeadSized cfg key params index past object) := by
  cases step with
  | hit | unknown | headFailed => exact ⟨nofun, nofun⟩
  | miss found known =>
    refine ⟨?_, nofun⟩
    rintro next ⟨⟩
    exact ⟨grounds, known, s, reply, List.mem_cons_self, present, lookup_missed found⟩
  | sized stored =>
    refine ⟨?_, nofun⟩
    rintro next ⟨⟩
    exact ⟨_, HeadMissed.mono grounds, s, _, List.mem_cons_self, present, stored⟩
  | answer =>
    refine ⟨nofun, ?_⟩
    intro on
    exact ⟨(parsePrefetch_iff params).mp on, grounds⟩

theorem HeadMove.grounds (move : HeadMove cfg key params index s.shared phase action shared phase' spawned)
    (present : s.tasks index = some (.head key params phase))
    (grounds : ∀ at_, phase = .running at_ → at_.Grounds cfg key params index past) :
    (∀ next, phase' = .running next → next.Grounds cfg key params index ((s, action) :: past)) ∧
      (spawned = true → PrefetchOn params ∧ ∃ object, HeadSized cfg key params index past object) := by
  cases move with
  | polled step => exact step.grounds present (grounds _ rfl)
  | dropped => exact ⟨nofun, nofun⟩

theorem Spawned.grounds (spawned : Spawned cfg shared (.head key params) shared' task) (index : Nat) :
    ∃ phase, task = .head key params phase ∧
      ∀ at_, phase = .running at_ → at_.Grounds cfg key params index [] := by
  cases spawned with
  | headInvalid => exact ⟨_, rfl, nofun⟩
  | head valid =>
    refine ⟨_, rfl, ?_⟩
    rintro at_ ⟨⟩
    exact valid

/-- A HEAD along any run: what each of its steps did. -/
theorem head_history {s₁ : Proxy} (started : (proxy cfg).step s (.start (.head key params)) = some s₁)
    (history : (proxy cfg).system.History System.Always s₁ past t) :
    (proxy cfg).OwnSteps past s.next (HeadDid cfg key params s.next past) := by
  obtain ⟨task, spawned, bounded, present⟩ := step_start started
  obtain ⟨phase, rfl, grounds⟩ := spawned.grounds s.next
  have followed := Program.followSteps (HeadDid cfg key params s.next)
    (motive := fun past _ task => ∃ phase, task = .head key params phase ∧
      ∀ at_, phase = .running at_ → at_.Grounds cfg key params s.next past)
    history bounded present ⟨phase, rfl, grounds⟩ (fun _ _ _ _ => HeadDid.mono) ?_ ?_
  · obtain ⟨_, _, _, _, steps⟩ := followed
    exact steps
  · rintro past source next action _ ⟨phase, rfl, grounds⟩ _ _ _ _
    exact ⟨phase, rfl, fun at_ running => (grounds at_ running).mono⟩
  · rintro past source next action _ ⟨phase, rfl, grounds⟩ bounded present taken touches
    obtain ⟨shared, phase', spawned, move, rfl⟩ := head_move present taken touches
    obtain ⟨onward, child⟩ := move.grounds present grounds
    refine ⟨_, ?_, ⟨phase', rfl, onward⟩, ?_, ?_⟩
    · exact source.replace_pushAll shared (.head key params phase') _ bounded
    · rw [State.pushAll_shared]
      exact move.onlyReads
    · intro left
      cases spawned with
      | false => exact absurd rfl left
      | true =>
        obtain ⟨on, object, sized⟩ := child rfl
        exact ⟨on, ⟨object, sized.mono⟩, Function.update_self ..⟩

end Steps

/-- The HEAD of this index has answered. -/
def HeadReturned (s : Proxy) (index : Nat) (result : HandlerResult) : Prop :=
  ∃ key params, s.tasks index = some (.head key params (.returned result))

/-- Two runs by the same labels up to the moment when the HEAD of this index
answers in both of them, the same, and for good. -/
def AnswersAlike (cfg : AppConfig) (s s' : Proxy) (labels : List ProxyAction) (index : Nat)
    (result : HandlerResult) : Prop :=
  ∃ before after mid mid', labels = before ++ after ∧ (proxy cfg).system.run s before = some mid ∧
    (proxy cfg).system.run s' before = some mid' ∧ mid'.shared = mid.shared ∧ HeadReturned mid index result ∧
    HeadReturned mid' index result ∧
    ∀ rest t, (proxy cfg).system.run mid' rest = some t → HeadReturned t index result

section Alike

variable {cfg : AppConfig} {key : CacheKey} {params params' : Query} {index : Nat} {s s' t : Proxy}
variable {phase : Phase HeadAwait HandlerResult} {result : HandlerResult} {labels : List ProxyAction}
variable {shared shared' : Shared}

theorem head_ended (cfg : AppConfig) (key : CacheKey) (params : Query) (result : HandlerResult) :
    (proxy cfg).Ended (.head key params (.returned result)) :=
  ⟨fun _ _ => rfl, fun _ => rfl⟩

/-- An answer is final. -/
theorem HeadReturned.run (answers : HeadReturned s index result) (bounded : index < s.next)
    (replayed : (proxy cfg).system.run s labels = some t) : HeadReturned t index result := by
  obtain ⟨key, params, present⟩ := answers
  exact ⟨key, params, (head_ended cfg key params result).reaches (System.reaches_of_run replayed) bounded present⟩

theorem AnswersAlike.cons (alike : AnswersAlike cfg t t' labels index result)
    (taken : (proxy cfg).step s action = some t) (taken' : (proxy cfg).step s' action = some t') :
    AnswersAlike cfg s s' (action :: labels) index result := by
  obtain ⟨before, after, mid, mid', rfl, run, run', same⟩ := alike
  refine ⟨action :: before, after, mid, mid', rfl, ?_, ?_, same⟩
  · exact Option.bind_eq_some_iff.mpr ⟨t, taken, run⟩
  · exact Option.bind_eq_some_iff.mpr ⟨t', taken', run'⟩

/-- The moment of the answer itself. -/
theorem AnswersAlike.now (answers : HeadReturned s index result) (answers' : HeadReturned s' index result)
    (same : s'.shared = s.shared) (bounded : index < s'.next) : AnswersAlike cfg s s' labels index result :=
  ⟨[], labels, s, s', rfl, rfl, rfl, same, answers, answers', fun _ _ => answers'.run bounded⟩

/-- The parameters decide nothing but whether a prefetch task is left behind,
and that only together with the answer. -/
theorem headPoll_params (params' : Query)
    (polled : headPoll cfg shared key params at_ reply = some (shared', phase, spawned)) :
    ∃ spawned', headPoll cfg shared key params' at_ reply = some (shared', phase, spawned') ∧
      (spawned' = spawned ∨ ∃ result, phase = .returned result) := by
  cases at_ with
  | lookup => exact ⟨spawned, polled, .inl rfl⟩
  | head object => cases reply <;> exact ⟨spawned, polled, .inl rfl⟩
  | answered size =>
    cases reply with
    | ready =>
      cases polled
      exact ⟨parsePrefetch params', rfl, .inr ⟨_, rfl⟩⟩
    | failed | cacheError | streamError => cases polled

/-- A step of the HEAD is the same with other parameters, up to its answer. -/
theorem head_exchange (params' : Query) (present : s.tasks index = some (.head key params phase))
    (bounded : index < s.next) (taken : (proxy cfg).step s action = some t) (touches : action.Touches index) :
    ∃ t' phase', t.tasks index = some (.head key params phase') ∧
      (proxy cfg).step (s.exchange index (.head key params' phase)) action = some t' ∧
      t'.tasks index = some (.head key params' phase') ∧ t'.shared = t.shared ∧
      (t' = t.exchange index (.head key params' phase') ∨ ∃ result, phase' = .returned result) := by
  have exchanged := s.exchange_self index (.head key params' phase)
  cases action with
  | start | env => exact touches.elim
  | poll i reply =>
    cases touches
    obtain ⟨task, shared, task', child, found, polled, rfl⟩ := Program.step_poll taken
    cases present.symm.trans found
    cases phase with
    | returned | dropped => cases polled
    | running at_ =>
      obtain ⟨⟨_, phase', spawned⟩, step, result⟩ := Option.map_eq_some_iff.mp polled
      cases result
      obtain ⟨spawned', step', alike⟩ := headPoll_params params' step
      let leaves (spawned : Bool) := if spawned then some (Task.prefetch key (.running .acquire)) else none
      have polled' : (proxy cfg).poll s.shared (.head key params' (.running at_)) reply =
          some (shared, .head key params' phase', leaves spawned') :=
        Option.map_eq_some_iff.mpr ⟨_, step', rfl⟩
      have taken' := Program.step_of_poll exchanged polled'
      rw [State.exchange_replace] at taken'
      refine ⟨_, phase', s.replace_pushAll shared _ _ bounded, taken', s.replace_pushAll shared _ _ bounded, ?_, ?_⟩
      · simp only [State.pushAll_shared, State.replace_shared]
      · refine alike.imp_left ?_
        rintro rfl
        have moved := (s.replace index shared (.head key params phase')).exchange_pushAll (.head key params' phase')
          (leaves spawned') (Nat.ne_of_lt bounded)
        rwa [State.replace_exchange_self] at moved
  | cancel i =>
    cases touches
    obtain ⟨task, shared, task', found, dropped, rfl⟩ := Program.step_cancel taken
    cases present.symm.trans found
    cases phase with
    | returned | dropped => cases dropped
    | running at_ =>
      cases dropped
      have taken' := Program.step_of_cancel exchanged
        (show (proxy cfg).drop s.shared (.head key params' (.running at_)) = some (s.shared, _) from rfl)
      rw [State.exchange_replace] at taken'
      refine ⟨_, .dropped at_, State.replace_self .., taken', State.replace_self .., rfl, ?_⟩
      rw [State.replace_exchange_self]
      exact .inl rfl

/-- The runs from a moment on at which the HEAD has answered in both of them. -/
theorem alike_of_returned (present : s.tasks index = some (.head key params (.returned now)))
    (present' : s'.tasks index = some (.head key params' (.returned now))) (same : s'.shared = s.shared)
    (bounded : index < s.next) (bounded' : index < s'.next) (replayed : (proxy cfg).system.run s labels = some t)
    (answers : HeadReturned t index result) : AnswersAlike cfg s s' labels index result := by
  obtain ⟨_, _, last⟩ := answers
  have final := (head_ended cfg key params now).reaches (System.reaches_of_run replayed) bounded present
  cases final.symm.trans last
  exact .now ⟨key, params, present⟩ ⟨key, params', present'⟩ same bounded'

/-- The runs from any moment on, by induction on what is left of the first. -/
theorem alike_of_run (params' : Query) (present : s.tasks index = some (.head key params phase))
    (bounded : index < s.next) (replayed : (proxy cfg).system.run s labels = some t)
    (answers : HeadReturned t index result) :
    AnswersAlike cfg s (s.exchange index (.head key params' phase)) labels index result := by
  by_cases returned : ∃ now, phase = .returned now
  · obtain ⟨now, rfl⟩ := returned
    exact alike_of_returned present (s.exchange_self index _) rfl bounded bounded replayed answers
  · induction labels generalizing s phase with
    | nil =>
      cases replayed
      obtain ⟨_, _, last⟩ := answers
      cases present.symm.trans last
      exact absurd ⟨result, rfl⟩ returned
    | cons action rest ih =>
      obtain ⟨next, taken, remaining⟩ := Option.bind_eq_some_iff.mp replayed
      have taken : (proxy cfg).step s action = some next := taken
      have bounded₁ : index < next.next := Nat.lt_of_lt_of_le bounded (Program.step_next taken)
      by_cases touches : action.Touches index
      · obtain ⟨next', phase', moved, taken', moved', same, alike⟩ :=
          head_exchange params' present bounded taken touches
        apply AnswersAlike.cons _ taken taken'
        by_cases returned' : ∃ now, phase' = .returned now
        · obtain ⟨now, rfl⟩ := returned'
          have bounded₂ : index < next'.next :=
            Nat.lt_of_lt_of_le (show index < (s.exchange index _).next from bounded) (Program.step_next taken')
          exact alike_of_returned moved moved' same bounded₁ bounded₂ remaining answers
        · have lockstep := alike.resolve_right returned'
          subst lockstep
          exact ih moved bounded₁ remaining returned'
      · have taken' := Program.step_exchange (proxy cfg) (.head key params' phase) bounded touches
        rw [taken, Option.map_some] at taken'
        have kept := (Program.step_other taken touches bounded).trans present
        exact (ih kept bounded₁ remaining returned).cons taken taken'

/-- Two runs from one state, whose HEADs differ in their parameters alone. -/
theorem alike_of_start {s₁ s₁' : Proxy} (started : (proxy cfg).step s (.start (.head key params)) = some s₁)
    (started' : (proxy cfg).step s (.start (.head key params')) = some s₁')
    (replayed : (proxy cfg).system.run s₁ labels = some t) (answers : HeadReturned t s.next result) :
    AnswersAlike cfg s₁ s₁' labels s.next result := by
  let shared := (headStart s.shared key).1
  let phase := (headStart s.shared key).2
  cases started
  cases started'
  have alike := alike_of_run params' (s := (s.reshare shared).push (.head key params phase))
    (Function.update_self ..) (Nat.lt_succ_self _) replayed answers
  exact (s.reshare shared).push_exchange (.head key params' phase) (.head key params phase) ▸ alike

end Alike

end Cachegate
