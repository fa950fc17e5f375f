import Cachegate.Library.Transition

/-! Runs together with the steps they have taken, for properties that compare a
state with what happened on the way to it. -/

namespace Transition.System

universe u v

variable {State : Type u} {Label : Type v} {sys : System State Label}
variable {allowed : State → Label → Prop}

/-- A run, with the steps taken so far: each by its label and the state it was
taken in, the latest first. -/
inductive History (sys : System State Label) (allowed : State → Label → Prop) (start : State) :
    List (State × Label) → State → Prop
  | nil : History sys allowed start [] start
  | snoc (prior : History sys allowed start past source) (meets : allowed source label)
      (taken : sys.step source label = some target) :
      History sys allowed start ((source, label) :: past) target

theorem History.reaches (history : sys.History allowed start past target) : sys.Reaches allowed start target := by
  induction history with
  | nil => exact .refl
  | snoc _ meets taken reach => exact reach.step meets taken

theorem Reaches.history (reach : sys.Reaches allowed start target) : ∃ past, sys.History allowed start past target := by
  induction reach with
  | refl => exact ⟨[], .nil⟩
  | tail _ taken ih =>
    obtain ⟨past, history⟩ := ih
    obtain ⟨label, meets, result⟩ := taken
    exact ⟨_, history.snoc meets result⟩

/-- Each step taken lies on the run. -/
theorem History.passes (history : sys.History allowed start past target) (listed : (source, label) ∈ past) :
    ∃ next, sys.Reaches allowed start source ∧ allowed source label ∧ sys.step source label = some next ∧
      sys.Reaches allowed next target := by
  induction history with
  | nil => cases listed
  | @snoc past latest latestLabel target prior meets taken ih =>
    rcases List.mem_cons.mp listed with same | earlier
    · cases same
      exact ⟨target, prior.reaches, meets, taken, .refl⟩
    · obtain ⟨next, before, allow, stepped, after⟩ := ih earlier
      exact ⟨next, before, allow, stepped, after.step meets taken⟩

/-- The run up to a step taken. -/
theorem History.earlier (history : sys.History allowed start past target) (listed : (source, label) ∈ past) :
    ∃ before, sys.History allowed start before source ∧ before <:+ past := by
  induction history with
  | nil => cases listed
  | @snoc past latest latestLabel target prior meets taken ih =>
    rcases List.mem_cons.mp listed with same | earlier
    · cases same
      exact ⟨past, prior, List.suffix_cons _ past⟩
    · obtain ⟨before, up, within⟩ := ih earlier
      exact ⟨before, up, within.trans (List.suffix_cons _ past)⟩

/-- What every listed step does to the state, up to a reflexive and transitive
relation, the whole run does. -/
theorem History.relates (history : sys.History allowed start past target) (related : State → State → Prop)
    (reflexive : ∀ state, related state state)
    (transitive : ∀ first second third, related first second → related second third → related first third)
    (listed : ∀ source label next, (source, label) ∈ past → sys.step source label = some next →
      related source next) : related start target := by
  induction history with
  | nil => exact reflexive start
  | @snoc past source label target _ _ taken ih =>
    apply transitive start source target
    · apply ih
      intro source label next earlier stepped
      exact listed source label next (List.mem_cons_of_mem _ earlier) stepped
    · exact listed source label target List.mem_cons_self taken

/-- An induction over a run that may look at its past, and use an invariant
already proved. -/
theorem History.invariantWith {known : State → Prop} {motive : List (State × Label) → State → Prop}
    (history : sys.History allowed start past target)
    (established : ∀ state, sys.Reaches allowed start state → known state) (initial : motive [] start)
    (preserved : ∀ past source label next, known source → motive past source → allowed source label →
      sys.step source label = some next → motive ((source, label) :: past) next) : motive past target := by
  induction history with
  | nil => exact initial
  | snoc prior meets taken ih => exact preserved _ _ _ _ (established _ prior.reaches) ih meets taken

/-- The steps of a replay on top of those before it. -/
def trail (sys : System State Label) : State → List Label → List (State × Label) → List (State × Label)
  | _, [], past => past
  | state, label :: rest, past =>
      (sys.step state label).elim past fun next => sys.trail next rest ((state, label) :: past)

theorem History.replay {labels : List Label} (history : sys.History allowed start past state)
    (replayed : sys.run state labels = some target) (meets : ∀ label ∈ labels, ∀ state, allowed state label) :
    sys.History allowed start (sys.trail state labels past) target := by
  induction labels generalizing past state with
  | nil =>
    cases replayed
    exact history
  | cons label rest ih =>
    obtain ⟨next, taken, remaining⟩ := Option.bind_eq_some_iff.mp replayed
    have onward := history.snoc (meets label List.mem_cons_self state) taken
    simp only [trail, taken, Option.elim_some]
    exact ih onward remaining fun other member => meets other (List.mem_cons_of_mem label member)

/-- The step of a label, if there is one. -/
def stepOr (sys : System State Label) (state : State) (label : Option Label) : Option State :=
  label.elim (some state) (sys.step state)

/-- A projection under which every step becomes the step of its own label, or none,
carries whole runs over, label by label. -/
theorem History.project {State' : Type*} {Label' : Type*} {abstract : System State' Label'} {known : State → Prop}
    (history : sys.History allowed start past target) (view : State → State')
    (relabel : State → Label → Option Label')
    (established : ∀ state, sys.Reaches allowed start state → known state)
    (simulates : ∀ source label next, known source → sys.step source label = some next →
      abstract.stepOr (view source) (relabel source label) = some (view next)) :
    ∃ past', abstract.History Always (view start) past' (view target) ∧
      past'.map Prod.snd = past.filterMap fun taken => relabel taken.1 taken.2 := by
  induction history with
  | nil => exact ⟨[], .nil, rfl⟩
  | @snoc past source label target prior _ taken ih =>
    obtain ⟨past', history', labels⟩ := ih
    have follows := simulates source label target (established source prior.reaches) taken
    cases relabelled : relabel source label with
    | none =>
      rw [relabelled] at follows
      obtain same : view source = view target := Option.some.inj follows
      exact ⟨past', same ▸ history', by simp [relabelled, labels]⟩
    | some label' =>
      rw [relabelled] at follows
      exact ⟨(view source, label') :: past', history'.snoc trivial follows, by simp [relabelled, labels]⟩

/-- Helpful steps lead to the goal whatever other steps come in between: short of
it one can always be taken, and only so many have been taken before. -/
def Assures (sys : System State Label) (helpful : Label → Bool) (goal : State → Prop) (start : State) : Prop :=
  ∃ bound, ∀ past target, sys.History Always start past target →
    goal target ∨ (∃ label next, helpful label = true ∧ sys.step target label = some next) ∧
      past.countP (fun step => helpful step.2) < bound

/-- The rule for a rank that no step raises and every helpful step lowers. -/
theorem Assures.of_rank {helpful : Label → Bool} {goal : State → Prop} (rank : State → Nat → Prop)
    (ranked : rank start n)
    (enabled : ∀ state n, rank state n → goal state ∨
      (∃ label next, helpful label = true ∧ sys.step state label = some next) ∧ 0 < n)
    (descends : ∀ source label next n, rank source n → sys.step source label = some next →
      ∃ m, m ≤ n ∧ rank next m ∧ (helpful label = true → m < n)) : sys.Assures helpful goal start := by
  refine ⟨n, ?_⟩
  intro past target history
  have counted : ∃ m, rank target m ∧ past.countP (fun step => helpful step.2) + m ≤ n := by
    induction history with
    | nil => exact ⟨n, ranked, by simp⟩
    | @snoc past source label target _ _ taken ih =>
      obtain ⟨m, placed, within⟩ := ih
      obtain ⟨m', least, placed', less⟩ := descends source label target m placed taken
      refine ⟨m', placed', ?_⟩
      rw [List.countP_cons]
      split
      · have := less ‹_›
        omega
      · omega
  obtain ⟨m, placed, within⟩ := counted
  rcases enabled target m placed with met | ⟨open_, positive⟩
  · exact .inl met
  · exact .inr ⟨open_, by omega⟩

/-- Allowed runs take at most so many helpful steps, and as long as they are short
of the goal one can be taken. -/
def Exhausts (sys : System State Label) (allowed : State → Label → Prop) (helpful : Label → Bool)
    (goal : State → Prop) (start : State) (bound : Nat) : Prop :=
  ∀ past target, sys.History allowed start past target →
    past.countP (fun step => helpful step.2) ≤ bound ∧
      (goal target ∨ ∃ label next, helpful label = true ∧ allowed target label ∧ sys.step target label = some next)

/-- The rule for a measure that no allowed step raises and every helpful step lowers. -/
theorem Exhausts.of_measure {helpful : Label → Bool} {goal : State → Prop} (known : State → Prop)
    (measure : State → Nat) (holds : known start)
    (enabled : ∀ state, known state →
      goal state ∨ ∃ label next, helpful label = true ∧ allowed state label ∧ sys.step state label = some next)
    (descends : ∀ source label next, known source → allowed source label → sys.step source label = some next →
      known next ∧ measure next ≤ measure source ∧ (helpful label = true → measure next < measure source)) :
    sys.Exhausts allowed helpful goal start (measure start) := by
  intro past target history
  have counted : known target ∧ past.countP (fun step => helpful step.2) + measure target ≤ measure start := by
    induction history with
    | nil => exact ⟨holds, by simp⟩
    | @snoc past source label target _ meets taken ih =>
      obtain ⟨held, within⟩ := ih
      obtain ⟨kept, least, less⟩ := descends source label target held meets taken
      refine ⟨kept, ?_⟩
      rw [List.countP_cons]
      split
      · have := less ‹_›
        omega
      · omega
  obtain ⟨held, within⟩ := counted
  exact ⟨by omega, enabled target held⟩

end Transition.System
