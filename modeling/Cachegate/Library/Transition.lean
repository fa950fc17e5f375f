import Mathlib.Logic.Relation

/-! Labelled transition systems whose step function may refuse a label, the
states reached by runs whose every step meets a condition, and the induction
and simulation rules for them. -/

namespace Transition

universe u v w

/-- A deterministic step for each label; nondeterminism is the choice of label. -/
structure System (State : Type u) (Label : Type v) where
  step : State → Label → Option State

namespace System

variable {State : Type u} {Label : Type v} {sys : System State Label}
variable {allowed strict : State → Label → Prop}

/-- No condition on the steps of a run. -/
def Always : State → Label → Prop := fun _ _ => True

/-- One step, by a label that meets the condition in the state it is taken in. -/
def Step (sys : System State Label) (allowed : State → Label → Prop) (source target : State) : Prop :=
  ∃ label, allowed source label ∧ sys.step source label = some target

/-- The states joined by runs all of whose steps meet the condition. -/
def Reaches (sys : System State Label) (allowed : State → Label → Prop) : State → State → Prop :=
  Relation.ReflTransGen (sys.Step allowed)

theorem Reaches.step (prior : sys.Reaches allowed start source) (meets : allowed source label)
    (taken : sys.step source label = some target) : sys.Reaches allowed start target :=
  Relation.ReflTransGen.tail prior ⟨label, meets, taken⟩

theorem Reaches.trans (first : sys.Reaches allowed start middle) (second : sys.Reaches allowed middle target) :
    sys.Reaches allowed start target :=
  Relation.ReflTransGen.trans first second

theorem Reaches.weaken (wider : ∀ state label, strict state label → allowed state label)
    (reach : sys.Reaches strict start target) : sys.Reaches allowed start target := by
  refine Relation.ReflTransGen.mono ?_ start target reach
  rintro source next ⟨label, meets, taken⟩
  exact ⟨label, wider source label meets, taken⟩

theorem Reaches.always (reach : sys.Reaches allowed start target) : sys.Reaches Always start target :=
  reach.weaken (fun _ _ _ => trivial)

/-- What holds at the start and survives every allowed step holds along the run. -/
theorem Reaches.invariant {motive : State → Prop} (reach : sys.Reaches allowed start target)
    (initial : motive start)
    (preserved : ∀ source label next, motive source → allowed source label →
      sys.step source label = some next → motive next) : motive target := by
  induction reach with
  | refl => exact initial
  | tail _ taken ih =>
    obtain ⟨label, meets, result⟩ := taken
    exact preserved _ label _ ih meets result

/-- The same rule when an invariant already proved may be used at each step. -/
theorem Reaches.invariantWith {known motive : State → Prop} (reach : sys.Reaches allowed start target)
    (established : ∀ state, sys.Reaches allowed start state → known state) (initial : motive start)
    (preserved : ∀ source label next, known source → known next → motive source → allowed source label →
      sys.step source label = some next → motive next) : motive target := by
  have both : sys.Reaches allowed start target ∧ motive target := by
    induction reach with
    | refl => exact ⟨.refl, initial⟩
    | tail prior taken ih =>
      obtain ⟨label, meets, result⟩ := taken
      have next : sys.Reaches allowed start _ := Reaches.step ih.1 meets result
      exact ⟨next, preserved _ label _ (established _ ih.1) (established _ next) ih.2 meets result⟩
  exact both.2

/-- A projection under which every allowed step becomes a run of the second
system carries whole runs over. -/
theorem Reaches.project {State' : Type w} {Label' : Type*} {abstract : System State' Label'}
    {narrow : State' → Label' → Prop} {known : State → Prop} (view : State → State')
    (reach : sys.Reaches allowed start target) (established : ∀ state, sys.Reaches allowed start state → known state)
    (simulates : ∀ source label next, known source → allowed source label →
      sys.step source label = some next → abstract.Reaches narrow (view source) (view next)) :
    abstract.Reaches narrow (view start) (view target) := by
  refine reach.invariantWith (motive := fun state => abstract.Reaches narrow (view start) (view state))
    established .refl ?_
  intro source label next before _ prefix_ meets taken
  exact prefix_.trans (simulates source label next before meets taken)

/-- Allowed runs from this state cannot but come to the goal: none is stuck
before it, and none goes on for ever. -/
inductive Inevitably (sys : System State Label) (allowed : State → Label → Prop) (goal : State → Prop) :
    State → Prop
  | now (met : goal state) : Inevitably sys allowed goal state
  | later (enabled : ∃ target, sys.Step allowed state target)
      (every : ∀ target, sys.Step allowed state target → Inevitably sys allowed goal target) :
      Inevitably sys allowed goal state

/-- The rule for a measure that every step decreases, under an invariant that
leaves a step open short of the goal. -/
theorem Inevitably.of_measure {goal : State → Prop} (known : State → Prop) (measure : State → Nat)
    (enabled : ∀ state, known state → goal state ∨ ∃ target, sys.Step allowed state target)
    (descends : ∀ state target, known state → sys.Step allowed state target →
      known target ∧ measure target < measure state) (holds : known start) :
    sys.Inevitably allowed goal start := by
  induction bound : measure start using Nat.strongRecOn generalizing start with
  | ind n ih =>
    rcases enabled start holds with met | open_
    · exact .now met
    · refine .later open_ fun target taken => ?_
      obtain ⟨kept, less⟩ := descends start target holds taken
      exact ih (measure target) (bound ▸ less) kept rfl

/-- Replay a list of labels. -/
def run (sys : System State Label) : State → List Label → Option State
  | state, [] => some state
  | state, label :: rest => (sys.step state label).bind (sys.run · rest)

/-- A run by labels that meet the condition in any state. -/
theorem reaches_of_run_meets {labels : List Label} (replayed : sys.run state labels = some target)
    (meets : ∀ label ∈ labels, ∀ state, allowed state label) : sys.Reaches allowed state target := by
  induction labels generalizing state with
  | nil =>
    have same : state = target := Option.some.inj replayed
    subst same
    exact .refl
  | cons label rest ih =>
    obtain ⟨next, taken, remaining⟩ := Option.bind_eq_some_iff.mp replayed
    have onward := ih remaining fun other member => meets other (List.mem_cons_of_mem label member)
    exact Relation.ReflTransGen.head ⟨label, meets label List.mem_cons_self state, taken⟩ onward

theorem reaches_of_run {labels : List Label} (replayed : sys.run state labels = some target) :
    sys.Reaches Always state target :=
  reaches_of_run_meets replayed fun _ _ _ => trivial

/-- The system that refuses every label that does not meet a decidable condition. -/
def restrict (sys : System State Label) (allowed : State → Label → Prop)
    [∀ state label, Decidable (allowed state label)] : System State Label :=
  ⟨fun state label => if allowed state label then sys.step state label else none⟩

/-- Runs of the restricted system are the runs that meet the condition. -/
theorem reaches_of_restrict [∀ state label, Decidable (allowed state label)]
    (reach : (sys.restrict allowed).Reaches strict start target) : sys.Reaches allowed start target := by
  refine Relation.ReflTransGen.mono ?_ start target reach
  rintro source next ⟨label, _, taken⟩
  by_cases meets : allowed source label
  · exact ⟨label, meets, by simpa [restrict, meets] using taken⟩
  · simp [restrict, meets] at taken

end System

end Transition
