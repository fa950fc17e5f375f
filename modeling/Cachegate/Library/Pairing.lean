import Mathlib.Logic.Function.Basic

/-! Numbers that two systems give to the same things, in the same order but with
different gaps. Both may go on numbering, and tables over the numbers match when
paired numbers hold related values. -/

structure Pairing where
  Pairs : Nat → Nat → Prop
  order : ∀ {a b a' b'}, Pairs a b → Pairs a' b' → (a < a' ↔ b < b')

namespace Pairing

variable {p q : Pairing} {X Y : Type} {related weaker : X → Y → Prop}
variable {table : Nat → Option X} {table' : Nat → Option Y}

def empty : Pairing := ⟨fun _ _ => False, False.elim⟩

/-- A number is paired with one other at most. -/
theorem unique (first : p.Pairs a b) (second : p.Pairs a' b') : a = a' ↔ b = b' := by
  have up := p.order first second
  have down := p.order second first
  omega

/-- Everything paired so far is below these two numbers. -/
def Below (p : Pairing) (n m : Nat) : Prop := ∀ a b, p.Pairs a b → a < n ∧ b < m

/-- Each side gives out a new number, for the same thing. -/
def extend (p : Pairing) (below : p.Below n m) : Pairing where
  Pairs a b := p.Pairs a b ∨ a = n ∧ b = m
  order := by
    rintro a b a' b' (old | ⟨rfl, rfl⟩) (old' | ⟨rfl, rfl⟩)
    · exact p.order old old'
    · have under := below a b old
      omega
    · have under := below a' b' old'
      omega
    · simp

def Within (p q : Pairing) : Prop := ∀ a b, p.Pairs a b → q.Pairs a b

theorem Within.refl (p : Pairing) : p.Within p := fun _ _ pair => pair

theorem within_extend (below : p.Below n m) : p.Within (p.extend below) := fun _ _ pair => .inl pair

theorem pairs_extend (below : p.Below n m) : (p.extend below).Pairs n m := .inr ⟨rfl, rfl⟩

section Values

variable {V W : Type} (holds : V → W → Prop) {f : Nat → V} {g : Nat → W}

/-- Both sides change the value of one pair. -/
theorem holds_update (all : ∀ a b, p.Pairs a b → holds (f a) (g b)) (pair : p.Pairs n m) (new : holds v w) :
    ∀ a b, p.Pairs a b → holds (Function.update f n v a) (Function.update g m w b) := by
  intro a b pair'
  by_cases own : a = n
  · obtain rfl := own
    obtain rfl := (unique pair' pair).mp rfl
    rw [Function.update_self, Function.update_self]
    exact new
  · have other : b ≠ m := fun same => own ((unique pair' pair).mpr same)
    rw [Function.update_of_ne own, Function.update_of_ne other]
    exact all a b pair'

/-- Both sides give a new pair its value. -/
theorem holds_extend (all : ∀ a b, p.Pairs a b → holds (f a) (g b)) (below : p.Below n m) (new : holds v w) :
    ∀ a b, (p.extend below).Pairs a b → holds (Function.update f n v a) (Function.update g m w b) := by
  intro a b pair
  rcases pair with old | ⟨rfl, rfl⟩
  · have under := below a b old
    rw [Function.update_of_ne (Nat.ne_of_lt under.1), Function.update_of_ne (Nat.ne_of_lt under.2)]
    exact all a b old
  · rw [Function.update_self, Function.update_self]
    exact new

end Values

/-- Paired numbers hold related values. -/
def Matches (p : Pairing) (related : X → Y → Prop) (table : Nat → Option X) (table' : Nat → Option Y) : Prop :=
  ∀ a b, p.Pairs a b → ∃ x y, table a = some x ∧ table' b = some y ∧ related x y

theorem matches_empty : empty.Matches related table table' := fun _ _ => False.elim

theorem Matches.imp (same : p.Matches related table table') (imp : ∀ x y, related x y → weaker x y) :
    p.Matches weaker table table' := by
  intro a b pair
  obtain ⟨x, y, found, found', both⟩ := same a b pair
  exact ⟨x, y, found, found', imp x y both⟩

theorem Matches.found (same : p.Matches related table table') (pair : p.Pairs a b) (present : table a = some x) :
    ∃ y, table' b = some y ∧ related x y := by
  obtain ⟨x', y, found, found', both⟩ := same a b pair
  obtain rfl : x' = x := Option.some.inj (found.symm.trans present)
  exact ⟨y, found', both⟩

theorem Matches.update (same : p.Matches related table table') (pair : p.Pairs n m) (both : related x y) :
    p.Matches related (Function.update table n (some x)) (Function.update table' m (some y)) :=
  holds_update (fun v w => ∃ x y, v = some x ∧ w = some y ∧ related x y) same pair ⟨x, y, rfl, rfl, both⟩

theorem Matches.extend (same : p.Matches related table table') (below : p.Below n m) (both : related x y) :
    (p.extend below).Matches related (Function.update table n (some x)) (Function.update table' m (some y)) :=
  holds_extend (fun v w => ∃ x y, v = some x ∧ w = some y ∧ related x y) same below ⟨x, y, rfl, rfl, both⟩

/-- One side changes, but nothing that is paired. -/
theorem Matches.frame (same : p.Matches related table table')
    (frame : ∀ a b x, p.Pairs a b → table a = some x → later a = some x) : p.Matches related later table' := by
  intro a b pair
  obtain ⟨x, y, found, found', both⟩ := same a b pair
  exact ⟨x, y, frame a b x pair found, found', both⟩

/-- The pairing is exactly between the first side's own values and everything of
the second side. -/
structure Couples (p : Pairing) (own : X → Prop) (related : X → Y → Prop) (table : Nat → Option X)
    (table' : Nat → Option Y) : Prop where
  same : p.Matches (fun x y => own x ∧ related x y) table table'
  covered : ∀ a x, table a = some x → own x → ∃ b, p.Pairs a b
  only : ∀ b y, table' b = some y → ∃ a, p.Pairs a b

namespace Couples

variable {own : X → Prop} {later : Nat → Option X}

theorem empty (vacant : ∀ a x, table a = some x → ¬ own x) (vacant' : ∀ b, table' b = none) :
    Pairing.empty.Couples own related table table' where
  same := matches_empty
  covered := fun a x present mine => absurd mine (vacant a x present)
  only := by
    intro b y present
    cases (vacant' b).symm.trans present

theorem imp (couples : p.Couples own related table table') (imp : ∀ x y, related x y → weaker x y) :
    p.Couples own weaker table table' :=
  ⟨couples.same.imp fun x y both => ⟨both.1, imp x y both.2⟩, couples.covered, couples.only⟩

theorem update (couples : p.Couples own related table table') (pair : p.Pairs n m) (mine : own x)
    (both : related x y) :
    p.Couples own related (Function.update table n (some x)) (Function.update table' m (some y)) := by
  refine ⟨couples.same.update pair ⟨mine, both⟩, ?_, ?_⟩
  · intro a x' present mine'
    by_cases same : a = n
    · subst same
      exact ⟨m, pair⟩
    · exact couples.covered a x' (by simpa [same] using present) mine'
  · intro b y' present
    by_cases same : b = m
    · subst same
      exact ⟨n, pair⟩
    · exact couples.only b y' (by simpa [same] using present)

theorem extend (couples : p.Couples own related table table') (below : p.Below n m) (mine : own x)
    (both : related x y) :
    (p.extend below).Couples own related (Function.update table n (some x)) (Function.update table' m (some y)) := by
  have within := within_extend below
  refine ⟨couples.same.extend below ⟨mine, both⟩, ?_, ?_⟩
  · intro a x' present mine'
    by_cases same : a = n
    · subst same
      exact ⟨m, pairs_extend below⟩
    · obtain ⟨b, pair⟩ := couples.covered a x' (by simpa [same] using present) mine'
      exact ⟨b, within a b pair⟩
  · intro b y' present
    by_cases same : b = m
    · subst same
      exact ⟨n, pairs_extend below⟩
    · obtain ⟨a, pair⟩ := couples.only b y' (by simpa [same] using present)
      exact ⟨a, within a b pair⟩

/-- The first side changes what is not its own. -/
theorem frame (couples : p.Couples own related table table')
    (kept : ∀ a x, table a = some x → own x → later a = some x)
    (back : ∀ a x, later a = some x → own x → ∃ before, table a = some before ∧ own before) :
    p.Couples own related later table' := by
  refine ⟨?_, ?_, couples.only⟩
  · intro a b pair
    obtain ⟨x, y, present, present', both⟩ := couples.same a b pair
    exact ⟨x, y, kept a x present both.1, present', both⟩
  · intro a x present mine
    obtain ⟨before, present', mine'⟩ := back a x present mine
    exact couples.covered a before present' mine'

end Couples

end Pairing
