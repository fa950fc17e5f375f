import Cachegate.Inflight.Frame
import Cachegate.Library.Pairing

/-! Two inflight maps that do the same for the keys among `mine`, under other
numbers, the second for no other keys. Whatever one of them is asked to do for
these keys the other does as well. What the first does for other keys does not
show. -/

namespace Cachegate

section Calls

variable {R : Type} {entries entries' : Pairing}

/-- Two calls of `wait` that have come to the same point, on paired entries. -/
inductive WaitPhase.Alike (entries : Pairing) : WaitPhase R → WaitPhase R → Prop
  | notified (pair : entries.Pairs e e') : Alike entries (.notified e future) (.notified e' future)
  | locking (pair : entries.Pairs e e') : Alike entries (.locking e) (.locking e')
  | returned (pair : entries.Pairs e e') : Alike entries (.returned e value) (.returned e' value)
  | cancelled (pair : entries.Pairs e e') : Alike entries (.cancelled e) (.cancelled e')

theorem WaitPhase.Alike.mono {phase phase' : WaitPhase R} (alike : phase.Alike entries phase')
    (within : entries.Within entries') : phase.Alike entries' phase' := by
  cases alike with
  | notified pair => exact .notified (within _ _ pair)
  | locking pair => exact .locking (within _ _ pair)
  | returned pair => exact .returned (within _ _ pair)
  | cancelled pair => exact .cancelled (within _ _ pair)

theorem WaitPhase.Alike.entry {phase phase' : WaitPhase R} (alike : phase.Alike entries phase') :
    entries.Pairs phase.entry phase'.entry := by
  cases alike <;> assumption

end Calls

namespace Inflight

variable {K R : Type}

/-- Two entries with one result. -/
def SameResult (entry entry' : InflightEntry R) : Prop := entry'.result = entry.result

/-- Paired guards and calls of `wait` are the same up to their numbers, every guard
of these keys has its pair, and the second map has no others. -/
structure Mirror (mine : K → Prop) (entries waits : Pairing) (f g : Inflight K R) : Prop where
  guards : entries.Couples (fun guard => mine guard.key) Eq f.guards g.guards
  results : ∀ e e', entries.Pairs e e' → (g.entries e').result = (f.entries e).result
  waits : waits.Matches (WaitPhase.Alike entries) f.waits g.waits

theorem mirror_new (mine : K → Prop) : Mirror mine .empty .empty (Inflight.new : Inflight K R) Inflight.new where
  guards := by
    refine .empty ?_ fun _ => rfl
    intro e guard present
    cases present
  results := fun _ _ => False.elim
  waits := Pairing.matches_empty

namespace Mirror

variable {mine : K → Prop} {entries waits : Pairing} {f f' g : Inflight K R}

theorem held (mirror : Mirror mine entries waits f g) (pair : entries.Pairs e e') :
    ∃ guard, f.guards e = some guard ∧ g.guards e' = some guard ∧ mine guard.key := by
  obtain ⟨guard, _, present, present', own, rfl⟩ := mirror.guards.same e e' pair
  exact ⟨guard, present, present', own⟩

theorem below (mirror : Mirror mine entries waits f g) (owned : f.Owned) (owned' : g.Owned) :
    entries.Below f.nextEntry g.nextEntry := by
  intro e e' pair
  obtain ⟨guard, present, present', _⟩ := mirror.held pair
  exact ⟨owned.lt_next present, owned'.lt_next present'⟩

theorem waits_below (mirror : Mirror mine entries waits f g) (owned : f.Owned) (owned' : g.Owned) :
    waits.Below f.nextWait g.nextWait := by
  intro w w' pair
  obtain ⟨phase, phase', present, present', _⟩ := mirror.waits w w' pair
  exact ⟨owned.wait_lt_next present, owned'.wait_lt_next present'⟩

/-- Who is notified is told by the guard's phase. -/
theorem entry (mirror : Mirror mine entries waits f g) (owned : f.Owned) (owned' : g.Owned)
    (pair : entries.Pairs e e') : g.entries e' = f.entries e := by
  obtain ⟨guard, present, present', _⟩ := mirror.held pair
  have calls : (g.entries e').notify = (f.entries e).notify :=
    congrArg Notify.mk ((owned'.calls e' guard present').trans (owned.calls e guard present).symm)
  exact congrArg₂ InflightEntry.mk calls (mirror.results e e' pair)

/-- The slots of these keys hold the same entries. -/
theorem slot (mirror : Mirror mine entries waits f g) (owned : f.Owned) (owned' : g.Owned) (own : mine key) :
    Option.Rel entries.Pairs (f.inner key) (g.inner key) := by
  cases vacant : f.inner key with
  | some e =>
    obtain ⟨guard, present, rfl, unreleased⟩ := (owned.mapped key e).mp vacant
    obtain ⟨e', pair⟩ := mirror.guards.covered e guard present own
    obtain ⟨_, found, present', _⟩ := mirror.held pair
    cases found.symm.trans present
    rw [owned'.inner_of_unreleased present' unreleased]
    exact .some pair
  | none =>
    cases vacant' : g.inner key with
    | none => exact .none
    | some e' =>
      obtain ⟨guard, present', rfl, unreleased⟩ := (owned'.mapped key e').mp vacant'
      obtain ⟨e, pair⟩ := mirror.guards.only e' guard present'
      obtain ⟨_, present, found, _⟩ := mirror.held pair
      cases found.symm.trans present'
      cases vacant.symm.trans (owned.inner_of_unreleased present unreleased)

end Mirror

section Operations

variable {mine : K → Prop} {entries waits : Pairing} {f f' g : Inflight K R}

namespace Mirror

/-- A paired guard moves on. -/
theorem setPhase (mirror : Mirror mine entries waits f g) (pair : entries.Pairs e e') (p : GuardPhase R) :
    Mirror mine entries waits (f.setPhase e p) (g.setPhase e' p) := by
  obtain ⟨guard, present, present', own⟩ := mirror.held pair
  refine ⟨?_, mirror.results, mirror.waits⟩
  rw [setPhase_guards present, setPhase_guards present']
  exact mirror.guards.update pair own rfl

theorem storeResult (mirror : Mirror mine entries waits f g) (pair : entries.Pairs e e') (result : R) :
    Mirror mine entries waits (f.storeResult e result) (g.storeResult e' result) := by
  have moved := mirror.setPhase pair .releasing
  exact ⟨moved.guards, Pairing.holds_update SameResult mirror.results pair rfl, moved.waits⟩

/-- A paired call of `wait` moves on. -/
theorem setWait (mirror : Mirror mine entries waits f g) (pair : waits.Pairs w w')
    {phase phase' : WaitPhase R} (alike : phase.Alike entries phase') :
    Mirror mine entries waits (f.setWait w phase) (g.setWait w' phase') :=
  ⟨mirror.guards, mirror.results, mirror.waits.update pair alike⟩

theorem callWait (mirror : Mirror mine entries waits f g) (owned : f.Owned) (owned' : g.Owned)
    (pair : entries.Pairs e e') :
    Mirror mine entries (waits.extend (mirror.waits_below owned owned')) (f.callWait e).2 (g.callWait e').2 := by
  refine ⟨mirror.guards, mirror.results, mirror.waits.extend _ ?_⟩
  rw [mirror.entry owned owned' pair]
  exact .notified pair

theorem wake (mirror : Mirror mine entries waits f g) (owned : f.Owned) (owned' : g.Owned)
    (pair : waits.Pairs w w') : Option.Rel (Mirror mine entries waits) (f.wake w) (g.wake w') := by
  obtain ⟨phase, phase', present, present', alike⟩ := mirror.waits w w' pair
  unfold Inflight.wake
  rw [present, present']
  cases alike with
  | notified pair' =>
    simp only [mirror.entry owned owned' pair']
    split
    · exact .some (mirror.setWait pair (.locking pair'))
    · exact .none
  | locking | returned | cancelled => exact .none

theorem readResult (mirror : Mirror mine entries waits f g) (pair : waits.Pairs w w') :
    Option.Rel (fun read read' => read'.1 = read.1 ∧ Mirror mine entries waits read.2 read'.2)
      (f.readResult w) (g.readResult w') := by
  obtain ⟨phase, phase', present, present', alike⟩ := mirror.waits w w' pair
  unfold Inflight.readResult
  rw [present, present']
  cases alike with
  | locking pair' =>
    simp only [mirror.results _ _ pair']
    exact .some ⟨rfl, mirror.setWait pair (.returned pair')⟩
  | notified | returned | cancelled => exact .none

theorem cancelWait (mirror : Mirror mine entries waits f g) (pair : waits.Pairs w w') :
    Mirror mine entries waits ((f.cancelWait w).getD f) ((g.cancelWait w').getD g) := by
  obtain ⟨phase, phase', present, present', alike⟩ := mirror.waits w w' pair
  unfold Inflight.cancelWait
  rw [present, present']
  cases alike with
  | notified pair' | locking pair' => exact mirror.setWait pair (.cancelled pair')
  | returned | cancelled => exact mirror

variable [DecidableEq K]

/-- A release moves no guard but its own, and no result. -/
theorem finishRelease (mirror : Mirror mine entries waits f g) (owned : f.Owned) (owned' : g.Owned)
    (pair : entries.Pairs e e') (unreleased : ∀ guard, f.guards e = some guard → guard.phase.released = false) :
    Mirror mine entries waits (f.finishRelease e) (g.finishRelease e') := by
  obtain ⟨guard, present, present', own⟩ := mirror.held pair
  have before := unreleased guard present
  rw [owned.finishRelease_eq present before, owned'.finishRelease_eq present' before]
  have result := mirror.results e e' pair
  exact ⟨mirror.guards.update pair own rfl, Pairing.holds_update SameResult mirror.results pair result, mirror.waits⟩

end Mirror

/-- What `acquire` comes to on both sides: both join paired entries, or both lead. -/
inductive Acquires [DecidableEq K] (mine : K → Prop) (entries waits : Pairing) (f g : Inflight K R)
    (key : K) : Prop
  | follower {f' g' : Inflight K R} (pair : entries.Pairs e e') (joined : f.acquire key = (.follower e, f'))
      (joined' : g.acquire key = (.follower e', g')) (mirror : Mirror mine entries waits f' g') :
      Acquires mine entries waits f g key
  | leader {f' g' : Inflight K R} (within : entries.Within entries') (pair : entries'.Pairs e e')
      (opened : f.acquire key = (.leader e, f')) (opened' : g.acquire key = (.leader e', g'))
      (mirror : Mirror mine entries' waits f' g') : Acquires mine entries waits f g key

variable [DecidableEq K]

theorem acquire_vacant (vacant : f.inner key = none) :
    f.acquire key = (.leader f.nextEntry,
      { f with
        inner := Function.update f.inner key (some f.nextEntry)
        entries := Function.update f.entries f.nextEntry ⟨.new, none⟩
        guards := Function.update f.guards f.nextEntry (some ⟨key, .held⟩)
        nextEntry := f.nextEntry + 1 }) := by
  simp only [Inflight.acquire, vacant]

theorem Mirror.acquire (mirror : Mirror mine entries waits f g) (owned : f.Owned) (owned' : g.Owned)
    (own : mine key) : Acquires mine entries waits f g key := by
  have slot := mirror.slot owned owned' own
  cases vacant : f.inner key with
  | some e =>
    rw [vacant] at slot
    cases vacant' : g.inner key with
    | none =>
      rw [vacant'] at slot
      cases slot
    | some e' =>
      rw [vacant'] at slot
      cases slot with
      | some pair =>
        have joined : f.acquire key = (.follower e, { f with cloned := Function.update f.cloned e true }) := by
          simp only [Inflight.acquire, vacant]
        have joined' : g.acquire key = (.follower e', { g with cloned := Function.update g.cloned e' true }) := by
          simp only [Inflight.acquire, vacant']
        exact .follower pair joined joined' ⟨mirror.guards, mirror.results, mirror.waits⟩
  | none =>
    rw [vacant] at slot
    cases vacant' : g.inner key with
    | some e' =>
      rw [vacant'] at slot
      cases slot
    | none =>
      have below := mirror.below owned owned'
      have within := Pairing.within_extend below
      have opened := acquire_vacant vacant
      have opened' := acquire_vacant vacant'
      exact .leader within (Pairing.pairs_extend below) opened opened'
        ⟨mirror.guards.extend below own rfl, Pairing.holds_extend SameResult mirror.results below rfl,
          mirror.waits.imp fun _ _ alike => alike.mono within⟩

omit [DecidableEq K] in
/-- What the first map does with other keys' guards and calls does not show. -/
theorem Mirror.frame (mirror : Mirror mine entries waits f g) (frame : Frame f f' owner call)
    (foreign : ∀ e guard, owner = some e → f.guards e = some guard → ¬ mine guard.key)
    (calls : ∀ w phase guard, call = some w → f.waits w = some phase → f.guards phase.entry = some guard →
      ¬ mine guard.key)
    (opened : ∀ e guard, f'.guards e = some guard → f.guards e = none → ¬ mine guard.key) :
    Mirror mine entries waits f' g := by
  have others {e : EntryId} {guard : InflightGuard K R} (present : f.guards e = some guard)
      (own : mine guard.key) : some e ≠ owner := fun same => foreign e guard same.symm present own
  refine ⟨mirror.guards.frame ?_ ?_, ?_, mirror.waits.frame ?_⟩
  · intro e guard present own
    exact (frame.others e guard (others present own) present).1
  · intro e guard found own
    cases before : f.guards e with
    | none => exact absurd own (opened e guard found before)
    | some older =>
      obtain ⟨later, kept, name⟩ := frame.keys e older before
      cases kept.symm.trans found
      exact ⟨older, rfl, name ▸ own⟩
  · intro e e' pair
    obtain ⟨guard, present, _, own⟩ := mirror.held pair
    exact (mirror.results e e' pair).trans (frame.others e guard (others present own) present).2.symm
  · intro w w' phase pair present
    obtain ⟨phase', _, alike⟩ := mirror.waits.found pair present
    obtain ⟨guard, held, _, own⟩ := mirror.held alike.entry
    refine frame.waits w phase ?_ present
    intro same
    exact calls w phase guard same.symm present held own

end Operations

end Inflight

end Cachegate
