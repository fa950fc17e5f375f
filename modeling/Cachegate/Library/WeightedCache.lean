import Mathlib.Algebra.GroupWithZero.Nat

/-! Caches that hold entries up to a total weight, and evict on insertion
whatever they like, as long as the rest fits. -/

namespace WeightedCache

variable {Key Value : Type} [DecidableEq Key]
variable {weight size : Key → Value → Nat} {capacity bound : Nat} {held : List (Key × Value)}

/-- The sum of a measure over the entries held. -/
def total (size : Key → Value → Nat) (held : List (Key × Value)) : Nat :=
  (held.map fun entry => size entry.1 entry.2).sum

omit [DecidableEq Key] in
@[simp] theorem total_nil : total size ([] : List (Key × Value)) = 0 := rfl

omit [DecidableEq Key] in
@[simp] theorem total_cons (key : Key) (value : Value) (held : List (Key × Value)) :
    total size ((key, value) :: held) = size key value + total size held := rfl

omit [DecidableEq Key] in
/-- Where sizes are bounded by weights, so are their totals. -/
theorem total_le (each : ∀ entry ∈ held, size entry.1 entry.2 ≤ bound * weight entry.1 entry.2) :
    total size held ≤ bound * total weight held := by
  induction held with
  | nil => exact Nat.zero_le _
  | cons entry rest ih =>
    have first := each entry List.mem_cons_self
    have others := ih fun other listed => each other (List.mem_cons_of_mem entry listed)
    obtain ⟨key, value⟩ := entry
    rw [total_cons, total_cons, Nat.mul_add]
    exact Nat.add_le_add first others

/-- Entries under distinct keys that fit the capacity. -/
structure Tier (weight : Key → Value → Nat) (capacity : Nat) where
  held : List (Key × Value)
  distinct : (held.map Prod.fst).Nodup
  fits : total weight held ≤ capacity

/-- What is left of the old entries and the new one after evictions. -/
def replaced (held : List (Key × Value)) (key : Key) (value : Value) (evicted : Key → Bool) : List (Key × Value) :=
  ((key, value) :: held.filter fun entry => entry.1 ≠ key).filter fun entry => !evicted entry.1

theorem distinct_replaced (distinct : (held.map Prod.fst).Nodup) (key : Key) (value : Value) (evicted : Key → Bool) :
    ((replaced held key value evicted).map Prod.fst).Nodup := by
  have fresh : (((key, value) :: held.filter fun entry => entry.1 ≠ key).map Prod.fst).Nodup := by
    rw [List.map_cons, List.nodup_cons]
    constructor
    · intro listed
      obtain ⟨entry, kept, same⟩ := List.mem_map.mp listed
      have different := (List.mem_filter.mp kept).2
      simp [same] at different
    · exact distinct.sublist (List.filter_sublist.map Prod.fst)
  exact fresh.sublist (List.filter_sublist.map Prod.fst)

namespace Tier

def empty : Tier weight capacity := ⟨[], List.nodup_nil, Nat.zero_le _⟩

def find? (tier : Tier weight capacity) (key : Key) : Option Value :=
  (tier.held.find? fun entry => entry.1 = key).map Prod.snd

/-- An insertion with these evictions, if they make enough room. -/
def insert? (tier : Tier weight capacity) (key : Key) (value : Value) (evicted : Key → Bool) :
    Option (Tier weight capacity) :=
  if fits : total weight (replaced tier.held key value evicted) ≤ capacity then
    some ⟨replaced tier.held key value evicted, distinct_replaced tier.distinct key value evicted, fits⟩
  else none

variable {tier tier' : Tier weight capacity} {key other : Key} {value : Value} {evicted : Key → Bool}

theorem held_insert (inserted : tier.insert? key value evicted = some tier') :
    tier'.held = replaced tier.held key value evicted := by
  unfold insert? at inserted
  split at inserted
  · cases inserted
    rfl
  · cases inserted

/-- What is held afterwards was held before, or is new. -/
theorem mem_insert (inserted : tier.insert? key value evicted = some tier') {entry : Key × Value}
    (listed : entry ∈ tier'.held) : entry = (key, value) ∨ entry ∈ tier.held ∧ entry.1 ≠ key := by
  rw [held_insert inserted] at listed
  rcases List.mem_cons.mp (List.mem_filter.mp listed).1 with same | kept
  · exact .inl same
  · obtain ⟨before, different⟩ := List.mem_filter.mp kept
    exact .inr ⟨before, by simpa using different⟩

/-- A new entry that fits can be inserted without evictions. -/
theorem insert_fresh (fresh : key ∉ tier.held.map Prod.fst)
    (room : weight key value + total weight tier.held ≤ capacity) :
    ∃ tier', tier.insert? key value (fun _ => false) = some tier' ∧ tier'.held = (key, value) :: tier.held := by
  have kept : replaced tier.held key value (fun _ => false) = (key, value) :: tier.held := by
    have others : (tier.held.filter fun entry => entry.1 ≠ key) = tier.held := by
      apply List.filter_eq_self.mpr
      intro entry listed
      simp only [ne_eq, decide_not, Bool.not_eq_true', decide_eq_false_iff_not]
      rintro rfl
      exact fresh (List.mem_map_of_mem listed)
    unfold replaced
    rw [others]
    exact List.filter_eq_self.mpr fun _ _ => rfl
  unfold insert?
  rw [dif_pos (by rw [kept]; exact room)]
  exact ⟨_, rfl, kept⟩

end Tier

end WeightedCache
