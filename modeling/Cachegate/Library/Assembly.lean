import Mathlib.Data.List.Perm.Basic
import Mathlib.Logic.Function.Basic

/-! Tables assembled from the entries of another, each by a step that may fail.
Under distinct keys the table does not depend on the order of the entries. -/

namespace Assembly

universe u v w x

variable {Key : Type u} {Source : Type v} {Value : Type w} {Error : Type x} [DecidableEq Key]

/-- The entries one after the other, up to the first that fails. -/
def assembleInto (build : Key → Source → Except Error Value) (table : Key → Option Value) :
    List (Key × Source) → Except Error (Key → Option Value)
  | [] => .ok table
  | (key, source) :: rest =>
      match build key source with
      | .error err => .error err
      | .ok value => assembleInto build (Function.update table key (some value)) rest

def assemble (build : Key → Source → Except Error Value) (entries : List (Key × Source)) :
    Except Error (Key → Option Value) :=
  assembleInto build (fun _ => none) entries

variable {build : Key → Source → Except Error Value} {table start : Key → Option Value}
  {entries entries' : List (Key × Source)}

/-- These are the values that the entries build. -/
def Builds (build : Key → Source → Except Error Value) (entries : List (Key × Source)) (table : Key → Option Value) :
    Prop :=
  ∀ entry ∈ entries, ∃ value, build entry.1 entry.2 = .ok value ∧ table entry.1 = some value

theorem assembleInto_ok_iff (distinct : (entries.map Prod.fst).Nodup) :
    assembleInto build start entries = .ok table ↔
      Builds build entries table ∧ ∀ key, key ∉ entries.map Prod.fst → table key = start key := by
  induction entries generalizing start with
  | nil =>
    simp only [assembleInto, Except.ok.injEq]
    constructor
    · rintro rfl
      exact ⟨fun entry listed => absurd listed List.not_mem_nil, fun _ _ => rfl⟩
    · rintro ⟨_, same⟩
      exact funext fun key => (same key List.not_mem_nil).symm
  | cons entry rest ih =>
    obtain ⟨key, source⟩ := entry
    rw [List.map_cons, List.nodup_cons] at distinct
    obtain ⟨fresh, distinct⟩ := distinct
    simp only [assembleInto]
    cases built : build key source with
    | error err =>
      constructor
      · intro failed
        cases failed
      · rintro ⟨builds, _⟩
        obtain ⟨value, made, _⟩ := builds (key, source) List.mem_cons_self
        cases built.symm.trans made
    | ok value =>
      simp only [ih distinct]
      constructor
      · rintro ⟨builds, others⟩
        have own : table key = some value := (others key fresh).trans (Function.update_self ..)
        refine ⟨List.forall_mem_cons.mpr ⟨⟨value, built, own⟩, builds⟩, ?_⟩
        intro other absent
        rw [List.map_cons, List.mem_cons, not_or] at absent
        rw [others other absent.2, Function.update_of_ne absent.1]
      · rintro ⟨builds, others⟩
        obtain ⟨⟨value', made, own⟩, builds⟩ := List.forall_mem_cons.mp builds
        cases built.symm.trans made
        refine ⟨builds, ?_⟩
        intro other absent
        by_cases same : other = key
        · subst same
          rw [own, Function.update_self]
        · rw [Function.update_of_ne same]
          exact others other (by simpa [same] using absent)

/-- All entries build, and the table has their values and no others. -/
theorem assemble_ok_iff (distinct : (entries.map Prod.fst).Nodup) :
    assemble build entries = .ok table ↔
      Builds build entries table ∧ ∀ key, key ∉ entries.map Prod.fst → table key = none :=
  assembleInto_ok_iff distinct

theorem assemble_perm (distinct : (entries.map Prod.fst).Nodup) (same : entries.Perm entries') :
    assemble build entries = .ok table ↔ assemble build entries' = .ok table := by
  have names := same.map Prod.fst
  rw [assemble_ok_iff distinct, assemble_ok_iff (names.nodup_iff.mp distinct)]
  simp only [Builds, same.mem_iff, names.mem_iff]

/-- The table exists as soon as all entries build. -/
theorem assemble_builds (builds : ∀ entry ∈ entries, ∃ value, build entry.1 entry.2 = .ok value) :
    ∃ table, assemble build entries = .ok table := by
  suffices ready : ∀ start, ∃ table, assembleInto build start entries = .ok table from ready _
  induction entries with
  | nil => exact fun start => ⟨start, rfl⟩
  | cons entry rest ih =>
    intro start
    obtain ⟨key, source⟩ := entry
    obtain ⟨⟨value, built⟩, builds⟩ := List.forall_mem_cons.mp builds
    simp only at built
    simp only [assembleInto, built]
    exact ih builds _

/-- An error is that of an entry. -/
theorem assemble_error (failed : assemble build entries = .error err) :
    ∃ entry ∈ entries, build entry.1 entry.2 = .error err := by
  suffices within : ∀ start, assembleInto build start entries = .error err →
      ∃ entry ∈ entries, build entry.1 entry.2 = .error err from within _ failed
  clear failed
  induction entries with
  | nil =>
    intro start failed
    cases failed
  | cons entry rest ih =>
    intro start failed
    obtain ⟨key, source⟩ := entry
    simp only [assembleInto] at failed
    split at failed
    · rename_i err' built
      cases failed
      exact ⟨(key, source), List.mem_cons_self, built⟩
    · obtain ⟨entry, listed, built⟩ := ih _ failed
      exact ⟨entry, List.mem_cons_of_mem _ listed, built⟩

end Assembly
