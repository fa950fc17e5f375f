import Mathlib.Data.List.DropRight
import Mathlib.Data.List.TakeDrop

/-! Lists read up to blanks: the words that stand between them, and what is left
when they are trimmed off both ends. And lists cut at their first delimiter. -/

namespace Blanks

universe u v

variable {α : Type u} {β : Type v}

/-- The maximal runs without a blank. -/
def words (blank : α → Bool) (text : List α) : List (List α) :=
  (text.splitOnP blank).filter (!·.isEmpty)

/-- The text without the blanks at its two ends. -/
def trim (blank : α → Bool) (text : List α) : List α := (text.dropWhile blank).rdropWhile blank

/-- A run of blanks, which may be empty. -/
def Gap (blank : α → Bool) (text : List α) : Prop := ∀ x ∈ text, blank x = true

/-- A nonempty run without a blank. -/
structure Word (blank : α → Bool) (text : List α) : Prop where
  nonempty : text ≠ []
  solid : ∀ x ∈ text, blank x = false

/-- The text is empty or starts with a blank. -/
def Parted (blank : α → Bool) (text : List α) : Prop := ∀ x ∈ text.head?, blank x = true

section Words

variable {blank other : α → Bool} {text gap rest word : List α} {later : List (List α)}

@[simp] theorem gap_nil (blank : α → Bool) : Gap blank [] := nofun

@[simp] theorem parted_nil (blank : α → Bool) : Parted blank [] := nofun

theorem Gap.parted (blanks : Gap blank gap) : Parted blank gap := by
  intro x first
  exact blanks x (List.mem_of_mem_head? first)

theorem Gap.append (first : Gap blank text) (second : Gap blank rest) : Gap blank (text ++ rest) := by
  intro x member
  rcases List.mem_append.mp member with left | right
  · exact first x left
  · exact second x right

@[simp] theorem words_nil (blank : α → Bool) : words blank [] = [] := rfl

theorem ne_nil_of_mem_words (member : word ∈ words blank text) : word ≠ [] := by
  have kept := (List.mem_filter.mp member).2
  simpa using kept

theorem words_cons_blank {x : α} (isBlank : blank x = true) (text : List α) :
    words blank (x :: text) = words blank text := by
  have split := List.splitOnP_append_cons (p := blank) [] text isBlank
  simp only [List.nil_append] at split
  simp [words, split]

theorem words_gap (blanks : Gap blank gap) (text : List α) : words blank (gap ++ text) = words blank text := by
  induction gap with
  | nil => rfl
  | cons x gap ih =>
    rw [List.cons_append, words_cons_blank (blanks x List.mem_cons_self)]
    apply ih
    intro y member
    exact blanks y (List.mem_cons_of_mem x member)

theorem words_of_gap (blanks : Gap blank gap) : words blank gap = [] := by
  have none := words_gap blanks []
  rwa [List.append_nil] at none

/-- A word at the front is the first one read. -/
theorem words_word (isWord : Word blank word) (parted : Parted blank rest) :
    words blank (word ++ rest) = word :: words blank rest := by
  have present : (!word.isEmpty) = true := by simp [isWord.nonempty]
  cases rest with
  | nil => simp [words, List.splitOnP_eq_singleton isWord.solid, present]
  | cons x rest =>
    have isBlank : blank x = true := parted x rfl
    rw [words_cons_blank isBlank]
    simp [words, List.splitOnP_append_cons_of_forall_mem isWord.solid x isBlank, present]

/-- Text that is not all blank has a first word. -/
theorem exists_word (written : ¬ Gap blank text) :
    ∃ lead word rest, text = lead ++ word ++ rest ∧ Gap blank lead ∧ Word blank word ∧ Parted blank rest := by
  induction text with
  | nil => exact absurd (gap_nil blank) written
  | cons x text ih =>
    by_cases isBlank : blank x = true
    · have onward : ¬ Gap blank text := by
        intro blanks
        exact written (List.forall_mem_cons.mpr ⟨isBlank, blanks⟩)
      obtain ⟨lead, word, rest, rfl, blanks, isWord, parted⟩ := ih onward
      exact ⟨x :: lead, word, rest, by simp, List.forall_mem_cons.mpr ⟨isBlank, blanks⟩, isWord, parted⟩
    · let solid := fun y => !blank y
      refine ⟨[], (x :: text).takeWhile solid, (x :: text).dropWhile solid, by simp, gap_nil blank, ⟨?_, ?_⟩, ?_⟩
      · simp [solid, isBlank]
      · intro y member
        simpa [solid] using List.mem_takeWhile_imp member
      · intro y first
        have stopped := List.head?_dropWhile_not solid (x :: text)
        rw [Option.mem_def.mp first] at stopped
        simpa [solid] using stopped

/-- The first word stands behind a gap, and before a further blank or the end. -/
theorem words_eq_cons_iff :
    words blank text = word :: later ↔ ∃ lead rest, text = lead ++ word ++ rest ∧ Gap blank lead ∧
      Word blank word ∧ Parted blank rest ∧ words blank rest = later := by
  constructor
  · intro read
    have written : ¬ Gap blank text := by
      intro blanks
      simp [words_of_gap blanks] at read
    obtain ⟨lead, first, rest, rfl, blanks, isWord, parted⟩ := exists_word written
    rw [List.append_assoc, words_gap blanks, words_word isWord parted] at read
    obtain ⟨rfl, same⟩ := List.cons.inj read
    exact ⟨lead, rest, rfl, blanks, isWord, parted, same⟩
  · rintro ⟨lead, rest, rfl, blanks, isWord, parted, rfl⟩
    rw [List.append_assoc, words_gap blanks, words_word isWord parted]

theorem words_eq_nil_iff : words blank text = [] ↔ Gap blank text := by
  constructor
  · intro none
    by_contra written
    obtain ⟨lead, word, rest, rfl, blanks, isWord, parted⟩ := exists_word written
    rw [List.append_assoc, words_gap blanks, words_word isWord parted] at none
    cases none
  · exact words_of_gap

/-- Two notions of blank that agree on the text read the same words. -/
theorem words_congr (agree : ∀ x ∈ text, blank x = other x) : words blank text = words other text := by
  have split : text.splitOnP blank = text.splitOnP other := by
    induction text with
    | nil => rfl
    | cons x text ih =>
      have rest := ih fun y member => agree y (List.mem_cons_of_mem x member)
      rw [List.splitOnP_cons_eq_if_modifyHead, List.splitOnP_cons_eq_if_modifyHead, rest,
        agree x List.mem_cons_self]
  rw [words, words, split]

theorem words_map (f : β → α) (blank : α → Bool) (text : List β) :
    words blank (text.map f) = (words (blank ∘ f) text).map (List.map f) := by
  have split : (text.map f).splitOnP blank = (text.splitOnP (blank ∘ f)).map (List.map f) := by
    induction text with
    | nil => rfl
    | cons x text ih =>
      rw [List.map_cons, List.splitOnP_cons_eq_if_modifyHead, List.splitOnP_cons_eq_if_modifyHead, ih,
        Function.comp_apply]
      split
      · rfl
      · cases text.splitOnP (blank ∘ f) <;> rfl
  rw [words, words, split, List.filter_map]
  congr 2
  funext part
  simp

end Words

/-- No blank stands at either end. -/
structure Trimmed (blank : α → Bool) (text : List α) : Prop where
  first : ∀ x ∈ text.head?, blank x = false
  last : ∀ x ∈ text.getLast?, blank x = false

section Trimming

variable {blank other : α → Bool} {text before after : List α}

theorem trimmed_nil (blank : α → Bool) : Trimmed blank [] := ⟨nofun, nofun⟩

/-- A text by its two ends. -/
theorem trimmed_of_ends (first : text.head? = some x) (last : text.getLast? = some y) (solid : blank x = false)
    (solid' : blank y = false) : Trimmed blank text := by
  constructor
  · intro z found
    cases first.symm.trans found
    exact solid
  · intro z found
    cases last.symm.trans found
    exact solid'

theorem trimmed_singleton {x : α} (solid : blank x = false) : Trimmed blank [x] :=
  trimmed_of_ends rfl rfl solid solid

theorem Trimmed.dropWhile_append (trimmed : Trimmed blank text) (present : text ≠ []) (after : List α) :
    (text ++ after).dropWhile blank = text ++ after := by
  obtain ⟨x, rest, rfl⟩ := List.exists_cons_of_ne_nil present
  have solid : blank x = false := trimmed.first x rfl
  simp [solid]

theorem Trimmed.rdropWhile (trimmed : Trimmed blank text) : text.rdropWhile blank = text := by
  apply List.rdropWhile_eq_self_iff.mpr
  intro present
  simp [trimmed.last _ (List.getLast_mem_getLast? present)]

theorem rdropWhile_gap (blanks : Gap blank after) (text : List α) :
    (text ++ after).rdropWhile blank = text.rdropWhile blank := by
  have reversed : ∀ x ∈ after.reverse, blank x = true := fun x member => blanks x (List.mem_reverse.mp member)
  rw [List.rdropWhile, List.reverse_append, List.dropWhile_append_of_pos reversed, List.rdropWhile]

/-- Trimming takes the gaps off a text without blanks at its ends. -/
theorem trim_surrounded (before_ : Gap blank before) (after_ : Gap blank after) (trimmed : Trimmed blank text) :
    trim blank (before ++ text ++ after) = text := by
  rw [trim, List.append_assoc, List.dropWhile_append_of_pos before_]
  by_cases present : text = []
  · subst present
    have none : after.dropWhile blank = [] := List.dropWhile_eq_nil_iff.mpr after_
    rw [List.nil_append, none, List.rdropWhile_nil]
  · rw [trimmed.dropWhile_append present, rdropWhile_gap after_, trimmed.rdropWhile]

theorem trim_trimmed (trimmed : Trimmed blank text) : trim blank text = text := by
  have bare := trim_surrounded (gap_nil blank) (gap_nil blank) trimmed
  simpa using bare

theorem trim_gap (blanks : Gap blank text) : trim blank text = [] := by
  have empty := trim_surrounded blanks (gap_nil blank) (trimmed_nil blank)
  simpa using empty

/-- Two texts without blanks at their ends, with anything between them. -/
theorem Trimmed.append (first : Trimmed blank before) (last : Trimmed blank after) (present : before ≠ [])
    (present' : after ≠ []) (middle : List α) : Trimmed blank (before ++ middle ++ after) := by
  constructor
  · intro x found
    rw [List.append_assoc, List.head?_append_of_ne_nil _ present] at found
    exact first.first x found
  · intro x found
    rw [List.getLast?_append_of_ne_nil _ present'] at found
    exact last.last x found

theorem Trimmed.mono (trimmed : Trimmed other text) (fewer : ∀ x, other x = false → blank x = false) :
    Trimmed blank text :=
  ⟨fun x found => fewer x (trimmed.first x found), fun x found => fewer x (trimmed.last x found)⟩

/-- Padding is not trimmed off by a notion of blank that it does not meet. -/
theorem Trimmed.padded (trimmed : Trimmed other text) (apart : ∀ x, blank x = true → other x = false)
    (before_ : Gap blank before) (after_ : Gap blank after) : Trimmed other (before ++ text ++ after) := by
  constructor
  · intro x found
    rw [Option.mem_def, List.head?_append, List.head?_append, Option.or_eq_some_iff, Option.or_eq_some_iff] at found
    rcases found with (early | ⟨_, own⟩) | ⟨_, late⟩
    · exact apart x (before_ x (List.mem_of_mem_head? early))
    · exact trimmed.first x own
    · exact apart x (after_ x (List.mem_of_mem_head? late))
  · intro x found
    rw [Option.mem_def, List.getLast?_append, List.getLast?_append, Option.or_eq_some_iff,
      Option.or_eq_some_iff] at found
    rcases found with late | ⟨_, own | ⟨_, early⟩⟩
    · exact apart x (after_ x (List.mem_of_mem_getLast? late))
    · exact trimmed.last x own
    · exact apart x (before_ x (List.mem_of_mem_getLast? early))

end Trimming

/-- The first delimiter is the one put after a text that has none. -/
theorem span_delimiter [DecidableEq α] {delimiter : α} {before : List α} (absent : delimiter ∉ before)
    (after : List α) : (before ++ delimiter :: after).span (· != delimiter) = (before, delimiter :: after) := by
  have untouched : ∀ x ∈ before, (x != delimiter) = true := by
    intro x member
    apply bne_iff_ne.mpr
    rintro rfl
    exact absent member
  rw [List.span_eq_takeWhile_dropWhile, List.takeWhile_append_of_pos untouched,
    List.dropWhile_append_of_pos untouched]
  simp

end Blanks
