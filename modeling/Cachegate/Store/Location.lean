import Cachegate.Handler.Data
import Cachegate.Library.PercentEncoding
import Mathlib.Data.List.Basic

/-! The locations that paths are stored under. Which paths share a location does
not depend on which characters are encoded. -/

namespace Cachegate

/-- The UTF-8 bytes of a text. -/
def utf8 (text : List Char) : Bytes := text.flatMap String.utf8EncodeChar

/-- Bytes as ASCII text. -/
def asciiText (bytes : Bytes) : List Char := bytes.map fun byte => Char.ofNat byte.toNat

/-- A segment of a location, with its reserved bytes encoded; one that names the
directory itself or its parent is encoded whole. -/
def pathPart (reserved : UInt8 → Bool) (segment : List Char) : List Char :=
  if segment = ['.'] then ['%', '2', 'E']
  else if segment = ['.', '.'] then ['%', '2', 'E', '%', '2', 'E']
  else asciiText (PercentEncoding.encode reserved (utf8 segment))

/-- What stands between slashes, where anything does. -/
def segments (path : String) : List (List Char) := (path.toList.splitOn '/').filter (!·.isEmpty)

/-- `object_store::path::Path::from`. -/
def pathFrom (reserved : UInt8 → Bool) (path : String) : String :=
  String.ofList (['/'].intercalate ((segments path).map (pathPart reserved)))

section Parts

variable {reserved : UInt8 → Bool} {segment : List Char} {parts : List (List Char)}

theorem utf8_injective : Function.Injective utf8 := by
  intro left right same
  apply String.ofList_injective
  apply String.toByteArray_inj.mp
  exact congrArg List.toByteArray same

theorem toNat_asciiChar (byte : UInt8) : (Char.ofNat byte.toNat).toNat = byte.toNat := by
  have bounded : byte.toNat < 256 := byte.toNat_lt
  have valid : byte.toNat.isValidChar := .inl (by omega)
  rw [Char.ofNat, dif_pos valid]
  rfl

theorem asciiText_injective : Function.Injective asciiText := by
  apply List.map_injective_iff.mpr
  intro left right same
  apply UInt8.toNat_inj.mp
  rw [← toNat_asciiChar left, ← toNat_asciiChar right]
  exact congrArg Char.toNat same

/-- A byte of a character's encoding is the character, or not ASCII. -/
theorem mem_utf8EncodeChar {char : Char} {byte : UInt8} (member : byte ∈ String.utf8EncodeChar char) :
    byte.toNat = char.val.toNat ∨ 128 ≤ byte.toNat := by
  simp only [String.utf8EncodeChar] at member
  split at member
  · left
    obtain rfl := List.mem_singleton.mp member
    rw [UInt8.toNat_ofNat', Nat.mod_eq_of_lt (by omega)]
  · right
    split at member
    · simp only [List.mem_cons, List.not_mem_nil, or_false] at member
      rcases member with rfl | rfl
      all_goals
        rw [UInt8.toNat_ofNat']
        omega
    · split at member
      · simp only [List.mem_cons, List.not_mem_nil, or_false] at member
        rcases member with rfl | rfl | rfl
        all_goals
          rw [UInt8.toNat_ofNat']
          omega
      · simp only [List.mem_cons, List.not_mem_nil, or_false] at member
        rcases member with rfl | rfl | rfl | rfl
        all_goals
          rw [UInt8.toNat_ofNat']
          omega

/-- No character but the slash has the slash's byte in its encoding. -/
theorem slash_encoded {char : Char} (member : (47 : UInt8) ∈ String.utf8EncodeChar char) : char = '/' := by
  apply Char.toNat_inj.mp
  rcases mem_utf8EncodeChar member with same | large
  · exact same.symm
  · exact absurd large (by decide)

theorem hexDigit_ne_slash : ∀ n, n < 16 → PercentEncoding.hexDigit n ≠ 47 := by
  decide

/-- A part contains no slash of its own. -/
theorem slash_pathPart (absent : '/' ∉ segment) : '/' ∉ pathPart reserved segment := by
  unfold pathPart
  split_ifs
  · decide
  · decide
  · intro member
    obtain ⟨byte, coded, shown⟩ := List.mem_map.mp member
    have slash : byte = 47 := by
      apply UInt8.toNat_inj.mp
      rw [← toNat_asciiChar byte, shown]
      rfl
    subst slash
    rcases PercentEncoding.mem_encode coded with percent | ⟨n, digit, same⟩ | literal
    · cases percent
    · exact hexDigit_ne_slash n digit same.symm
    · obtain ⟨char, listed, encoded⟩ := List.mem_flatMap.mp literal
      rw [slash_encoded encoded] at listed
      exact absent listed

theorem pathPart_ne_nil (present : segment ≠ []) : pathPart reserved segment ≠ [] := by
  unfold pathPart
  split_ifs
  · exact List.cons_ne_nil _ _
  · exact List.cons_ne_nil _ _
  · intro empty
    have coded : PercentEncoding.encode reserved (utf8 segment) ≠ [] := by
      apply PercentEncoding.encode_ne_nil
      intro nothing
      apply present
      apply utf8_injective
      exact nothing
    exact coded (List.map_eq_nil_iff.mp empty)

/-- Every part is the text of bytes that decode to the segment. -/
theorem pathPart_decodes (percent : reserved 37 = true) (segment : List Char) :
    ∃ coded, pathPart reserved segment = asciiText coded ∧ PercentEncoding.decode coded = utf8 segment := by
  unfold pathPart
  split_ifs with dot parent
  · subst dot
    exact ⟨[37, 50, 69], by decide, by decide⟩
  · subst parent
    exact ⟨[37, 50, 69, 37, 50, 69], by decide, by decide⟩
  · exact ⟨_, rfl, PercentEncoding.decode_encode percent _⟩

theorem pathPart_injective (percent : reserved 37 = true) : Function.Injective (pathPart reserved) := by
  intro left right same
  obtain ⟨coded, shown, decoded⟩ := pathPart_decodes percent left
  obtain ⟨coded', shown', decoded'⟩ := pathPart_decodes percent right
  apply utf8_injective
  rw [← decoded, ← decoded']
  congr 1
  apply asciiText_injective
  rw [← shown, ← shown', same]

/-- Splitting what was joined gives back the parts. -/
theorem splitOn_join (slashless : ∀ part ∈ parts, '/' ∉ part) (present : ∀ part ∈ parts, part ≠ []) :
    ((['/'].intercalate parts).splitOn '/').filter (!·.isEmpty) = parts := by
  cases parts with
  | nil => rfl
  | cons part rest =>
    rw [List.splitOn_intercalate '/' slashless (List.cons_ne_nil _ _)]
    apply List.filter_eq_self.mpr
    intro listed member
    simpa using present listed member

theorem slash_splitOn {text : List Char} (member : segment ∈ text.splitOn '/') : '/' ∉ segment := by
  induction text generalizing segment with
  | nil =>
    obtain rfl := List.mem_singleton.mp member
    exact List.not_mem_nil
  | cons char rest ih =>
    rw [List.splitOn_cons_eq_if_modifyHead] at member
    split at member
    · rcases List.mem_cons.mp member with rfl | later
      · exact List.not_mem_nil
      · exact ih later
    · rename_i different
      obtain ⟨first, later, parted⟩ := List.exists_cons_of_ne_nil (List.splitOn_ne_nil '/' rest)
      rw [parted] at member ih
      rcases List.mem_cons.mp member with rfl | listed
      · intro slash
        rcases List.mem_cons.mp slash with rfl | slash
        · exact different (beq_self_eq_true _)
        · exact ih List.mem_cons_self slash
      · exact ih (List.mem_cons_of_mem _ listed)

theorem mem_segments {path : String} (member : segment ∈ segments path) : segment ≠ [] ∧ '/' ∉ segment := by
  obtain ⟨listed, present⟩ := List.mem_filter.mp member
  exact ⟨by simpa using present, slash_splitOn listed⟩

end Parts

/-- Two paths have one location exactly if they have the same segments. -/
theorem pathFrom_eq_iff {reserved : UInt8 → Bool} (percent : reserved 37 = true) (p q : String) :
    pathFrom reserved p = pathFrom reserved q ↔ segments p = segments q := by
  have split_ (path : String) : ((pathFrom reserved path).toList.splitOn '/').filter (!·.isEmpty) =
      (segments path).map (pathPart reserved) := by
    rw [pathFrom, String.toList_ofList]
    apply splitOn_join
    · intro part listed
      obtain ⟨segment, member, rfl⟩ := List.mem_map.mp listed
      exact slash_pathPart (mem_segments member).2
    · intro part listed
      obtain ⟨segment, member, rfl⟩ := List.mem_map.mp listed
      exact pathPart_ne_nil (mem_segments member).1
  constructor
  · intro same
    apply List.map_injective_iff.mpr (pathPart_injective percent)
    rw [← split_ p, ← split_ q, same]
  · intro same
    rw [pathFrom, pathFrom, same]

end Cachegate
