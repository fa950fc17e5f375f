import Mathlib.Logic.Function.Basic

/-! Percent-encoding of bytes, for any set of reserved bytes that contains the
percent sign. -/

namespace PercentEncoding

variable {reserved : UInt8 → Bool} {bytes : List UInt8} {byte : UInt8}

/-- `0` to `9` and `A` to `F`. -/
def hexDigit (n : Nat) : UInt8 := if n < 10 then UInt8.ofNat (48 + n) else UInt8.ofNat (55 + n)

def hexValue (digit : UInt8) : Nat := if digit < 58 then digit.toNat - 48 else digit.toNat - 55

/-- One byte, as itself or as `%XX`. -/
def encodeByte (reserved : UInt8 → Bool) (byte : UInt8) : List UInt8 :=
  if reserved byte then [37, hexDigit (byte.toNat / 16), hexDigit (byte.toNat % 16)] else [byte]

def encode (reserved : UInt8 → Bool) (bytes : List UInt8) : List UInt8 := bytes.flatMap (encodeByte reserved)

def decode : List UInt8 → List UInt8
  | [] => []
  | 37 :: high :: low :: rest => UInt8.ofNat (16 * hexValue high + hexValue low) :: decode rest
  | byte :: rest => byte :: decode rest

theorem hexValue_hexDigit : ∀ n, n < 16 → hexValue (hexDigit n) = n := by
  decide

theorem decode_digits (byte : UInt8) :
    UInt8.ofNat (16 * hexValue (hexDigit (byte.toNat / 16)) + hexValue (hexDigit (byte.toNat % 16))) = byte := by
  have bounded : byte.toNat < 256 := byte.toNat_lt
  rw [hexValue_hexDigit _ (by omega), hexValue_hexDigit _ (by omega), Nat.div_add_mod]
  exact UInt8.ofNat_toNat

theorem decode_literal (literal : byte ≠ 37) (rest : List UInt8) : decode (byte :: rest) = byte :: decode rest := by
  apply decode.eq_3
  intro high low rest same
  exact absurd same literal

/-- Decoding an encoded byte consumes exactly its encoding. -/
theorem decode_encodeByte (percent : reserved 37 = true) (byte : UInt8) (rest : List UInt8) :
    decode (encodeByte reserved byte ++ rest) = byte :: decode rest := by
  unfold encodeByte
  split
  · simp only [List.cons_append, List.nil_append, decode]
    rw [decode_digits]
  · rename_i kept
    apply decode_literal
    rintro rfl
    exact kept percent

/-- What is encoded decodes to itself. -/
theorem decode_encode (percent : reserved 37 = true) (bytes : List UInt8) : decode (encode reserved bytes) = bytes := by
  induction bytes with
  | nil => rfl
  | cons byte rest ih =>
    rw [encode, List.flatMap_cons, decode_encodeByte percent]
    exact congrArg (byte :: ·) ih

theorem encodeByte_ne_nil (reserved : UInt8 → Bool) (byte : UInt8) : encodeByte reserved byte ≠ [] := by
  unfold encodeByte
  split
  · exact List.cons_ne_nil _ _
  · exact List.cons_ne_nil _ _

theorem encode_ne_nil (present : bytes ≠ []) : encode reserved bytes ≠ [] := by
  obtain ⟨byte, rest, rfl⟩ := List.exists_cons_of_ne_nil present
  intro empty
  exact encodeByte_ne_nil reserved byte (List.append_eq_nil_iff.mp empty).1

/-- An encoding holds percent signs, digits, and bytes of what was encoded. -/
theorem mem_encode (member : byte ∈ encode reserved bytes) :
    byte = 37 ∨ (∃ n, n < 16 ∧ byte = hexDigit n) ∨ byte ∈ bytes := by
  obtain ⟨source, listed, member⟩ := List.mem_flatMap.mp member
  have bounded : source.toNat < 256 := source.toNat_lt
  unfold encodeByte at member
  split at member
  · simp only [List.mem_cons, List.not_mem_nil, or_false] at member
    rcases member with rfl | rfl | rfl
    · exact .inl rfl
    · exact .inr (.inl ⟨source.toNat / 16, by omega, rfl⟩)
    · exact .inr (.inl ⟨source.toNat % 16, by omega, rfl⟩)
  · obtain rfl := List.mem_singleton.mp member
    exact .inr (.inr listed)

end PercentEncoding
