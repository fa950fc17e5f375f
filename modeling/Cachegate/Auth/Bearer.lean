import Cachegate.Auth.Verify
import Cachegate.Library.Blanks

/-! Which headers present a bearer token, and which of them the parser and the
comparison accept. -/

namespace Cachegate

open Blanks

/-- A space or a tab. -/
def blankByte (byte : UInt8) : Bool := byte == 32 || byte == 9

/-- What `to_str` lets through. -/
def printableByte (byte : UInt8) : Bool := (32 ≤ byte && byte < 127) || byte == 9

/-- The scheme, in any letter case. -/
def BearerWord (word : List UInt8) : Prop :=
  word.map (fun byte => (Char.ofNat byte.toNat).toLower) = "bearer".toList

instance (word : List UInt8) : Decidable (BearerWord word) :=
  inferInstanceAs (Decidable (word.map (fun byte => (Char.ofNat byte.toNat).toLower) = "bearer".toList))

/-- The rest of the header behind the scheme and its blanks. -/
def AfterBearer (value rest : HeaderValue) : Prop :=
  ∃ lead word gap, value = lead ++ word ++ gap ++ rest ∧ Gap blankByte lead ∧ BearerWord word ∧
    Gap blankByte gap ∧ gap ≠ []

/-- The header is `Bearer` and exactly the token, up to blanks around them. -/
def Presents (value token : HeaderValue) : Prop :=
  ∃ trail, AfterBearer value (token ++ trail) ∧ Gap blankByte trail

/-- The token is one word of visible ASCII. -/
def PlainToken (token : HeaderValue) : Prop := ∀ byte ∈ token, 33 ≤ byte ∧ byte < 127

/-- The header has further words of visible ASCII behind the token. -/
def Trailed (value token : HeaderValue) : Prop :=
  ∃ rest, AfterBearer value (token ++ rest) ∧ Parted blankByte rest ∧ ¬ Gap blankByte rest ∧
    ∀ byte ∈ rest, printableByte byte = true

/-- `parse_bearer_token`, then `verify_bearer`. -/
def AcceptsBearer (auth : AuthState) (headers : HeaderMap) : Prop :=
  ∃ token, parseBearerToken headers = some token ∧ auth.verifyBearer token = .ok ()

section Bytes

variable {byte : UInt8} {letters : List UInt8} {value token rest : HeaderValue} {later : List (List UInt8)}

theorem isWhitespace_printable (printable : printableByte byte = true) :
    (Char.ofNat byte.toNat).isWhitespace = blankByte byte := by
  have table : ∀ n, n < 128 → printableByte (UInt8.ofNat n) = true →
      (Char.ofNat n).isWhitespace = blankByte (UInt8.ofNat n) := by decide
  have bounded : byte.toNat < 128 := by
    simp only [printableByte, Bool.or_eq_true, Bool.and_eq_true, decide_eq_true_eq, beq_iff_eq] at printable
    rcases printable with ⟨_, small⟩ | rfl
    · exact Nat.lt_trans (UInt8.lt_iff_toNat_lt.mp small) (by decide)
    · decide
  have own := table byte.toNat bounded
  rw [UInt8.ofNat_toNat] at own
  exact own printable

theorem printable_of_blank (blank : blankByte byte = true) : printableByte byte = true := by
  simp only [blankByte, Bool.or_eq_true, beq_iff_eq] at blank
  rcases blank with rfl | rfl <;> decide

theorem plain_iff : 33 ≤ byte ∧ byte < 127 ↔ printableByte byte = true ∧ blankByte byte = false := by
  simp only [printableByte, blankByte, UInt8.le_iff_toNat_le, UInt8.lt_iff_toNat_lt, Bool.or_eq_true,
    Bool.and_eq_true, decide_eq_true_eq, Bool.or_eq_false_iff, beq_eq_false_iff_ne, beq_iff_eq, ne_eq,
    ← UInt8.toNat_inj]
  change 33 ≤ byte.toNat ∧ byte.toNat < 127 ↔
    (32 ≤ byte.toNat ∧ byte.toNat < 127 ∨ byte.toNat = 9) ∧ ¬ byte.toNat = 32 ∧ ¬ byte.toNat = 9
  omega

theorem PlainToken.isWord (plain : PlainToken token) (nonempty : token ≠ []) : Word blankByte token := by
  refine ⟨nonempty, ?_⟩
  intro byte member
  exact (plain_iff.mp (plain byte member)).2

set_option maxRecDepth 4000 in
/-- A letter of the scheme is visible. -/
theorem BearerWord.plain (scheme : BearerWord letters) : PlainToken letters := by
  have table : ∀ n, n < 256 → (Char.ofNat n).toLower ∈ "bearer".toList →
      33 ≤ UInt8.ofNat n ∧ UInt8.ofNat n < 127 := by decide
  intro byte member
  have letter : (Char.ofNat byte.toNat).toLower ∈ "bearer".toList := by
    rw [← scheme]
    exact List.mem_map_of_mem member
  have own := table byte.toNat byte.toNat_lt letter
  rwa [UInt8.ofNat_toNat] at own

theorem BearerWord.isWord (scheme : BearerWord letters) : Word blankByte letters := by
  apply scheme.plain.isWord
  rintro rfl
  cases scheme

/-- The header is printable as far as its rest is. -/
theorem AfterBearer.printable (after : AfterBearer value rest) :
    (∀ byte ∈ value, printableByte byte = true) ↔ ∀ byte ∈ rest, printableByte byte = true := by
  obtain ⟨lead, word, gap, rfl, blanks, scheme, blanks', _⟩ := after
  constructor
  · intro all byte member
    exact all byte (List.mem_append_right _ member)
  · intro all byte member
    simp only [List.mem_append] at member
    rcases member with ((early | letter) | between) | late
    · exact printable_of_blank (blanks byte early)
    · exact (plain_iff.mp (scheme.plain byte letter)).1
    · exact printable_of_blank (blanks' byte between)
    · exact all byte late

/-- The first two words of a header are the scheme and the token. -/
theorem words_bearer_iff :
    (∃ scheme, BearerWord scheme ∧ words blankByte value = scheme :: token :: later) ↔
      ∃ rest, AfterBearer value (token ++ rest) ∧ Word blankByte token ∧ Parted blankByte rest ∧
        words blankByte rest = later := by
  constructor
  · rintro ⟨scheme, bearer, read⟩
    obtain ⟨lead, onward, rfl, blanks, _, parted, read⟩ := words_eq_cons_iff.mp read
    obtain ⟨gap, rest, rfl, blanks', isWord, parted', read⟩ := words_eq_cons_iff.mp read
    have apart : gap ≠ [] := by
      rintro rfl
      obtain ⟨byte, token, rfl⟩ := List.exists_cons_of_ne_nil isWord.nonempty
      have blank : blankByte byte = true := parted byte rfl
      have solid : blankByte byte = false := isWord.solid byte List.mem_cons_self
      simp [blank] at solid
    exact ⟨rest, ⟨lead, scheme, gap, by simp only [List.append_assoc], blanks, bearer, blanks', apart⟩, isWord,
      parted', read⟩
  · rintro ⟨rest, ⟨lead, scheme, gap, rfl, blanks, bearer, blanks', apart⟩, isWord, parted, read⟩
    refine ⟨scheme, bearer, ?_⟩
    have opened : Parted blankByte (gap ++ (token ++ rest)) := by
      intro byte first
      rw [List.head?_append_of_ne_nil _ apart] at first
      exact blanks'.parted byte first
    rw [List.append_assoc, List.append_assoc, words_gap blanks, words_word bearer.isWord opened, words_gap blanks',
      words_word isWord parted, read]

/-- A byte as the character that `to_str` reads. -/
def asciiChar (byte : UInt8) : Char := Char.ofNat byte.toNat

theorem toStr_printable (printable : ∀ byte ∈ value, printableByte byte = true) :
    HeaderValue.toStr value = some (String.ofList (value.map asciiChar)) := by
  rw [HeaderValue.toStr, if_pos]
  · rfl
  · simpa [printableByte] using printable

theorem toStr_unprintable (unprintable : ¬ ∀ byte ∈ value, printableByte byte = true) :
    HeaderValue.toStr value = none := by
  rw [HeaderValue.toStr, if_neg]
  simpa [printableByte] using unprintable

theorem splitWhitespace_text (printable : ∀ byte ∈ value, printableByte byte = true) :
    splitWhitespace (String.ofList (value.map asciiChar)) =
      (words blankByte value).map fun part => String.ofList (part.map asciiChar) := by
  have blanks : words (Char.isWhitespace ∘ asciiChar) value = words blankByte value :=
    words_congr fun byte member => isWhitespace_printable (printable byte member)
  calc splitWhitespace (String.ofList (value.map asciiChar))
      = (words Char.isWhitespace (value.map asciiChar)).map String.ofList := by
        rw [splitWhitespace, String.toList_ofList, words]
    _ = ((words blankByte value).map (List.map asciiChar)).map String.ofList := by rw [words_map, blanks]
    _ = (words blankByte value).map fun part => String.ofList (part.map asciiChar) := List.map_map

theorem bearerWord_iff :
    eqIgnoreAsciiCase (String.ofList (letters.map asciiChar)) "bearer" = true ↔ BearerWord letters := by
  have lower : "bearer".toList.map Char.toLower = "bearer".toList := by decide
  rw [eqIgnoreAsciiCase, beq_iff_eq, lower, String.toList_ofList, List.map_map]
  rfl

/-- The parser reads the first two words of a printable header. -/
theorem parseBearerToken_iff {headers : HeaderMap} (sent : headers.authorization = some value) (text : String) :
    parseBearerToken headers = some text ↔ (∀ byte ∈ value, printableByte byte = true) ∧
      ∃ token later, (∃ scheme, BearerWord scheme ∧ words blankByte value = scheme :: token :: later) ∧
        text = String.ofList (token.map asciiChar) := by
  by_cases printable : ∀ byte ∈ value, printableByte byte = true
  · rw [parseBearerToken, sent, Option.bind_some, toStr_printable printable, Option.bind_some,
      splitWhitespace_text printable, and_iff_right printable]
    rcases split : words blankByte value with _ | ⟨scheme, _ | ⟨token, later⟩⟩
    · simp
    · simp
    · have member : token ∈ words blankByte value := by
        simp [split]
      have present : token ≠ [] := ne_nil_of_mem_words member
      by_cases bearer : BearerWord scheme
      · have same : String.ofList (token.map asciiChar) = text ↔ text = String.ofList (token.map asciiChar) := eq_comm
        simpa [bearerWord_iff, present, bearer] using same
      · simp [bearerWord_iff, present, bearer]
  · simp [parseBearerToken, sent, toStr_unprintable printable, printable]

/-- The text of a word of the header is a token's exactly if the bytes are. -/
theorem token_text_iff {configured : String} {word : List UInt8} (made : HeaderValue.fromStr configured = some token)
    (printable : ∀ byte ∈ word, printableByte byte = true) :
    configured = String.ofList (word.map asciiChar) ↔ word = token := by
  have written := HeaderValue.fromStr_toStr (toStr_printable printable)
  constructor
  · rintro rfl
    exact Option.some.inj (written.symm.trans made)
  · rintro rfl
    exact HeaderValue.fromStr_injective made written

/-- The header is accepted if its first two words are the scheme and the token. -/
theorem acceptsBearer_iff {auth : AuthState} {headers : HeaderMap} {configured : String}
    (config : auth.bearerToken = some configured) (made : HeaderValue.fromStr configured = some token)
    (sent : headers.authorization = some value) :
    AcceptsBearer auth headers ↔ ∃ rest, AfterBearer value (token ++ rest) ∧ token ≠ [] ∧ PlainToken token ∧
      Parted blankByte rest ∧ ∀ byte ∈ rest, printableByte byte = true := by
  constructor
  · rintro ⟨text, parsed, verified⟩
    obtain ⟨printable, word, later, scheme, rfl⟩ := (parseBearerToken_iff sent text).mp parsed
    obtain ⟨rest, after, isWord, parted, _⟩ := words_bearer_iff.mp scheme
    have visible := after.printable.mp printable
    have letters (byte : UInt8) (member : byte ∈ word) : printableByte byte = true :=
      visible byte (List.mem_append_left _ member)
    have same := Option.some.inj (config.symm.trans ((verifyBearer_ok _ _).mp verified))
    obtain rfl := (token_text_iff made letters).mp same
    refine ⟨rest, after, isWord.nonempty, ?_, parted, ?_⟩
    · intro byte member
      exact plain_iff.mpr ⟨letters byte member, isWord.solid byte member⟩
    · intro byte member
      exact visible byte (List.mem_append_right _ member)
  · rintro ⟨rest, after, present, plain, parted, visible⟩
    have letters (byte : UInt8) (member : byte ∈ token) : printableByte byte = true :=
      (plain_iff.mp (plain byte member)).1
    have printable : ∀ byte ∈ value, printableByte byte = true := by
      apply after.printable.mpr
      intro byte member
      rcases List.mem_append.mp member with early | late
      · exact letters byte early
      · exact visible byte late
    have split := words_bearer_iff.mpr ⟨rest, after, plain.isWord present, parted, rfl⟩
    refine ⟨_, (parseBearerToken_iff sent _).mpr ⟨printable, token, _, split, rfl⟩, ?_⟩
    rw [verifyBearer_ok, config, (token_text_iff made letters).mpr rfl]

/-- A header that presents a token has nothing but blanks behind it, wherever the
scheme and the token are found in it. -/
theorem Presents.gap (presents : Presents value token) (isWord : Word blankByte token)
    (after : AfterBearer value (token ++ rest)) (parted : Parted blankByte rest) : Gap blankByte rest := by
  obtain ⟨trail, after', blanks⟩ := presents
  obtain ⟨scheme, _, read⟩ := words_bearer_iff.mpr ⟨rest, after, isWord, parted, rfl⟩
  obtain ⟨scheme', _, read'⟩ := words_bearer_iff.mpr ⟨trail, after', isWord, blanks.parted, rfl⟩
  have later : words blankByte rest = words blankByte trail := by
    rw [read] at read'
    exact (List.cons.inj (List.cons.inj read').2).2
  rwa [words_of_gap blanks, words_eq_nil_iff] at later

end Bytes

/-- Of a token that may stand in a header, `parse_bearer_token` and
`verify_bearer` accept the headers that present it, except where the token is
one visible word and further words follow it, which are accepted too, and where
it is not, in which case the headers that present it are refused. -/
theorem acceptsBearer_iff_presents (auth : AuthState) (headers : HeaderMap) (configured : String)
    (token value : HeaderValue) (config : auth.bearerToken = some configured) (nonempty : configured ≠ "")
    (made : HeaderValue.fromStr configured = some token) (sent : headers.authorization = some value) :
    (AcceptsBearer auth headers ↔ Presents value token) ↔
      (PlainToken token → ¬ Trailed value token) ∧ (¬ PlainToken token → ¬ Presents value token) := by
  have present : token ≠ [] := by
    rintro rfl
    apply nonempty
    have empty := HeaderValue.fromStr_bytes made
    exact String.toByteArray_inj.mp (ByteArray.ext (Array.toList_inj.mp empty))
  have accepts := acceptsBearer_iff config made sent
  by_cases plain : PlainToken token
  · have isWord := plain.isWord present
    constructor
    · intro exact_
      refine ⟨?_, fun masked => absurd plain masked⟩
      rintro _ ⟨rest, after, parted, written, visible⟩
      have presents := exact_.mp (accepts.mpr ⟨rest, after, present, plain, parted, visible⟩)
      exact written (presents.gap isWord after parted)
    · rintro ⟨clean, _⟩
      constructor
      · intro accepted
        obtain ⟨rest, after, _, _, parted, visible⟩ := accepts.mp accepted
        by_contra absent
        refine clean plain ⟨rest, after, parted, ?_, visible⟩
        intro blanks
        exact absent ⟨rest, after, blanks⟩
      · rintro ⟨trail, after, blanks⟩
        apply accepts.mpr
        refine ⟨trail, after, present, plain, blanks.parted, ?_⟩
        intro byte member
        exact printable_of_blank (blanks byte member)
  · have refused : ¬ AcceptsBearer auth headers := by
      intro accepted
      obtain ⟨_, _, _, readable, _⟩ := accepts.mp accepted
      exact plain readable
    constructor
    · intro exact_
      exact ⟨fun readable => absurd readable plain, fun _ presents => refused (exact_.mpr presents)⟩
    · rintro ⟨_, masked⟩
      exact iff_of_false refused (masked plain)

/-- The scheme in mixed case, with blanks and tabs around the token. -/
theorem acceptsBearer_iff_presents_spaced :
    AcceptsBearer ⟨[], some "abc"⟩ ⟨none, some " bEARER \t abc ".toByteArray.data.toList⟩ ∧
      Presents " bEARER \t abc ".toByteArray.data.toList "abc".toByteArray.data.toList := by
  have after : AfterBearer " bEARER \t abc ".toByteArray.data.toList
      ("abc".toByteArray.data.toList ++ " ".toByteArray.data.toList) :=
    ⟨[32], "bEARER".toByteArray.data.toList, [32, 9, 32], by decide +kernel, by simp [Gap, blankByte],
      by decide +kernel, by simp [Gap, blankByte], nofun⟩
  have presents : Presents " bEARER \t abc ".toByteArray.data.toList "abc".toByteArray.data.toList :=
    ⟨_, after, by unfold Gap; decide +kernel⟩
  have isWord : Word blankByte "abc".toByteArray.data.toList := ⟨by decide +kernel, by decide +kernel⟩
  have plain : PlainToken "abc".toByteArray.data.toList := by unfold PlainToken; decide +kernel
  have same := (acceptsBearer_iff_presents ⟨[], some "abc"⟩ ⟨none, some " bEARER \t abc ".toByteArray.data.toList⟩
    "abc" "abc".toByteArray.data.toList " bEARER \t abc ".toByteArray.data.toList rfl (by decide +kernel)
    (by decide +kernel) rfl).mpr ⟨fun _ ⟨_, after, parted, written, _⟩ => written (presents.gap isWord after parted),
      fun masked => absurd plain masked⟩
  exact ⟨same.mpr presents, presents⟩

/-- Further words behind the token go unnoticed. -/
theorem trailing_words_accepted :
    ¬ ∀ auth headers configured token value, auth.bearerToken = some configured → configured ≠ "" →
      HeaderValue.fromStr configured = some token → headers.authorization = some value →
      (AcceptsBearer auth headers ↔ Presents value token) := by
  intro exact_
  have same := exact_ ⟨[], some "abc"⟩ ⟨none, some "Bearer abc x".toByteArray.data.toList⟩ "abc"
    "abc".toByteArray.data.toList _ rfl (by decide +kernel) (by decide +kernel) rfl
  have accepted : AcceptsBearer ⟨[], some "abc"⟩ ⟨none, some "Bearer abc x".toByteArray.data.toList⟩ :=
    ⟨"abc", by decide +kernel, by decide +kernel⟩
  have after : AfterBearer "Bearer abc x".toByteArray.data.toList
      ("abc".toByteArray.data.toList ++ " x".toByteArray.data.toList) :=
    ⟨[], "Bearer".toByteArray.data.toList, [32], by decide +kernel, gap_nil _, by decide +kernel,
      by simp [Gap, blankByte], nofun⟩
  have isWord : Word blankByte "abc".toByteArray.data.toList := ⟨by decide +kernel, by decide +kernel⟩
  have blanks := (same.mp accepted).gap isWord after (by unfold Parted; decide +kernel)
  have blank : blankByte 120 = true := blanks 120 (by decide +kernel)
  cases blank

end Cachegate
