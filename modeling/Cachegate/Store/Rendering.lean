import Cachegate.Store.Azure

/-! The many ways of writing one list of settings as a connection string, and
that parsing undoes them all. -/

namespace Cachegate

open Blanks

/-- What may not stand at the ends of a value: a blank or a quote. -/
def blankOrQuote (char : Char) : Bool := isUnicodeWhitespace char || char == '"' || char == '\''

structure LegalKey (key : List Char) : Prop where
  nonempty : key ≠ []
  noSeparator : ';' ∉ key
  noEquals : '=' ∉ key
  trimmed : Trimmed isUnicodeWhitespace key

structure LegalValue (value : List Char) : Prop where
  noSeparator : ';' ∉ value
  trimmed : Trimmed blankOrQuote value

/-- Settings that can be written down: each once. -/
structure LegalPairs (pairs : List (String × String)) : Prop where
  keys : ∀ pair ∈ pairs, LegalKey pair.1.toList
  values : ∀ pair ∈ pairs, LegalValue pair.2.toList
  distinct : (pairs.map fun pair => toAsciiLowercase pair.1).Nodup

/-- A value bare, or in one pair of quotes, with blanks inside them. -/
inductive RendersValue (value : List Char) : List Char → Prop
  | bare : RendersValue value value
  | quoted (isQuote : quote = '"' ∨ quote = '\'') (before_ : Gap isUnicodeWhitespace before)
      (after_ : Gap isUnicodeWhitespace after) : RendersValue value (quote :: (before ++ value ++ after) ++ [quote])

/-- A key in any letter case and a value, with blanks around each. -/
inductive RendersPair (pair : String × String) : List Char → Prop
  | written {before key between between' value after : List Char}
      (spelled : key.map Char.toLower = pair.1.toList.map Char.toLower)
      (shows : RendersValue pair.2.toList value) (first : Gap isUnicodeWhitespace before)
      (second : Gap isUnicodeWhitespace between) (third : Gap isUnicodeWhitespace between')
      (fourth : Gap isUnicodeWhitespace after) :
      RendersPair pair (before ++ key ++ between ++ '=' :: (between' ++ value ++ after))

/-- The segments show the pairs in this order, with blank segments anywhere. -/
inductive RendersSegments : List (String × String) → List (List Char) → Prop
  | nil : RendersSegments [] []
  | blank (blanks : Gap isUnicodeWhitespace first) (rest : RendersSegments pairs others) :
      RendersSegments pairs (first :: others)
  | pair (shows : RendersPair pair first) (rest : RendersSegments pairs others) :
      RendersSegments (pair :: pairs) (first :: others)

/-- The text lists the pairs in some order. -/
def Renders (pairs : List (String × String)) (text : String) : Prop :=
  ∃ order segments, order.Perm pairs ∧ RendersSegments order segments ∧ text.toList = [';'].intercalate segments

section Characters

variable {char : Char} {key shown value : List Char}

theorem isAlpha_iff (char : Char) :
    char.isAlpha = true ↔ 65 ≤ char.val.toNat ∧ char.val.toNat ≤ 90 ∨ 97 ≤ char.val.toNat ∧ char.val.toNat ≤ 122 := by
  delta Char.isAlpha Char.isUpper Char.isLower
  simp only [UInt32.le_iff_toNat_le, ge_iff_le, Bool.or_eq_true, Bool.and_eq_true, decide_eq_true_eq]
  rfl

theorem toLower_cases (char : Char) :
    char.toLower = char ∨ char.isAlpha = true ∧ char.toLower.isAlpha = true := by
  by_cases upper : char.val ≥ 'A'.val ∧ char.val ≤ 'Z'.val
  · right
    have lowered : char.toLower.val = char.val + 32 := by
      delta Char.toLower
      rw [dif_pos upper]
      rfl
    have bounds : 65 ≤ char.val.toNat ∧ char.val.toNat ≤ 90 := by
      simpa [UInt32.le_iff_toNat_le] using upper
    have code : char.toLower.val.toNat = char.val.toNat + 32 := by
      rw [lowered, UInt32.toNat_add]
      change (char.val.toNat + 32) % 2 ^ 32 = _
      omega
    rw [isAlpha_iff, isAlpha_iff, code]
    omega
  · left
    delta Char.toLower
    rw [dif_neg upper]

/-- Letter case does not matter to a class of characters without letters. -/
theorem same_of_toLower {first second : Char} (lowered : first.toLower = second.toLower) (class_ : Char → Bool)
    (letterless : ∀ char, char.isAlpha = true → class_ char = false) : class_ first = class_ second := by
  rcases toLower_cases first with same | ⟨letter, lower⟩
  · rcases toLower_cases second with same' | ⟨letter', lower'⟩
    · rw [← same, ← same', lowered]
    · rw [letterless second letter', ← same, lowered, letterless _ lower']
  · rcases toLower_cases second with same' | ⟨letter', lower'⟩
    · rw [letterless first letter, ← same', ← lowered, letterless _ lower]
    · rw [letterless first letter, letterless second letter']

theorem letter_code (letter : char.isAlpha = true) : 65 ≤ char.toNat ∧ char.toNat ≤ 122 := by
  have range := (isAlpha_iff char).mp letter
  change 65 ≤ char.val.toNat ∧ char.val.toNat ≤ 122
  omega

theorem letter_solid (letter : char.isAlpha = true) : isUnicodeWhitespace char = false := by
  have code := letter_code letter
  apply Bool.eq_false_iff.mpr
  intro blank
  simp only [isUnicodeWhitespace, Bool.or_eq_true, Bool.and_eq_true, decide_eq_true_eq, beq_iff_eq] at blank
  omega

/-- A key in other letters is as legal. -/
theorem LegalKey.spelled (legal : LegalKey key) (spelling : shown.map Char.toLower = key.map Char.toLower) :
    LegalKey shown := by
  have absent (symbol : Char) (letterless : ∀ char, char.isAlpha = true → (char == symbol) = false)
      (absent : symbol ∉ key) : symbol ∉ shown := by
    intro member
    have lowered : symbol.toLower ∈ key.map Char.toLower := by
      rw [← spelling]
      exact List.mem_map_of_mem member
    obtain ⟨char, listed, same⟩ := List.mem_map.mp lowered
    have isSymbol := same_of_toLower same (· == symbol) letterless
    rw [beq_self_eq_true, beq_iff_eq] at isSymbol
    exact absent (isSymbol ▸ listed)
  have solid (found : Option Char) (found' : Option Char) (same : found.map Char.toLower = found'.map Char.toLower)
      (solid : ∀ char ∈ found', isUnicodeWhitespace char = false) :
      ∀ char ∈ found, isUnicodeWhitespace char = false := by
    rintro char ⟨⟩
    obtain ⟨char', there, lowered⟩ := Option.map_eq_some_iff.mp same.symm
    rw [← same_of_toLower lowered isUnicodeWhitespace fun _ => letter_solid]
    exact solid char' there
  refine ⟨?_, ?_, ?_, ?_, ?_⟩
  · rintro rfl
    apply legal.nonempty
    simpa using spelling.symm
  · exact absent ';' (by
      intro char letter
      apply beq_eq_false_iff_ne.mpr
      rintro rfl
      cases letter) legal.noSeparator
  · exact absent '=' (by
      intro char letter
      apply beq_eq_false_iff_ne.mpr
      rintro rfl
      cases letter) legal.noEquals
  · apply solid _ key.head? _ legal.trimmed.first
    rw [← List.head?_map, ← List.head?_map, spelling]
  · apply solid _ key.getLast? _ legal.trimmed.last
    rw [← List.getLast?_map, ← List.getLast?_map, spelling]

theorem LegalValue.bare (legal : LegalValue value) : Trimmed isUnicodeWhitespace value := by
  apply legal.trimmed.mono
  intro char ends
  simp only [blankOrQuote, Bool.or_eq_false_iff] at ends
  exact ends.1.1

theorem LegalValue.unquoted (legal : LegalValue value) (quote : Char) (isQuote : quote = '"' ∨ quote = '\'') :
    Trimmed (· == quote) value := by
  apply legal.trimmed.mono
  intro char ends
  simp only [blankOrQuote, Bool.or_eq_false_iff] at ends
  rcases isQuote with rfl | rfl
  · exact ends.1.2
  · exact ends.2

theorem quote_solid {quote : Char} (isQuote : quote = '"' ∨ quote = '\'') : isUnicodeWhitespace quote = false := by
  rcases isQuote with rfl | rfl <;> decide

theorem solid_quote {quote : Char} (isQuote : quote = '"' ∨ quote = '\'') (blank : isUnicodeWhitespace char = true) :
    (char == quote) = false := by
  apply beq_eq_false_iff_ne.mpr
  rintro rfl
  rw [quote_solid isQuote] at blank
  cases blank

/-- A shown value has no blanks of its own at its ends. -/
theorem RendersValue.trimmed (shows : RendersValue value shown) (legal : LegalValue value) :
    Trimmed isUnicodeWhitespace shown := by
  cases shows with
  | bare => exact legal.bare
  | @quoted quote before after isQuote =>
    have single : Trimmed isUnicodeWhitespace [quote] := trimmed_singleton (quote_solid isQuote)
    exact single.append single (List.cons_ne_nil _ _) (List.cons_ne_nil _ _) _

/-- Quotes and the blanks inside them are taken off. -/
theorem RendersValue.strips (shows : RendersValue value shown) (legal : LegalValue value) :
    stripValue shown = value := by
  have double : '"' = '"' ∨ '"' = '\'' := .inl rfl
  have single : '\'' = '"' ∨ '\'' = '\'' := .inr rfl
  cases shows with
  | bare =>
    rw [stripValue, trim_trimmed (legal.unquoted '"' double), trim_trimmed (legal.unquoted '\'' single),
      trim_trimmed legal.bare]
  | @quoted quote before after isQuote before_ after_ =>
    have padded (quote : Char) (isQuote : quote = '"' ∨ quote = '\'') :
        Trimmed (· == quote) (before ++ value ++ after) :=
      (legal.unquoted quote isQuote).padded (fun _ => solid_quote isQuote) before_ after_
    have quotes : Gap (· == quote) [quote] := by simp [Gap]
    have unquoted : trim (· == quote) (quote :: (before ++ value ++ after) ++ [quote]) = before ++ value ++ after :=
      trim_surrounded quotes quotes (padded quote isQuote)
    have unpadded : trim isUnicodeWhitespace (before ++ value ++ after) = value :=
      trim_surrounded before_ after_ legal.bare
    rcases isQuote with rfl | rfl
    · rw [stripValue, unquoted, trim_trimmed (padded '\'' single), unpadded]
    · have kept : Trimmed (· == '"') ['\''] := trimmed_singleton rfl
      have untouched : Trimmed (· == '"') ('\'' :: (before ++ value ++ after) ++ ['\'']) :=
        kept.append kept (List.cons_ne_nil _ _) (List.cons_ne_nil _ _) (before ++ value ++ after)
      rw [stripValue, trim_trimmed untouched, unquoted, unpadded]

theorem splitPair_join (absent : '=' ∉ key) (value : List Char) : splitPair (key ++ '=' :: value) = (key, value) := by
  rw [splitPair, span_delimiter absent value]

/-- A segment that shows a pair is read as that pair. -/
theorem RendersPair.reads {pair : String × String} {segment : List Char} (shows : RendersPair pair segment)
    (legalKey : LegalKey pair.1.toList) (legalValue : LegalValue pair.2.toList) :
    readSegment segment = some (toAsciiLowercase pair.1, pair.2) := by
  cases shows with
  | @written before key between between' value after spelling shown first second third fourth =>
    have legal := legalKey.spelled spelling
    have equals : Trimmed isUnicodeWhitespace ['='] := trimmed_singleton (by decide)
    -- a value that is shown as nothing leaves its blanks to the end of the segment
    have parts : ∃ rest, trim isUnicodeWhitespace (before ++ key ++ between ++ '=' :: (between' ++ value ++ after)) =
        key ++ between ++ '=' :: rest ∧ trim isUnicodeWhitespace rest = value := by
      by_cases empty : value = []
      · subst empty
        refine ⟨[], ?_, rfl⟩
        have core := legal.trimmed.append equals legal.nonempty (List.cons_ne_nil _ _) between
        have surrounded := trim_surrounded first (third.append fourth) core
        simpa using surrounded
      · refine ⟨between' ++ value, ?_, ?_⟩
        · have core := legal.trimmed.append (shown.trimmed legalValue) legal.nonempty empty
            (between ++ '=' :: between')
          have surrounded := trim_surrounded first fourth core
          simpa using surrounded
        · have surrounded := trim_surrounded third (gap_nil _) (shown.trimmed legalValue)
          simpa using surrounded
    obtain ⟨rest, trimmed, stripped⟩ := parts
    have blankless : '=' ∉ between := by
      intro member
      have blank := second '=' member
      revert blank
      decide
    have split : splitPair (key ++ between ++ '=' :: rest) = (key ++ between, rest) := by
      apply splitPair_join
      intro member
      rcases List.mem_append.mp member with inKey | inGap
      · exact legal.noEquals inKey
      · exact blankless inGap
    have keyed : trim isUnicodeWhitespace (key ++ between) = key := by
      have surrounded := trim_surrounded (gap_nil _) second legal.trimmed
      simpa using surrounded
    have lower : toAsciiLowercase (String.ofList key) = toAsciiLowercase pair.1 := by
      rw [toAsciiLowercase, toAsciiLowercase, String.toList_ofList, spelling]
    simp only [readSegment, trimmed, split, keyed, stripped, shown.strips legalValue, lower]
    simp [legal.nonempty]

theorem readSegment_blank {segment : List Char} (blanks : Gap isUnicodeWhitespace segment) :
    readSegment segment = none := by
  simp [readSegment, trim_gap blanks]

theorem separator_absent {blanks : List Char} (gap : Gap isUnicodeWhitespace blanks) : ';' ∉ blanks := by
  intro member
  have blank := gap ';' member
  revert blank
  decide

theorem RendersValue.noSeparator (shows : RendersValue value shown) (legal : LegalValue value) : ';' ∉ shown := by
  cases shows with
  | bare => exact legal.noSeparator
  | @quoted quote before after isQuote before_ after_ =>
    have other : ';' ≠ quote := by
      rintro rfl
      rcases isQuote with same | same <;> cases same
    simp [other, separator_absent before_, legal.noSeparator, separator_absent after_]

theorem RendersPair.noSeparator {pair : String × String} {segment : List Char} (shows : RendersPair pair segment)
    (legalKey : LegalKey pair.1.toList) (legalValue : LegalValue pair.2.toList) : ';' ∉ segment := by
  cases shows with
  | written spelling shown first second third fourth =>
    simp [separator_absent first, (legalKey.spelled spelling).noSeparator, separator_absent second,
      separator_absent third, shown.noSeparator legalValue, separator_absent fourth]

end Characters

section Pairs

variable {pairs order : List (String × String)} {segments : List (List Char)} {text key value : String}

/-- The segments are read as the pairs that they show. -/
theorem RendersSegments.reads (shows : RendersSegments order segments)
    (keys : ∀ pair ∈ order, LegalKey pair.1.toList) (values : ∀ pair ∈ order, LegalValue pair.2.toList) :
    segments.filterMap readSegment = order.map (fun pair => (toAsciiLowercase pair.1, pair.2)) ∧
      ∀ segment ∈ segments, ';' ∉ segment := by
  induction shows with
  | nil => exact ⟨rfl, nofun⟩
  | blank blanks rest ih =>
    obtain ⟨read, separate⟩ := ih keys values
    rw [List.filterMap_cons_none (readSegment_blank blanks)]
    exact ⟨read, List.forall_mem_cons.mpr ⟨separator_absent blanks, separate⟩⟩
  | pair shown rest ih =>
    obtain ⟨legalKey, keys⟩ := List.forall_mem_cons.mp keys
    obtain ⟨legalValue, values⟩ := List.forall_mem_cons.mp values
    obtain ⟨read, separate⟩ := ih keys values
    rw [List.filterMap_cons_some (shown.reads legalKey legalValue), read, List.map_cons]
    exact ⟨rfl, List.forall_mem_cons.mpr ⟨shown.noSeparator legalKey legalValue, separate⟩⟩

/-- Where no key is listed twice, its value is the one listed. -/
theorem lastValue_eq_some_iff (distinct : (pairs.map Prod.fst).Nodup) :
    lastValue pairs key = some value ↔ (key, value) ∈ pairs := by
  induction pairs generalizing value with
  | nil => exact iff_of_false nofun List.not_mem_nil
  | cons pair pairs ih =>
    obtain ⟨fresh, others⟩ := List.nodup_cons.mp distinct
    have absent {other : String} (member : (pair.1, other) ∈ pairs) : False :=
      fresh (List.mem_map.mpr ⟨_, member, rfl⟩)
    rw [lastValue_cons, Option.or_eq_some_iff, ih others, List.mem_cons]
    constructor
    · rintro (later | ⟨_, own⟩)
      · exact .inr later
      · split at own
        · rename_i same
          cases own
          exact .inl (by rw [← same])
        · cases own
    · rintro (rfl | later)
      · right
        refine ⟨?_, by simp⟩
        apply Option.eq_none_iff_forall_ne_some.mpr
        intro other given
        exact absent ((ih others).mp given)
      · exact .inl later

/-- The pairs give a setting this value. -/
def Lists (pairs : List (String × String)) (name value : String) : Prop :=
  ∃ key, (key, value) ∈ pairs ∧ toAsciiLowercase key = toAsciiLowercase name

/-- A rendering gives each key the value that the pairs give it. -/
theorem Renders.lastValue_iff (renders : Renders pairs text) (legal : LegalPairs pairs) (lower : String) :
    lastValue (pairsOf text) lower = some value ↔ ∃ key, (key, value) ∈ pairs ∧ toAsciiLowercase key = lower := by
  obtain ⟨order, segments, same, shows, joined⟩ := renders
  obtain ⟨read, separate⟩ := shows.reads (fun pair member => legal.keys pair (same.mem_iff.mp member))
    fun pair member => legal.values pair (same.mem_iff.mp member)
  have listed : pairsOf text = order.map fun pair => (toAsciiLowercase pair.1, pair.2) := by
    rw [pairsOf, joined]
    cases segments with
    | nil =>
      cases shows
      rfl
    | cons segment rest => rw [List.splitOn_intercalate ';' separate (List.cons_ne_nil _ _), read]
  have distinct : ((order.map fun pair => (toAsciiLowercase pair.1, pair.2)).map Prod.fst).Nodup := by
    rw [List.map_map]
    exact (same.map _).nodup_iff.mpr legal.distinct
  rw [listed, lastValue_eq_some_iff distinct, List.mem_map]
  constructor
  · rintro ⟨⟨key, other⟩, member, both⟩
    obtain ⟨lowered, shown⟩ := Prod.mk.inj both
    subst shown
    exact ⟨key, same.mem_iff.mp member, lowered⟩
  · rintro ⟨key, member, lowered⟩
    exact ⟨(key, value), same.mem_iff.mpr member, by rw [lowered]⟩

theorem Renders.setting_iff (renders : Renders pairs text) (legal : LegalPairs pairs) (name : String) :
    setting text name = some value ↔ Lists pairs name value :=
  renders.lastValue_iff legal (toAsciiLowercase name)

theorem resolve_error_iff {values : Settings} :
    (∃ message, values.resolve = .error message) ↔
      nonEmpty (values "accountname") = none ∨ nonEmpty (values "accountkey") = none := by
  unfold Settings.resolve
  cases nonEmpty (values "accountname") with
  | none => simp
  | some account => cases nonEmpty (values "accountkey") <;> simp

/-- What parsing a rendering of the pairs gives: whether it fails, and the values
that it takes from the pairs as they are, depend on the pairs alone. -/
structure UndoesRendering (pairs : List (String × String)) (text : String) : Prop where
  same : ∀ other, Renders pairs other → parseConnectionString other = parseConnectionString text
  fails : (∃ message, parseConnectionString text = .error message) ↔
    (∀ account, Lists pairs "AccountName" account → account = "") ∨
      ∀ accessKey, Lists pairs "AccountKey" accessKey → accessKey = ""
  account : ∀ info account, parseConnectionString text = .ok info → Lists pairs "AccountName" account →
    info.account = account
  accessKey : ∀ info accessKey, parseConnectionString text = .ok info → Lists pairs "AccountKey" accessKey →
    info.accessKey = accessKey
  endpoint : ∀ info endpoint, parseConnectionString text = .ok info → Lists pairs "BlobEndpoint" endpoint →
    endpoint ≠ "" → info.endpoint = some endpoint

theorem Renders.nonEmpty_eq_none (renders : Renders pairs text) (legal : LegalPairs pairs) (name : String) :
    nonEmpty (setting text name) = none ↔ ∀ value, Lists pairs name value → value = "" := by
  constructor
  · intro none value listed
    rw [(renders.setting_iff legal name).mpr listed] at none
    by_contra written
    rw [nonEmpty_eq_some.mpr ⟨rfl, written⟩] at none
    cases none
  · intro empty
    cases given : setting text name with
    | none => rfl
    | some value =>
      rw [empty value ((renders.setting_iff legal name).mp given)]
      rfl

/-- Whatever order, letter case, spacing and quoting a list of settings is
written in, the parser comes to the same, which is what the list says. -/
theorem undoesRendering (pairs : List (String × String)) (text : String) (legal : LegalPairs pairs)
    (renders : Renders pairs text) : UndoesRendering pairs text := by
  refine ⟨?_, ?_, ?_, ?_, ?_⟩
  · intro other renders'
    rw [parseConnectionString_eq, parseConnectionString_eq]
    congr 1
    funext key
    apply Option.ext
    intro value
    rw [renders'.lastValue_iff legal, renders.lastValue_iff legal]
  · rw [parseConnectionString_eq, resolve_error_iff]
    exact or_congr (renders.nonEmpty_eq_none legal "AccountName") (renders.nonEmpty_eq_none legal "AccountKey")
  · intro info account parsed listed
    have given := (nonEmpty_eq_some.mp (parse_ok_iff.mp parsed).1).1
    rw [(renders.setting_iff legal "AccountName").mpr listed] at given
    exact (Option.some.inj given).symm
  · intro info accessKey parsed listed
    have given := (nonEmpty_eq_some.mp (parse_ok_iff.mp parsed).2.1).1
    rw [(renders.setting_iff legal "AccountKey").mpr listed] at given
    exact (Option.some.inj given).symm
  · intro info endpoint parsed listed written
    have resolved := (parse_ok_iff.mp parsed).2.2.1
    rw [(renders.setting_iff legal "BlobEndpoint").mpr listed, nonEmpty_eq_some.mpr ⟨rfl, written⟩] at resolved
    exact resolved

end Pairs

/-- An account key that ends in `=`, written first, with quotes, blanks and mixed case. -/
theorem undoesRendering_spaced :
    UndoesRendering [("AccountName", "a"), ("AccountKey", "k==")] "; ACCOUNTKEY = ' k== ' ;accountName=\"a\"" := by
  have space : Gap isUnicodeWhitespace [' '] := by
    intro char member
    obtain rfl := List.mem_singleton.mp member
    decide
  have accessKey : RendersPair ("AccountKey", "k==") " ACCOUNTKEY = ' k== ' ".toList :=
    @RendersPair.written _ [' '] "ACCOUNTKEY".toList [' '] [' '] "' k== '".toList [' '] (by decide)
      (.quoted (.inr rfl) space space) space space space space
  have account : RendersPair ("AccountName", "a") "accountName=\"a\"".toList :=
    @RendersPair.written _ [] "accountName".toList [] [] "\"a\"".toList [] (by decide)
      (.quoted (.inl rfl) (gap_nil _) (gap_nil _)) (gap_nil _) (gap_nil _) (gap_nil _) (gap_nil _)
  apply undoesRendering
  · refine ⟨?_, ?_, by decide⟩
    · intro pair member
      simp only [List.mem_cons, List.not_mem_nil, or_false] at member
      rcases member with rfl | rfl
      · exact ⟨by decide, by decide, by decide, trimmed_of_ends rfl rfl rfl rfl⟩
      · exact ⟨by decide, by decide, by decide, trimmed_of_ends rfl rfl rfl rfl⟩
    · intro pair member
      simp only [List.mem_cons, List.not_mem_nil, or_false] at member
      rcases member with rfl | rfl
      · exact ⟨by decide, trimmed_of_ends rfl rfl rfl rfl⟩
      · exact ⟨by decide, trimmed_of_ends rfl rfl rfl rfl⟩
  · exact ⟨_, _, List.Perm.swap _ _ _, .blank (gap_nil _) (.pair accessKey (.pair account .nil)), by decide⟩

end Cachegate
