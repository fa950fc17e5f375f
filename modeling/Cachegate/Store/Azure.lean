import Cachegate.Library.Blanks
import Mathlib.Logic.Function.Basic

/-! Azure connection strings: how the settings are read, and what endpoint is
made of them. -/

namespace Cachegate

open Blanks

/-- `char::is_whitespace`, the property `White_Space` of Unicode. -/
def isUnicodeWhitespace (char : Char) : Bool :=
  let code := char.toNat
  (9 ≤ code && code ≤ 13) || code == 32 || code == 0x85 || code == 0xA0 || code == 0x1680 ||
    (0x2000 ≤ code && code ≤ 0x200A) || code == 0x2028 || code == 0x2029 || code == 0x202F || code == 0x205F ||
    code == 0x3000

/-- `to_ascii_lowercase`. -/
def toAsciiLowercase (text : String) : String := String.ofList (text.toList.map Char.toLower)

structure AzureConnectionInfo where
  account : String
  accessKey : String
  endpoint : Option String
  allowHttp : Bool
deriving DecidableEq, Repr

/-- `splitn(2, '=')`, where the second part may be missing. -/
def splitPair (segment : List Char) : List Char × List Char :=
  match segment.span (· != '=') with
  | (key, []) => (key, [])
  | (key, _ :: value) => (key, value)

/-- What quotes and blanks leave of a value. -/
def stripValue (value : List Char) : List Char :=
  trim isUnicodeWhitespace (trim (· == '\'') (trim (· == '"') value))

/-- The loop body of `parse_connection_string`: a segment's key in lower case
and its value, unless there is no key. -/
def readSegment (segment : List Char) : Option (String × String) :=
  let trimmed := trim isUnicodeWhitespace segment
  if trimmed.isEmpty then none
  else
    let (key, value) := splitPair trimmed
    let key := trim isUnicodeWhitespace key
    let value := trim isUnicodeWhitespace value
    if key.isEmpty then none
    else some (toAsciiLowercase (String.ofList key), String.ofList (stripValue value))

/-- The map `values`, by lower-case key. -/
abbrev Settings := String → Option String

def Settings.insert (values : Settings) : Option (String × String) → Settings
  | none => values
  | some (key, value) => Function.update values key (some value)

def readSettings (connectionString : String) : Settings :=
  (connectionString.toList.splitOn ';').foldl (fun values segment => values.insert (readSegment segment)) fun _ => none

/-- `filter(|value| !value.is_empty())`. -/
def nonEmpty (value : Option String) : Option String := value.filter (· != "")

/-- The value starts with `http://` in any letter case. -/
def startsWithHttp (value : String) : Bool := "http://".toList.isPrefixOf (toAsciiLowercase value).toList

/-- The endpoint as given, or made of its parts. -/
def resolveEndpoint (account : String) (endpoint suffix protocol : Option String) : Option String :=
  match endpoint, suffix with
  | some endpoint, _ => some endpoint
  | none, some suffix => some (protocol.getD "https" ++ "://" ++ account ++ ".blob." ++ suffix)
  | none, none => none

/-- `parse_connection_string` once the settings are read. -/
def Settings.resolve (values : Settings) : Except String AzureConnectionInfo :=
  match nonEmpty (values "accountname") with
  | none => .error "missing AccountName"
  | some account =>
      match nonEmpty (values "accountkey") with
      | none => .error "missing AccountKey"
      | some accessKey =>
          let protocol := (values "defaultendpointsprotocol").map toAsciiLowercase
          let endpoint := resolveEndpoint account (nonEmpty (values "blobendpoint")) (values "endpointsuffix") protocol
          let allowHttp := endpoint.any startsWithHttp || protocol.any (· == "http")
          .ok { account, accessKey, endpoint, allowHttp }

def parseConnectionString (connectionString : String) : Except String AzureConnectionInfo :=
  (readSettings connectionString).resolve

section Settings

variable {text : String} {values : Settings} {info : AzureConnectionInfo}

/-- The keys and values that a connection string lists, in order. -/
def pairsOf (connectionString : String) : List (String × String) :=
  (connectionString.toList.splitOn ';').filterMap readSegment

/-- What a list of settings gives a key: its last value. -/
def lastValue (pairs : List (String × String)) (key : String) : Option String :=
  (pairs.reverse.find? (·.1 == key)).map Prod.snd

/-- What a connection string gives a setting, whose name may be in any letter case. -/
def setting (connectionString name : String) : Option String :=
  lastValue (pairsOf connectionString) (toAsciiLowercase name)

theorem lastValue_cons (pair : String × String) (pairs : List (String × String)) (key : String) :
    lastValue (pair :: pairs) key = (lastValue pairs key).or (if pair.1 = key then some pair.2 else none) := by
  simp only [lastValue, List.reverse_cons, List.find?_append, Option.map_or]
  by_cases same : pair.1 = key
  · simp [same]
  · simp [same]

theorem insert_lastValue (segments : List (List Char)) (values : Settings) (key : String) :
    segments.foldl (fun values segment => values.insert (readSegment segment)) values key =
      (lastValue (segments.filterMap readSegment) key).or (values key) := by
  induction segments generalizing values with
  | nil => rfl
  | cons segment segments ih =>
    rw [List.foldl_cons, ih]
    cases read : readSegment segment with
    | none => rw [List.filterMap_cons_none read, Settings.insert]
    | some pair =>
      rw [List.filterMap_cons_some read, lastValue_cons, Option.or_assoc]
      congr 1
      by_cases same : pair.1 = key
      · simp [Settings.insert, ← same]
      · simp [Settings.insert, same, Ne.symm same]

theorem readSettings_eq (connectionString key : String) :
    readSettings connectionString key = lastValue (pairsOf connectionString) key := by
  rw [readSettings, insert_lastValue, Option.or_none]
  rfl

/-- Parsing depends on the settings alone. -/
theorem parseConnectionString_eq (connectionString : String) :
    parseConnectionString connectionString = Settings.resolve (lastValue (pairsOf connectionString)) := by
  rw [parseConnectionString]
  congr 1
  funext key
  exact readSettings_eq connectionString key

theorem resolve_ok_iff :
    values.resolve = .ok info ↔ nonEmpty (values "accountname") = some info.account ∧
      nonEmpty (values "accountkey") = some info.accessKey ∧
      info.endpoint = resolveEndpoint info.account (nonEmpty (values "blobendpoint")) (values "endpointsuffix")
        ((values "defaultendpointsprotocol").map toAsciiLowercase) ∧
      info.allowHttp = (info.endpoint.any startsWithHttp ||
        (values "defaultendpointsprotocol").any fun value => toAsciiLowercase value == "http") := by
  obtain ⟨account, accessKey, endpoint, allowHttp⟩ := info
  unfold Settings.resolve
  cases nonEmpty (values "accountname") with
  | none => simp
  | some account' =>
    cases nonEmpty (values "accountkey") with
    | none => simp
    | some accessKey' =>
      simp only [Except.ok.injEq, AzureConnectionInfo.mk.injEq, Option.some.injEq, Option.any_map]
      constructor
      · rintro ⟨rfl, rfl, rfl, rfl⟩
        exact ⟨rfl, rfl, rfl, rfl⟩
      · rintro ⟨rfl, rfl, rfl, rfl⟩
        exact ⟨rfl, rfl, rfl, rfl⟩

theorem startsWithHttp_append (rest : String) : startsWithHttp ("http" ++ "://" ++ rest) = true := by
  have lower : ("http" ++ "://" : String).toList.map Char.toLower = "http://".toList := by decide
  have whole : (toAsciiLowercase ("http" ++ "://" ++ rest)).toList =
      "http://".toList ++ rest.toList.map Char.toLower := by
    simp only [toAsciiLowercase, String.toList_ofList, String.toList_append, List.map_append]
    rw [← List.map_append, ← String.toList_append, lower]
  rw [startsWithHttp, whole, List.isPrefixOf_iff_prefix]
  exact List.prefix_append _ _

end Settings

/-- The settings that the code knows. -/
def recognisedSettings : List String :=
  ["AccountName", "AccountKey", "BlobEndpoint", "DefaultEndpointsProtocol", "EndpointSuffix"]

/-- The endpoint that a connection string comes to is well formed and says
itself whether it is plain HTTP, and empty values are as good as none. -/
structure EndpointSound (text : String) (info : AzureConnectionInfo) : Prop where
  emptyIsAbsent : ∀ name ∈ recognisedSettings, setting text name = some "" → ∀ other, setting other name = none →
    (∀ name' ∈ recognisedSettings, name' ≠ name → setting other name' = setting text name') →
    parseConnectionString other = .ok info
  given : ∀ endpoint, nonEmpty (setting text "BlobEndpoint") = some endpoint → info.endpoint = some endpoint
  built : nonEmpty (setting text "BlobEndpoint") = none →
    ∀ suffix, nonEmpty (setting text "EndpointSuffix") = some suffix →
      info.endpoint = some (((nonEmpty (setting text "DefaultEndpointsProtocol")).map toAsciiLowercase).getD "https" ++
        "://" ++ info.account ++ ".blob." ++ suffix)
  missing : nonEmpty (setting text "BlobEndpoint") = none → nonEmpty (setting text "EndpointSuffix") = none →
    info.endpoint = none
  wellFormed : nonEmpty (setting text "BlobEndpoint") = none → ∀ endpoint, info.endpoint = some endpoint →
    ∃ scheme suffix, scheme ≠ "" ∧ suffix ≠ "" ∧ endpoint = scheme ++ "://" ++ info.account ++ ".blob." ++ suffix
  http : ∀ endpoint, info.endpoint = some endpoint → (info.allowHttp = true ↔ startsWithHttp endpoint = true)

/-- No endpoint is built with an empty suffix or an empty protocol, and none is
given beside the protocol `http` that is not itself plain HTTP. -/
structure SettingsAgree (text : String) : Prop where
  suffix : nonEmpty (setting text "BlobEndpoint") = none → setting text "EndpointSuffix" ≠ some ""
  protocol : nonEmpty (setting text "BlobEndpoint") = none → nonEmpty (setting text "EndpointSuffix") ≠ none →
    setting text "DefaultEndpointsProtocol" ≠ some ""
  http : ∀ endpoint protocol, nonEmpty (setting text "BlobEndpoint") = some endpoint →
    setting text "DefaultEndpointsProtocol" = some protocol → toAsciiLowercase protocol = "http" →
    startsWithHttp endpoint = true

section Sound

variable {text : String} {info : AzureConnectionInfo}

/-- What a connection string that parses comes to. -/
theorem parse_ok_iff :
    parseConnectionString text = .ok info ↔ nonEmpty (setting text "AccountName") = some info.account ∧
      nonEmpty (setting text "AccountKey") = some info.accessKey ∧
      info.endpoint = resolveEndpoint info.account (nonEmpty (setting text "BlobEndpoint"))
        (setting text "EndpointSuffix") ((setting text "DefaultEndpointsProtocol").map toAsciiLowercase) ∧
      info.allowHttp = (info.endpoint.any startsWithHttp ||
        (setting text "DefaultEndpointsProtocol").any fun value => toAsciiLowercase value == "http") := by
  rw [parseConnectionString_eq, resolve_ok_iff]
  rfl

@[simp] theorem nonEmpty_none : nonEmpty none = none := rfl

@[simp] theorem nonEmpty_empty : nonEmpty (some "") = none := rfl

@[simp] theorem toAsciiLowercase_empty : toAsciiLowercase "" = "" := rfl

theorem nonEmpty_eq_some {value : Option String} : nonEmpty value = some text ↔ value = some text ∧ text ≠ "" := by
  simp only [nonEmpty, Option.filter_eq_some_iff, bne_iff_ne]

theorem nonEmpty_eq_none {value : Option String} : nonEmpty value = none ↔ value = none ∨ value = some "" := by
  cases value with
  | none => simp
  | some text => by_cases empty : text = "" <;> simp [nonEmpty, Option.filter, empty]

theorem toAsciiLowercase_ne_empty (written : text ≠ "") : toAsciiLowercase text ≠ "" := by
  intro lowered
  apply written
  have chars := congrArg String.toList lowered
  simpa [toAsciiLowercase] using chars

/-- A text that differs in one setting, which is empty in the first and not given
in the second, parses alike if the endpoint is resolved alike. -/
theorem SettingsAgree.erase (agree : SettingsAgree text) (parsed : parseConnectionString text = .ok info)
    (listed : name ∈ recognisedSettings) (empty : setting text name = some "") {other : String}
    (absent : setting other name = none)
    (same : ∀ name' ∈ recognisedSettings, name' ≠ name → setting other name' = setting text name') :
    parseConnectionString other = .ok info := by
  obtain ⟨account, accessKey, endpoint, allowHttp⟩ := parse_ok_iff.mp parsed
  apply parse_ok_iff.mpr
  simp only [recognisedSettings, List.mem_cons, List.not_mem_nil, or_false] at listed
  rcases listed with rfl | rfl | rfl | rfl | rfl
  · simp [empty] at account
  · simp [empty] at accessKey
  · rw [same "AccountName" (by decide) (by decide), same "AccountKey" (by decide) (by decide),
      same "DefaultEndpointsProtocol" (by decide) (by decide), same "EndpointSuffix" (by decide) (by decide), absent]
    rw [empty] at endpoint
    exact ⟨account, accessKey, endpoint, allowHttp⟩
  · rw [same "AccountName" (by decide) (by decide), same "AccountKey" (by decide) (by decide),
      same "BlobEndpoint" (by decide) (by decide), same "EndpointSuffix" (by decide) (by decide), absent]
    rw [empty] at endpoint allowHttp
    refine ⟨account, accessKey, ?_, by simpa using allowHttp⟩
    rw [endpoint]
    cases blob : nonEmpty (setting text "BlobEndpoint") with
    | some given => rfl
    | none =>
      cases suffix : setting text "EndpointSuffix" with
      | none => rfl
      | some parts =>
        have written : parts ≠ "" := fun blank => agree.suffix blob (by rw [suffix, blank])
        refine absurd empty (agree.protocol blob ?_)
        rw [suffix, nonEmpty_eq_some.mpr ⟨rfl, written⟩]
        nofun
  · rw [same "AccountName" (by decide) (by decide), same "AccountKey" (by decide) (by decide),
      same "BlobEndpoint" (by decide) (by decide), same "DefaultEndpointsProtocol" (by decide) (by decide), absent]
    rw [empty] at endpoint
    refine ⟨account, accessKey, ?_, allowHttp⟩
    rw [endpoint]
    cases blob : nonEmpty (setting text "BlobEndpoint") with
    | some given => rfl
    | none => exact absurd empty (agree.suffix blob)

theorem SettingsAgree.sound (agree : SettingsAgree text) (parsed : parseConnectionString text = .ok info) :
    EndpointSound text info := by
  obtain ⟨account, accessKey, endpoint, allowHttp⟩ := parse_ok_iff.mp parsed
  have built (blob : nonEmpty (setting text "BlobEndpoint") = none) (suffix : String)
      (present : nonEmpty (setting text "EndpointSuffix") = some suffix) :
      info.endpoint = some (((nonEmpty (setting text "DefaultEndpointsProtocol")).map toAsciiLowercase).getD "https" ++
        "://" ++ info.account ++ ".blob." ++ suffix) := by
    have named := agree.protocol blob (by rw [present]; nofun)
    have same : nonEmpty (setting text "DefaultEndpointsProtocol") = setting text "DefaultEndpointsProtocol" := by
      cases protocol : setting text "DefaultEndpointsProtocol" with
      | none => rfl
      | some scheme => exact nonEmpty_eq_some.mpr ⟨rfl, fun blank => named (by rw [protocol, blank])⟩
    rw [endpoint, blob, (nonEmpty_eq_some.mp present).1, same]
    rfl
  have missing (blob : nonEmpty (setting text "BlobEndpoint") = none)
      (suffix : nonEmpty (setting text "EndpointSuffix") = none) : info.endpoint = none := by
    rcases nonEmpty_eq_none.mp suffix with absent | empty
    · rw [endpoint, blob, absent]
      rfl
    · exact absurd empty (agree.suffix blob)
  refine ⟨?_, ?_, built, missing, ?_, ?_⟩
  · intro name listed empty other absent same
    exact agree.erase parsed listed empty absent same
  · intro given blob
    rw [endpoint, blob]
    rfl
  · intro blob result resolved
    cases present : nonEmpty (setting text "EndpointSuffix") with
    | none => cases (missing blob present).symm.trans resolved
    | some suffix =>
      rw [built blob suffix present] at resolved
      refine ⟨_, suffix, ?_, (nonEmpty_eq_some.mp present).2, (Option.some.inj resolved).symm⟩
      cases protocol : nonEmpty (setting text "DefaultEndpointsProtocol") with
      | none => exact (by decide : "https" ≠ "")
      | some scheme => exact toAsciiLowercase_ne_empty (nonEmpty_eq_some.mp protocol).2
  · intro result resolved
    rw [allowHttp, resolved, Option.any_some, Bool.or_eq_true]
    constructor
    · rintro (starts | http)
      · exact starts
      · obtain ⟨scheme, protocol, plain⟩ := (Option.any_eq_true _ _).mp http
        rw [beq_iff_eq] at plain
        cases blob : nonEmpty (setting text "BlobEndpoint") with
        | some given =>
          rw [endpoint, blob] at resolved
          cases resolved
          exact agree.http _ scheme blob protocol plain
        | none =>
          cases suffix : setting text "EndpointSuffix" with
          | none =>
            rw [endpoint, blob, suffix] at resolved
            cases resolved
          | some parts =>
            rw [endpoint, blob, suffix, protocol, Option.map_some, plain] at resolved
            have parts := startsWithHttp_append (info.account ++ ".blob." ++ parts)
            rw [← Option.some.inj resolved]
            simpa only [String.append_assoc, Option.getD_some] using parts
    · exact .inl

theorem EndpointSound.agree (sound : EndpointSound text info) (parsed : parseConnectionString text = .ok info) :
    SettingsAgree text := by
  obtain ⟨account, accessKey, endpoint, allowHttp⟩ := parse_ok_iff.mp parsed
  refine ⟨?_, ?_, ?_⟩
  · intro blob empty
    have none := sound.missing blob (by rw [empty]; rfl)
    rw [endpoint, blob, empty] at none
    cases none
  · intro blob present empty
    obtain ⟨suffix, present⟩ := Option.ne_none_iff_exists'.mp present
    have built := sound.built blob suffix present
    rw [endpoint, blob, (nonEmpty_eq_some.mp present).1, empty] at built
    have lengths := congrArg String.length (Option.some.inj built)
    simp only [Option.map_some, toAsciiLowercase_empty, Option.getD_some, nonEmpty_empty, Option.map_none,
      Option.getD_none, String.length_append] at lengths
    have scheme : "https".length = 5 := by decide
    have none : "".length = 0 := by decide
    omega
  · intro given protocol blob named plain
    apply (sound.http given (sound.given given blob)).mp
    rw [allowHttp, named]
    simp [plain]

end Sound

/-- Of a connection string that parses, the endpoint is sound exactly if no empty
suffix or protocol goes into it, and no protocol `http` stands beside a given
endpoint that is not plain HTTP. -/
theorem endpointSound_iff (text : String) (info : AzureConnectionInfo)
    (parsed : parseConnectionString text = .ok info) : EndpointSound text info ↔ SettingsAgree text :=
  ⟨fun sound => sound.agree parsed, fun agree => agree.sound parsed⟩

/-- A protocol in upper case with a suffix. -/
theorem endpointSound_iff_built :
    EndpointSound "DefaultEndpointsProtocol=HTTP;AccountName=a;AccountKey=k;EndpointSuffix=core.windows.net"
      ⟨"a", "k", some "http://a.blob.core.windows.net", true⟩ := by
  refine (endpointSound_iff _ _ (by decide)).mpr ⟨?_, ?_, ?_⟩
  · intro _
    decide
  · intro _ _
    decide
  · intro endpoint protocol blob
    have absent : nonEmpty (setting
        "DefaultEndpointsProtocol=HTTP;AccountName=a;AccountKey=k;EndpointSuffix=core.windows.net"
        "BlobEndpoint") = none := by decide
    cases absent.symm.trans blob

/-- With an empty suffix an endpoint is built that ends in a dot. -/
theorem emptySuffix_unsound :
    ¬ ∀ text info, parseConnectionString text = .ok info → EndpointSound text info := by
  intro sound
  have built := sound "AccountName=a;AccountKey=k;EndpointSuffix=" ⟨"a", "k", some "https://a.blob.", false⟩
    (by decide)
  have missing := built.missing (by decide) (by decide)
  cases missing

end Cachegate
