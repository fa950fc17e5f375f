import Cachegate.Handler.Data

/-! What the handlers compute without awaiting: the path check, content types,
responses and errors, and the loop body that buffers a PUT. -/

namespace Cachegate

/-- A header value is its bytes. -/
abbrev HeaderValue := List UInt8

namespace HeaderValue

/-- `HeaderValue::from_str` takes the string's bytes unless one is a control
character other than a tab. -/
def fromStr (text : String) : Option HeaderValue :=
  let bytes := text.toByteArray.data.toList
  if bytes.all (fun byte => (32 ≤ byte && byte != 127) || byte == 9) then some bytes else none

/-- `HeaderValue::to_str` succeeds on visible ASCII and tabs only. -/
def toStr (value : HeaderValue) : Option String :=
  if value.all (fun byte => (32 ≤ byte && byte < 127) || byte == 9) then
    some (String.ofList (value.map (fun byte => Char.ofNat byte.toNat)))
  else none

/-- A byte of ASCII text is its own encoding. -/
theorem encode_ascii (byte : UInt8) (ascii : byte < 128) : String.utf8EncodeChar (Char.ofNat byte.toNat) = [byte] := by
  have small : byte.toNat < 128 := by simpa [UInt8.lt_iff_toNat_lt] using ascii
  have valid : byte.toNat.isValidChar := .inl (by omega)
  have value : (Char.ofNat byte.toNat).val.toNat = byte.toNat := by
    rw [Char.ofNat, dif_pos valid]
    rfl
  simp [String.utf8EncodeChar, value]
  omega

theorem encode_text (value : HeaderValue) (ascii : ∀ byte ∈ value, byte < 128) :
    (value.map fun byte => Char.ofNat byte.toNat).utf8Encode.data.toList = value := by
  have encoded : value.flatMap (fun byte => String.utf8EncodeChar (Char.ofNat byte.toNat)) = value := by
    induction value with
    | nil => rfl
    | cons byte value ih =>
      rw [List.flatMap_cons, encode_ascii byte (ascii byte (by simp)),
        ih fun other member => ascii other (by simp [member])]
      rfl
  rw [List.utf8Encode, List.toList_data_toByteArray, List.flatMap_map, encoded]

/-- Text read from a header value makes the same header value. -/
theorem fromStr_toStr {value : HeaderValue} (read : value.toStr = some text) : fromStr text = some value := by
  unfold toStr at read
  split at read
  · rename_i visible
    cases read
    have visible : ∀ byte ∈ value, (32 ≤ byte ∧ byte < 127) ∨ byte = 9 := by simpa using visible
    have same : (String.ofList (value.map fun byte => Char.ofNat byte.toNat)).toByteArray.data.toList = value := by
      rw [String.toByteArray_ofList]
      refine encode_text value fun byte member => ?_
      rcases visible byte member with ⟨_, small⟩ | rfl
      · exact UInt8.lt_trans small (by decide)
      · decide
    simp only [fromStr, same]
    rw [if_pos]
    simp only [List.all_eq_true, Bool.or_eq_true, Bool.and_eq_true, decide_eq_true_eq, bne_iff_ne, beq_iff_eq]
    intro byte member
    refine (visible byte member).imp_left fun range => ⟨range.1, ?_⟩
    rintro rfl
    exact absurd range.2 (by decide)
  · cases read

theorem fromStr_bytes (made : fromStr text = some value) : text.toByteArray.data.toList = value := by
  simp only [fromStr] at made
  split at made <;> cases made
  rfl

theorem fromStr_injective {left right : String} (made : fromStr left = some value)
    (made' : fromStr right = some value) :
    left = right := by
  have same : left.toByteArray.data.toList = right.toByteArray.data.toList :=
    (fromStr_bytes made).trans (fromStr_bytes made').symm
  exact String.toByteArray_inj.mp (ByteArray.ext (Array.toList_inj.mp same))

end HeaderValue

/-- The first value of each header that the code reads. -/
structure HeaderMap where
  contentType : Option HeaderValue
  authorization : Option HeaderValue
deriving DecidableEq, Repr

structure AppError where
  status : StatusCode
  message : String
deriving DecidableEq, Repr

namespace AppError

def badRequest (message : String) : AppError := ⟨.badRequest, message⟩

def unauthorized (message : String) : AppError := ⟨.unauthorized, message⟩

def notFound (message : String) : AppError := ⟨.notFound, message⟩

def fromStore : StoreError → AppError
  | .notFound => notFound "object not found"
  | _ => ⟨.badGateway, "upstream error"⟩

end AppError

/-- The headers the handlers set. `Content-Length` is kept as the number it
renders: digits always make a valid header value. -/
structure Response where
  status : StatusCode
  contentType : Option HeaderValue
  cgStatus : Option String
  contentLength : Option Nat
  body : Bytes
deriving DecidableEq, Repr

abbrev HandlerResult := Except AppError Response

/-- The status that the client sees and that `requests_total` is labelled with. -/
def statusOf : HandlerResult → StatusCode
  | .ok response => response.status
  | .error err => err.status

def buildResponse (entry : CacheEntry) (cacheHit : Bool) : Response where
  status := .ok
  contentType := entry.contentType.bind HeaderValue.fromStr
  cgStatus := some (if cacheHit then "hit=1" else "hit=0")
  contentLength := some entry.bytes.length
  body := entry.bytes

def buildHeadResponse (entry : CacheEntry) : Response where
  status := .ok
  contentType := entry.contentType.bind HeaderValue.fromStr
  cgStatus := none
  contentLength := some entry.bytes.length
  body := []

def buildHeadResponseWithMeta (length : Nat) (contentType : Option String) : Response where
  status := .ok
  contentType := contentType.bind HeaderValue.fromStr
  cgStatus := none
  contentLength := some length
  body := []

def buildPutResponse : Response where
  status := .ok
  contentType := none
  cgStatus := none
  contentLength := none
  body := []

/-- `into_response`. The length of its body is left to the server. -/
def AppError.intoResponse (err : AppError) : Response where
  status := err.status
  contentType := none
  cgStatus := none
  contentLength := none
  body := err.message.toByteArray.data.toList

def intoResponse : HandlerResult → Response
  | .ok response => response
  | .error err => err.intoResponse

/-- `path.contains("..")`. -/
def containsDotDot : List Char → Bool
  | '.' :: '.' :: _ => true
  | _ :: rest => containsDotDot rest
  | [] => false

/-- The check that opens all three handlers. -/
def invalidPath (path : String) : Bool :=
  path.toList.isEmpty || containsDotDot path.toList || path.toList.head? == some '/'

/-- The query parameters; of a repeated name, the last value. -/
abbrev Query := List (String × String)

def Query.get (params : Query) (name : String) : Option String :=
  (params.reverse.find? (fun pair => pair.1 == name)).map Prod.snd

/-- `eq_ignore_ascii_case`. -/
def eqIgnoreAsciiCase (left right : String) : Bool :=
  left.toList.map Char.toLower == right.toList.map Char.toLower

def parsePrefetchValue (value : String) : Option Bool :=
  if value == "1" then some true
  else if value == "0" then some false
  else if eqIgnoreAsciiCase value "true" then some true
  else if eqIgnoreAsciiCase value "false" then some false
  else none

def parsePrefetch (params : Query) : Bool :=
  ((params.get "prefetch").bind parsePrefetchValue).getD false

/-- The two guessing libraries, pure functions of the path and of the bytes. -/
structure MimeRules where
  /-- `mime_guess::from_path(path).first()`, as its essence. -/
  fromPath : String → Option String
  /-- `infer::get(bytes)`, as its mime type. -/
  infer : Bytes → Option String

/-- Libraries that recognise nothing. -/
def MimeRules.unknown : MimeRules := ⟨fun _ => none, fun _ => none⟩

def resolveContentType (mime : MimeRules) (path : String) (bytes : Bytes) : String :=
  match mime.fromPath path with
  | some guess => guess
  | none =>
      match mime.infer bytes with
      | some kind => kind
      | none => "application/octet-stream"

def contentTypeFromHeaders (mime : MimeRules) (headers : HeaderMap) (path : String) : Option String :=
  match headers.contentType.bind HeaderValue.toStr with
  | some value => if value.toList.isEmpty then mime.fromPath path else some value
  | none => mime.fromPath path

/-- What the streaming loop of `put_object` carries: the chunks handed to
`WriteMultipart::put`, the copy kept for the cache, and its latch. -/
structure UploadLoop where
  sent : List Bytes
  buffer : Bytes
  capped : Bool
deriving DecidableEq, Repr

namespace UploadLoop

def start (capBytes : Nat) : UploadLoop := ⟨[], [], capBytes == 0⟩

/-- The loop body. Subtraction saturates, as `saturating_sub` does. -/
def push (capBytes : Nat) (loop : UploadLoop) (chunk : Bytes) : UploadLoop :=
  let sent := loop.sent ++ [chunk]
  if loop.capped then { loop with sent }
  else
    let remaining := capBytes - loop.buffer.length
    if remaining = 0 then { loop with sent, capped := true }
    else if chunk.length ≤ remaining then { loop with sent, buffer := loop.buffer ++ chunk }
    else { sent, buffer := loop.buffer ++ chunk.take remaining, capped := true }

/-- What the upload consists of so far. -/
def uploaded (loop : UploadLoop) : Bytes := loop.sent.flatten

end UploadLoop

end Cachegate
