import Cachegate.Handler.Response
import Mathlib.Data.List.Basic

/-! The two credentials: a presigned payload with its signature, and a bearer
token. -/

namespace Cachegate

/-- What verification can fail with. -/
inductive AuthError where
  | malformedSignature
  | malformedPayload
  | invalidSignature
  | unsupportedVersion
  | expired
  | methodMismatch
  | bucketMismatch
  | pathMismatch
  | missingAuth
  | invalidBearer
  | bearerNotConfigured
deriving DecidableEq, Repr

structure PresignPayload where
  version : UInt8
  expiry : Int
  method : String
  bucketId : String
  path : String
deriving DecidableEq, Repr

/-- The libraries that verification calls. -/
structure AuthLibraries where
  /-- `URL_SAFE_NO_PAD.decode`. -/
  decode : String → Option Bytes
  /-- `serde_json::from_slice` at the payload's type. -/
  fromSlice : Bytes → Option PresignPayload
  /-- `VerifyingKey::verify_strict`, of a key, a message and a signature. -/
  verifyStrict : Bytes → Bytes → Bytes → Bool
  /-- `char::to_uppercase`, beyond ASCII. -/
  uppercase : Char → List Char

/-- `str::to_uppercase`, one character at a time: ASCII by rule, the others by the
tables of Unicode. -/
def AuthLibraries.toUppercase (libs : AuthLibraries) (text : String) : String :=
  String.ofList (text.toList.flatMap fun char => if char.toNat < 128 then [char.toUpper] else libs.uppercase char)

structure AuthState where
  verifyingKey : Bytes
  bearerToken : Option String

inductive AuthMethod where
  | bearer
  | presign
deriving DecidableEq, Repr

/-- `split_once`: what stands before and after the first delimiter. -/
def splitOnce (delimiter : Char) (text : String) : Option (String × String) :=
  match text.toList.span (· != delimiter) with
  | (_, []) => none
  | (before, _ :: after) => some (String.ofList before, String.ofList after)

namespace AuthState

variable (libs : AuthLibraries) (auth : AuthState)

/-- The last part of `verify`, once the payload has been accepted. -/
def verifySignature (message : Bytes) (signature64 : String) : Except AuthError Unit :=
  match libs.decode signature64 with
  | none => .error .malformedSignature
  | some signature =>
      if signature.length ≠ 64 then .error .malformedSignature
      else if libs.verifyStrict auth.verifyingKey message signature then .ok ()
      else .error .invalidSignature

/-- `verify`, with the clock's reading. The payload is checked field by field
before the signature is looked at. -/
def verify (now : Int) (method bucketId path sig : String) : Except AuthError Unit :=
  match splitOnce '.' sig with
  | none => .error .malformedSignature
  | some (payload64, signature64) =>
      match libs.decode payload64 with
      | none => .error .malformedPayload
      | some message =>
          match libs.fromSlice message with
          | none => .error .malformedPayload
          | some payload =>
              if payload.version ≠ 1 then .error .unsupportedVersion
              else if payload.expiry < now then .error .expired
              else if libs.toUppercase payload.method ≠ libs.toUppercase method then .error .methodMismatch
              else if payload.bucketId ≠ bucketId then .error .bucketMismatch
              else if payload.path ≠ path then .error .pathMismatch
              else auth.verifySignature libs message signature64

def verifyBearer (token : String) : Except AuthError Unit :=
  match auth.bearerToken with
  | none => .error .bearerNotConfigured
  | some expected => if token = expected then .ok () else .error .invalidBearer

end AuthState

/-- `split_whitespace`, on text whose only whitespace is blanks and tabs. -/
def splitWhitespace (text : String) : List String :=
  ((text.toList.splitOnP Char.isWhitespace).filter (!·.isEmpty)).map String.ofList

def parseBearerToken (headers : HeaderMap) : Option String :=
  (headers.authorization.bind HeaderValue.toStr).bind fun value =>
    match splitWhitespace value with
    | scheme :: token :: _ =>
        if eqIgnoreAsciiCase scheme "bearer" && !token.toList.isEmpty then some token else none
    | _ => none

/-- The payload grants this request at this time. -/
structure PresignPayload.Grants (libs : AuthLibraries) (payload : PresignPayload) (now : Int)
    (method bucketId path : String) : Prop where
  version : payload.version = 1
  current : now ≤ payload.expiry
  method : libs.toUppercase payload.method = libs.toUppercase method
  bucket : payload.bucketId = bucketId
  path : payload.path = path

/-- The parts of an accepted `sig` parameter. -/
structure Accepts (libs : AuthLibraries) (auth : AuthState) (now : Int) (method bucketId path sig : String)
    (message : Bytes) (payload : PresignPayload) (signature : Bytes) : Prop where
  parts : ∃ payload64 signature64, splitOnce '.' sig = some (payload64, signature64) ∧
    libs.decode payload64 = some message ∧ libs.decode signature64 = some signature
  parsed : libs.fromSlice message = some payload
  grants : payload.Grants libs now method bucketId path
  length : signature.length = 64
  verified : libs.verifyStrict auth.verifyingKey message signature = true

section Verify

variable {libs : AuthLibraries} {auth : AuthState} {now : Int} {method bucketId path sig : String}

theorem toUppercase_ascii (libs : AuthLibraries) {text : String}
    (ascii : text.toList.all (fun char => decide (char.toNat < 128)) = true) :
    libs.toUppercase text = String.ofList (text.toList.map Char.toUpper) := by
  rw [AuthLibraries.toUppercase, List.map_eq_flatMap]
  apply congrArg String.ofList
  apply List.flatMap_congr
  intro char listed
  rw [if_pos (of_decide_eq_true (List.all_eq_true.mp ascii char listed))]

/-- A check that fails with an error is passed when its condition is false. -/
theorem error_unless {ε α : Type} {condition : Prop} [Decidable condition] {err : ε} {rest : Except ε α} {value : α} :
    (if condition then .error err else rest) = .ok value ↔ ¬ condition ∧ rest = .ok value := by
  split <;> simp_all

theorem verifySignature_ok (message : Bytes) (signature64 : String) :
    auth.verifySignature libs message signature64 = .ok () ↔
      ∃ signature, libs.decode signature64 = some signature ∧ signature.length = 64 ∧
        libs.verifyStrict auth.verifyingKey message signature = true := by
  unfold AuthState.verifySignature
  split
  · simp_all
  · rename_i signature decoded
    simp only [decoded, Option.some.injEq, exists_eq_left']
    split
    · simp_all
    · split <;> simp_all

theorem verifyBearer_ok (auth : AuthState) (token : String) :
    auth.verifyBearer token = .ok () ↔ auth.bearerToken = some token := by
  unfold AuthState.verifyBearer
  split
  · simp_all
  · split <;> simp_all [eq_comm]

/-- `verify` accepts exactly a signed payload that grants the request. -/
theorem verify_ok :
    auth.verify libs now method bucketId path sig = .ok () ↔
      ∃ message payload signature, Accepts libs auth now method bucketId path sig message payload signature := by
  constructor
  · intro verified
    unfold AuthState.verify at verified
    split at verified
    · cases verified
    · rename_i payload64 signature64 parts
      split at verified
      · cases verified
      · rename_i message decoded
        split at verified
        · cases verified
        · rename_i payload parsed
          simp only [error_unless, ne_eq, not_not] at verified
          obtain ⟨version, current, names, bucket, route, verified⟩ := verified
          obtain ⟨signature, decoded', length, strict⟩ := (verifySignature_ok message signature64).mp verified
          exact ⟨message, payload, signature, ⟨payload64, signature64, parts, decoded, decoded'⟩, parsed,
            ⟨version, Int.not_lt.mp current, names, bucket, route⟩, length, strict⟩
  · rintro ⟨message, payload, signature, ⟨payload64, signature64, parts, decoded, decoded'⟩, parsed, grants, length,
      strict⟩
    have current : ¬ payload.expiry < now := Int.not_lt.mpr grants.current
    simp only [AuthState.verify, parts, decoded, parsed, grants.version, current, grants.method, grants.bucket,
      grants.path, ne_eq, not_true_eq_false, if_false]
    exact (verifySignature_ok message signature64).mpr ⟨signature, decoded', length, strict⟩

end Verify

end Cachegate
