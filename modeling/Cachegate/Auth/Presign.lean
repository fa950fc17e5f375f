import Cachegate.Auth.Verify
import Cachegate.Library.Blanks

/-! Presigned parameters as the clients build them, and what they verify. -/

namespace Cachegate

/-- The libraries that a client signs with. -/
structure Client where
  /-- `URL_SAFE_NO_PAD.encode`. -/
  encode : Bytes → String
  /-- `serde_json::to_vec` of a payload. -/
  toVec : PresignPayload → Bytes
  /-- `SigningKey::sign`, as bytes. -/
  sign : Bytes → Bytes

/-- `build_sig`, with its expiry. -/
def Client.buildSig (client : Client) (bucket path method : String) (expiry : Int) : String :=
  let payload : PresignPayload := { version := 1, expiry, method, bucketId := bucket, path }
  let payloadBytes := client.toVec payload
  let signature := client.sign payloadBytes
  let payload64 := client.encode payloadBytes
  let signature64 := client.encode signature
  payload64 ++ "." ++ signature64

/-- Both sides' libraries agree on a payload, and the client holds the private key. -/
structure Client.Agrees (client : Client) (libs : AuthLibraries) (auth : AuthState) (payload : PresignPayload) :
    Prop where
  dotless : '.' ∉ (client.encode (client.toVec payload)).toList
  decodes : ∀ bytes ∈ [client.toVec payload, client.sign (client.toVec payload)],
    libs.decode (client.encode bytes) = some bytes
  readsBack : libs.fromSlice (client.toVec payload) = some payload
  length : (client.sign (client.toVec payload)).length = 64
  accepts : libs.verifyStrict auth.verifyingKey (client.toVec payload) (client.sign (client.toVec payload)) = true

/-- The first delimiter is the one put between the two parts. -/
theorem splitOnce_join {delimiter : Char} {before : String} (absent : delimiter ∉ before.toList) (after : String) :
    splitOnce delimiter (before ++ String.singleton delimiter ++ after) = some (before, after) := by
  have parts : (before ++ String.singleton delimiter ++ after).toList =
      before.toList ++ delimiter :: after.toList := by
    simp
  unfold splitOnce
  rw [parts, Blanks.span_delimiter absent]
  simp

section Sign

variable {client : Client} {libs : AuthLibraries} {auth : AuthState} {payload : PresignPayload} {expiry now : Int}
  {method bucket path method' bucket' path' : String}

/-- A built parameter is accepted as soon as its payload grants the request. -/
theorem Client.Agrees.accepted (agrees : client.Agrees libs auth ⟨1, expiry, method, bucket, path⟩)
    (grants : PresignPayload.Grants libs ⟨1, expiry, method, bucket, path⟩ now method' bucket' path') :
    ∃ message payload signature,
      Accepts libs auth now method' bucket' path' (client.buildSig bucket path method expiry) message payload
        signature := by
  refine ⟨_, _, _, ⟨_, _, splitOnce_join agrees.dotless _, ?_, ?_⟩, agrees.readsBack, grants, agrees.length,
    agrees.accepts⟩
  · apply agrees.decodes
    exact List.mem_cons_self
  · apply agrees.decodes
    exact List.mem_cons_of_mem _ List.mem_cons_self

/-- The payload that verification reads from a built parameter is the client's. -/
theorem Client.Agrees.payload_eq (agrees : client.Agrees libs auth ⟨1, expiry, method, bucket, path⟩)
    {message signature : Bytes} (accepts : Accepts libs auth now method' bucket' path'
      (client.buildSig bucket path method expiry) message payload signature) :
    payload = ⟨1, expiry, method, bucket, path⟩ := by
  obtain ⟨payload64, signature64, parts, decoded, _⟩ := accepts.parts
  obtain ⟨rfl, rfl⟩ : _ = payload64 ∧ _ = signature64 :=
    Prod.mk.inj (Option.some.inj ((splitOnce_join agrees.dotless _).symm.trans parts))
  have same : _ = message := Option.some.inj ((agrees.decodes _ List.mem_cons_self).symm.trans decoded)
  subst same
  exact Option.some.inj (accepts.parsed.symm.trans agrees.readsBack)

end Sign

/-- A presigned parameter authorises one method up to case, one bucket and one
path, up to and including its last second. -/
theorem verify_buildSig (client : Client) (libs : AuthLibraries) (auth : AuthState) (expiry now : Int)
    (method bucket path method' bucket' path' : String)
    (agrees : client.Agrees libs auth ⟨1, expiry, method, bucket, path⟩) :
    auth.verify libs now method' bucket' path' (client.buildSig bucket path method expiry) = .ok () ↔
      now ≤ expiry ∧ libs.toUppercase method = libs.toUppercase method' ∧ bucket = bucket' ∧ path = path' := by
  rw [verify_ok]
  constructor
  · rintro ⟨message, payload, signature, accepts⟩
    obtain rfl := agrees.payload_eq accepts
    exact ⟨accepts.grants.current, accepts.grants.method, accepts.grants.bucket, accepts.grants.path⟩
  · rintro ⟨current, names, rfl, rfl⟩
    exact agrees.accepted ⟨rfl, current, names, rfl, rfl⟩

/-- A key, a payload and its signature, for a GET of `b/p` until second 100. -/
def sampleKey : Bytes :=
  [3, 161, 7, 191, 243, 206, 16, 190, 29, 112, 221, 24, 231, 75, 192, 153, 103, 228, 214, 48, 155, 165, 13,
    95, 29, 220, 134, 100, 18, 85, 49, 184]

def samplePayload : Bytes :=
  [123, 34, 118, 34, 58, 49, 44, 34, 101, 120, 112, 34, 58, 49, 48, 48, 44, 34, 109, 34, 58, 34, 71, 69,
    84, 34, 44, 34, 98, 34, 58, 34, 98, 34, 44, 34, 112, 34, 58, 34, 112, 34, 125]

def sampleSignature : Bytes :=
  [104, 29, 63, 239, 164, 67, 18, 143, 83, 204, 188, 198, 156, 151, 16, 209, 168, 156, 62, 170, 60, 38,
    199, 168, 76, 208, 219, 187, 104, 250, 25, 253, 250, 77, 231, 113, 129, 39, 64, 13, 226, 33, 10, 173,
    33, 44, 0, 17, 98, 158, 16, 119, 140, 105, 21, 94, 143, 156, 51, 146, 129, 238, 166, 4]

def samplePayload64 : String := "eyJ2IjoxLCJleHAiOjEwMCwibSI6IkdFVCIsImIiOiJiIiwicCI6InAifQ"

def sampleSignature64 : String :=
  "aB0_76RDEo9TzLzGnJcQ0aicPqo8JseoTNDbu2j6Gf36TedxgSdADeIhCq0hLAARYp4Qd4xpFV6PnDOSge6mBA"

/-- The server's libraries, at what the sample decodes to. -/
def sampleLibraries : AuthLibraries where
  decode := fun text =>
    if text = samplePayload64 then some samplePayload
    else if text = sampleSignature64 then some sampleSignature else none
  fromSlice := fun bytes => if bytes = samplePayload then some ⟨1, 100, "GET", "b", "p"⟩ else none
  verifyStrict := fun key message signature =>
    key == sampleKey && message == samplePayload && signature == sampleSignature
  uppercase := fun char => [char]

def sampleClient : Client where
  encode := fun bytes => if bytes = samplePayload then samplePayload64 else sampleSignature64
  toVec := fun _ => samplePayload
  sign := fun _ => sampleSignature

set_option maxRecDepth 8000 in
/-- The sample is good for a GET in lower case at its last second. -/
theorem verify_buildSig_sample :
    AuthState.verify sampleLibraries ⟨sampleKey, none⟩ 100 "get" "b" "p" (sampleClient.buildSig "b" "p" "GET" 100) =
      .ok () := by
  refine (verify_buildSig sampleClient sampleLibraries ⟨sampleKey, none⟩ 100 100 "GET" "b" "p" "get" "b" "p" ?_).mpr
    ⟨Int.le_refl _, by decide, rfl, rfl⟩
  refine ⟨by decide, ?_, rfl, rfl, rfl⟩
  intro bytes listed
  rcases List.mem_cons.mp listed with rfl | listed
  · rfl
  · obtain rfl := List.mem_singleton.mp listed
    rfl

end Cachegate
