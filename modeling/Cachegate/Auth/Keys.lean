import Cachegate.Auth.Presign
import Cachegate.Auth.Served

/-! Key material: the pair that `keygen` writes, what start-up makes of the pair
in the configuration, and which requests the two then sign. -/

namespace Cachegate

/-- The variants of `AuthError` that only `from_config` gives. -/
inductive KeyError where
  | invalidKeyMaterial
  | keyMismatch
deriving DecidableEq, Repr

structure AuthConfig where
  publicKey : String
  privateKey : String
  bearerToken : Option String
deriving DecidableEq, Repr

/-- What start-up, `keygen` and the clients call of the key libraries. A verifying
key is compared by its bytes. -/
structure KeyLibraries where
  /-- `URL_SAFE_NO_PAD.encode`. -/
  encode : Bytes → String
  /-- `URL_SAFE_NO_PAD.decode`. -/
  decode : String → Option Bytes
  /-- `VerifyingKey::from_bytes` accepts these 32 bytes. -/
  isPoint : Bytes → Bool
  /-- `SigningKey::verifying_key`, of the key with these 32 bytes. -/
  verifyingKey : Bytes → Bytes
  /-- `SigningKey::sign`, of the key with these 32 bytes and a message, as bytes. -/
  sign : Bytes → Bytes → Bytes

def decodeKey (libs : KeyLibraries) (input : String) : Except KeyError Bytes :=
  match libs.decode input with
  | none => .error .invalidKeyMaterial
  | some bytes => .ok bytes

def AuthState.fromConfig (libs : KeyLibraries) (config : AuthConfig) : Except KeyError AuthState :=
  match decodeKey libs config.publicKey with
  | .error err => .error err
  | .ok publicBytes =>
      match decodeKey libs config.privateKey with
      | .error err => .error err
      | .ok privateBytes =>
          if publicBytes.length ≠ 32 then .error .invalidKeyMaterial
          else if libs.isPoint publicBytes = false then .error .invalidKeyMaterial
          else if privateBytes.length ≠ 32 then .error .invalidKeyMaterial
          else if libs.verifyingKey privateBytes ≠ publicBytes then .error .keyMismatch
          else .ok { verifyingKey := publicBytes, bearerToken := config.bearerToken }

structure KeygenArgs where
  out : String
  force : Bool
deriving DecidableEq, Repr

structure AuthKeyPair where
  publicKey : String
  privateKey : String
deriving DecidableEq, Repr

/-- The configuration with these keys. -/
def AuthKeyPair.config (pair : AuthKeyPair) (bearerToken : Option String) : AuthConfig :=
  ⟨pair.publicKey, pair.privateKey, bearerToken⟩

/-- Files by their paths, with their text. -/
abbrev Files := String → Option String

/-- `run_keygen`, with the bytes that the random generator gives for the signing
key, and `serde_yaml::to_string`. A write that fails is left out. -/
def runKeygen (libs : KeyLibraries) (yaml : AuthKeyPair → String) (files : Files) (seed : Bytes) (args : KeygenArgs) :
    Except String Files :=
  if (files args.out).isSome && !args.force then .error ("output file already exists: " ++ args.out)
  else
    let privateKey := libs.encode seed
    let publicKey := libs.encode (libs.verifyingKey seed)
    .ok (Function.update files args.out (some (yaml { publicKey, privateKey })))

/-- The client that holds a private key as it is written. -/
def KeyLibraries.client (libs : KeyLibraries) (toVec : PresignPayload → Bytes) (privateKey : String) :
    Option Client :=
  (libs.decode privateKey).map fun seed => { encode := libs.encode, toVec, sign := libs.sign seed }

/-- The libraries agree on this signing key. -/
structure KeyLibraries.Sound (libs : KeyLibraries) (seed : Bytes) : Prop where
  reads : ∀ bytes ∈ [seed, libs.verifyingKey seed], libs.decode (libs.encode bytes) = some bytes
  length : seed.length = 32
  derived : (libs.verifyingKey seed).length = 32
  point : libs.isPoint (libs.verifyingKey seed) = true

/-- The libraries of both sides agree on a payload that this key signs. -/
structure KeyLibraries.Signs (libs : KeyLibraries) (auth : AuthLibraries) (toVec : PresignPayload → Bytes)
    (seed : Bytes) (payload : PresignPayload) : Prop where
  reads : ∀ bytes ∈ [toVec payload, libs.sign seed (toVec payload)], auth.decode (libs.encode bytes) = some bytes
  dotless : '.' ∉ (libs.encode (toVec payload)).toList
  readsBack : auth.fromSlice (toVec payload) = some payload
  length : (libs.sign seed (toVec payload)).length = 64
  verifies : auth.verifyStrict (libs.verifyingKey seed) (toVec payload) (libs.sign seed (toVec payload)) = true

/-- What `keygen` writes for a signing key. -/
def KeyLibraries.pair (libs : KeyLibraries) (seed : Bytes) : AuthKeyPair :=
  ⟨libs.encode (libs.verifyingKey seed), libs.encode seed⟩

section Keys

variable {libs : KeyLibraries} {seed other : Bytes} {config : AuthConfig} {auth : AuthState}

/-- Start-up accepts exactly a signing key of 32 bytes with its own verifying key. -/
theorem fromConfig_ok :
    AuthState.fromConfig libs config = .ok auth ↔
      ∃ seed, libs.decode config.privateKey = some seed ∧ seed.length = 32 ∧
        libs.decode config.publicKey = some (libs.verifyingKey seed) ∧ (libs.verifyingKey seed).length = 32 ∧
        libs.isPoint (libs.verifyingKey seed) = true ∧ auth = ⟨libs.verifyingKey seed, config.bearerToken⟩ := by
  unfold AuthState.fromConfig decodeKey
  cases publicKey : libs.decode config.publicKey with
  | none => simp
  | some publicBytes =>
    cases privateKey : libs.decode config.privateKey with
    | none => simp
    | some privateBytes =>
      simp only [error_unless, ne_eq, not_not, Bool.not_eq_false, Except.ok.injEq, Option.some.injEq]
      constructor
      · rintro ⟨length, point, short, rfl, rfl⟩
        exact ⟨privateBytes, rfl, short, rfl, length, point, rfl⟩
      · rintro ⟨seed, rfl, short, rfl, length, point, rfl⟩
        exact ⟨length, point, short, rfl, rfl⟩

theorem KeyLibraries.Sound.starts (sound : libs.Sound seed) (bearer : Option String) :
    AuthState.fromConfig libs ((libs.pair seed).config bearer) = .ok ⟨libs.verifyingKey seed, bearer⟩ :=
  fromConfig_ok.mpr ⟨seed, sound.reads seed List.mem_cons_self, sound.length,
    sound.reads _ (List.mem_cons_of_mem _ List.mem_cons_self), sound.derived, sound.point, rfl⟩

theorem KeyLibraries.Sound.client (sound : libs.Sound seed) (toVec : PresignPayload → Bytes) :
    libs.client toVec (libs.pair seed).privateKey = some ⟨libs.encode, toVec, libs.sign seed⟩ := by
  simp only [KeyLibraries.client, KeyLibraries.pair, sound.reads seed List.mem_cons_self, Option.map_some]

/-- Halves of two pairs do not go together. -/
theorem KeyLibraries.Sound.mismatch (sound : libs.Sound seed) (sound' : libs.Sound other)
    (different : libs.verifyingKey seed ≠ libs.verifyingKey other) (bearer : Option String) :
    AuthState.fromConfig libs (AuthKeyPair.config ⟨(libs.pair other).publicKey, (libs.pair seed).privateKey⟩ bearer) =
      .error .keyMismatch := by
  have publicKey := sound'.reads _ (List.mem_cons_of_mem _ List.mem_cons_self)
  have privateKey := sound.reads seed List.mem_cons_self
  simp only [AuthState.fromConfig, decodeKey, AuthKeyPair.config, KeyLibraries.pair, publicKey, privateKey]
  simp [sound.length, sound'.derived, sound'.point, different]

theorem KeyLibraries.Signs.agrees (signs : libs.Signs verifier toVec seed payload) (bearer : Option String) :
    Client.Agrees ⟨libs.encode, toVec, libs.sign seed⟩ verifier ⟨libs.verifyingKey seed, bearer⟩ payload :=
  ⟨signs.dotless, signs.reads, signs.readsBack, signs.length, signs.verifies⟩

end Keys

/-- The request does not have the service's bearer token, and in its `sig` has what
a client has built. -/
structure Presigned (gate : Gate) (client : Client) (expiry : Int) (method bucket path : String)
    (request : HttpRequest) (params : PathParams) : Prop where
  extracted : gate.path request.uri = some params
  queried : ∃ query, gate.query request.uri = some query ∧
    query.get "sig" = some (client.buildSig bucket path method expiry)
  unborne : ¬ BearerAuthorised gate request

section Presigned

variable {gate : Gate} {client : Client} {expiry now : Int} {method bucket path : String}
  {request : HttpRequest} {params : PathParams}

/-- The scope that a client signs for. -/
theorem Client.Agrees.scope (agrees : client.Agrees gate.libs gate.auth ⟨1, expiry, method, bucket, path⟩)
    (method' bucket' path' : String) :
    gate.auth.verify gate.libs now method' bucket' path' (client.buildSig bucket path method expiry) = .ok () ↔
      PresignPayload.Grants gate.libs ⟨1, expiry, method, bucket, path⟩ now method' bucket' path' := by
  rw [verify_ok]
  constructor
  · rintro ⟨message, payload, signature, accepts⟩
    obtain rfl := agrees.payload_eq accepts
    exact accepts.grants
  · exact agrees.accepted

/-- The methods that have a handler are in upper case. -/
theorem route_uppercase (libs : AuthLibraries) (routed : gate.route request = .ok job) :
    libs.toUppercase request.method = request.method := by
  unfold Gate.route at routed
  split at routed
  · rename_i get _
    rw [get]
    exact toUppercase_ascii libs rfl
  · rename_i head _ _
    rw [head]
    exact toUppercase_ascii libs rfl
  · rename_i put _
    rw [put]
    exact toUppercase_ascii libs rfl
  · cases routed
  · cases routed
  · cases routed
  · cases routed

theorem Presigned.served (presigned : Presigned gate client expiry method bucket path request params)
    (agrees : client.Agrees gate.libs gate.auth ⟨1, expiry, method, bucket, path⟩) (cfg : AppConfig) (s : Service)
    (now : Int) :
    ∃ arrival, (s.arrive gate cfg now request).arrivals = arrival :: s.arrivals ∧
      (arrival.refused = false ↔ PresignPayload.Grants gate.libs ⟨1, expiry, method, bucket, path⟩ now
        request.method params.bucketId params.path) := by
  obtain ⟨query, queried, found⟩ := presigned.queried
  obtain ⟨arrival, arrived, judged⟩ := arrive_credited gate cfg s now request presigned.extracted queried
  refine ⟨arrival, arrived, judged.trans ?_⟩
  rw [← agrees.scope]
  constructor
  · rintro (bearer | ⟨sig, present, verified⟩)
    · exact absurd bearer presigned.unborne
    · cases found.symm.trans present
      exact verified
  · intro verified
    exact .inr ⟨_, found, verified⟩

end Presigned

/-- The pair that `keygen` writes starts the service, and with no half of another
pair. Of the requests that its private key has signed, the service then lets
through exactly those in scope, and to the handler of the signed method only. A
file that was there is kept unless forced. -/
theorem keygen_serves (libs : KeyLibraries) (auth : AuthLibraries) (toVec : PresignPayload → Bytes)
    (yaml : AuthKeyPair → String) (files files' : Files) (seed : Bytes) (args : KeygenArgs) (bearer : Option String)
    (expiry : Int) (method bucket path : String) (sound : libs.Sound seed)
    (signs : libs.Signs auth toVec seed ⟨1, expiry, method, bucket, path⟩)
    (written : runKeygen libs yaml files seed args = .ok files') :
    (args.force = false → files args.out = none) ∧
      files' = Function.update files args.out (some (yaml (libs.pair seed))) ∧
      (∀ other, libs.Sound other → libs.verifyingKey seed ≠ libs.verifyingKey other →
        AuthState.fromConfig libs
            (AuthKeyPair.config ⟨(libs.pair other).publicKey, (libs.pair seed).privateKey⟩ bearer) =
          .error .keyMismatch) ∧
      (∃ state, AuthState.fromConfig libs ((libs.pair seed).config bearer) = .ok state) ∧
      ∀ (gate : Gate) client request params,
        AuthState.fromConfig libs ((libs.pair seed).config bearer) = .ok gate.auth → gate.libs = auth →
        libs.client toVec (libs.pair seed).privateKey = some client →
        Presigned gate client expiry method bucket path request params →
        ∀ (cfg : AppConfig) (s : Service) (now : Int),
          ∃ arrival, (s.arrive gate cfg now request).arrivals = arrival :: s.arrivals ∧
            (arrival.refused = false ↔ PresignPayload.Grants auth ⟨1, expiry, method, bucket, path⟩ now
              request.method params.bucketId params.path) ∧
            ∀ job, arrival.refused = false → gate.route request = .ok job →
              request.method = auth.toUppercase method := by
  unfold runKeygen at written
  split at written
  · cases written
  · rename_i free
    cases written
    refine ⟨?_, rfl, ?_, ⟨_, sound.starts bearer⟩, ?_⟩
    · intro unforced
      simpa [unforced] using free
    · intro other sound' different
      exact sound.mismatch sound' different bearer
    · rintro gate client request params started rfl held presigned cfg s now
      have same : ⟨libs.verifyingKey seed, bearer⟩ = gate.auth :=
        Except.ok.inj ((sound.starts bearer).symm.trans started)
      obtain rfl := Option.some.inj ((sound.client toVec).symm.trans held)
      obtain ⟨arrival, arrived, judged⟩ := presigned.served (same ▸ signs.agrees bearer) cfg s now
      refine ⟨arrival, arrived, judged, ?_⟩
      intro job admitted routed
      rw [(judged.mp admitted).method]
      exact (route_uppercase gate.libs routed).symm

/-- The signing key of the sample, and what it and its verifying key are written as. -/
def sampleSeed : Bytes :=
  [0, 1, 2, 3, 4, 5, 6, 7, 8, 9, 10, 11, 12, 13, 14, 15,
    16, 17, 18, 19, 20, 21, 22, 23, 24, 25, 26, 27, 28, 29, 30, 31]

def samplePrivate64 : String := "AAECAwQFBgcICQoLDA0ODxAREhMUFRYXGBkaGxwdHh8"

def samplePublic64 : String := "A6EHv_POEL4dcN0Y50vAmWfk1jCbpQ1fHdyGZBJVMbg"

def sampleKeyLibraries : KeyLibraries where
  encode := fun bytes =>
    if bytes = sampleSeed then samplePrivate64
    else if bytes = sampleKey then samplePublic64
    else sampleClient.encode bytes
  decode := fun text =>
    if text = samplePrivate64 then some sampleSeed
    else if text = samplePublic64 then some sampleKey
    else sampleLibraries.decode text
  isPoint := (· == sampleKey)
  verifyingKey := fun _ => sampleKey
  sign := fun _ => sampleClient.sign

private def keyedGate : Gate where
  auth := ⟨sampleKey, none⟩
  libs := sampleLibraries
  path := fun _ => some ⟨"b", "p"⟩
  query := fun _ => some [("sig", sampleClient.buildSig "b" "p" "GET" 100)]

set_option maxRecDepth 8000 in
/-- A pair written to a new file, and a request that its key has signed, at the
last second. -/
theorem keygen_serves_sample :
    (∃ state, AuthState.fromConfig sampleKeyLibraries ⟨samplePublic64, samplePrivate64, none⟩ = .ok state) ∧
      ∀ cfg s, ∃ arrival, (Service.arrive keyedGate cfg s 100 ⟨"GET", "/b/p", ⟨none, none⟩, []⟩).arrivals =
        arrival :: s.arrivals ∧ arrival.refused = false := by
  have sound : sampleKeyLibraries.Sound sampleSeed := by
    refine ⟨?_, rfl, rfl, rfl⟩
    intro bytes listed
    rcases List.mem_cons.mp listed with rfl | listed
    · rfl
    · obtain rfl := List.mem_singleton.mp listed
      rfl
  have signs : sampleKeyLibraries.Signs sampleLibraries sampleClient.toVec sampleSeed ⟨1, 100, "GET", "b", "p"⟩ := by
    refine ⟨?_, by decide, rfl, rfl, rfl⟩
    intro bytes listed
    rcases List.mem_cons.mp listed with rfl | listed
    · rfl
    · obtain rfl := List.mem_singleton.mp listed
      rfl
  obtain ⟨_, _, _, started, serves⟩ := keygen_serves sampleKeyLibraries sampleLibraries sampleClient.toVec
    (fun pair => pair.publicKey) (fun _ => none) _ sampleSeed ⟨"auth.keys.yaml", false⟩ none 100 "GET" "b" "p" sound
    signs rfl
  refine ⟨started, ?_⟩
  intro cfg s
  obtain ⟨arrival, arrived, judged, _⟩ := serves keyedGate _ ⟨"GET", "/b/p", ⟨none, none⟩, []⟩ ⟨"b", "p"⟩
    (sound.starts none) rfl (sound.client _) ⟨rfl, ⟨_, rfl, rfl⟩, by rintro ⟨token, ⟨⟩, _⟩⟩ cfg s 100
  exact ⟨arrival, arrived, judged.mpr ⟨rfl, Int.le_refl _, rfl, rfl, rfl⟩⟩

end Cachegate
