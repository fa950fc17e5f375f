import Cachegate.Config
import Cachegate.Library.Transition
import Cachegate.Library.WeightedCache

/-! The cache that `FoyerCache::new` builds for a policy, and what its memory
tier may hold. -/

namespace Cachegate

open Transition

/-- What `FoyerCache::new` sets on the builder, of what tells two caches apart. -/
structure HybridCacheBuilder where
  memory : Nat
  weighter : Option (CacheKey → CacheEntry → Nat)
  disk : Option (String × Nat)

/-- Without `with_weighter` every entry weighs one. -/
def HybridCacheBuilder.weight (builder : HybridCacheBuilder) : CacheKey → CacheEntry → Nat :=
  builder.weighter.getD fun _ _ => 1

/-- What building a cache asks of the file system and of foyer. -/
structure FoyerLibraries where
  createDirAll : String → Except String Unit
  /-- `FsDeviceBuilder::build`, for a path and a capacity. -/
  buildDevice : String → Nat → Except String Unit
  /-- `build` of the storage. -/
  buildCache : HybridCacheBuilder → Except String Unit

/-- `Context::context`. -/
def context {Value : Type} (text : String) (result : Except String Value) : Except ErrorChain Value :=
  result.mapError fun err => [text, err]

namespace CachePolicy

def diskDir (policy : CachePolicy) : String := policy.diskPath.getD "/tmp/cachegate_cache"

/-- `disk_capacity as usize`. -/
def diskCapacity (policy : CachePolicy) (pointerWidth : PointerWidth) : Nat :=
  policy.maxDisk.toNat % 2 ^ pointerWidth.bits

def builder (policy : CachePolicy) (pointerWidth : PointerWidth) : HybridCacheBuilder where
  memory := policy.maxMemory.toNat % 2 ^ pointerWidth.bits
  weighter := none
  disk := if policy.maxDisk = 0 then none else some (policy.diskDir, policy.diskCapacity pointerWidth)

end CachePolicy

/-- `FoyerCache::new`. -/
def FoyerCache.new (foyer : FoyerLibraries) (policy : CachePolicy) (pointerWidth : PointerWidth) :
    Except ErrorChain HybridCacheBuilder :=
  if policy.maxMemory = 0 then .error ["Bad policy: 0 max_bytes_memory"]
  else if policy.maxDisk = 0 then do
    context "Failed to initialise cache" (foyer.buildCache (policy.builder pointerWidth))
    return policy.builder pointerWidth
  else do
    context "failed to create disk cache directory" (foyer.createDirAll policy.diskDir)
    context "failed to build disk cache device"
      (foyer.buildDevice policy.diskDir (policy.diskCapacity pointerWidth))
    context "Failed to initialise cache" (foyer.buildCache (policy.builder pointerWidth))
    return policy.builder pointerWidth

/-- A built cache: the memory tier, and what can be read back from disk. Of foyer
it is assumed that the weights in memory never exceed the capacity given to
`memory`, whatever its shards evict for that. -/
structure HybridCache (builder : HybridCacheBuilder) where
  memory : WeightedCache.Tier builder.weight builder.memory
  disk : CacheKey → Option CacheEntry
  inserts : Nat

/-- The calls of the cache, with what foyer evicts, and losses on disk. -/
inductive CacheCall where
  | put (key : CacheKey) (bytes : Bytes) (contentType : Option String) (evicted : CacheKey → Bool)
  | get (key : CacheKey) (evicted : CacheKey → Bool)
  | lose (key : CacheKey)

namespace HybridCache

variable {builder : HybridCacheBuilder}

/-- A cache just built, on a disk with some entries of an earlier run. -/
def start (builder : HybridCacheBuilder) (recovered : CacheKey → Option CacheEntry) : HybridCache builder where
  memory := .empty
  disk := fun key => builder.disk.bind fun _ => recovered key
  inserts := 0

/-- `FoyerCache::put`; the disk tier is written on insertion. -/
def put (s : HybridCache builder) (key : CacheKey) (bytes : Bytes) (contentType : Option String)
    (evicted : CacheKey → Bool) : Option (HybridCache builder) :=
  let entry : CacheEntry := ⟨bytes, contentType⟩
  (s.memory.insert? key entry evicted).map fun memory =>
    { memory, disk := Function.update s.disk key (builder.disk.map fun _ => entry), inserts := s.inserts + 1 }

/-- `FoyerCache::get`; what is found on disk only is taken into memory. -/
def get (s : HybridCache builder) (key : CacheKey) (evicted : CacheKey → Bool) : Option (HybridCache builder) :=
  match s.memory.find? key, s.disk key with
  | none, some entry => (s.memory.insert? key entry evicted).map fun memory => { s with memory }
  | _, _ => some s

def step (s : HybridCache builder) : CacheCall → Option (HybridCache builder)
  | .put key bytes contentType evicted => s.put key bytes contentType evicted
  | .get key evicted => s.get key evicted
  | .lose key => some { s with disk := Function.update s.disk key none }

def system (builder : HybridCacheBuilder) : System (HybridCache builder) CacheCall := ⟨step⟩

/-- The bytes of the entries in the memory tier. -/
def memoryBytes (s : HybridCache builder) : Nat :=
  WeightedCache.total (fun _ entry => entry.bytes.length) s.memory.held

/-- A step, by the entry it takes into memory. -/
inductive Step (s : HybridCache builder) : CacheCall → HybridCache builder → Prop
  | put (inserted : s.memory.insert? key ⟨bytes, contentType⟩ evicted = some tier) :
      Step s (.put key bytes contentType evicted)
        ⟨tier, Function.update s.disk key (builder.disk.map fun _ => ⟨bytes, contentType⟩), s.inserts + 1⟩
  | promoted (absent : s.memory.find? key = none) (stored : s.disk key = some entry)
      (inserted : s.memory.insert? key entry evicted = some tier) :
      Step s (.get key evicted) { s with memory := tier }
  | answered : Step s (.get key evicted) s
  | lost : Step s (.lose key) { s with disk := Function.update s.disk key none }

theorem step_cases {s t : HybridCache builder} (taken : s.step call = some t) : Step s call t := by
  cases call with
  | put key bytes contentType evicted =>
    obtain ⟨memory, inserted, rfl⟩ := Option.map_eq_some_iff.mp taken
    exact .put inserted
  | get key evicted =>
    simp only [step, get] at taken
    split at taken
    · rename_i entry absent stored
      obtain ⟨memory, inserted, rfl⟩ := Option.map_eq_some_iff.mp taken
      exact .promoted absent stored inserted
    · cases taken
      exact .answered
  | lose key =>
    cases taken
    exact .lost

/-- What is on disk after one key was written or lost. -/
theorem stored_update {disk : CacheKey → Option CacheEntry} {latest : Option CacheEntry} {key other : CacheKey}
    (stored : Function.update disk key latest other = some entry) :
    other = key ∧ latest = some entry ∨ other ≠ key ∧ disk other = some entry := by
  by_cases same : other = key
  · subst same
    left
    rw [Function.update_self] at stored
    exact ⟨rfl, stored⟩
  · right
    rw [Function.update_of_ne same] at stored
    exact ⟨same, stored⟩

/-- No entry of either tier has more bytes than this. -/
structure Small (bound : Nat) (s : HybridCache builder) : Prop where
  memory : ∀ entry ∈ s.memory.held, entry.2.bytes.length ≤ bound
  disk : ∀ key entry, s.disk key = some entry → entry.bytes.length ≤ bound

/-- Entries put are within the bound. -/
def PutsWithin (bound : Nat) (_ : HybridCache builder) : CacheCall → Prop
  | .put _ bytes _ _ => bytes.length ≤ bound
  | .get _ _ | .lose _ => True

section Bound

variable {s t : HybridCache builder} {bound : Nat} {recovered : CacheKey → Option CacheEntry}

theorem Small.step (small : Small bound s) (within : PutsWithin bound s call) (taken : s.step call = some t) :
    Small bound t := by
  have taken_in {key : CacheKey} {entry : CacheEntry} {evicted : CacheKey → Bool}
      {tier : WeightedCache.Tier builder.weight builder.memory} (short : entry.bytes.length ≤ bound)
      (inserted : s.memory.insert? key entry evicted = some tier) :
      ∀ other ∈ tier.held, other.2.bytes.length ≤ bound := by
    intro other listed
    rcases WeightedCache.Tier.mem_insert inserted listed with rfl | ⟨before, _⟩
    · exact short
    · exact small.memory other before
  cases step_cases taken with
  | @put key bytes contentType evicted tier inserted =>
    have short : (CacheEntry.mk bytes contentType).bytes.length ≤ bound := within
    constructor
    · exact taken_in short inserted
    · intro other entry stored
      rcases stored_update stored with ⟨_, latest⟩ | ⟨_, before⟩
      · obtain ⟨_, _, rfl⟩ := Option.map_eq_some_iff.mp latest
        exact short
      · exact small.disk other entry before
  | promoted absent stored inserted => exact ⟨taken_in (small.disk _ _ stored) inserted, small.disk⟩
  | answered => exact small
  | lost =>
    refine ⟨small.memory, ?_⟩
    intro other entry stored
    rcases stored_update stored with ⟨_, latest⟩ | ⟨_, before⟩
    · cases latest
    · exact small.disk other entry before

theorem small_reaches (recent : ∀ key entry, recovered key = some entry → entry.bytes.length ≤ bound)
    (reach : (system builder).Reaches (PutsWithin bound) (start builder recovered) s) : Small bound s := by
  refine reach.invariant (motive := Small bound) ?_ fun _ _ _ small within taken => small.step within taken
  constructor
  · intro entry listed
    cases listed
  · intro key entry stored
    obtain ⟨_, _, found⟩ := Option.bind_eq_some_iff.mp stored
    exact recent key entry found

/-- Where every entry weighs one, the capacity bounds the number of entries. -/
theorem Small.memoryBytes_le (small : Small bound s) (plain : builder.weighter = none) :
    s.memoryBytes ≤ builder.memory * bound := by
  have charged : s.memoryBytes ≤ bound * WeightedCache.total builder.weight s.memory.held := by
    apply WeightedCache.total_le
    intro entry listed
    simpa [HybridCacheBuilder.weight, plain] using small.memory entry listed
  calc s.memoryBytes ≤ bound * WeightedCache.total builder.weight s.memory.held := charged
    _ ≤ bound * builder.memory := Nat.mul_le_mul_left bound s.memory.fits
    _ = builder.memory * bound := Nat.mul_comm ..

/-- Keys to fill the memory tier with. -/
def fillKey (n : Nat) : CacheKey := ⟨"", String.ofList (List.replicate n 'a')⟩

theorem fillKey_injective : Function.Injective fillKey := by
  intro left right same
  have texts := String.ofList_injective (congrArg CacheKey.path same)
  simpa using congrArg List.length texts

/-- As many entries of the greatest size are held as the capacity says. -/
theorem fill_reaches (plain : builder.weighter = none) (bound : Nat) (recovered : CacheKey → Option CacheEntry)
    {n : Nat} (room : n ≤ builder.memory) :
    ∃ s, (system builder).Reaches (PutsWithin bound) (start builder recovered) s ∧
      s.memoryBytes = n * bound ∧ WeightedCache.total builder.weight s.memory.held = n ∧
      ∀ key ∈ s.memory.held.map Prod.fst, ∃ i, i < n ∧ key = fillKey i := by
  induction n with
  | zero =>
    refine ⟨start builder recovered, .refl, ?_, rfl, ?_⟩
    · rw [Nat.zero_mul]
      rfl
    · intro key listed
      cases listed
  | succ n ih =>
    obtain ⟨s, reach, filled, weighs, named⟩ := ih (Nat.le_of_succ_le room)
    have one : builder.weight (fillKey n) ⟨List.replicate bound 0, none⟩ = 1 := by
      simp [HybridCacheBuilder.weight, plain]
    have fresh : fillKey n ∉ s.memory.held.map Prod.fst := by
      intro listed
      obtain ⟨i, earlier, same⟩ := named _ listed
      have := fillKey_injective same
      omega
    have fits : builder.weight (fillKey n) ⟨List.replicate bound 0, none⟩ +
        WeightedCache.total builder.weight s.memory.held ≤ builder.memory := by
      rw [one, weighs]
      omega
    obtain ⟨tier, inserted, held⟩ := WeightedCache.Tier.insert_fresh fresh fits
    have taken : (system builder).step s (.put (fillKey n) (List.replicate bound 0) none fun _ => false) = some
        ⟨tier, Function.update s.disk (fillKey n) (builder.disk.map fun _ => ⟨List.replicate bound 0, none⟩),
          s.inserts + 1⟩ := by
      simp [system, step, put, inserted]
    refine ⟨_, reach.step (Nat.le_of_eq List.length_replicate) taken, ?_, ?_, ?_⟩
    · unfold memoryBytes at filled ⊢
      rw [held, WeightedCache.total_cons, filled, List.length_replicate, Nat.succ_mul, Nat.add_comm]
    · rw [held, WeightedCache.total_cons, one, weighs, Nat.add_comm]
    · intro key listed
      rw [held, List.map_cons] at listed
      rcases List.mem_cons.mp listed with rfl | before
      · exact ⟨n, Nat.lt_succ_self n, rfl⟩
      · obtain ⟨i, earlier, same⟩ := named key before
        exact ⟨i, Nat.lt_succ_of_lt earlier, same⟩

end Bound

end HybridCache

section New

variable {foyer : FoyerLibraries} {policy : CachePolicy} {pointerWidth : PointerWidth} {builder : HybridCacheBuilder}

theorem context_ok {Value : Type} {text : String} {result : Except String Value} {value : Value} :
    context text result = .ok value ↔ result = .ok value := by
  constructor
  · intro passed
    cases result with
    | error err => cases passed
    | ok found => exact congrArg Except.ok (Except.ok.inj passed)
  · rintro rfl
    rfl

theorem context_error {Value : Type} {text : String} {result : Except String Value} {chain : ErrorChain} :
    context text result = .error chain ↔ ∃ err, result = .error err ∧ chain = [text, err] := by
  constructor
  · intro failed
    cases result with
    | error err => exact ⟨err, rfl, (Except.error.inj failed).symm⟩
    | ok value => cases failed
  · rintro ⟨err, rfl, rfl⟩
    rfl

/-- The cache can be built. -/
structure FoyerCache.Opens (foyer : FoyerLibraries) (policy : CachePolicy) (pointerWidth : PointerWidth) : Prop where
  memory : policy.maxMemory ≠ 0
  directory : policy.maxDisk ≠ 0 → foyer.createDirAll policy.diskDir = .ok ()
  device : policy.maxDisk ≠ 0 → foyer.buildDevice policy.diskDir (policy.diskCapacity pointerWidth) = .ok ()
  storage : foyer.buildCache (policy.builder pointerWidth) = .ok ()

theorem bind_ok {Value Result : Type} {first : Except ErrorChain Value} {next : Value → Except ErrorChain Result}
    {result : Result} : (first >>= next) = .ok result ↔ ∃ value, first = .ok value ∧ next value = .ok result := by
  cases first with
  | error err => simp [bind, Except.bind]
  | ok value => simp [bind, Except.bind]

theorem bind_error {Value Result : Type} {first : Except ErrorChain Value} {next : Value → Except ErrorChain Result}
    {chain : ErrorChain} : (first >>= next) = .error chain ↔
      first = .error chain ∨ ∃ value, first = .ok value ∧ next value = .error chain := by
  cases first with
  | error err => simp [bind, Except.bind]
  | ok value => simp [bind, Except.bind]

/-- What keeps the cache from being built, with the error that says so. -/
inductive FoyerCache.Fails (foyer : FoyerLibraries) (policy : CachePolicy) (pointerWidth : PointerWidth) :
    ErrorChain → Prop
  | memory (zero : policy.maxMemory = 0) : Fails foyer policy pointerWidth ["Bad policy: 0 max_bytes_memory"]
  | directory (disk : policy.maxDisk ≠ 0) (refused : foyer.createDirAll policy.diskDir = .error err) :
      Fails foyer policy pointerWidth ["failed to create disk cache directory", err]
  | device (disk : policy.maxDisk ≠ 0)
      (refused : foyer.buildDevice policy.diskDir (policy.diskCapacity pointerWidth) = .error err) :
      Fails foyer policy pointerWidth ["failed to build disk cache device", err]
  | storage (refused : foyer.buildCache (policy.builder pointerWidth) = .error err) :
      Fails foyer policy pointerWidth ["Failed to initialise cache", err]

theorem FoyerCache.new_ok_iff : FoyerCache.new foyer policy pointerWidth = .ok builder ↔
    FoyerCache.Opens foyer policy pointerWidth ∧ builder = policy.builder pointerWidth := by
  have built : pure (policy.builder pointerWidth) = (.ok builder : Except ErrorChain HybridCacheBuilder) ↔
      builder = policy.builder pointerWidth := by
    simp [pure, Except.pure, eq_comm]
  unfold FoyerCache.new
  split
  · rename_i zero
    exact iff_of_false (by rintro ⟨⟩) fun opened => opened.1.memory zero
  · rename_i positive
    split
    · rename_i diskless
      simp only [bind_ok, context_ok, built]
      constructor
      · rintro ⟨_, storage, rfl⟩
        exact ⟨⟨positive, absurd diskless, absurd diskless, storage⟩, rfl⟩
      · rintro ⟨opens, rfl⟩
        exact ⟨(), opens.storage, rfl⟩
    · rename_i disk
      simp only [bind_ok, context_ok, built]
      constructor
      · rintro ⟨_, directory, _, device, _, storage, rfl⟩
        exact ⟨⟨positive, fun _ => directory, fun _ => device, storage⟩, rfl⟩
      · rintro ⟨opens, rfl⟩
        exact ⟨(), opens.directory disk, (), opens.device disk, (), opens.storage, rfl⟩

theorem FoyerCache.new_error {chain : ErrorChain} (refused : FoyerCache.new foyer policy pointerWidth = .error chain) :
    FoyerCache.Fails foyer policy pointerWidth chain := by
  have built : pure (policy.builder pointerWidth) ≠ (.error chain : Except ErrorChain HybridCacheBuilder) := by
    rintro ⟨⟩
  unfold FoyerCache.new at refused
  split at refused
  · rename_i zero
    cases refused
    exact .memory zero
  · split at refused
    · simp only [bind_error, context_error, built, and_false, exists_false, or_false] at refused
      obtain ⟨err, storage, rfl⟩ := refused
      exact .storage storage
    · rename_i disk
      simp only [bind_error, context_error, built, and_false, exists_false, or_false] at refused
      rcases refused with ⟨err, directory, rfl⟩ | ⟨_, _, ⟨err, device, rfl⟩ | ⟨_, _, err, storage, rfl⟩⟩
      · exact .directory disk directory
      · exact .device disk device
      · exact .storage storage

/-- The capacity that a policy gives the memory tier counts entries. -/
theorem FoyerCache.new_ok (accepted : FoyerCache.new foyer policy pointerWidth = .ok builder) :
    builder.memory = policy.maxMemory.toNat % 2 ^ pointerWidth.bits ∧ builder.weighter = none ∧
      policy.maxMemory ≠ 0 := by
  obtain ⟨opens, rfl⟩ := FoyerCache.new_ok_iff.mp accepted
  exact ⟨rfl, rfl, opens.memory⟩

end New

/-- The memory tier keeps within the policy's bytes in every run exactly if as
many entries as it has bytes, each of the greatest size, still do. -/
theorem memoryBytes_le_iff (foyer : FoyerLibraries) (policy : CachePolicy) (pointerWidth : PointerWidth)
    (builder : HybridCacheBuilder) (recovered : CacheKey → Option CacheEntry)
    (accepted : FoyerCache.new foyer policy pointerWidth = .ok builder)
    (recent : ∀ key entry, recovered key = some entry → entry.bytes.length ≤ policy.cacheMaxObjectBytes.toNat) :
    (∀ s, (HybridCache.system builder).Reaches (HybridCache.PutsWithin policy.cacheMaxObjectBytes.toNat)
        (.start builder recovered) s → s.memoryBytes ≤ policy.maxMemory.toNat) ↔
      policy.maxMemory.toNat % 2 ^ pointerWidth.bits * policy.cacheMaxObjectBytes.toNat ≤ policy.maxMemory.toNat := by
  obtain ⟨capacity, plain, _⟩ := FoyerCache.new_ok accepted
  rw [← capacity]
  constructor
  · intro bounded
    obtain ⟨s, reach, filled, _⟩ := HybridCache.fill_reaches plain policy.cacheMaxObjectBytes.toNat
      recovered (Nat.le_refl builder.memory)
    rw [← filled]
    exact bounded s reach
  · intro room s reach
    exact Nat.le_trans ((HybridCache.small_reaches recent reach).memoryBytes_le plain) room

/-- On 64 bits this leaves only a cap of one byte. -/
theorem memory_room_iff {foyer : FoyerLibraries} {policy : CachePolicy} {builder : HybridCacheBuilder}
    (accepted : FoyerCache.new foyer policy .w64 = .ok builder) :
    policy.maxMemory.toNat % 2 ^ PointerWidth.w64.bits * policy.cacheMaxObjectBytes.toNat ≤ policy.maxMemory.toNat ↔
      policy.cacheMaxObjectBytes.toNat = 1 := by
  obtain ⟨_, _, positive⟩ := FoyerCache.new_ok accepted
  have nonzero : policy.maxMemory.toNat ≠ 0 := by
    intro zero
    apply positive
    apply UInt64.toNat_inj.mp
    exact zero
  have capable : policy.cacheMaxObjectBytes.toNat ≠ 0 := by
    intro zero
    have none_ : policy.cacheMaxObjectBytes = 0 := by
      apply UInt64.toNat_inj.mp
      exact zero
    unfold CachePolicy.cacheMaxObjectBytes at none_
    split at none_
    · exact positive none_
    · contradiction
  rw [Nat.mod_eq_of_lt (show policy.maxMemory.toNat < 2 ^ PointerWidth.w64.bits from policy.maxMemory.toNat_lt)]
  constructor
  · intro room
    have atMost : policy.cacheMaxObjectBytes.toNat ≤ 1 := by
      apply Nat.le_of_mul_le_mul_left _ (Nat.pos_of_ne_zero nonzero)
      rwa [Nat.mul_one]
    omega
  · intro one
    have same : policy.maxMemory.toNat * policy.cacheMaxObjectBytes.toNat = policy.maxMemory.toNat := by
      rw [one, Nat.mul_one]
    exact Nat.le_of_eq same

/-- A foyer that builds every cache. -/
def plainFoyer : FoyerLibraries := ⟨fun _ => .ok (), fun _ _ => .ok (), fun _ => .ok ()⟩

/-- With a cap of one byte and room for two, a third entry evicts the first. -/
theorem memoryBytes_le_iff_oneByte :
    ∃ s, (HybridCache.system ⟨2, none, none⟩).Reaches (HybridCache.PutsWithin 1)
        (.start ⟨2, none, none⟩ fun _ => none) s ∧
      s.memoryBytes ≤ 2 ∧ s.memory.held.map Prod.fst = [⟨"b", "r"⟩, ⟨"b", "q"⟩] := by
  have replayed : (HybridCache.system ⟨2, none, none⟩).run (.start ⟨2, none, none⟩ fun _ => none)
      [.put ⟨"b", "p"⟩ [1] none fun _ => false, .put ⟨"b", "q"⟩ [2] none fun _ => false,
        .put ⟨"b", "r"⟩ [3] none (· = ⟨"b", "p"⟩)] = some _ := rfl
  have reach : (HybridCache.system ⟨2, none, none⟩).Reaches (HybridCache.PutsWithin 1) _ _ :=
    System.reaches_of_run_meets replayed (by simp [HybridCache.PutsWithin])
  have accepted : FoyerCache.new plainFoyer ⟨2, 1, 0, none⟩ .w64 = .ok ⟨2, none, none⟩ := rfl
  have bounded := (memoryBytes_le_iff plainFoyer ⟨2, 1, 0, none⟩ .w64 ⟨2, none, none⟩ (fun _ => none) accepted
    (by rintro key entry ⟨⟩)).mpr ((memory_room_iff accepted).mpr rfl)
  exact ⟨_, reach, bounded _ reach, rfl⟩

/-- Two entries of 31 bytes in a memory of 60. -/
theorem memory_exceeded :
    ¬ ∀ foyer policy pointerWidth builder, FoyerCache.new foyer policy pointerWidth = .ok builder →
      ∀ s, (HybridCache.system builder).Reaches (HybridCache.PutsWithin policy.cacheMaxObjectBytes.toNat)
        (.start builder fun _ => none) s → s.memoryBytes ≤ policy.maxMemory.toNat := by
  intro bounded
  have replayed : (HybridCache.system ⟨60, none, none⟩).run (.start ⟨60, none, none⟩ fun _ => none)
      [.put ⟨"b", "p"⟩ (List.replicate 31 0) none fun _ => false,
        .put ⟨"b", "q"⟩ (List.replicate 31 0) none fun _ => false] = some _ := rfl
  have reach : (HybridCache.system ⟨60, none, none⟩).Reaches (HybridCache.PutsWithin 60) _ _ :=
    System.reaches_of_run_meets replayed (by simp [HybridCache.PutsWithin])
  have small := bounded plainFoyer ⟨60, 60, 0, none⟩ .w64 ⟨60, none, none⟩ rfl _ reach
  exact absurd small (by decide)

end Cachegate
