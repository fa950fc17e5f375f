import Cachegate.Handler.Task

/-! The part of the configuration that sizes the cache, what `async_main` makes of
it, and how start-up reports errors. -/

namespace Cachegate

/-- An `anyhow::Error`: its contexts, the outermost first, and its cause. -/
abbrev ErrorChain := List String

/-- Sizes are `ByteSize`, a number of bytes in 64 bits. -/
structure CachePolicy where
  maxMemory : UInt64
  maxObjectSize : UInt64
  maxDisk : UInt64
  diskPath : Option String
deriving DecidableEq, Repr

/-- `cache_max_object_bytes`, as `async_main` computes it. -/
def CachePolicy.cacheMaxObjectBytes (policy : CachePolicy) : UInt64 :=
  if policy.maxObjectSize = 0 then policy.maxMemory else policy.maxObjectSize

/-- The state that `async_main` builds, for a target with this pointer width. -/
def AppConfig.asyncMain (policy : CachePolicy) (pointerWidth : PointerWidth) (stores : String → Option StoreId)
    (location : String → String) (mime : MimeRules) (finishAborts : Nat → StoreError → Bool) : AppConfig where
  stores
  location
  cacheMaxObjectBytes := policy.cacheMaxObjectBytes
  pointerWidth
  mime
  finishAborts

/-- The cast to `usize` never makes the cap larger. -/
theorem AppConfig.capBytes_le (cfg : AppConfig) : cfg.capBytes ≤ cfg.cacheMaxObjectBytes.toNat :=
  Nat.mod_le _ _

end Cachegate
