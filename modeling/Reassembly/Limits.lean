import Reassembly.Duration

/-!
# Limits

Every message of a pool is bounded in size and in time.  Limits are kept as they
were set; the limits in force come from them by a default for the size and a
floor under the expiry.
-/

set_option autoImplicit false

namespace Reassembly

/-- The size cap where none is set: five mebibytes. -/
def defaultMaxSize : Nat := 5242880

/-- The shortest expiry that is honoured. -/
def minExpiry : Duration := Duration.ofMillis 100 (by decide)

def defaultExpiry : Duration := Duration.ofMillis 2000 (by decide)

structure Limits where
  /-- The most payload bytes of a message; zero stands for the default. -/
  maxSize : Nat
  /-- How long a message may wait for its end, counted from its first packet. -/
  expiry : Duration
  deriving DecidableEq

namespace Limits

def unset : Limits := ⟨0, defaultExpiry⟩

def effectiveMaxSize (limits : Limits) : Nat :=
  if limits.maxSize = 0 then defaultMaxSize else limits.maxSize

def effectiveExpiry (limits : Limits) : Duration :=
  limits.expiry.max minExpiry

def effective (limits : Limits) : Limits :=
  ⟨limits.effectiveMaxSize, limits.effectiveExpiry⟩

def text (limits : Limits) : String :=
  s!"PoolConfig \x7b max_message_size: {limits.maxSize}, message_expiry: {limits.expiry.text} \x7d"

theorem effectiveMaxSize_pos (limits : Limits) : 0 < limits.effectiveMaxSize := by
  unfold effectiveMaxSize defaultMaxSize
  split <;> omega

theorem effective_effective (limits : Limits) : limits.effective.effective = limits.effective := by
  have size : limits.effective.effectiveMaxSize = limits.effectiveMaxSize := by
    have positive := limits.effectiveMaxSize_pos
    have nonzero : limits.effectiveMaxSize ≠ 0 := by omega
    show (if limits.effectiveMaxSize = 0 then defaultMaxSize else limits.effectiveMaxSize) = _
    rw [if_neg nonzero]
  have expiry : limits.effective.effectiveExpiry = limits.effectiveExpiry :=
    limits.expiry.max_max minExpiry
  unfold effective at size expiry ⊢
  rw [size, expiry]

end Limits

end Reassembly
