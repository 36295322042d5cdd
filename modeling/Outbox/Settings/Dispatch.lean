import Outbox.Settings.Timeouts

/-! # Shape of the dispatch engine

How many slots there are and how the poller paces itself.

* `DispatchSettings.Default`: what either is where none is named. `DispatchSettings.standard` has both.
-/

set_option autoImplicit false

namespace Outbox

/-- A number of slots: at least one, and a word of 64 bits. -/
structure PoolSize where
  count : Nat
  pos : 0 < count
  lt : count < UInt64.size
  deriving DecidableEq, Repr

namespace PoolSize

/-- A count as a number of slots, if it is one. -/
def ofNat? (n : Nat) : Option PoolSize :=
  if h : 0 < n ∧ n < UInt64.size then some ⟨n, h.1, h.2⟩ else none

@[simp] theorem ofNat?_count (s : PoolSize) : ofNat? s.count = some s :=
  dif_pos ⟨s.pos, s.lt⟩

@[simp] theorem ofNat?_zero : ofNat? 0 = none := by simp [ofNat?]

end PoolSize

/-- Slots, the wait of a slot without a wish of its own in milliseconds, and the limits of every
transfer. -/
structure DispatchSettings where
  poolSize : PoolSize
  pollTimeoutMs : UInt64
  timeouts : Timeouts
  deriving DecidableEq, Repr

namespace DispatchSettings

namespace Default

def poolSize : PoolSize := ⟨2, by decide, by decide⟩

def pollTimeoutMs : UInt64 := 1000

end Default

/-- The shape of settings that name none. -/
def standard : DispatchSettings where
  poolSize := Default.poolSize
  pollTimeoutMs := Default.pollTimeoutMs
  timeouts := Timeouts.standard

/-- How long the poller waits on a slot without a wish of its own. -/
def pollTimeout (s : DispatchSettings) : Duration := Duration.ofMillis s.pollTimeoutMs.toNat

def withPoolSize (s : DispatchSettings) (size : PoolSize) : DispatchSettings :=
  { s with poolSize := size }

/-- Takes whole milliseconds; a longer wait than a word can count is the longest one. -/
def withPollTimeout (s : DispatchSettings) (d : Duration) : DispatchSettings :=
  { s with pollTimeoutMs := UInt64.ofNat (min d.toMillis (UInt64.size - 1)) }

def withTimeouts (s : DispatchSettings) (t : Timeouts) : DispatchSettings :=
  { s with timeouts := t }

end DispatchSettings

end Outbox
