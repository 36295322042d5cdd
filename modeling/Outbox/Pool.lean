import Outbox.Multiplexer
import Outbox.Settings.Dispatch

/-! # Pools

A fixed number of slots, each a multiplexer that one party at a time may hold.

* `Pool.tryLock`, `lockAny`, `unlock`: holding a slot. `lockAny` takes the first free one, and has
  none to give while all are held.
* `Pool.allocate`: a pool from a transport. If a slot cannot be made, those made before it are
  released again.
-/

set_option autoImplicit false

namespace Outbox

/-- A multiplexer, and whether someone holds it. -/
structure Slot (M : Type) where
  mux : M
  held : Bool

/-- The slots in order. -/
structure Pool (M : Type) where
  slots : List (Slot M)

namespace Pool

variable {M : Type}

def size (p : Pool M) : Nat := p.slots.length

def isEmpty (p : Pool M) : Bool := p.slots.isEmpty

/-- A pool of free slots. -/
def ofList (ms : List M) : Pool M := ⟨ms.map fun m => ⟨m, false⟩⟩

/-- The indices of the slots that someone holds. -/
def held (p : Pool M) : List Nat :=
  (List.range p.size).filter fun i => p.slots[i]?.any (·.held)

/-- Whether nobody holds a slot. -/
def isSettled (p : Pool M) : Bool := p.slots.all fun s => !s.held

/-- Changes one slot. -/
def modify (p : Pool M) (i : Nat) (f : Slot M → Slot M) : Pool M := ⟨p.slots.modify i f⟩

/-- Takes hold of a slot, if there is one and it is free. -/
def tryLock (p : Pool M) (i : Nat) : Option (Pool M) :=
  match p.slots[i]? with
  | some s => if s.held then none else some (p.modify i fun s => { s with held := true })
  | none => none

/-- The first slot that is free. -/
def firstFree (p : Pool M) : Option Nat := p.slots.findIdx? fun s => !s.held

/-- Takes hold of the first slot that is free. -/
def lockAny (p : Pool M) : Option (Nat × Pool M) := do
  let i ← p.firstFree
  let p ← p.tryLock i
  return (i, p)

/-- Lets a slot go. -/
def unlock (p : Pool M) (i : Nat) : Pool M := p.modify i fun s => { s with held := false }

/-! ## Allocation -/

/-- What allocating slots gave: the multiplexers, or the slot that failed and why, what was asked
of the transport and what it is now. -/
structure Allocation (T M : Type) where
  result : Except (Nat × TransportError) (List M)
  calls : List TransportCall
  transport : T

/-- Makes `n` more multiplexers behind the ones `made`, in reverse. At the first failure those made
are released. -/
def allocateFrom {T : Type} [Transport T M] (t : T) (made : List M) : Nat → Allocation T M
  | 0 => ⟨.ok made.reverse, [], t⟩
  | n + 1 =>
    match Transport.allocate t with
    | (.error e, t) =>
      ⟨.error (made.length, e), .allocate false :: made.map fun _ => .release, t⟩
    | (.ok m, t) =>
      let a := allocateFrom t (m :: made) n
      { a with calls := .allocate true :: a.calls }

/-- Makes a pool. -/
def allocate {T : Type} [Transport T M] (t : T) (size : PoolSize) : Allocation T M :=
  allocateFrom t [] size.count

/-- Reported once a pool is made. -/
def allocatedEvent (n : Nat) : Event :=
  Event.internal .debug ("Allocated " ++ toString n ++ " multiplexer slots")

end Pool

end Outbox
