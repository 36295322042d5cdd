import Outbox.Text.Utf8

/-! # Payloads

A message that is handed out piece by piece. A payload keeps the whole message and what of it is
still to be served:

* `take`: the next octets, as many as asked for or as are left.
* `takeExactly`: the next octets only if that many are left; otherwise the payload ends up
  exhausted.
* `rest`: everything that is left.
-/

set_option autoImplicit false

namespace Outbox

/-- A message and the number of its octets not yet served. -/
structure Payload where
  message : Bytes
  remaining : Nat
  remaining_le : remaining ≤ message.length
  deriving Repr

namespace Payload

/-- A message of which nothing is served yet. -/
def ofBytes (message : Bytes) : Payload := ⟨message, message.length, Nat.le_refl _⟩

/-- A text to be served as UTF-8. -/
def ofString (message : String) : Payload := ofBytes (Utf8.encode message)

/-- Octets of the whole message. -/
def size (p : Payload) : Nat := p.message.length

def isEmpty (p : Payload) : Bool := p.message.isEmpty

def isExhausted (p : Payload) : Bool := p.remaining == 0

/-- Octets served so far. -/
def served (p : Payload) : Nat := p.message.length - p.remaining

/-- The octets still to be served. -/
def unserved (p : Payload) : Bytes := p.message.drop p.served

/-- Serves the next octets, at most `n`. -/
def take (p : Payload) (n : Nat) : Bytes × Payload :=
  let k := min p.remaining n
  (p.unserved.take k, ⟨p.message, p.remaining - k, by have := p.remaining_le; omega⟩)

/-- Serves exactly the next `n` octets, or none of them if fewer are left, which are then lost. -/
def takeExactly (p : Payload) (n : Nat) : Option Bytes × Payload :=
  if n ≤ p.remaining then
    let (data, p') := p.take n
    (some data, p')
  else (none, (p.take n).2)

/-- Serves all that is left. -/
def rest (p : Payload) : Bytes × Payload := p.take p.remaining

@[simp] theorem remaining_take (p : Payload) (n : Nat) :
    (p.take n).2.remaining = p.remaining - min p.remaining n := rfl

@[simp] theorem message_take (p : Payload) (n : Nat) : (p.take n).2.message = p.message := rfl

@[simp] theorem length_unserved (p : Payload) : p.unserved.length = p.remaining := by
  have := p.remaining_le
  rw [unserved, served, List.length_drop]
  omega

/-- What is served next is the front of what is not yet served. -/
theorem take_eq (p : Payload) (n : Nat) : (p.take n).1 = p.unserved.take n := by
  show p.unserved.take (min p.remaining n) = _
  rw [← p.length_unserved, List.take_eq_take_iff]
  omega

/-- What is served is gone from what is not yet served. -/
theorem unserved_take (p : Payload) (n : Nat) : (p.take n).2.unserved = p.unserved.drop n := by
  have := p.remaining_le
  simp only [unserved, served, message_take, remaining_take, List.drop_drop]
  by_cases h : n ≤ p.remaining
  · congr 1
    omega
  · rw [List.drop_eq_nil_of_le (by omega), List.drop_eq_nil_of_le (by omega)]

@[simp] theorem unserved_ofBytes (message : Bytes) : (ofBytes message).unserved = message := by
  simp [unserved, served, ofBytes]

/-- A payload of which everything is served. -/
def drained (p : Payload) : Payload := ⟨p.message, 0, Nat.zero_le _⟩

/-- A payload with nothing left is drained. -/
theorem eq_drained {p : Payload} (h : p.remaining = 0) : p = p.drained := by
  cases p
  cases h
  rfl

@[simp] theorem take_zero (p : Payload) : (p.take 0).2 = p := by
  cases p
  simp [take]

@[simp] theorem take_remaining (p : Payload) : (p.take p.remaining).2 = p.drained := by
  simp [take, drained]

end Payload

end Outbox
