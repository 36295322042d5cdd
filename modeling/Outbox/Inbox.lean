import Outbox.Network
import Outbox.Reply

/-! # Reading replies off a connection

Octets arrive in pieces of any size; a reply is complete when its last line is. What has arrived is
held in a buffer that starts at 8192 octets and doubles up to 1048576.

* `Inbox`: the buffer. That it holds no more than fits is part of its type.
* `Inbox.readReply`: reads until the first reply is complete and leaves what follows it in the
  buffer. A malformed reply is left in the buffer as well, so the next read meets it again.
-/

set_option autoImplicit false

namespace Outbox

/-- Octets that a buffer holds before it has to grow. -/
def inboxUnit : Nat := 8192

/-- How often a buffer may double. -/
def maxDoublings : Nat := 7

/-- Octets that a buffer holds after doubling so many times. -/
def doubledUnit : Nat → Nat
  | 0 => inboxUnit
  | n + 1 => 2 * doubledUnit n

theorem doubledUnit_pos (n : Nat) : 0 < doubledUnit n := by
  induction n with
  | zero => decide
  | succ n ih => simp only [doubledUnit]; omega

theorem doubledUnit_le {m n : Nat} (h : m ≤ n) : doubledUnit m ≤ doubledUnit n := by
  induction h with
  | refl => exact Nat.le_refl _
  | step _ ih => simp only [doubledUnit]; omega

/-- What has arrived and is not yet read, in a buffer that has doubled so many times. -/
structure Inbox where
  held : Bytes
  doublings : Nat
  doublings_le : doublings ≤ maxDoublings
  fits : held.length ≤ doubledUnit doublings

namespace Inbox

/-- An empty buffer. -/
def empty : Inbox := ⟨[], 0, by decide, by decide⟩

/-- Octets that the buffer can hold. -/
def capacity (i : Inbox) : Nat := doubledUnit i.doublings

/-- Octets that still fit in. -/
def room (i : Inbox) : Nat := i.capacity - i.held.length

/-- The largest buffer. -/
def maxCapacity : Nat := doubledUnit maxDoublings

theorem capacity_le (i : Inbox) : i.capacity ≤ maxCapacity := doubledUnit_le i.doublings_le

/-- Takes the first octets out. -/
def drop (i : Inbox) (n : Nat) : Inbox :=
  ⟨i.held.drop n, i.doublings, i.doublings_le, by
    have := i.fits
    simp only [List.length_drop]
    omega⟩

/-- Doubles the buffer if it is full, as often as it may. -/
def makeRoom (i : Inbox) : Option { j : Inbox // 0 < j.room ∧ j.held = i.held } :=
  if h : i.held.length < i.capacity then some ⟨i, by unfold room; omega, rfl⟩
  else if hd : i.doublings < maxDoublings then
    some ⟨⟨i.held, i.doublings + 1, hd, Nat.le_trans i.fits (doubledUnit_le (Nat.le_succ _))⟩, by
      have := i.fits
      have := doubledUnit_pos i.doublings
      simp only [room, capacity, doubledUnit]
      omega, rfl⟩
  else none

theorem length_read {room : Nat} {ps : List Bytes} {data : Bytes} {left : List Bytes}
    (h : Inflow.read room ps = some (data, left)) : data.length ≤ room := by
  induction ps with
  | nil => simp [Inflow.read] at h
  | cons p ps ih =>
    cases p with
    | nil => exact ih (by simpa [Inflow.read] using h)
    | cons b piece =>
      simp only [Inflow.read] at h
      split at h <;> simp only [Option.some.injEq, Prod.mk.injEq] at h <;> obtain ⟨rfl, _⟩ := h
      · assumption
      · exact List.length_take_le ..

/-- Puts arrived octets behind those held. -/
def add (i : Inbox) (data : Bytes) (h : data.length ≤ i.room) : Inbox :=
  ⟨i.held ++ data, i.doublings, i.doublings_le, by
    have := i.fits
    simp only [room, capacity] at h
    simp only [List.length_append]
    omega⟩

/-- Reads a reply from what is held and the pieces still to come. -/
def readReply (ending : Ending) (i : Inbox) (pieces : List Bytes) :
    Except Stop Reply × Inbox × List Bytes :=
  match Reply.ofBytes i.held with
  | .error e => (.error (.failed e), i, pieces)
  | .ok (some (r, n)) => (.ok r, i.drop n, pieces)
  | .ok none =>
    match i.makeRoom with
    | none => (.error (.failed (.badReply (.tooLarge maxCapacity))), i, pieces)
    | some ⟨j, _hj, _⟩ =>
      match h : Inflow.read j.room pieces with
      | none =>
        (.error (match ending with
          | .closed => .failed .closed
          | .silent => .stalled
          | .broken fault => .failed (.io fault)), j, [])
      | some (data, left) => readReply ending (j.add data (length_read h)) left
termination_by Inflow.unread pieces
decreasing_by exact Inflow.unread_read _hj h

end Inbox

end Outbox
