import Outbox.Payload

/-!
# Portions of a payload

A message is handed out in portions, whichever way they are asked for: into a buffer as far as it
goes, into a buffer that has to be filled, or all that is left.

* `Payload.fill`, `readToEnd`: the two ways that take several reads. `fill_eq` and `readToEnd_eq`
  say what they come to, whatever the sizes of the reads in between.
* `Payload.call_eq`: a call serves what one read of its size serves.
* `Payload.portions_in_order`: **after any calls, what was served is the front of the message and
  what is left is the rest of it**, so that no octet is lost or served twice.
-/

set_option autoImplicit false

namespace Outbox.Payload

theorem length_take (p : Payload) (n : Nat) : (p.take n).1.length = min p.remaining n := by
  rw [take_eq, List.length_take, length_unserved, Nat.min_comm]

/-- Two reads, one behind the other, are one of both sizes together. -/
theorem take_take (p : Payload) (m n : Nat) :
    ((p.take m).1 ++ ((p.take m).2.take n).1, ((p.take m).2.take n).2) = p.take (m + n) := by
  refine Prod.ext ?_ ?_
  · rw [take_eq, take_eq, unserved_take, take_eq, List.take_add]
  · simp only [take, Payload.mk.injEq, true_and]
    omega

/-- A read larger than what is left is one of all that is left. -/
theorem take_of_le {p : Payload} {n : Nat} (h : p.remaining ≤ n) :
    p.take n = (p.unserved, p.drained) := by
  refine Prod.ext ?_ ?_
  · rw [take_eq]
    exact List.take_of_length_le (p.length_unserved.symm ▸ h)
  · simp [take, drained, h]

/-! ## Several reads -/

/-- Reads into a buffer of `n` octets until it is full or a read gives nothing. -/
def fill (p : Payload) (n : Nat) : Bytes × Payload :=
  if n = 0 then ([], p)
  else if _h : 0 < (p.take n).1.length then
    let (more, q) := (p.take n).2.fill (n - (p.take n).1.length)
    ((p.take n).1 ++ more, q)
  else ([], (p.take n).2)
termination_by n
decreasing_by
  have := p.length_take n
  omega

/-- Reads behind what was `seen` until a read gives nothing. The buffer of each read has room for
one octet and for as many more as `spare` grants. -/
def readToEnd (spare : Bytes → Nat) (seen : Bytes) (p : Payload) : Bytes × Payload :=
  if _h : 0 < (p.take (spare seen + 1)).1.length then
    readToEnd spare (seen ++ (p.take (spare seen + 1)).1) (p.take (spare seen + 1)).2
  else (seen, (p.take (spare seen + 1)).2)
termination_by p.remaining
decreasing_by
  have := p.length_take (spare seen + 1)
  rw [remaining_take]
  omega

/-- **A buffer is filled by one read** as far as it can be filled at all. -/
theorem fill_eq (p : Payload) (n : Nat) : p.fill n = p.take n := by
  induction n using Nat.strongRecOn generalizing p with
  | _ n ih =>
    have size := p.length_take n
    rw [fill.eq_def]
    split
    · next none => simp [none, take]
    · split
      · next some =>
        -- what one read leaves of the buffer is filled from what it leaves of the payload
        have all : p.take (n + (n - (p.take n).1.length)) = p.take n := by
          rcases Nat.le_total n p.remaining with enough | short
          · rw [size, Nat.min_eq_right enough, Nat.sub_self, Nat.add_zero]
          · rw [take_of_le (Nat.le_add_right_of_le short), take_of_le short]
        rw [ih (n - (p.take n).1.length) (by omega)]
        exact (p.take_take n _).trans all
      · next none =>
        have empty : (p.take n).1 = [] := List.length_eq_zero_iff.mp (Nat.eq_zero_of_not_pos none)
        exact Prod.ext empty.symm rfl

/-- **Reading until nothing comes serves all that is left**, whatever the sizes of the reads. -/
theorem readToEnd_eq (spare : Bytes → Nat) (seen : Bytes) (p : Payload) :
    p.readToEnd spare seen = (seen ++ p.unserved, p.drained) := by
  induction hp : p.remaining using Nat.strongRecOn generalizing p seen with
  | _ r ih =>
    have size := p.length_take (spare seen + 1)
    rw [readToEnd.eq_def]
    split
    · next some =>
      rw [ih _ (by rw [remaining_take]; omega) _ _ rfl, unserved_take, take_eq, List.append_assoc,
        List.take_append_drop]
      rfl
    · next none =>
      have exhausted : p.remaining = 0 := by omega
      have empty : p.unserved = [] := by rw [← List.length_eq_zero_iff, length_unserved, exhausted]
      rw [take_of_le (by omega), empty, List.append_nil]

/-! ## Calls -/

/-- A way to ask for the next octets. -/
inductive Call where
  /-- Into a buffer of `n` octets, as many as come at once. -/
  | chunk (n : Nat)
  /-- The same through the interface that all sources of octets have. -/
  | read (n : Nat)
  /-- Into a buffer of `n` octets that has to be full in the end. -/
  | exactly (n : Nat)
  /-- Everything, into a buffer that grows. -/
  | toEnd
  deriving DecidableEq, Repr

namespace Call

/-- How many octets a call asks of a message of `whole` octets. -/
def size (whole : Nat) : Call → Nat
  | chunk n => n
  | read n => n
  | exactly n => n
  | toEnd => whole

/-- Whether a call fails where only `left` octets are left. -/
def isShort (left : Nat) : Call → Bool
  | exactly n => left < n
  | _ => false

end Call

/-- What a call put into its buffer, and whether it failed because the message ended before. -/
structure Portion where
  data : Bytes
  short : Bool
  deriving DecidableEq, Repr

/-- What a call serves, and the payload behind it. -/
def call (p : Payload) (spare : Bytes → Nat) : Call → Portion × Payload
  | .chunk n => (⟨(p.take n).1, false⟩, (p.take n).2)
  | .read n => (⟨(p.take n).1, false⟩, (p.take n).2)
  | .exactly n => (⟨(p.fill n).1, (p.fill n).1.length < n⟩, (p.fill n).2)
  | .toEnd => (⟨(p.readToEnd spare []).1, false⟩, (p.readToEnd spare []).2)

/-- What calls serve one after the other, and the payload behind the last. -/
def calls (p : Payload) (spare : Bytes → Nat) : List Call → List Portion × Payload
  | [] => ([], p)
  | c :: cs =>
    let (portion, p) := p.call spare c
    let (portions, p) := p.calls spare cs
    (portion :: portions, p)

/-- All octets of some portions. -/
def octets (portions : List Portion) : Bytes := portions.flatMap Portion.data

/-- **A call serves what one read of its size serves**, and fails if it wants more than is left. -/
theorem call_eq (p : Payload) (spare : Bytes → Nat) (c : Call) :
    p.call spare c =
      (⟨(p.take (c.size p.size)).1, c.isShort p.remaining⟩, (p.take (c.size p.size)).2) := by
  cases c with
  | chunk n => rfl
  | read n => rfl
  | exactly n =>
    have short : decide ((p.take n).1.length < n) = decide (p.remaining < n) := by
      rw [length_take, decide_eq_decide]
      omega
    simp only [call, Call.size, Call.isShort, fill_eq, short]
  | toEnd =>
    simp only [call, Call.size, Call.isShort, readToEnd_eq, take_of_le p.remaining_le, size,
      List.nil_append]

/-- A buffer that need not be filled takes as much as fits. -/
theorem call_partial (p : Payload) (spare : Bytes → Nat) (n : Nat) {c : Call}
    (h : c = .chunk n ∨ c = .read n) :
    p.call spare c = (⟨p.unserved.take n, false⟩, (p.take n).2) := by
  rw [call_eq, ← take_eq]
  rcases h with rfl | rfl
  · rfl
  · rfl

/-- A buffer that has to be filled is filled where enough is left. -/
theorem call_exactly_of_le {p : Payload} {n : Nat} (enough : n ≤ p.remaining)
    (spare : Bytes → Nat) :
    p.call spare (.exactly n) = (⟨p.unserved.take n, false⟩, (p.take n).2) := by
  have fits : (Call.exactly n).isShort p.remaining = false := decide_eq_false (by omega)
  rw [call_eq, fits, ← take_eq]
  rfl

/-- Where it cannot be filled, all that is left is lost. -/
theorem call_exactly_of_lt {p : Payload} {n : Nat} (short : p.remaining < n)
    (spare : Bytes → Nat) : p.call spare (.exactly n) = (⟨p.unserved, true⟩, p.drained) := by
  have fails : (Call.exactly n).isShort p.remaining = true := decide_eq_true short
  have all : p.take ((Call.exactly n).size p.size) = (p.unserved, p.drained) :=
    take_of_le (Nat.le_of_lt short)
  rw [call_eq, fails, all]

theorem call_toEnd (p : Payload) (spare : Bytes → Nat) :
    p.call spare .toEnd = (⟨p.unserved, false⟩, p.drained) := by
  have all : p.take (Call.toEnd.size p.size) = (p.unserved, p.drained) :=
    take_of_le p.remaining_le
  rw [call_eq, all]
  rfl

/-! ## Runs -/

/-- **Served and left are all there was**, over any calls. -/
theorem calls_parts (p : Payload) (spare : Bytes → Nat) (cs : List Call) :
    octets (p.calls spare cs).1 ++ (p.calls spare cs).2.unserved = p.unserved ∧
      (p.calls spare cs).2.message = p.message := by
  induction cs generalizing p with
  | nil => exact ⟨rfl, rfl⟩
  | cons c cs ih =>
    obtain ⟨parts, same⟩ := ih (p.take (c.size p.size)).2
    rw [calls, call_eq]
    refine ⟨?_, same⟩
    show (p.take (c.size p.size)).1 ++ octets _ ++ _ = _
    rw [List.append_assoc, parts, take_eq, unserved_take, List.take_append_drop]

/-- What calls serve depends on their sizes alone. -/
theorem calls_congr (p : Payload) (spare spare' : Bytes → Nat) {cs cs' : List Call}
    (h : cs.map (Call.size p.size) = cs'.map (Call.size p.size)) :
    (p.calls spare cs).1.map Portion.data = (p.calls spare' cs').1.map Portion.data ∧
      (p.calls spare cs).2 = (p.calls spare' cs').2 := by
  induction cs generalizing p cs' with
  | nil =>
    obtain rfl := List.map_eq_nil_iff.mp h.symm
    exact ⟨rfl, rfl⟩
  | cons c cs ih =>
    obtain ⟨c', cs', rfl, first, others⟩ := List.map_eq_cons_iff.mp h.symm
    obtain ⟨data, left⟩ := ih (p.take (c.size p.size)).2 others.symm
    simp only [calls, call_eq, first, List.map_cons, data, left, and_self]

/-- Of an exhausted payload, no call serves anything. -/
theorem calls_exhausted {p : Payload} (h : p.remaining = 0) (spare : Bytes → Nat)
    (cs : List Call) : octets (p.calls spare cs).1 = [] ∧ (p.calls spare cs).2 = p := by
  induction cs with
  | nil => exact ⟨rfl, rfl⟩
  | cons c cs ih =>
    have empty : p.unserved = [] := by rw [← List.length_eq_zero_iff, length_unserved, h]
    have nothing : p.take (c.size p.size) = ([], p) := by
      rw [take_of_le (by omega), empty, ← eq_drained h]
    rw [calls, call_eq, nothing]
    exact ih

/-- **Every octet is served once, in order.** After any calls on a message, what was served is the
front of the message and the rest is left, so a call always starts within the message and never
reaches beyond its end. The next call serves the octets behind: as many as fit the buffer, or the
buffer full, or all of them; a buffer that cannot be filled takes what is left and fails. Nothing
comes of an exhausted payload any more. And all of this depends on the sizes of the calls, not on
the way that was taken. -/
theorem portions_in_order (spare : Bytes → Nat) (message : Bytes) (cs : List Call) :
    let out := octets ((ofBytes message).calls spare cs).1
    let p := ((ofBytes message).calls spare cs).2
    (out ++ p.unserved = message ∧ p.remaining + out.length = message.length ∧
      p.served = out.length ∧ ∀ n, p.served + min p.remaining n ≤ message.length) ∧
    (∀ n c, c = .chunk n ∨ c = .read n →
      p.call spare c = (⟨(message.drop out.length).take n, false⟩, (p.take n).2) ∧
      (p.call spare c).1.data.length = min n p.remaining ∧
      ((p.call spare c).1.data.length = 0 ↔ n = 0 ∨ p.isExhausted = true)) ∧
    (∀ n, n ≤ p.remaining →
      (p.call spare (.exactly n)).1 = ⟨(message.drop out.length).take n, false⟩ ∧
      (p.call spare (.exactly n)).1.data.length = n ∧
      p.takeExactly n = (some (p.call spare (.exactly n)).1.data, (p.call spare (.exactly n)).2)) ∧
    (∀ n, p.remaining < n →
      (p.call spare (.exactly n)).1 = ⟨message.drop out.length, true⟩ ∧
      (p.call spare (.exactly n)).2.isExhausted = true ∧
      p.takeExactly n = (none, (p.call spare (.exactly n)).2)) ∧
    ((p.call spare .toEnd).1 = ⟨message.drop out.length, false⟩ ∧
      (p.call spare .toEnd).2.isExhausted = true ∧
      p.rest = ((p.call spare .toEnd).1.data, (p.call spare .toEnd).2)) ∧
    (p.isExhausted = true →
      ∀ later, octets (p.calls spare later).1 = [] ∧ (p.calls spare later).2 = p) ∧
    (∀ spare' cs', cs'.map (Call.size message.length) = cs.map (Call.size message.length) →
      ((ofBytes message).calls spare' cs').1.map Portion.data =
        ((ofBytes message).calls spare cs).1.map Portion.data ∧
      ((ofBytes message).calls spare' cs').2 = p) := by
  intro out p
  obtain ⟨parts, same⟩ := calls_parts (ofBytes message) spare cs
  rw [unserved_ofBytes] at parts
  change out ++ p.unserved = message at parts
  change p.message = message at same
  have counted : p.remaining + out.length = message.length := by
    rw [← p.length_unserved, Nat.add_comm, ← List.length_append, parts]
  have behind : message.drop out.length = p.unserved := by
    rw [← parts, List.drop_left]
  have served : p.served = out.length := by
    rw [Payload.served, same]
    omega
  have exhausted : p.isExhausted = true ↔ p.remaining = 0 := beq_iff_eq
  refine ⟨⟨parts, counted, served, fun n => by omega⟩, ?_, ?_, ?_, ?_, ?_, ?_⟩
  · rintro n c hc
    rw [call_partial p spare n hc, behind, exhausted, ← take_eq, length_take]
    exact ⟨rfl, Nat.min_comm _ _, by omega⟩
  · intro n enough
    rw [call_exactly_of_le enough, behind, ← take_eq]
    refine ⟨rfl, ?_, ?_⟩
    · exact (p.length_take n).trans (Nat.min_eq_right enough)
    · rw [takeExactly, if_pos enough]
  · intro n short
    rw [call_exactly_of_lt short, behind]
    refine ⟨rfl, rfl, ?_⟩
    rw [takeExactly, if_neg (by omega), take_of_le (Nat.le_of_lt short)]
  · rw [call_toEnd, behind]
    exact ⟨rfl, rfl, take_of_le (Nat.le_refl _)⟩
  · exact fun h later => calls_exhausted (exhausted.mp h) spare later
  · exact fun spare' cs' h => calls_congr (ofBytes message) spare' spare h

end Outbox.Payload
