import Outbox.Multiplexer

/-! # Rehearsals

A transport that sends nothing. A script states which attempts to set it up or to make a multiplexer
fail, which forward-paths are refused, and which transfers fail; whatever is driven ends at once.

* `Script`: what is to happen. It is the transport itself.
* `Rehearsal`: the multiplexer. `Rehearsed` is a transfer as it was found when it ended.
-/

set_option autoImplicit false

namespace Outbox

/-- What is to happen, by attempt counted from zero or by forward-path; the first entry counts. -/
structure Script where
  failSetUp : List (Nat × TransportError)
  failAllocate : List (Nat × TransportError)
  refuse : List (String × TransportError)
  reject : List (String × TransferError)
  setUps : Nat
  allocations : Nat

/-- Reads a payload to its end in pieces of at most `n` octets: the data, and the number of reads
with the one that found nothing. -/
def Payload.drain (p : Payload) (n : Nat) : Bytes × Nat :=
  if _h : 0 < min p.remaining n then
    let (more, reads) := drain (p.take n).2 n
    ((p.take n).1 ++ more, reads + 1)
  else ([], 1)
termination_by p.remaining
decreasing_by
  simp only [Payload.remaining_take]
  omega

/-- A transfer that ended: what it was, how it went, the message read to its end, and in how many
reads of 64 octets. -/
structure Rehearsed where
  transfer : Transfer
  outcome : Outcome
  message : Bytes
  reads : Nat

/-- Transfers that all end when they are driven. -/
structure Rehearsal where
  script : Script
  nextId : Nat
  attached : List (TransferId × Transfer)
  ended : List (TransferId × Transfer)
  completions : List Completion
  done : List Rehearsed

namespace Script

/-- The entry for a transfer's forward-paths. -/
def lookUp {α : Type} (rules : List (String × α)) (t : Transfer) : Option α :=
  (rules.find? fun r => (t.recipients.map Recipients.paths).any (·.contains r.1)).map (·.2)

/-- How a transfer goes. -/
def outcome (s : Script) (t : Transfer) : Outcome :=
  match lookUp s.reject t with
  | some e => .error e
  | none => .ok ()

end Script

namespace Rehearsal

def start (s : Script) : Rehearsal := ⟨s, 0, [], [], [], []⟩

/-- Takes a transfer that lacks nothing and that the script does not refuse. -/
def add (m : Rehearsal) (t : Transfer) : Except TransportError TransferId × Rehearsal :=
  match t.missing, Script.lookUp m.script.refuse t with
  | some p, _ => (.error (.rejected ("transfer has no " ++ p.name)), m)
  | none, some e => (.error e, m)
  | none, none =>
    let id : TransferId := ⟨m.nextId⟩
    (.ok id, { m with nextId := m.nextId + 1, attached := m.attached ++ [(id, t)] })

def rehearsed (m : Rehearsal) (t : Transfer) : Rehearsed :=
  let (message, reads) := match t.payload with
    | some p => p.drain 64
    | none => ([], 0)
  ⟨t, m.script.outcome t, message, reads⟩

/-- Ends every transfer. -/
def perform (m : Rehearsal) : Rehearsal :=
  { m with
    attached := []
    ended := m.ended ++ m.attached
    completions := m.completions ++ m.attached.map fun a => ⟨a.1, m.script.outcome a.2⟩
    done := m.done ++ m.attached.map fun a => m.rehearsed a.2 }

/-- Transfers that are not taken back. -/
def live (m : Rehearsal) : Nat := m.attached.length + m.ended.length

/-- The same without the record of what was done. -/
def forget (m : Rehearsal) : Rehearsal := { m with done := [] }

instance : Multiplexer Rehearsal where
  add := add
  timeout _ := none
  wait m _ := (m, [])
  perform m := (m.perform, [])
  next m :=
    match m.completions with
    | [] => none
    | c :: rest => some (c, { m with completions := rest })
  remove m id := (m.ended.lookup id, { m with ended := m.ended.filter fun e => e.1 != id })
  unread m := m.completions.length
  unread_next := by
    intro m m' c h
    split at h
    · simp at h
    · next hr =>
      simp only [Option.some.injEq, Prod.mk.injEq] at h
      simp [← h.2, hr]
  unread_remove _ _ := Nat.le_refl _

end Rehearsal

instance : Transport Script Rehearsal where
  setUp s :=
    let next := { s with setUps := s.setUps + 1 }
    match s.failSetUp.lookup s.setUps with
    | some e => (.error e, next)
    | none => (.ok (), next)
  tearDown s := s
  allocate s :=
    let next := { s with allocations := s.allocations + 1 }
    match s.failAllocate.lookup s.allocations with
    | some e => (.error e, next)
    | none => (.ok (Rehearsal.start s), next)
  ready := []
  released := []

end Outbox
