import Outbox.Multiplexer

/-! # Rehearsed slots

* `Batches`: a multiplexer whose completions are laid down beforehand, one batch for each time it
  performs.
* `Numbered`: a source of slots that are numbers, with attempts that fail.
-/

set_option autoImplicit false

namespace Outbox

/-- A completion, and the transfer that is handed back for it, if any. -/
structure Laid where
  completion : Completion
  kept : Option Transfer

/-- A multiplexer that finishes the next batch each time it performs. -/
structure Batches where
  wish : Option Duration
  batches : List (List Laid)
  ready : List Completion
  kept : List (TransferId × Transfer)

namespace Batches

/-- Before the first turn. A name hands a transfer back if any completion of that name keeps one. -/
def start (wish : Option Duration) (batches : List (List Laid)) : Batches :=
  ⟨wish, batches, [], batches.flatten.filterMap fun l => l.kept.map fun t => (l.completion.id, t)⟩

def perform (m : Batches) : Batches :=
  match m.batches with
  | [] => m
  | batch :: rest => { m with batches := rest, ready := m.ready ++ batch.map Laid.completion }

instance : Multiplexer Batches where
  add m _ := (.error .closed, m)
  timeout m := m.wish
  wait m _ := (m, [])
  perform m := (m.perform, [])
  next m :=
    match m.ready with
    | [] => none
    | c :: rest => some (c, { m with ready := rest })
  remove m id := (m.kept.lookup id, m)
  unread m := m.ready.length
  unread_next := by
    intro m m' c h
    split at h
    · simp at h
    · next hr =>
      simp only [Option.some.injEq, Prod.mk.injEq] at h
      simp [← h.2, hr]
  unread_remove _ _ := Nat.le_refl _

end Batches

/-- A source of slots that are numbered by attempt, with attempts that fail. -/
structure Numbered where
  attempt : Nat
  failures : List (Nat × TransportError)

instance : Transport Numbered Nat where
  setUp t := (.ok (), t)
  tearDown t := t
  allocate t :=
    let next := { t with attempt := t.attempt + 1 }
    match t.failures.lookup t.attempt with
    | some e => (.error e, next)
    | none => (.ok t.attempt, next)
  ready := []
  released := []

end Outbox
