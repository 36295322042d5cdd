import Outbox.Delivery
import Outbox.Multiplexer

/-! # The SMTP multiplexer

Transfers as tasks. A task runs until its delivery ends, waits to be collected, and is then held
for whoever reads its completion. When a task ends, and how, is up to the world outside, which a
`Course` stands for.

* `End`: the end of one delivery. `Course.ofNetwork` is the course of a network.
* `SmtpMultiplexer`: running tasks, ended ones, held transfers, unread completions. Names count up
  from zero; as with the counters, 2^64 of them are taken to suffice.
* `SmtpTransport`: a source of such multiplexers.
-/

set_option autoImplicit false

namespace Outbox

/-- The end of a delivery: octets of the payload that it read, how it went, what it reported. -/
structure End where
  id : TransferId
  served : Nat
  outcome : Outcome
  events : List Event

/-- What the world outside makes of the tasks when a multiplexer is driven for the n-th time: which of
the running transfers end, in order, and how many tasks that were given up are still left then. A
name that no running transfer has stands for a task that was given up. -/
structure Course where
  ends : Nat → List (TransferId × Transfer) → List End
  lingering : Nat → Nat

/-- The course that deliveries take in a network, where a task ends as soon as it is given up.
`expire` says whether so much time passes that silent peers use up their limits. -/
def Course.ofNetwork (n : Environment) (expire : Bool) : Course where
  ends _ running := running.filterMap fun (id, t) =>
    match t.ready? with
    | .error p => some ⟨id, 0, .error (.incomplete p.name), []⟩
    | .ok r =>
      let d := r.deliver n
      if d.spans.any (·.expired) && !expire then none
      else some ⟨id, r.payload.remaining - d.payload.remaining, d.outcome, d.events⟩
  lingering _ := 0

/-- A transfer whose delivery has ended. -/
structure EndedTransfer where
  id : TransferId
  transfer : Transfer
  outcome : Outcome

/-- Transfers in progress. An ended task that is `none` was given up before it was collected. -/
structure SmtpMultiplexer where
  course : Course
  drives : Nat
  running : List (TransferId × Transfer)
  cancelled : Nat
  ended : List (Option EndedTransfer)
  held : List (TransferId × Transfer)
  completions : List Completion
  nextId : Nat

namespace SmtpMultiplexer

/-- Without transfers. -/
def start (c : Course) : SmtpMultiplexer := ⟨c, 0, [], 0, [], [], [], 0⟩

/-- Tasks that are not collected yet. -/
def tasks (m : SmtpMultiplexer) : Nat := m.running.length + m.cancelled + m.ended.length

def isIdle (m : SmtpMultiplexer) : Bool := m.tasks == 0

/-- The wish of a busy multiplexer: short, so that the others have their turn. -/
def slice : Duration := Duration.ofMillis 50

def timeout (m : SmtpMultiplexer) : Option Duration := if m.isIdle then none else some slice

/-- Starts a transfer. One that lacks a part is refused and takes no name. -/
def add (m : SmtpMultiplexer) (t : Transfer) : Except TransportError TransferId × SmtpMultiplexer :=
  match t.missing with
  | some p => (.error (.rejected ("transfer has no " ++ p.name)), m)
  | none =>
    let id : TransferId := ⟨m.nextId⟩
    (.ok id, { m with running := m.running ++ [(id, t)], nextId := m.nextId + 1 })

/-! ## Driving -/

/-- The end of a task that was given up, if there is one. -/
def finishCancelled (m : SmtpMultiplexer) : SmtpMultiplexer :=
  if m.cancelled = 0 then m
  else { m with cancelled := m.cancelled - 1, ended := m.ended ++ [none] }

/-- The end of one task. -/
def finish (m : SmtpMultiplexer) (e : End) : SmtpMultiplexer × List Event :=
  match m.running.find? fun r => r.1 == e.id with
  | none => (m.finishCancelled, [])
  | some (_, t) =>
    ({ m with
      running := m.running.filter fun r => r.1 != e.id
      ended := m.ended ++ [some ⟨e.id, t.served e.served, e.outcome⟩] }, e.events)

/-- One end after the other. -/
def finishAll (m : SmtpMultiplexer) : List End → SmtpMultiplexer × List Event
  | [] => (m, [])
  | e :: rest =>
    let (m, events) := m.finish e
    let (m, more) := m.finishAll rest
    (m, events ++ more)

/-- The tasks that were given up end, but for so many. -/
def sweep (m : SmtpMultiplexer) (lingering : Nat) : SmtpMultiplexer :=
  { m with
    cancelled := min lingering m.cancelled
    ended := m.ended ++ List.replicate (m.cancelled - lingering) none }

/-- Lets the tasks run: they end as the course has it. -/
def drive (m : SmtpMultiplexer) : SmtpMultiplexer × List Event :=
  let ends := m.course.ends m.drives m.running
  let lingering := m.course.lingering m.drives
  let (m, events) := { m with drives := m.drives + 1 }.finishAll ends
  (m.sweep lingering, events)

/-- Collects an ended task: its transfer is held and its completion can be read. -/
def collect (m : SmtpMultiplexer) (e : Option EndedTransfer) : SmtpMultiplexer :=
  match e with
  | none => m
  | some e =>
    { m with
      held := m.held ++ [(e.id, e.transfer)]
      completions := m.completions ++ [⟨e.id, e.outcome⟩] }

/-- Collects the first ended task. -/
def collectOne (m : SmtpMultiplexer) : SmtpMultiplexer :=
  match m.ended with
  | [] => m
  | e :: rest => { m with ended := rest }.collect e

/-- Collects every ended task. -/
def collectAll (m : SmtpMultiplexer) : SmtpMultiplexer :=
  m.ended.foldl collect { m with ended := [] }

/-- Waits until one task has ended, or until the time is up. -/
def wait (m : SmtpMultiplexer) (_limit : Duration) : SmtpMultiplexer × List Event :=
  if m.isIdle then (m, [])
  else
    let (m, events) := m.drive
    (m.collectOne, events)

/-- Lets the tasks run as far as they can and collects what has ended. -/
def perform (m : SmtpMultiplexer) : SmtpMultiplexer × List Event :=
  if m.isIdle then (m, [])
  else
    let (m, events) := m.drive
    (m.collectAll, events)

/-! ## Taking back -/

def next (m : SmtpMultiplexer) : Option (Completion × SmtpMultiplexer) :=
  match m.completions with
  | [] => none
  | c :: rest => some (c, { m with completions := rest })

/-- Whether an ended task is the one of that name. -/
def isEndOf (id : TransferId) (e : Option EndedTransfer) : Bool :=
  match e with
  | some e => e.id == id
  | none => false

/-- Takes a held transfer back. A task that is not collected yet is given up. -/
def remove (m : SmtpMultiplexer) (id : TransferId) : Option Transfer × SmtpMultiplexer :=
  match m.held.find? fun h => h.1 == id with
  | some (_, t) => (some t, { m with held := m.held.filter fun h => h.1 != id })
  | none =>
    if m.running.any fun r => r.1 == id then
      (none, { m with
        running := m.running.filter fun r => r.1 != id
        cancelled := m.cancelled + 1 })
    else
      (none, { m with ended := m.ended.map fun e => if isEndOf id e then none else e })

theorem completions_remove (m : SmtpMultiplexer) (id : TransferId) :
    (m.remove id).2.completions = m.completions := by
  unfold remove
  split
  · rfl
  · split <;> rfl

instance : Multiplexer SmtpMultiplexer where
  add := add
  timeout := timeout
  wait := wait
  perform := perform
  next := next
  remove := remove
  unread m := m.completions.length
  unread_next := by
    intro m m' c h
    unfold next at h
    split at h
    · simp at h
    · next rest hc =>
      simp only [Option.some.injEq, Prod.mk.injEq] at h
      simp [← h.2, hc]
  unread_remove m id := by simp [completions_remove]

end SmtpMultiplexer

/-- A source of SMTP multiplexers, all under one course. -/
structure SmtpTransport where
  course : Course

instance : Transport SmtpTransport SmtpMultiplexer where
  setUp t := (.ok (), t)
  tearDown t := t
  allocate t := (.ok (SmtpMultiplexer.start t.course), t)
  ready := [Event.internal .debug "SMTPS transport ready"]
  released := [Event.internal .debug "SMTPS transport released"]

end Outbox
