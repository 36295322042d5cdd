import Outbox.Mailer.Lemmas

/-! # Traffic on a mailer

Submitters, the poller and a shutdown at work on one mailer at the same time. Each party goes
through its stages one small step after the other, and the steps of different parties fall between
each other in any order.

* `SubmitterStage`, `PollerStage`, `ShutdownStage`: how far a party has come and what it holds.
* `Traffic.step`: the next step of a party. A party that has to wait for another, or that has
  finished, stays where it is.
* `Traffic.run`: the steps of a schedule, which names the party to move.

Where nobody else takes a step, those of a party come to what the mailer does at once
(`Outbox.Proofs.Alone`).
-/

set_option autoImplicit false

namespace Outbox

/-- How far a submission has come. -/
inductive SubmitterStage where
  /-- Nothing is done yet. The letter is to be dated `now`. -/
  | fresh (l : Letter) (now : String)
  /-- The mailer was found running; pool and account are noted. -/
  | noted (k : Ticket) (now : String)
  /-- The letter is counted as submitted. -/
  | submitted (k : Ticket) (now : String)
  /-- The transfer is ready, and that slot is the next one to be tried. -/
  | prepared (k : Ticket) (t : Transfer) (slot : Nat)
  /-- A slot is held. -/
  | holding (k : Ticket) (slot : Nat) (t : Transfer)
  /-- A slot is held, and the mailer was found still running. -/
  | admitted (k : Ticket) (slot : Nat) (t : Transfer)
  /-- The held slot took the transfer, under that name. -/
  | taken (k : Ticket) (slot : Nat) (id : TransferId)
  /-- The transfer is counted as attached; the slot is still held. -/
  | attached (k : Ticket) (slot : Nat)
  /-- The held slot is to be let go without the transfer. -/
  | declined (k : Ticket) (slot : Nat)
  /-- No slot is held, and the letter is to be counted as rejected. -/
  | failed (k : Ticket)
  /-- Counted; the ticket is to be given back. -/
  | leaving (k : Ticket)
  | over

/-- How far the poller has come on its way over the slots. -/
inductive PollerStage where
  /-- About to look at the flag, and then at a slot. -/
  | before (slot : Nat)
  | holding (slot : Nat)
  /-- The held slot was given time. -/
  | waited (slot : Nat)
  /-- The held slot has performed; its completions are being read. -/
  | reading (slot : Nat)
  | stopped
  deriving DecidableEq, Repr

/-- How far a shutdown has come. -/
inductive ShutdownStage where
  /-- Nobody asked for it yet. -/
  | awaited
  | flagCleared
  /-- No submitter finds the pool any more. -/
  | poolTaken
  /-- The poller has stopped; the slots before this one were waited for. -/
  | settling (slot : Nat)
  | holding (slot : Nat)
  /-- Every slot was waited for. -/
  | settled
  /-- So many mails were reported as dropped. -/
  | reported (dropped : Nat)
  /-- The pool was let go. -/
  | released (dropped : Nat)
  | finished (dropped : Nat)
  deriving DecidableEq, Repr

/-- A transfer in a slot of a pool. -/
structure Placement where
  pool : Nat
  slot : Nat
  id : TransferId
  deriving DecidableEq, Repr

/-- A mailer and everyone at work on it. -/
structure Traffic (T M : Type) where
  mailer : Mailer T M
  submitters : List SubmitterStage
  poller : PollerStage
  shutdown : ShutdownStage
  /-- The transfers that slots took so far, in order, each with its submitter. -/
  accepted : List (Nat × Placement)
  /-- The transfers whose completions were read so far, in order. -/
  reaped : List Placement

/-- Who takes a step. -/
inductive Party where
  | submitter (index : Nat)
  | poller
  | shutdown
  deriving DecidableEq, Repr

namespace Traffic

variable {T M : Type}

/-- Letters, each with its date, about to be submitted to a mailer. -/
def start (m : Mailer T M) (letters : List (Letter × String)) : Traffic T M where
  mailer := m
  submitters := letters.map fun l => .fresh l.1 l.2
  poller := if m.poller.isSome then .before 0 else .stopped
  shutdown := .awaited
  accepted := []
  reaped := []

/-- Whether nobody is between the steps of a submission. -/
def isQuiet (w : Traffic T M) : Bool :=
  w.submitters.all fun
    | .fresh .. | .over => true
    | _ => false

section Submitters

variable [Multiplexer M]

/-- One step of a submission: what becomes of the mailer, of the stage, and of the list of accepted
transfers. -/
def submit (m : Mailer T M) : SubmitterStage → Mailer T M × SubmitterStage × List Placement
  | .fresh l now =>
    match m.issue l with
    | (some number, m, _) =>
      match m.ticket? number with
      | some k => (m, .noted k now, [])
      | none => (m, .over, [])
    | (none, m, _) => (m, .over, [])
  | .noted k now => (m.count .submitted, .submitted k now, [])
  | .submitted k now =>
    match k.letter.prepare k.account m.dispatch.timeouts now with
    | .ok t => (m, .prepared k t 0, [])
    | .error _ => (m, .failed k, [])
  | .prepared k t i =>
    match m.slot? k.pool i with
    | none => (m, .prepared k t 0, [])
    | some _ =>
      match m.tryLock k.pool i with
      | some m => (m, .holding k i t, [])
      | none => (m, .prepared k t (i + 1), [])
  | .holding k i t => (m, if m.running then .admitted k i t else .declined k i, [])
  | .admitted k i t =>
    match m.offer k.pool i t with
    | (.ok id, m) => (m, .taken k i id, [⟨k.pool, i, id⟩])
    | (.error _, m) => (m, .declined k i, [])
  | .taken k i _ => (m.count .attached, .attached k i, [])
  | .attached k i => (m.unlock k.pool i, .leaving k, [])
  | .declined k i => (m.unlock k.pool i, .failed k, [])
  | .failed k => (m.count .rejected, .leaving k, [])
  | .leaving k => (m.discard k.number, .over, [])
  | .over => (m, .over, [])

end Submitters

section Poller

variable [Multiplexer M]

/-- One step of the poller over a pool: what becomes of the mailer, of the stage, and of the list of
reaped transfers. Reading a completion, counting it and taking its transfer back are one step. -/
def poll (m : Mailer T M) (pool : Nat) : PollerStage → Mailer T M × PollerStage × List Placement
  | .before i =>
    if !m.running then (m, .stopped, [])
    else match m.slot? pool i with
      | none => (m, .before 0, [])
      | some _ =>
        match m.tryLock pool i with
        | some m => (m, .holding i, [])
        | none => (m, .before (i + 1), [])
  | .holding i =>
    (m.modifySlot pool i fun mux =>
      (Multiplexer.wait mux ((Multiplexer.timeout mux).getD m.dispatch.pollTimeout)).1,
      .waited i, [])
  | .waited i =>
    (m.modifySlot pool i fun mux => (Multiplexer.perform mux).1, .reading i, [])
  | .reading i =>
    match (m.slot? pool i).bind fun s => Multiplexer.next s.mux with
    | none => (m.unlock pool i, .before (i + 1), [])
    | some (c, mux) =>
      ((m.modifySlot pool i fun _ => (Multiplexer.remove mux c.id).2).count
        (Poller.counter c.outcome), .reading i, [⟨pool, i, c.id⟩])
  | .stopped => (m, .stopped, [])

end Poller

section Shutdown

variable [Transport T M]

/-- One step of a shutdown while the poller is at a stage. The pool counts as the poller's until it
is let go. -/
def close (m : Mailer T M) (poller : PollerStage) : ShutdownStage → Mailer T M × ShutdownStage
  | .awaited =>
    if m.poller.isSome then ({ m with running := false }, .flagCleared) else (m, .awaited)
  | .flagCleared => ({ m with current := none }, .poolTaken)
  | .poolTaken => (m, if poller = .stopped then .settling 0 else .poolTaken)
  | .settling i =>
    match m.poller with
    | none => (m, .settled)
    | some pool =>
      match m.slot? pool i with
      | none => (m, .settled)
      | some _ =>
        match m.tryLock pool i with
        | some m => (m, .holding i)
        | none => (m, .settling i)
  | .holding i =>
    match m.poller with
    | none => (m, .settled)
    | some pool => (m.unlock pool i, .settling (i + 1))
  | .settled => (m, .reported m.stats.inFlight)
  | .reported n => ({ m with poller := none }.releaseUnused, .released n)
  | .released n => (m.tearDown, .finished n)
  | .finished n => (m, .finished n)

end Shutdown

variable [Multiplexer M] [Transport T M]

/-- The next step of a party. -/
def step (w : Traffic T M) : Party → Traffic T M
  | .submitter i =>
    match w.submitters[i]? with
    | none => w
    | some s =>
      let (m, s, accepted) := submit w.mailer s
      { w with
        mailer := m
        submitters := w.submitters.set i s
        accepted := w.accepted ++ accepted.map fun a => (i, a) }
  | .poller =>
    match w.mailer.poller with
    | none => w
    | some pool =>
      let (m, p, reaped) := poll w.mailer pool w.poller
      { w with mailer := m, poller := p, reaped := w.reaped ++ reaped }
  | .shutdown =>
    let (m, s) := close w.mailer w.poller w.shutdown
    { w with mailer := m, shutdown := s }

/-- The steps that a schedule calls for. -/
def run (w : Traffic T M) (schedule : List Party) : Traffic T M := schedule.foldl step w

end Traffic

end Outbox
