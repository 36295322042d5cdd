import Outbox.Mailer.Error
import Outbox.Poller
import Outbox.Settings.Account
import Outbox.Submission

/-! # The mailer

Everything that sending needs for the life of the process: the account in use, a pool of slots, the
poller that drives them, and the counters.

* `Mailer.start`, `reconfigure`, `shutdown`: the lifecycle. A failed attempt releases what it had
  acquired and keeps the account.
* `Mailer.issue`, `redeem`: the two halves of a submission. The first sees whether the mailer runs
  and notes pool and account on a ticket; the second hands the letter to a slot of that pool.
  Anything may happen in between. `Mailer.send` is both in one go.
* `Mailer.pass`: the poller's way over all slots.

A pool is released when nobody refers to it any more: the mailer, the poller and the tickets do.
-/

set_option autoImplicit false

namespace Outbox

/-- A submission under way: its letter, and the pool and the account that it found in use. -/
structure Ticket where
  number : Nat
  letter : Letter
  pool : Nat
  account : Account
  deriving DecidableEq, Repr

/-- The state of a mailer over a transport. Pools and tickets are numbered as they come. -/
structure Mailer (T M : Type) where
  transport : T
  dispatch : DispatchSettings
  account : Option Account
  /-- The flag that submissions and the poller look at. -/
  running : Bool
  /-- The pool that submissions go to. -/
  current : Option Nat
  /-- The pool that the poller drives, if there is a poller. -/
  poller : Option Nat
  /-- The pools that someone refers to. -/
  pools : List (Nat × Pool M)
  tickets : List Ticket
  nextPool : Nat
  nextTicket : Nat
  stats : Stats
  /-- What was asked of the transport so far. -/
  calls : List TransportCall

namespace Mailer

variable {T M : Type}

/-- A mailer that was never started. -/
def new (transport : T) (dispatch : DispatchSettings) : Mailer T M where
  transport := transport
  dispatch := dispatch
  account := none
  running := false
  current := none
  poller := none
  pools := []
  tickets := []
  nextPool := 0
  nextTicket := 0
  stats := Stats.zero
  calls := []

def isRunning (m : Mailer T M) : Bool := m.running

/-! ## Pools -/

/-- The pool of a number. -/
def pool? (m : Mailer T M) (id : Nat) : Option (Pool M) := m.pools.lookup id

/-- Puts a pool in place of the one of that number. -/
def setPool (m : Mailer T M) (id : Nat) (p : Pool M) : Mailer T M :=
  { m with pools := m.pools.map fun q => if q.1 == id then (id, p) else q }

/-- A slot of a pool. -/
def slot? (m : Mailer T M) (pool i : Nat) : Option (Slot M) := do
  let p ← m.pool? pool
  p.slots[i]?

/-- Changes the multiplexer in a slot of a pool. -/
def modifySlot (m : Mailer T M) (pool i : Nat) (f : M → M) : Mailer T M :=
  match m.pool? pool with
  | some p => m.setPool pool (p.modify i fun s => { s with mux := f s.mux })
  | none => m

/-- Takes hold of a slot of a pool, if it is free. -/
def tryLock (m : Mailer T M) (pool i : Nat) : Option (Mailer T M) := do
  let p ← m.pool? pool
  let p ← p.tryLock i
  return m.setPool pool p

/-- Takes hold of a free slot of a pool. -/
def lockAny (m : Mailer T M) (pool : Nat) : Option (Nat × Mailer T M) := do
  let p ← m.pool? pool
  let (i, p) ← p.lockAny
  return (i, m.setPool pool p)

/-- Lets a slot of a pool go. -/
def unlock (m : Mailer T M) (pool i : Nat) : Mailer T M :=
  match m.pool? pool with
  | some p => m.setPool pool (p.unlock i)
  | none => m

/-- A ticket that is not given back. -/
def ticket? (m : Mailer T M) (number : Nat) : Option Ticket :=
  m.tickets.find? fun t => t.number == number

/-- Whether someone refers to a pool. -/
def isUsed (m : Mailer T M) (id : Nat) : Bool :=
  m.current == some id || m.poller == some id || m.tickets.any fun t => t.pool == id

/-- Releases the pools that nobody refers to. -/
def releaseUnused (m : Mailer T M) : Mailer T M :=
  let gone := m.pools.filter fun p => !m.isUsed p.1
  { m with
    pools := m.pools.filter fun p => m.isUsed p.1
    calls := m.calls ++ gone.flatMap fun p => p.2.slots.map fun _ => .release }

/-- One more in a counter. -/
def count (m : Mailer T M) (c : Counter) : Mailer T M := { m with stats := m.stats.count c }

/-! ## Lifecycle -/

section Lifecycle

variable [Transport T M]

/-- The mailer after its transport was asked for something. -/
def asked (m : Mailer T M) (t : T) (calls : List TransportCall) : Mailer T M :=
  { m with transport := t, calls := m.calls ++ calls }

def tearDown (m : Mailer T M) : Mailer T M :=
  m.asked (Transport.tearDown m.transport) [.tearDown]

def tearDownEvents (_ : Mailer T M) : List Event := Transport.released T

/-- The report of an error of the lifecycle. -/
def failure (e : LifecycleError) : Event := Event.plain .error e.message []

/-- The report of settings that are refused. -/
def refusal (e : SettingsError) : Event :=
  Event.plain .error ("Refusing mail configuration: " ++ e.message) []

/-- Starts with a fresh pool, and a poller that drives it. -/
def launch (m : Mailer T M) (a : Account) (ms : List M) : Mailer T M × List Event :=
  ({ m with
      account := some a
      running := true
      current := some m.nextPool
      poller := some m.nextPool
      pools := m.pools ++ [(m.nextPool, Pool.ofList ms)]
      nextPool := m.nextPool + 1 },
    [Pool.allocatedEvent ms.length,
      Event.internal .info ("Mailer initialized for " ++ a.address ++ " with " ++
        toString m.dispatch.poolSize.count ++ " slots")])

/-- Takes a launch back: neither flag nor pool is set, the account is the one of before, and the pool,
which nobody refers to any more, is released. -/
def withdraw (m : Mailer T M) (ms : List M) : Mailer T M :=
  { m with
    running := false
    current := none
    calls := m.calls ++ ms.map fun _ => .release }

/-- Allocates the pool of a transport that is set up, and launches it or tears the transport down.
`fault` is what keeps the poller from being started, if anything does. -/
def acquire (m : Mailer T M) (a : Account) (fault : Option SystemFault) :
    Except LifecycleError Unit × Mailer T M × List Event :=
  let made := Pool.allocate m.transport m.dispatch.poolSize
  let m := m.asked made.transport made.calls
  match made.result with
  | .error (slot, e) =>
    let e := LifecycleError.multiplexer slot e
    (.error e, m.tearDown, failure e :: m.tearDownEvents)
  | .ok ms =>
    match fault with
    | none =>
      let (m, events) := m.launch a ms
      (.ok (), m, events)
    | some fault =>
      let e := LifecycleError.poller fault
      (.error e, (m.withdraw ms).tearDown,
        Pool.allocatedEvent ms.length :: (m.tearDownEvents ++ [failure e]))

/-- Checks the settings, sets the transport up, allocates a pool and starts the poller, unless a
fault keeps it from being started. -/
def start (m : Mailer T M) (p : Preferences) (fault : Option SystemFault := none) :
    Except LifecycleError Unit × Mailer T M × List Event :=
  if m.poller.isSome then
    (.error .alreadyRunning, m,
      [Event.plain .warn "Mailer initialization requested while already initialized" []])
  else match p.validate with
    | .error e => (.error (.settings e), m, [refusal e])
    | .ok a =>
      match Transport.setUp m.transport with
      | (.error e, t) =>
        let e := LifecycleError.transport e
        (.error e, m.asked t [.setUp false], [failure e])
      | (.ok (), t) =>
        let (result, m, events) := (m.asked t [.setUp true]).acquire a fault
        (result, m, Transport.ready T ++ events)

/-- Changes the account of later submissions. Transfers that a multiplexer has taken keep the
options they were made with. -/
def reconfigure (m : Mailer T M) (p : Preferences) :
    Except LifecycleError Unit × Mailer T M × List Event :=
  match p.validate with
  | .error e => (.error (.settings e), m, [refusal e])
  | .ok a =>
    (.ok (), { m with account := some a },
      [Event.internal .info ("Mail configuration now targets " ++ a.address)])

/-- The report of mails that a shutdown drops. -/
def droppedEvents (n : Nat) : List Event :=
  if 0 < n then
    [Event.plain .warn ("Dropping " ++ toString n ++ " undelivered mail(s) on shutdown") []]
  else []

/-- Stops the poller, lets the pool go and tears the transport down. Without a poller nothing
happens. -/
def shutdown (m : Mailer T M) : Mailer T M × List Event :=
  if m.poller.isNone then (m, [])
  else
    let m := { m with running := false, current := none, poller := none }
    (m.releaseUnused.tearDown,
      droppedEvents m.stats.inFlight ++ m.tearDownEvents ++
        [Event.internal .info "Mailer shut down"])

end Lifecycle

/-! ## Submission -/

/-- The report of a letter that is dropped without an error. -/
def dropping (reason : String) (l : Letter) : Event :=
  Event.internal .debug (reason ++ ", dropping mail to " ++ l.recipient)

/-- The report of a letter that is dropped for an error. -/
def unsent (l : Letter) (e : SubmissionError) : Event :=
  Event.plain .error ("Unable to send mail to " ++ Text.quote l.recipient ++ ": " ++ e.message) []

/-- The first half of a submission: sees that the mailer runs and notes pool and account. -/
def issue (m : Mailer T M) (l : Letter) : Option Nat × Mailer T M × List Event :=
  if !m.running then (none, m, [dropping "Mailer not initialized" l])
  else match m.current, m.account with
    | some pool, some account =>
      (some m.nextTicket, { m with
        tickets := m.tickets ++ [⟨m.nextTicket, l, pool, account⟩]
        nextTicket := m.nextTicket + 1 }, [])
    | _, _ => (none, m, [dropping "Mailer shutting down" l])

variable [Multiplexer M]

/-- Offers a transfer to a slot of a pool. -/
def offer (m : Mailer T M) (pool i : Nat) (t : Transfer) :
    Except TransportError TransferId × Mailer T M :=
  match m.slot? pool i with
  | none => (.error .closed, m)
  | some s =>
    let (result, mux) := Multiplexer.add s.mux t
    (result, m.modifySlot pool i fun _ => mux)

/-- Hands a transfer to a slot that is held, unless the flag was cleared meanwhile. The slot is let
go in any case; a transfer that is taken is counted before that. -/
def attach (m : Mailer T M) (l : Letter) (pool i : Nat) (t : Transfer) : Mailer T M × List Event :=
  if !m.running then ((m.unlock pool i).count .rejected, [dropping "Mailer shut down" l])
  else match m.offer pool i t with
    | (.ok id, m) =>
      ((m.count .attached).unlock pool i,
        [Event.plain .trace ("Queued mail to " ++ l.recipient) [("transfer", .text id.render)]])
    | (.error e, m) => ((m.unlock pool i).count .rejected, [unsent l (.attach e)])

/-- Gives a ticket back, and with it the pool. -/
def discard (m : Mailer T M) (number : Nat) : Mailer T M :=
  { m with tickets := m.tickets.filter fun t => t.number != number }.releaseUnused

/-- The second half of a submission: prepares the transfer and hands it to a free slot of the pool
on the ticket. While every slot is held, nothing happens. -/
def redeem (m : Mailer T M) (number : Nat) (now : String) : Mailer T M × List Event :=
  match m.ticket? number with
  | none => (m, [])
  | some ticket =>
    let l := ticket.letter
    match l.prepare ticket.account m.dispatch.timeouts now with
    | .error e =>
      (((m.count .submitted).count .rejected).discard number, [unsent l e])
    | .ok t =>
      match (m.count .submitted).lockAny ticket.pool with
      | none => (m, [])
      | some (i, locked) =>
        let (m, events) := locked.attach l ticket.pool i t
        (m.discard number, events)

/-- Submits a letter. -/
def send (m : Mailer T M) (l : Letter) (now : String) : Mailer T M × List Event :=
  match m.issue l with
  | (none, m, events) => (m, events)
  | (some number, m, events) =>
    let (m, more) := m.redeem number now
    (m, events ++ more)

/-- Lets the poller go over all slots once. -/
def pass (m : Mailer T M) : Mailer T M × Poller.Work :=
  match m.poller with
  | none => (m, Poller.Work.none)
  | some id =>
    match m.pool? id with
    | none => (m, Poller.Work.none)
    | some p =>
      let r := Poller.pass m.dispatch.pollTimeout 0 p.slots m.stats p.size
      ({ m.setPool id ⟨r.slots⟩ with stats := r.stats }, r.work)

end Mailer

end Outbox
