import Outbox.Mailer

/-! # Runs of a mailer

What is done to a mailer from outside, one thing after the other, and what each of them shows.

* `Operation`: what is done in one go.
* `Move`: an operation, or one half of a submission. Between the halves of a submission other moves
  may fall, also of other submissions.
* `Mailer.run`: one move after the other.
-/

set_option autoImplicit false

namespace Outbox

/-- What is done to a mailer in one go. -/
inductive Operation where
  /-- A start, with what keeps the poller from being started, if anything does. -/
  | start (p : Preferences) (fault : Option SystemFault := none)
  | reconfigure (p : Preferences)
  | send (l : Letter) (now : String)
  /-- The poller goes over all slots once. -/
  | pass
  | shutdown
  deriving DecidableEq, Repr

/-- An operation, or one half of a submission. -/
inductive Move where
  | whole (o : Operation)
  | issue (l : Letter)
  | redeem (number : Nat) (now : String)
  deriving DecidableEq, Repr

/-- What a move shows: how it ended, the ticket it gave out, what it reported, and what the poller
asked of which slot. -/
structure Shown where
  result : Except LifecycleError Unit
  ticket : Option Nat
  events : List Event
  asked : List (Nat × Poller.Call)

namespace Mailer

variable {T M : Type} [Multiplexer M] [Transport T M]

/-- What is left after an operation, and what it showed. -/
def operate (m : Mailer T M) : Operation → Shown × Mailer T M
  | .start p fault =>
    let (result, m, events) := m.start p fault
    (⟨result, none, events, []⟩, m)
  | .reconfigure p =>
    let (result, m, events) := m.reconfigure p
    (⟨result, none, events, []⟩, m)
  | .send l now =>
    let (m, events) := m.send l now
    (⟨.ok (), none, events, []⟩, m)
  | .pass =>
    let (m, work) := m.pass
    (⟨.ok (), none, work.events, work.calls⟩, m)
  | .shutdown =>
    let (m, events) := m.shutdown
    (⟨.ok (), none, events, []⟩, m)

/-- What is left after a move, and what it showed. -/
def move (m : Mailer T M) : Move → Shown × Mailer T M
  | .whole o => m.operate o
  | .issue l =>
    let (ticket, m, events) := m.issue l
    (⟨.ok (), ticket, events, []⟩, m)
  | .redeem number now =>
    let (m, events) := m.redeem number now
    (⟨.ok (), none, events, []⟩, m)

/-- One move after the other. -/
def run (m : Mailer T M) : List Move → List Shown × Mailer T M
  | [] => ([], m)
  | v :: rest =>
    let (shown, m) := m.move v
    let (more, m) := m.run rest
    (shown :: more, m)

/-- The mailer after some operations, each in one go. -/
def after (m : Mailer T M) (operations : List Operation) : Mailer T M :=
  (m.run (operations.map .whole)).2

/-- The multiplexers that are alive. -/
def multiplexers (m : Mailer T M) : List M := m.pools.flatMap fun p => p.2.slots.map Slot.mux

end Mailer

end Outbox
