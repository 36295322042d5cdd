import Outbox.Log
import Outbox.Transfer
import Outbox.Transfer.Error

/-! # Multiplexers

A multiplexer holds transfers that make progress together, but only while someone drives it:
`wait` gives it time, `perform` lets every transfer go as far as it can. A transfer that has ended
shows up as a completion, to be read once, and can then be taken back.

* `Multiplexer`: the operations. Completions are finite in number and removing adds none, so that
  reading them all comes to an end.
* `Transport`: where multiplexers come from.
-/

set_option autoImplicit false

namespace Outbox

/-- The name of a transfer within its multiplexer. -/
structure TransferId where
  number : Nat
  deriving DecidableEq, Repr

def TransferId.render (id : TransferId) : String := "#" ++ toString id.number

/-- A transfer that has ended, and how. -/
structure Completion where
  id : TransferId
  outcome : Outcome

/-- A set of transfers that progress when driven. -/
class Multiplexer (M : Type) where
  /-- Takes a transfer on, or refuses it. -/
  add : M → Transfer → Except TransportError TransferId × M
  /-- How long the driver should wait for activity, if the multiplexer has a wish. -/
  timeout : M → Option Duration
  /-- Gives time to the transfers, at most so much. -/
  wait : M → Duration → M × List Event
  /-- Lets every transfer go as far as it can without waiting. -/
  perform : M → M × List Event
  /-- Reads the next completion. -/
  next : M → Option (Completion × M)
  /-- Takes a transfer back, or gives it up if it has not ended. -/
  remove : M → TransferId → Option Transfer × M
  /-- Completions that are not yet read. -/
  unread : M → Nat
  unread_next : ∀ {m m' : M} {c : Completion}, next m = some (c, m') → unread m' < unread m
  unread_remove : ∀ (m : M) (id : TransferId), unread (remove m id).2 ≤ unread m

/-- The process-wide side of sending: set up once, then a source of multiplexers. -/
class Transport (T : Type) (M : outParam Type) where
  /-- Prepares the transport. -/
  setUp : T → Except TransportError Unit × T
  /-- Undoes the preparation. -/
  tearDown : T → T
  /-- Makes an empty multiplexer. -/
  allocate : T → Except TransportError M × T
  /-- Reported when the transport is set up. -/
  ready : List Event
  /-- Reported when the transport is torn down. -/
  released : List Event

/-- What was asked of a transport, and whether it complied. -/
inductive TransportCall where
  | setUp (ok : Bool)
  | allocate (ok : Bool)
  | release
  | tearDown
  deriving DecidableEq, Repr

namespace TransportCall

/-- Times the transport was set up. -/
def setUps (calls : List TransportCall) : Nat := calls.count (.setUp true)

/-- Times the transport was torn down. -/
def tearDowns (calls : List TransportCall) : Nat := calls.count .tearDown

/-- Multiplexers that were asked for. -/
def attempts (calls : List TransportCall) : Nat :=
  calls.count (.allocate true) + calls.count (.allocate false)

/-- Multiplexers that were made and not yet released. -/
def live (calls : List TransportCall) : Nat := calls.count (.allocate true) - calls.count .release

end TransportCall

end Outbox
