/-! # Counters

What became of the mails, in five counters that only ever grow. A counter has no bound here: fewer
than 2^64 mails are taken to be counted in the life of a process, so that a word of 64 bits never
wraps.
-/

set_option autoImplicit false

namespace Outbox

/-- Mails by what became of them: submitted while the mailer ran, dropped before a multiplexer took
them, taken by a multiplexer, and reaped with either outcome. -/
structure Stats where
  submitted : Nat
  rejected : Nat
  attached : Nat
  delivered : Nat
  failed : Nat
  deriving DecidableEq, Repr

/-- The name of a counter. -/
inductive Counter where
  | submitted
  | rejected
  | attached
  | delivered
  | failed
  deriving DecidableEq, Repr

namespace Stats

def zero : Stats := ⟨0, 0, 0, 0, 0⟩

/-- One more. -/
def count (s : Stats) : Counter → Stats
  | .submitted => { s with submitted := s.submitted + 1 }
  | .rejected => { s with rejected := s.rejected + 1 }
  | .attached => { s with attached := s.attached + 1 }
  | .delivered => { s with delivered := s.delivered + 1 }
  | .failed => { s with failed := s.failed + 1 }

/-- Mails attached and not yet reaped, none if more were reaped than attached. -/
def inFlight (s : Stats) : Nat := s.attached - s.delivered - s.failed

/-- Mails reaped with either outcome. -/
def reaped (s : Stats) : Nat := s.delivered + s.failed

end Stats

end Outbox
