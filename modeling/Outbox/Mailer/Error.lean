import Outbox.Settings.Error
import Outbox.Transfer.Error

/-! # Errors of the mailer's lifecycle

Why a mailer does not start or does not take new settings. Whatever the attempt had acquired is
released again.
-/

set_option autoImplicit false

namespace Outbox

/-- Why a mailer does not start or change its settings. -/
inductive LifecycleError where
  | settings (e : SettingsError)
  | alreadyRunning
  | transport (e : TransportError)
  | multiplexer (slot : Nat) (e : TransportError)
  | poller (fault : SystemFault)
  deriving DecidableEq, Repr

namespace LifecycleError

def message : LifecycleError → String
  | settings e => "Invalid mail configuration: " ++ e.message
  | alreadyRunning => "Mailer is already initialized"
  | transport e => "Transport failed to initialize: " ++ e.message
  | multiplexer slot e =>
    "Failed to allocate multiplexer for slot " ++ toString slot ++ ": " ++ e.message
  | poller fault => "Failed to start poller thread: " ++ fault.message

/-- The errors underneath, outermost first. -/
def causes : LifecycleError → List String
  | settings e => e.message :: e.causes
  | alreadyRunning => []
  | transport e => e.message :: e.causes
  | multiplexer _ e => e.message :: e.causes
  | poller fault => [fault.message]

end LifecycleError

end Outbox
