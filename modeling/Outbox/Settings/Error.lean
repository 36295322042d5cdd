import Outbox.Fault

/-! # Errors of settings

Why settings cannot be used: a value is missing or out of range, or their document cannot be read
or is not well-formed.
-/

set_option autoImplicit false

namespace Outbox

/-- Why settings cannot be used. -/
inductive SettingsError where
  | missingField (name : String)
  | portOutOfRange (port : UInt32)
  | unreadable (path : String) (fault : SystemFault)
  | malformed
  deriving DecidableEq, Repr

namespace SettingsError

def message : SettingsError → String
  | missingField name => "Missing required field: " ++ name
  | portOutOfRange port => "Port " ++ toString port.toNat ++ " is out of range (maximum is 65535)"
  | unreadable path fault => "Failed to read config from " ++ path ++ ": " ++ fault.message
  | malformed => "Failed to parse config"

/-- The errors underneath, outermost first. -/
def causes : SettingsError → List String
  | unreadable _ fault => [fault.message]
  | _ => []

/-- Whether the values are at fault and not their document. -/
def isValidation : SettingsError → Bool
  | missingField _ => true
  | portOutOfRange _ => true
  | _ => false

end SettingsError

end Outbox
