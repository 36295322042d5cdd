import Outbox.Session.Error

/-! # Errors of transfers

* `TransferError`: why a transfer that ran did not deliver.
* `TransportError`: why a transfer or a multiplexer was not taken on.
-/

set_option autoImplicit false

namespace Outbox

/-- Why a transfer did not deliver. -/
inductive TransferError where
  | session (e : SessionError)
  | incomplete (part : String)
  | aborted (reason : String)
  deriving DecidableEq, Repr

namespace TransferError

def message : TransferError → String
  | session e => e.message
  | incomplete part => "Transfer is missing its " ++ part
  | aborted reason => "Transfer task ended abnormally: " ++ reason

def causes : TransferError → List String
  | session e => e.causes
  | _ => []

/-- Whether a later attempt may fare better. -/
def isTransient : TransferError → Bool
  | session e => e.isTransient
  | _ => false

end TransferError

/-- How a transfer ended. -/
abbrev Outcome := Except TransferError Unit

/-- Why a transport or a multiplexer does not do its part. -/
inductive TransportError where
  | runtime (fault : SystemFault)
  | rejected (reason : String)
  | closed
  | unavailable (text : String)
  deriving DecidableEq, Repr

namespace TransportError

def message : TransportError → String
  | runtime fault => "Unable to start transport runtime: " ++ fault.message
  | rejected reason => "Transfer rejected: " ++ reason
  | closed => "Multiplexer has been shut down"
  | unavailable text => text

def causes : TransportError → List String
  | runtime fault => [fault.message]
  | _ => []

end TransportError

end Outbox
