import Outbox.Message
import Outbox.Transfer
import Outbox.Transfer.Error

/-! # Submissions

A letter is what a caller hands in; a transfer is what a multiplexer takes.

* `Letter.prepare`: the transfer of a letter for an account. The recipient is checked before the
  sender.
-/

set_option autoImplicit false

namespace Outbox

/-- A mail as a caller states it. -/
structure Letter where
  recipient : String
  sender : String
  senderName : String
  subject : String
  body : String
  deriving DecidableEq, Repr

/-- Why a letter does not reach a multiplexer. -/
inductive SubmissionError where
  | address (e : AddressError)
  | compose (e : DraftError)
  | attach (e : TransportError)
  deriving DecidableEq, Repr

namespace SubmissionError

def message : SubmissionError → String
  | address e => e.message
  | compose e => "Unable to compose message: " ++ e.message
  | attach e => "Unable to attach transfer: " ++ e.message

/-- The errors underneath, outermost first. -/
def causes : SubmissionError → List String
  | address _ => []
  | compose e => [e.message]
  | attach e => e.message :: e.causes

end SubmissionError

namespace Letter

/-- The draft of a letter. Its date is left to the moment of composing. -/
def draft (l : Letter) : Draft :=
  (((Draft.empty.withSender l.sender l.senderName).withRecipient l.recipient).withSubject
    l.subject).withBody l.body

/-- The transfer of a letter, composed at the date `now`. -/
def prepare (l : Letter) (a : Account) (t : Timeouts) (now : String) :
    Except SubmissionError Transfer := do
  let recipients ← (Recipients.single l.recipient).mapError .address
  let transfer ← ((Transfer.start (TransferOptions.ofAccount a t)).withSender l.sender).mapError
    .address
  let message ← (l.draft.compose now).mapError .compose
  return ((transfer.withRecipients recipients).withPayload (Payload.ofString message)).withUpload
    true

end Letter

end Outbox
