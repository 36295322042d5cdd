import Outbox.Envelope
import Outbox.Payload
import Outbox.Settings.Account
import Outbox.Settings.Timeouts

/-! # Transfers

A mail on its way: where it goes, whom it is from and for, and the message to be read.

* `TransferOptions`: the connection settings, captured from one account.
* `Transfer`: options, envelope and payload, each part given separately.
* `Transfer.missing`: the first part that a transfer still lacks; `Transfer.ready?` is the complete
  view of one that lacks nothing.
-/

set_option autoImplicit false

namespace Outbox

/-- Connection settings of one transfer. -/
structure TransferOptions where
  url : String
  host : String
  port : UInt16
  caStore : String
  username : String
  password : String
  tls : TlsMode
  helo : String
  timeouts : Timeouts
  deriving DecidableEq, Repr

namespace TransferOptions

/-- The settings of an account, under the limits of the dispatch engine. -/
def ofAccount (a : Account) (t : Timeouts) : TransferOptions where
  url := a.url
  host := a.host
  port := a.port
  caStore := a.caStore
  username := a.username
  password := a.password
  tls := a.tls
  helo := "localhost"
  timeouts := t

/-- Host and port to connect to. -/
def address (o : TransferOptions) : String := hostPort o.host o.port

/-- The settings as diagnostics show them. -/
def describe (o : TransferOptions) : String :=
  describeFields "TransferOptions"
    [("url", Text.quote o.url),
      ("port", toString o.port.toNat),
      ("ca_cert_store", Text.quote o.caStore),
      ("username", Text.quote o.username),
      ("password", redacted),
      ("tls", o.tls.describe),
      ("helo_domain", Text.quote o.helo)] true

end TransferOptions

/-- A part that a transfer needs before it can run. -/
inductive Part where
  | uploadFlag
  | sender
  | recipients
  | payload
  deriving DecidableEq, Repr

def Part.name : Part → String
  | uploadFlag => "upload flag"
  | sender => "sender"
  | recipients => "recipients"
  | payload => "payload"

/-- One outbound mail. -/
structure Transfer where
  options : TransferOptions
  mailFrom : Option String
  recipients : Option Recipients
  payload : Option Payload
  upload : Bool
  deriving Repr

namespace Transfer

/-- A transfer with nothing but its options. -/
def start (o : TransferOptions) : Transfer := ⟨o, none, none, none, false⟩

/-- Sets the sender, or refuses the address and keeps the sender that was set before. -/
def withSender (t : Transfer) (address : String) : Except AddressError Transfer :=
  match Envelope.senderPath address with
  | .ok path => .ok { t with mailFrom := some path }
  | .error e => .error e

def withRecipients (t : Transfer) (r : Recipients) : Transfer := { t with recipients := some r }

def withPayload (t : Transfer) (p : Payload) : Transfer := { t with payload := some p }

def withUpload (t : Transfer) (upload : Bool) : Transfer := { t with upload := upload }

/-- Takes the recipients out. -/
def takeRecipients (t : Transfer) : Option Recipients × Transfer :=
  (t.recipients, { t with recipients := none })

/-- Serves at most `n` octets of the payload, if there is one. -/
def readPayload (t : Transfer) (n : Nat) : Option Bytes × Transfer :=
  match t.payload with
  | none => (none, t)
  | some p => (some (p.take n).1, { t with payload := some (p.take n).2 })

/-- The transfer after so many more octets of its payload were served. -/
def served (t : Transfer) (n : Nat) : Transfer := (t.readPayload n).2

/-- The first part that the transfer lacks. -/
def missing (t : Transfer) : Option Part :=
  if !t.upload then some .uploadFlag
  else if t.mailFrom.isNone then some .sender
  else if t.recipients.isNone then some .recipients
  else if t.payload.isNone then some .payload
  else none

/-- What a delivery needs of a transfer. -/
structure Ready where
  options : TransferOptions
  mailFrom : String
  recipients : Recipients
  payload : Payload
  deriving Repr

/-- The complete transfer, or the first part that it lacks. -/
def ready? (t : Transfer) : Except Part Ready :=
  if !t.upload then .error .uploadFlag
  else match t.mailFrom, t.recipients, t.payload with
    | none, _, _ => .error .sender
    | some _, none, _ => .error .recipients
    | some _, some _, none => .error .payload
    | some sender, some recipients, some payload =>
      .ok ⟨t.options, sender, recipients, payload⟩

theorem ready?_isOk_iff {t : Transfer} : (∃ r, t.ready? = .ok r) ↔ t.missing = none := by
  rcases t with ⟨o, _ | f, _ | r, _ | b, _ | _⟩ <;> simp [ready?, missing]

theorem ready?_eq_ok_iff {t : Transfer} {r : Ready} : t.ready? = .ok r ↔
    t = ⟨r.options, some r.mailFrom, some r.recipients, some r.payload, true⟩ := by
  rcases t with ⟨o, _ | f, _ | v, _ | b, _ | _⟩ <;> cases r <;> simp [ready?]

end Transfer

end Outbox
