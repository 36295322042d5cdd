import Outbox.Session
import Outbox.Transfer
import Outbox.Transfer.Error

/-! # Deliveries

One transfer carried out against a mail server: connect, greeting, EHLO, AUTH if there is a user
name and the server offers a mechanism, MAIL FROM, RCPT TO for each recipient, DATA, the message,
QUIT. Each step is a phase with a limit; the first one that fails ends the delivery.

* `Phase`: the phases, their names and limits. `Span` is a phase that was entered.
* `Delivery.greet`, `authenticate`, `envelope`, `message`: the parts of the dialogue.
* `Transfer.Ready.deliver`: the whole of it. A message that the server has taken counts as delivered
  whatever becomes of QUIT. All that is reported belongs to one span, `Transfer.Ready.logSpan`.
-/

set_option autoImplicit false

namespace Outbox

/-- A phase of a delivery. -/
inductive Phase where
  | connect
  | greeting
  | ehlo
  | auth
  | mailFrom
  | rcptTo
  | data
  | message
  | quit
  deriving DecidableEq, Repr

namespace Phase

def name : Phase → String
  | connect => "connect"
  | greeting => "greeting"
  | ehlo => "EHLO"
  | auth => "AUTH"
  | mailFrom => "MAIL FROM"
  | rcptTo => "RCPT TO"
  | data => "DATA"
  | message => "message data"
  | quit => "QUIT"

/-- How long a phase may take. -/
def limit (t : Timeouts) : Phase → Duration
  | connect => t.connect
  | greeting => t.ehlo
  | ehlo => t.ehlo
  | auth => t.auth
  | mailFrom => t.mailFrom
  | rcptTo => t.rcptTo
  | data => t.data
  | message => t.data
  | quit => t.quit

/-- The codes that let a delivery go on behind a phase. -/
def accepts : Phase → Nat → Bool
  | greeting, code => code == 220
  | auth, code => code == 235
  | data, code => code == 354
  | _, code => Reply.isPositive code

end Phase

/-- A phase that was entered, and whether it ran out of time. -/
structure Span where
  phase : Phase
  limit : Duration
  expired : Bool
  deriving DecidableEq, Repr

/-- A delivery under way. -/
structure Delivery where
  session : Session
  payload : Payload
  limits : Timeouts
  spans : List Span

namespace Delivery

/-- A part of a delivery, which may end it. -/
abbrev Part (α : Type) := ExceptT SessionError (StateM Delivery) α

/-- The error of a phase that stopped: its own, or that its time is up. -/
def stopped (limits : Timeouts) (p : Phase) : Stop → SessionError
  | .failed e => e
  | .stalled => .timeout p.name (p.limit limits)

/-- The record of a phase that was entered and gave a result. -/
def span {α : Type} (limits : Timeouts) (p : Phase) (result : Except Stop α) : Span :=
  ⟨p, p.limit limits, match result with
    | .error .stalled => true
    | _ => false⟩

/-- Enters a phase that is a step of the dialogue. -/
def during {α : Type} (p : Phase) (talk : Talk α) : Part α :=
  ExceptT.mk fun d =>
    let (result, session) := talk.run d.session
    (result.mapError (stopped d.limits p),
      { d with session := session, spans := d.spans ++ [span d.limits p result] })

/-- Enters the phase that sends the message. -/
def sending : Part Reply :=
  ExceptT.mk fun d =>
    let (result, payload, session) := d.session.sendPayload d.payload
    (result.mapError (stopped d.limits .message),
      { d with
        session := session
        payload := payload
        spans := d.spans ++ [span d.limits .message result] })

def report (e : Event) : Part Unit :=
  ExceptT.mk fun d => (.ok (), { d with session := d.session.report e })

/-- Lets a reply pass if its phase accepts its code. -/
def expect (p : Phase) (r : Reply) : Part Reply :=
  if p.accepts r.code then pure r else throw (.rejected p.name r.code r.text)

/-- Enters a phase whose reply must be accepted. -/
def asking (p : Phase) (talk : Talk Reply) : Part Reply := do
  let r ← during p talk
  expect p r

/-- Greeting and EHLO; the reply to EHLO tells what the server can do. -/
def greet (helo : String) : Part Reply := do
  let _ ← asking .greeting Talk.readReply
  asking .ehlo (Talk.ehlo helo)

/-- Whether a reply to EHLO offers a mechanism that credentials can be sent by. -/
def offersCredentials (ehlo : Reply) : Bool := ehlo.offersAuth "PLAIN" || ehlo.offersAuth "LOGIN"

/-- AUTH, left out without a user name and without a mechanism on offer. -/
def authenticate (ehlo : Reply) (username password : String) : Part Unit :=
  if username.isEmpty then pure ()
  else if !offersCredentials ehlo then
    report (Event.plain .debug
      "Server offers neither AUTH PLAIN nor LOGIN, continuing without AUTH" [])
  else do
    let _ ← asking .auth (Talk.authenticate ehlo username password)
    return ()

/-- RCPT TO for each path. -/
def recipients : List String → Part Unit
  | [] => pure ()
  | path :: rest => do
    let _ ← asking .rcptTo (Talk.rcptTo path)
    recipients rest

/-- Sender and recipients. -/
def envelope (sender : String) (receivers : Recipients) : Part Unit := do
  let _ ← asking .mailFrom (Talk.mailFrom sender)
  recipients receivers.paths

/-- DATA and the message. -/
def message : Part Unit := do
  let _ ← asking .data Talk.data
  let r ← sending
  let _ ← expect .message r
  return ()

/-- QUIT; a failure is reported and changes nothing. -/
def leave : Part Unit :=
  tryCatch (do
      let _ ← during .quit Talk.quit
      return ())
    fun e => report (Event.plain .debug "QUIT failed after successful delivery"
      [("error", .text e.message)])

/-- The dialogue on a connection. -/
def dialogue (t : Transfer.Ready) : Part Unit := do
  let ehlo ← greet t.options.helo
  authenticate ehlo t.options.username t.options.password
  envelope t.mailFrom t.recipients
  message
  leave

end Delivery

/-- A delivery that is over: how it ended, the payload with what of it was read, what was written
if there was a connection, the phases entered and what was reported. -/
structure Delivered where
  outcome : Outcome
  payload : Payload
  written : Option Bytes
  spans : List Span
  events : List Event

namespace Transfer.Ready

/-- Connects as the options ask: with trust anchors from the first octet on, or in the clear. -/
def connect (n : Environment) (o : TransferOptions) :
    Except SessionError Inflow × List Span × List Event :=
  let p := Phase.connect
  if o.tls.isSecure then
    match n.trust o.caStore with
    | (.error e, events) => (.error e, [], events)
    | (.ok trust, events) =>
      let result := n.connectSecure o.address o.host trust
      (result.mapError (Delivery.stopped o.timeouts p), [Delivery.span o.timeouts p result], events)
  else
    let result := n.connect o.address
    (result.mapError (Delivery.stopped o.timeouts p), [Delivery.span o.timeouts p result], [])

/-- A delivery on a fresh connection. -/
def opened (t : Ready) (f : Inflow) (blockage : Option Blockage) (spans : List Span)
    (events : List Event) : Delivery where
  session := { Session.start f blockage with events := events }
  payload := t.payload
  limits := t.options.timeouts
  spans := spans

/-- Carries out the dialogue on a connection. -/
def converse (t : Ready) (f : Inflow) (blockage : Option Blockage) (spans : List Span)
    (events : List Event) : Delivered :=
  let (result, d) := (Delivery.dialogue t).run (t.opened f blockage spans events)
  ⟨result.mapError .session, d.payload, some d.session.written, d.spans, d.session.events⟩

/-- The span that a delivery is reported within. -/
def logSpan (o : TransferOptions) : LogSpan where
  name := "execute"
  level := .debug
  fields := [("server", o.url), ("port", toString o.port.toNat)]

/-- Connects and carries out the dialogue. -/
def execute (n : Environment) (t : Ready) : Delivered :=
  match connect n t.options with
  | (.error e, spans, events) => ⟨.error (.session e), t.payload, none, spans, events⟩
  | (.ok f, spans, events) => t.converse f (n.blockage t.options.address) spans events

/-- Carries out a complete transfer. All that it reports is within one span. -/
def deliver (n : Environment) (t : Ready) : Delivered :=
  let d := t.execute n
  { d with events := d.events.map (Event.within (logSpan t.options)) }

end Transfer.Ready

end Outbox
