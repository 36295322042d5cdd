import Outbox.Base64
import Outbox.Inbox
import Outbox.Log
import Outbox.Payload

/-! # A session with a mail server

The client's side of the dialogue: commands, replies, credentials, message data.

* `Session`: what the peer still sends, where it stops to take what is written, what was written to
  it, what was reported.
* `Talk`: a step of the dialogue, which may fail or wait for a silent peer forever.
* `Talk.command`, `Talk.secret`: one line and its reply; a secret line is not reported.
* `Talk.authenticate`: AUTH by the best mechanism on offer.
* `Session.sendPayload`: message data, pulled from a payload in pieces of 16384 octets.
-/

set_option autoImplicit false

namespace Outbox

/-- A connection and what has happened on it. -/
structure Session where
  inbox : Inbox
  pieces : List Bytes
  ending : Ending
  blockage : Option Blockage
  written : Bytes
  shut : Bool
  events : List Event

namespace Session

/-- A session on a fresh connection. -/
def start (f : Inflow) (blockage : Option Blockage := none) : Session :=
  ⟨Inbox.empty, f.pieces, f.ending, blockage, [], false, []⟩

/-- Reports an event. -/
def report (s : Session) (e : Event) : Session := { s with events := s.events ++ [e] }

/-- Writes to the peer, which takes it unless the writing side is shut or the connection blocked. -/
def write (s : Session) (data : Bytes) : Except Stop Unit × Session :=
  if s.shut then (.error (.failed (.io .brokenPipe)), s)
  else match s.blockage with
    | none => (.ok (), { s with written := s.written ++ data })
    | some b =>
      if 0 < b.writes then
        (.ok (), { s with
          written := s.written ++ data
          blockage := some { b with writes := b.writes - 1 } })
      else
        (.error b.stop, { s with
          written := s.written ++ data.take b.through
          blockage := some { b with through := 0 } })

/-- Reads the next reply and reports it. -/
def readReply (s : Session) : Except Stop Reply × Session :=
  let (result, inbox, pieces) := s.inbox.readReply s.ending s.pieces
  let s := { s with inbox := inbox, pieces := pieces }
  match result with
  | .error e => (.error e, s)
  | .ok r => (.ok r, s.report (Event.incoming (toString r.code ++ " " ++ r.text)))

/-! ## Message data -/

/-- Octets asked of a payload at a time. -/
def chunkSize : Nat := 16384

/-- Writes what a payload still serves, encoded, in chunks of at most `size` octets, and then the
end of the data. The result counts the octets of data, `sent` of which went before. -/
def upload (size : Nat) (e : Encoder) (sent : Nat) (p : Payload) (s : Session) :
    Except Stop Nat × Payload × Session :=
  let n := min p.remaining size
  if _h : 0 < n then
    match s.write (e.encode (p.take size).1).1 with
    | (.error stop, s) => (.error stop, (p.take size).2, s)
    | (.ok (), s) => upload size (e.encode (p.take size).1).2 (sent + n) (p.take size).2 s
  else
    match s.write e.finish.1 with
    | (.error stop, s) => (.error stop, p, s)
    | (.ok (), s) => (.ok sent, p, s)
termination_by p.remaining
decreasing_by
  simp only [Payload.remaining_take]
  omega

/-- Sends a payload in chunks of at most `size` octets and reads the reply to it. -/
def sendInChunks (size : Nat) (p : Payload) (s : Session) :
    Except Stop Reply × Payload × Session :=
  match upload size Encoder.start 0 p s with
  | (.error stop, p, s) => (.error stop, p, s)
  | (.ok sent, p, s) =>
    let (result, s) :=
      (s.report (Event.outgoing ("<" ++ toString sent ++ " bytes of message data>"))).readReply
    (result, p, s)

/-- Sends a payload and reads the reply to it. -/
def sendPayload (p : Payload) (s : Session) : Except Stop Reply × Payload × Session :=
  s.sendInChunks chunkSize p

end Session

/-- A step of the dialogue. -/
abbrev Talk (α : Type) := ExceptT Stop (StateM Session) α

namespace Talk

/-- A step as a function on sessions. -/
def of {α : Type} (f : Session → Except Stop α × Session) : Talk α := ExceptT.mk f

def report (e : Event) : Talk Unit := of fun s => (.ok (), s.report e)

def readReply : Talk Reply := of Session.readReply

/-- A line with its end. -/
def line (text : String) : Bytes := Utf8.encode text ++ [cr, lf]

/-- Sends a line and reads the reply. -/
def exchange (text : String) : Talk Reply := do
  of fun s => s.write (line text)
  readReply

/-- Sends a command and reads the reply; both are reported. -/
def command (text : String) : Talk Reply := do
  report (Event.outgoing text)
  exchange text

/-- Sends a line that holds a secret; only its label is reported. -/
def secret (label text : String) : Talk Reply := do
  report (Event.outgoing (label ++ " <redacted>"))
  exchange text

def ehlo (domain : String) : Talk Reply := command ("EHLO " ++ domain)

/-- `path` is the reverse-path with its angle brackets. -/
def mailFrom (path : String) : Talk Reply := command ("MAIL FROM:" ++ path)

/-- `path` is the forward-path with its angle brackets. -/
def rcptTo (path : String) : Talk Reply := command ("RCPT TO:" ++ path)

def data : Talk Reply := command "DATA"

/-- Sends QUIT; once it is answered the writing side is shut. -/
def quit : Talk Reply := do
  let r ← command "QUIT"
  of fun s => (.ok (), { s with shut := true })
  return r

/-! ## Credentials -/

/-- User name and password as one Base64 token, NUL before each. -/
def plainToken (username password : String) : String :=
  Base64.encode ((0 : UInt8) :: Utf8.encode username ++ 0 :: Utf8.encode password)

def authPlain (username password : String) : Talk Reply :=
  secret "AUTH PLAIN" ("AUTH PLAIN " ++ plainToken username password)

/-- Refuses a reply that does not ask for the next credential. -/
def expectChallenge (r : Reply) : Talk Unit :=
  if r.code = 334 then pure () else throw (.failed (.rejected "AUTH LOGIN" r.code r.text))

/-- User name and password one after the other, each only when asked for. -/
def authLogin (username password : String) : Talk Reply := do
  let r ← command "AUTH LOGIN"
  expectChallenge r
  let r ← secret "AUTH LOGIN username" (Base64.encode (Utf8.encode username))
  expectChallenge r
  secret "AUTH LOGIN password" (Base64.encode (Utf8.encode password))

/-- AUTH by the best mechanism that the reply to EHLO offers. -/
def authenticate (ehlo : Reply) (username password : String) : Talk Reply :=
  if ehlo.offersAuth "PLAIN" then authPlain username password
  else if ehlo.offersAuth "LOGIN" then authLogin username password
  else throw (.failed .noAuthMechanism)

end Talk

end Outbox
