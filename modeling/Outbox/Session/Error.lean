import Outbox.Duration
import Outbox.Fault
import Outbox.Text.Quoted
import Outbox.Text.Utf8

/-! # Errors of a mail session

Why a session with a mail server fails: the connection, a reply that is not one, a refusal, the
trust in the server, time.

* `SessionError.message`: the error in words.
* `SessionError.isTransient`: whether a later attempt may fare better.
-/

set_option autoImplicit false

namespace Outbox

/-- What is wrong with a reply. -/
inductive ReplyFault where
  | tooShort (line : String)
  | badCode (code : String)
  | badSeparator (c : Char)
  | codeMismatch (expected found : Nat)
  | tooLarge (limit : Nat)
  | other (text : String)
  deriving DecidableEq, Repr

def ReplyFault.message : ReplyFault → String
  | tooShort line => "Response line too short: '" ++ line ++ "'"
  | badCode code => "Invalid status code: '" ++ code ++ "'"
  | badSeparator c => "Invalid separator character: '" ++ String.singleton c ++ "'"
  | codeMismatch expected found =>
    "Status code mismatch in multi-line response: expected " ++ toString expected ++ ", got " ++
      toString found
  | tooLarge limit => "Response too large (exceeds " ++ toString limit ++ " bytes)"
  | other text => text

/-- Why a bundle of certificates cannot be used. -/
inductive CertificateFault where
  | cannotOpen (path : String) (fault : SystemFault)
  | cannotRead (path : String) (fault : String)
  | notACertificate
  | noneFound (path : String)
  | emptyPlatformStore
  | other (text : String)
  deriving DecidableEq, Repr

def CertificateFault.message : CertificateFault → String
  | cannotOpen path fault => "Unable to open " ++ path ++ ": " ++ fault.message
  | cannotRead path fault => "Unable to parse " ++ path ++ ": " ++ fault
  | notACertificate => "Failed to add certificate: invalid peer certificate: BadEncoding"
  | noneFound path => "No certificates found in " ++ path
  | emptyPlatformStore => "Platform trust store is empty"
  | other text => text

/-- Why a secure connection is not made. -/
inductive TlsFault where
  | invalidDomain
  | handshake
  | other (text : String)
  deriving DecidableEq, Repr

def TlsFault.message : TlsFault → String
  | invalidDomain => "Invalid domain: invalid dns name"
  | handshake => "handshake failed"
  | other text => text

/-- Why a session with a mail server fails. -/
inductive SessionError where
  | io (fault : SystemFault)
  | badReply (fault : ReplyFault)
  | rejected (command : String) (code : Nat) (text : String)
  | certificate (fault : CertificateFault)
  | tls (fault : TlsFault)
  | noAuthMechanism
  | timeout (phase : String) (after : Duration)
  | closed
  | notText (fault : Utf8.Fault)
  deriving DecidableEq, Repr

namespace SessionError

def message : SessionError → String
  | io fault => "IO error: " ++ fault.message
  | badReply fault => "Failed to parse SMTP response: " ++ fault.message
  | rejected command code text => command ++ " rejected: " ++ toString code ++ " " ++ text
  | certificate fault => "Certificate error: " ++ fault.message
  | tls fault => "TLS error: " ++ fault.message
  | noAuthMechanism => "Server offers no supported AUTH mechanism"
  | timeout phase after => phase ++ " timed out after " ++ after.render
  | closed => "Connection closed unexpectedly"
  | notText fault => "UTF-8 error: " ++ fault.message

/-- The errors underneath, outermost first. -/
def causes : SessionError → List String
  | io fault => [fault.message]
  | notText fault => [fault.message]
  | _ => []

/-- Whether a later attempt may fare better: a temporary refusal, a timeout, a lost connection. -/
def isTransient : SessionError → Bool
  | rejected _ code _ => 400 ≤ code && code < 500
  | timeout _ _ => true
  | closed => true
  | _ => false

end SessionError

end Outbox
