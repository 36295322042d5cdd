/-! # Transport security

How the connection to a mail server is secured.
-/

set_option autoImplicit false

namespace Outbox

/-- TLS from the first octet, or none at all. -/
inductive TlsMode where
  | implicit
  | disabled
  deriving DecidableEq, Repr

namespace TlsMode

/-- The mode of settings that name none. -/
def standard : TlsMode := implicit

def name : TlsMode → String
  | implicit => "implicit"
  | disabled => "disabled"

/-- The mode of a name. -/
def ofName? (s : String) : Option TlsMode :=
  match s with
  | "implicit" => some implicit
  | "disabled" => some disabled
  | _ => none

@[simp] theorem ofName?_name (m : TlsMode) : ofName? m.name = some m := by cases m <;> rfl

/-- The scheme of a server's URL. -/
def scheme : TlsMode → String
  | implicit => "smtps"
  | disabled => "smtp"

def isSecure : TlsMode → Bool
  | implicit => true
  | disabled => false

/-- The TCP port of a server that names none. -/
def defaultPort : TlsMode → UInt16
  | implicit => 465
  | disabled => 25

/-- The mode as diagnostics show it. -/
def describe : TlsMode → String
  | implicit => "Implicit"
  | disabled => "Disabled"

end TlsMode

end Outbox
