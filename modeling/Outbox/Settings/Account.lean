import Outbox.Settings.Error
import Outbox.Settings.Tls
import Outbox.Text.Quoted

/-! # Mail server settings

* `Preferences`: what a user may state about the mail server; anything may be left out.
* `Account`: a complete choice, made by `Preferences.validate` and never changed.
* `Preferences.describe`, `Account.describe`: the values as diagnostics show them. A password never
  shows.
-/

set_option autoImplicit false

namespace Outbox

/-- Unchecked mail server settings. Port 0 asks for the default port. -/
structure Preferences where
  caStore : Option String
  server : Option String
  port : UInt32
  username : Option String
  password : Option String
  tls : TlsMode
  deriving DecidableEq, Repr

/-- Complete mail server settings. An empty CA store asks for the platform's. -/
structure Account where
  caStore : String
  url : String
  host : String
  port : UInt16
  username : String
  password : String
  tls : TlsMode
  deriving DecidableEq, Repr

/-- Host and port as a connection needs them. -/
def hostPort (host : String) (port : UInt16) : String := host ++ ":" ++ toString port.toNat

def Account.address (a : Account) : String := hostPort a.host a.port

namespace Preferences

/-- Nothing stated. -/
def standard : Preferences := ⟨none, none, 0, none, none, TlsMode.standard⟩

/-- A stated text, or the error that names its field. -/
def need (name : String) (value : Option String) : Except SettingsError String :=
  match value with
  | some s => .ok s
  | none => .error (.missingField name)

/-- The port to use: the stated one if it is a TCP port, the mode's default for 0. -/
def choosePort (port : UInt32) (tls : TlsMode) : Except SettingsError UInt16 :=
  if port.toNat < 65536 then
    .ok (if port = 0 then tls.defaultPort else UInt16.ofNat port.toNat)
  else .error (.portOutOfRange port)

/-- Checks the settings. The first fault counts, in the order CA store, server, port, user name,
password. -/
def validate (p : Preferences) : Except SettingsError Account := do
  let caStore ← need "ca_cert_store" p.caStore
  let host ← need "server" p.server
  let port ← choosePort p.port p.tls
  let username ← need "username" p.username
  let password ← need "password" p.password
  return {
    caStore := caStore
    url := p.tls.scheme ++ "://" ++ host
    host := host
    port := port
    username := username
    password := password
    tls := p.tls }

end Preferences

/-! ## Diagnostics -/

/-- What diagnostics show in place of a password. -/
def redacted : String := Text.quote "<redacted>"

/-- An optional value as diagnostics show it. -/
def describeOption (shown : Option String) : String :=
  match shown with
  | some s => "Some(" ++ s ++ ")"
  | none => "None"

/-- A named group of fields as diagnostics show it; `rest` says that there are more. -/
def describeFields (name : String) (fields : List (String × String)) (rest : Bool) : String :=
  let shown := fields.map fun f => f.1 ++ ": " ++ f.2
  name ++ " \x7b " ++ String.intercalate ", " (if rest then shown ++ [".."] else shown) ++ " \x7d"

def Preferences.describe (p : Preferences) : String :=
  describeFields "SmtpPreferences"
    [("ca_cert_store", describeOption (p.caStore.map Text.quote)),
      ("server", describeOption (p.server.map Text.quote)),
      ("port", toString p.port.toNat),
      ("username", describeOption (p.username.map Text.quote)),
      ("password", describeOption (p.password.map fun _ => redacted)),
      ("tls", p.tls.describe)] false

def Account.describe (a : Account) : String :=
  describeFields "SmtpConfig"
    [("ca_cert_store", Text.quote a.caStore),
      ("url", Text.quote a.url),
      ("port", toString a.port.toNat),
      ("username", Text.quote a.username),
      ("password", redacted),
      ("tls", a.tls.describe)] true

end Outbox
