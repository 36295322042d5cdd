import Outbox.Ron.Printer
import Outbox.Ron.Reader
import Outbox.Settings.Account
import Outbox.Settings.Dispatch
import Outbox.Text.Utf8

/-! # The settings document

All settings of the program as one RON document.

* `Settings.ofRon`: the settings that a document states. What it leaves out keeps its standard
  value, fields it should not have are ignored, and a field stated twice is an error.
* `Settings.toRon`: the document that states every setting.
-/

set_option autoImplicit false

namespace Outbox

/-- All settings of the program. -/
structure Settings where
  smtp : Preferences
  dispatch : DispatchSettings
  deriving DecidableEq, Repr

/-- The settings of an empty document. -/
def Settings.standard : Settings := ⟨Preferences.standard, DispatchSettings.standard⟩

namespace Settings

open Ron

/-! ## Reading -/

/-- The fields of a record that may carry its name. -/
def fieldsOf (ext : Extensions) (name : String) (v : Value) : Option (List (List Char × Value)) :=
  let named (n : Option (List Char)) := match n with
    | some n => n == name.toList
    | none => !ext.explicitNames
  match v with
  | .record n fields => if named n then some fields else none
  | .tuple n [] => if named n then some [] else none
  | _ => none

/-- The value of a field: read if it is stated once, standard if it is not stated. -/
def fieldOr {α : Type} (fields : List (List Char × Value)) (name : String)
    (read : Value → Option α) (standard : α) : Option α :=
  match fields.filter fun f => f.1 == name.toList with
  | [] => some standard
  | [(_, v)] => read v
  | _ => none

/-- A word of so many bits without sign. A suffix must name that type. -/
def readWord (bits : Nat) (v : Value) : Option Nat :=
  match v with
  | .integer n =>
    let word : Width := ⟨false, bits⟩
    if (n.width == none || n.width == some word) && word.fits n.negative n.magnitude then
      some n.magnitude
    else none
  | _ => none

def readUInt64 (v : Value) : Option UInt64 := (readWord 64 v).map UInt64.ofNat

def readUInt32 (v : Value) : Option UInt32 := (readWord 32 v).map UInt32.ofNat

def readPoolSize (v : Value) : Option PoolSize := (readWord 64 v).bind PoolSize.ofNat?

def readText (v : Value) : Option String :=
  match v with
  | .text s => some (String.ofList s)
  | _ => none

/-- A text that may be absent. An extension allows it without the mark of a present value. -/
def readOption (ext : Extensions) (v : Value) : Option (Option String) :=
  match v with
  | .nothing => some none
  | .something v => (readText v).map some
  | v => if ext.implicitSome then (readText v).map some else none

def readTls (v : Value) : Option TlsMode :=
  match v with
  | .word name => TlsMode.ofName? (String.ofList name)
  | _ => none

def readTimeouts (ext : Extensions) (v : Value) : Option Timeouts := do
  let fs ← fieldsOf ext "ClientTimeouts" v
  let connect ← fieldOr fs "connect_secs" readUInt64 Timeouts.Default.connectSecs
  let ehlo ← fieldOr fs "ehlo_secs" readUInt64 Timeouts.Default.ehloSecs
  let auth ← fieldOr fs "auth_secs" readUInt64 Timeouts.Default.authSecs
  let mailFrom ← fieldOr fs "mail_from_secs" readUInt64 Timeouts.Default.mailFromSecs
  let rcptTo ← fieldOr fs "rcpt_to_secs" readUInt64 Timeouts.Default.rcptToSecs
  let data ← fieldOr fs "data_secs" readUInt64 Timeouts.Default.dataSecs
  let quit ← fieldOr fs "quit_secs" readUInt64 Timeouts.Default.quitSecs
  return ⟨connect, ehlo, auth, mailFrom, rcptTo, data, quit⟩

def readPreferences (ext : Extensions) (v : Value) : Option Preferences := do
  let fs ← fieldsOf ext "SmtpPreferences" v
  let caStore ← fieldOr fs "ca_cert_store" (readOption ext) none
  let server ← fieldOr fs "server" (readOption ext) none
  let port ← fieldOr fs "port" readUInt32 0
  let username ← fieldOr fs "username" (readOption ext) none
  let password ← fieldOr fs "password" (readOption ext) none
  let tls ← fieldOr fs "tls" readTls TlsMode.standard
  return ⟨caStore, server, port, username, password, tls⟩

def readDispatch (ext : Extensions) (v : Value) : Option DispatchSettings := do
  let fs ← fieldsOf ext "DispatchConfig" v
  let poolSize ← fieldOr fs "pool_size" readPoolSize DispatchSettings.Default.poolSize
  let pollTimeout ←
    fieldOr fs "default_poll_timeout_ms" readUInt64 DispatchSettings.Default.pollTimeoutMs
  let timeouts ← fieldOr fs "timeouts" (readTimeouts ext) Timeouts.standard
  return ⟨poolSize, pollTimeout, timeouts⟩

def readSettings (ext : Extensions) (v : Value) : Option Settings := do
  let fs ← fieldsOf ext "HeraldConfig" v
  let smtp ← fieldOr fs "smtp" (readPreferences ext) Preferences.standard
  let dispatch ← fieldOr fs "dispatch" (readDispatch ext) DispatchSettings.standard
  return ⟨smtp, dispatch⟩

/-- The settings that a document states. -/
def ofRon (document : String) : Except SettingsError Settings :=
  match Ron.document document.toList with
  | none => .error .malformed
  | some d =>
    match readSettings d.extensions d.value with
    | none => .error .malformed
    | some s => .ok s

/-- The mode that a document of its own states. -/
def tlsOfRon (document : String) : Except SettingsError TlsMode :=
  match (Ron.document document.toList).bind fun d => readTls d.value with
  | none => .error .malformed
  | some m => .ok m

/-! ## Writing -/

open Printer

def timeoutsRon (t : Timeouts) : List Char :=
  record [("connect_secs", number t.connectSecs.toNat), ("ehlo_secs", number t.ehloSecs.toNat),
    ("auth_secs", number t.authSecs.toNat), ("mail_from_secs", number t.mailFromSecs.toNat),
    ("rcpt_to_secs", number t.rcptToSecs.toNat), ("data_secs", number t.dataSecs.toNat),
    ("quit_secs", number t.quitSecs.toNat)]

def preferencesRon (p : Preferences) : List Char :=
  record [("ca_cert_store", Printer.option (p.caStore.map quoted)),
    ("server", Printer.option (p.server.map quoted)),
    ("port", number p.port.toNat),
    ("username", Printer.option (p.username.map quoted)),
    ("password", Printer.option (p.password.map quoted)),
    ("tls", p.tls.name.toList)]

def dispatchRon (d : DispatchSettings) : List Char :=
  record [("pool_size", number d.poolSize.count),
    ("default_poll_timeout_ms", number d.pollTimeoutMs.toNat),
    ("timeouts", timeoutsRon d.timeouts)]

/-- The document that states every setting. -/
def toRon (s : Settings) : String :=
  String.ofList (record [("smtp", preferencesRon s.smtp), ("dispatch", dispatchRon s.dispatch)])

/-! ## Files -/

/-- The settings in a file, from what reading the file gave. -/
def ofFile (path : String) (content : Except SystemFault Bytes) : Except SettingsError Settings :=
  match content with
  | .error fault => .error (.unreadable path fault)
  | .ok bytes =>
    match Utf8.decode bytes with
    | .error _ => .error (.unreadable path .notText)
    | .ok document => ofRon document

end Settings

end Outbox
