import Outbox.Text.Blank
import Outbox.Text.Quoted
import Outbox.Message

/-! # Envelopes

Whom a mail is from and for, as the dialogue with a server writes it.

* `isMailbox`: the addresses that can stand between angle brackets on a command line.
* `path`: an address there, without white space around it.
* `Recipients.single`, `senderPath`: the paths of an address, or the error that names it.
-/

set_option autoImplicit false

namespace Outbox

/-- Why a text is not taken as an address. -/
inductive AddressError where
  | recipient (address : String)
  | sender (address : String)
  deriving DecidableEq, Repr

def AddressError.message : AddressError → String
  | recipient address => "Invalid recipient address " ++ Text.quote address
  | sender address => "Invalid sender address " ++ Text.quote address

namespace Envelope

/-- Whether a character would end a path or its line. -/
def breaksPath (c : Char) : Bool :=
  c == '\r' || c == '\n' || c == '<' || c == '>' || c == '\x00'

/-- Whether a text is an address: not blank, and without characters that would break its path. -/
def isMailbox (address : String) : Bool :=
  !Text.isBlankText address && !address.toList.any breaksPath

/-- An address between angle brackets, without white space around it. -/
def path (address : String) : String :=
  String.ofList (Draft.angled (Text.trimChars address.toList))

/-- The reverse-path of a sender. -/
def senderPath (address : String) : Except AddressError String :=
  if isMailbox address then .ok (path address) else .error (.sender address)

end Envelope

/-- The forward-paths of a mail. -/
structure Recipients where
  paths : List String
  deriving DecidableEq, Repr

namespace Recipients

/-- A single recipient. -/
def single (address : String) : Except AddressError Recipients :=
  if Envelope.isMailbox address then .ok ⟨[Envelope.path address]⟩ else .error (.recipient address)

def size (r : Recipients) : Nat := r.paths.length

def isEmpty (r : Recipients) : Bool := r.paths.isEmpty

end Recipients

end Outbox
