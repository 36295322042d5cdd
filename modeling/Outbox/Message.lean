import Outbox.Date
import Outbox.Text.Utf8

/-! # Notification messages

A plain text message: six header lines in fixed order, an empty line, the body.

* `Draft`: what the sender chooses, each part set separately.
* `Draft.compose`: the message, or which header has no value. A CR or LF in a header value is
  dropped, so a value never leaves its line.
-/

set_option autoImplicit false

namespace Outbox

/-- A header that cannot be written. -/
inductive DraftError where
  | missingHeader (name : String)
  deriving DecidableEq, Repr

def DraftError.message : DraftError → String
  | .missingHeader name => "Message has no " ++ name ++ " header"

/-- Address and display name of a sender. -/
structure Sender where
  address : String
  name : String
  deriving DecidableEq, Repr

/-- The parts of a message chosen so far. -/
structure Draft where
  sender : Option Sender
  recipient : Option String
  subject : String
  body : String
  date : Option Timestamp
  deriving DecidableEq, Repr

namespace Draft

/-- Nothing chosen yet. -/
def empty : Draft := ⟨none, none, "", "", none⟩

def withSender (d : Draft) (address name : String) : Draft := { d with sender := some ⟨address, name⟩ }

def withRecipient (d : Draft) (address : String) : Draft := { d with recipient := some address }

def withSubject (d : Draft) (subject : String) : Draft := { d with subject := subject }

def withBody (d : Draft) (body : String) : Draft := { d with body := body }

def withDate (d : Draft) (date : Timestamp) : Draft := { d with date := some date }

/-! ## Header values -/

def isLineBreak (c : Char) : Bool := c == '\r' || c == '\n'

/-- A text without its line breaks. -/
def oneLine (cs : List Char) : List Char := cs.filter fun c => !isLineBreak c

/-- A character of a display name inside its quotes. -/
def escapeName (c : Char) : List Char :=
  if isLineBreak c then [] else if c == '"' || c == '\\' then ['\\', c] else [c]

/-- A display name between double quotes. -/
def quotedName (name : List Char) : List Char := '"' :: name.flatMap escapeName ++ ['"']

/-- A header line with its end. -/
def headerLine (name : String) (value : List Char) : List Char :=
  name.toList ++ [':', ' '] ++ oneLine value ++ ['\r', '\n']

/-- An address between angle brackets. -/
def angled (address : List Char) : List Char := '<' :: address ++ ['>']

/-- The characters of a message, given the text of its date. -/
def render (sender : Sender) (recipient subject body date : String) : List Char :=
  headerLine "MIME-Version" "1.0".toList ++
  headerLine "Content-Type" "text/plain; charset=UTF-8".toList ++
  headerLine "Date" date.toList ++
  headerLine "From"
    (quotedName sender.name.toList ++ ' ' :: angled (oneLine sender.address.toList)) ++
  headerLine "To" (angled recipient.toList) ++
  headerLine "Subject" subject.toList ++
  ['\r', '\n'] ++ body.toList

/-- The message, with `now` as the text of its date if none was chosen. A sender is asked for
before a recipient. -/
def compose (d : Draft) (now : String) : Except DraftError String :=
  match d.sender with
  | none => .error (.missingHeader "From")
  | some sender =>
    match d.recipient with
    | none => .error (.missingHeader "To")
    | some recipient =>
      let date := match d.date with
        | some t => t.render
        | none => now
      .ok (String.ofList (render sender recipient d.subject d.body date))

end Draft

end Outbox
