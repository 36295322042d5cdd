import Outbox.Session.Error
import Outbox.Transparency

/-! # Replies of a mail server

A reply is a code of three digits and one or more lines of text. On the wire every line carries the
code, followed by a dash on all lines but the last.

* `Reply.Line.ofChars`: one line.
* `Reply.ofBytes`: the first complete reply of an octet string and its length, nothing while the
  last line is still to come, or the fault of the first line that no reply can hold.
* `Reply.render`: the wire form of a reply.
* `Reply.capabilities`, `Reply.offersAuth`: what a reply to EHLO advertises.
-/

set_option autoImplicit false

namespace Outbox

/-- A complete reply. -/
structure Reply where
  code : Nat
  lines : List String
  deriving DecidableEq, Repr

namespace Reply

/-- All lines as one text. -/
def text (r : Reply) : String := String.intercalate " " r.lines

/-- Whether a code says that a command is done. -/
def isPositive (code : Nat) : Bool := 200 ≤ code && code < 300

def isSuccess (r : Reply) : Bool := isPositive r.code

/-- Whether the server waits for more. -/
def isIntermediate (r : Reply) : Bool := 300 ≤ r.code && r.code < 400

/-- Whether the server refuses, for now or for good. -/
def isError (r : Reply) : Bool := 400 ≤ r.code && r.code < 600

/-! ## Capabilities -/

/-- What the lines behind the greeting line advertise. -/
def capabilities (r : Reply) : List String := r.lines.drop 1

/-- The parts of a character string between separators. -/
def split (isSeparator : Char → Bool) : List Char → List (List Char)
  | [] => [[]]
  | c :: cs =>
    if isSeparator c then [] :: split isSeparator cs
    else match split isSeparator cs with
      | w :: ws => (c :: w) :: ws
      | [] => [[c]]

/-- Equality up to the case of ASCII letters. -/
def sameWord (a b : List Char) : Bool := a.map Char.toLower == b.map Char.toLower

/-- The words of a capability. An equals sign separates like a space, for servers that write
`AUTH=`. -/
def capabilityWords (s : String) : List (List Char) :=
  split (fun c => c == ' ' || c == '=') s.toList

/-- Whether a capability line offers an AUTH mechanism. -/
def lineOffersAuth (mechanism line : String) : Bool :=
  match capabilityWords line with
  | keyword :: words =>
    sameWord keyword "AUTH".toList && words.any fun w => sameWord w mechanism.toList
  | [] => false

/-- Whether some capability line offers an AUTH mechanism. -/
def offersAuth (r : Reply) (mechanism : String) : Bool :=
  r.capabilities.any (lineOffersAuth mechanism)

/-! ## Lines -/

/-- One line of a reply. -/
structure Line where
  code : Nat
  isLast : Bool
  text : String
  deriving DecidableEq, Repr

/-- Cuts a character string behind `n` octets of its UTF-8 form, if a character ends there. -/
def cutOctets : Nat → List Char → Option (List Char × List Char)
  | 0, cs => some ([], cs)
  | _ + 1, [] => none
  | n + 1, c :: cs =>
    let size := (Utf8.encodeChar c).length
    if size ≤ n + 1 then (cutOctets (n + 1 - size) cs).map fun (a, b) => (c :: a, b) else none

/-- The number that decimal digits spell. -/
def decimal (cs : List Char) : Nat := cs.foldl (fun n c => n * 10 + (c.toNat - 0x30)) 0

/-- Reads one line, without its end: three digits, then nothing, a space or a dash, then text. -/
def Line.ofChars (cs : List Char) : Except ReplyFault Line :=
  match cutOctets 3 cs with
  | none => .error (.tooShort (String.ofList cs))
  | some (code, rest) =>
    if !code.all Char.isDigit then .error (.badCode (String.ofList code))
    else match rest with
      | [] => .ok ⟨decimal code, true, ""⟩
      | c :: text =>
        if c == ' ' then .ok ⟨decimal code, true, String.ofList text⟩
        else if c == '-' then .ok ⟨decimal code, false, String.ofList text⟩
        else .error (.badSeparator c)

/-- Reads one line of octets, without its end. -/
def Line.ofBytes (bytes : Bytes) : Except SessionError Line :=
  match Utf8.decodeChars bytes with
  | .error fault => .error (.notText fault)
  | .ok cs =>
    match Line.ofChars cs with
    | .error fault => .error (.badReply fault)
    | .ok line => .ok line

/-! ## Replies -/

/-- The lines of a reply that are already read: their code, and their texts in reverse. -/
abbrev Partial := Option (Nat × List String)

/-- Adds a line. All lines of a reply carry one code. -/
def Partial.add (seen : Partial) (line : Line) : Except SessionError (Nat × List String) :=
  match seen with
  | none => .ok (line.code, [line.text])
  | some (code, texts) =>
    if code = line.code then .ok (code, line.text :: texts)
    else .error (.badReply (.codeMismatch code line.code))

/-- A line, in reverse, without the CR that may precede its LF. -/
def dropCr (line : Bytes) : Bytes :=
  match line with
  | 13 :: rest => rest
  | line => line

/-- Reads on from the middle of a reply: `line` is the current line in reverse, `seen` the lines
before it and `consumed` the octets so far. Empty lines do not count. -/
def scan (line : Bytes) (seen : Partial) (consumed : Nat) :
    Bytes → Except SessionError (Option (Reply × Nat))
  | [] => .ok none
  | b :: rest =>
    if b ≠ lf then scan (b :: line) seen (consumed + 1) rest
    else if (dropCr line).isEmpty then scan [] seen (consumed + 1) rest
    else match Line.ofBytes (dropCr line).reverse with
      | .error e => .error e
      | .ok l =>
        match seen.add l with
        | .error e => .error e
        | .ok (code, texts) =>
          if l.isLast then .ok (some (⟨code, texts.reverse⟩, consumed + 1))
          else scan [] (some (code, texts)) (consumed + 1) rest

/-- The first complete reply of an octet string and the number of its octets. -/
def ofBytes (bytes : Bytes) : Except SessionError (Option (Reply × Nat)) := scan [] none 0 bytes

/-! ## The wire form -/

/-- A code in three digits. -/
def renderCode (code : Nat) : List Char :=
  Duration.padded 3 code

/-- One line with its end. -/
def renderLine (code : Nat) (isLast : Bool) (text : String) : Bytes :=
  Utf8.encodeChars (renderCode code ++ (if isLast then ' ' else '-') :: text.toList) ++ [cr, lf]

/-- The lines of a reply with their ends, the last one marked. -/
def renderLines (code : Nat) : List String → Bytes
  | [] => []
  | [text] => renderLine code true text
  | text :: rest => renderLine code false text ++ renderLines code rest

/-- A reply as a server sends it. -/
def render (r : Reply) : Bytes := renderLines r.code r.lines

end Reply

end Outbox
