import Outbox.Text.Utf8

/-! # Transparency of message data

The form in which message data travels after the DATA command: lines end with CRLF, a line that
starts with a dot gets a second one, and a lone dot marks the end.

* `Encoder.encode`, `Encoder.finish`: the sending side. Data comes in chunks of any size; the
  encoder remembers whether it is at the start of a line and whether a CR came last.
* `Receiver.ofBytes`: the receiving side, which cuts at CRLF, stops at the lone dot and takes the
  second dots away.
* `normalize`: what the receiver ends up with, said without dots: every bare LF is a CRLF and the
  last line is closed.
-/

set_option autoImplicit false

namespace Outbox

def cr : UInt8 := 13

def lf : UInt8 := 10

def dot : UInt8 := 46

/-! ## Sending -/

/-- Where the data so far ends. -/
structure Encoder where
  atLineStart : Bool
  afterCr : Bool
  deriving DecidableEq, Repr

namespace Encoder

/-- Before any data. -/
def start : Encoder := ⟨true, false⟩

/-- What one octet of data becomes. -/
def octet (e : Encoder) (b : UInt8) : Bytes :=
  if b = dot ∧ e.atLineStart then [dot, dot]
  else if b = lf ∧ ¬ e.afterCr then [cr, lf]
  else [b]

/-- Where the data ends behind one more octet. -/
def after (b : UInt8) : Encoder := ⟨b == lf, b == cr⟩

/-- The encoded form of a chunk, with `out` before it in reverse. -/
def encodeOnto (e : Encoder) (out : Bytes) : Bytes → Bytes × Encoder
  | [] => (out.reverse, e)
  | b :: rest => encodeOnto (after b) ((e.octet b).reverse ++ out) rest

/-- The encoded form of a chunk, and where the data then ends. -/
def encode (e : Encoder) (chunk : Bytes) : Bytes × Encoder := e.encodeOnto [] chunk

/-- Closes the last line. -/
def close (e : Encoder) : Bytes :=
  if e.afterCr then [lf] else if e.atLineStart then [] else [cr, lf]

/-- The end of the data. The encoder is then ready for the next message. -/
def finish (e : Encoder) : Bytes × Encoder := (e.close ++ [dot, cr, lf], start)

/-- A whole message in one piece. -/
def message (data : Bytes) : Bytes :=
  let (body, e) := start.encode data
  body ++ e.finish.1

end Encoder

/-! ## Receiving -/

namespace Receiver

/-- The octets before the first CRLF and those behind it. -/
def cutLine (line : Bytes) : Bytes → Option (Bytes × Bytes)
  | 13 :: 10 :: rest => some (line.reverse, rest)
  | b :: rest => cutLine (b :: line) rest
  | [] => none

/-- The CRLF-terminated lines of an octet string, and what follows the last CRLF. -/
def lines (line : Bytes) (found : List Bytes) : Bytes → List Bytes × Bytes
  | 13 :: 10 :: rest => lines [] (line.reverse :: found) rest
  | b :: rest => lines (b :: line) found rest
  | [] => (found.reverse, line.reverse)

/-- A line without the dot that the sender put in front. -/
def unstuff : Bytes → Bytes
  | 46 :: line => line
  | line => line

/-- The message that a receiver takes from encoded data: the lines before the lone dot, each
without its extra dot and with its CRLF. -/
def ofBytes (data : Bytes) : Bytes :=
  let (found, _) := lines [] [] data
  (found.takeWhile (· ≠ [dot])).flatMap fun line => unstuff line ++ [cr, lf]

end Receiver

/-! ## What arrives -/

/-- Every LF that no CR precedes becomes CRLF. -/
def crlfLines (afterCr : Bool) : Bytes → Bytes
  | [] => []
  | b :: rest =>
    (if b = lf ∧ ¬ afterCr then [cr, lf] else [b]) ++ crlfLines (b == cr) rest

/-- Bare line feeds become CRLF and the last line is closed. -/
def normalize (data : Bytes) : Bytes :=
  let body := crlfLines false data
  match body.getLast? with
  | none => []
  | some b => if b = lf then body else if b = cr then body ++ [lf] else body ++ [cr, lf]

end Outbox
