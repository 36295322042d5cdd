import Outbox.Ron.Gap
import Outbox.Ron.Number

/-! # String and character literals of RON

* `text`: the text of a string literal, plain with escapes or raw between `r#"` and `"#`.
* `character`, `octets`: the other quoted literals, of which only the extent matters.

Escapes are read by a machine that takes one character at a time (`Escape`).
-/

set_option autoImplicit false

namespace Outbox.Ron

/-- Where a scan inside quotes stands: outside escapes, behind a backslash, before or between the
two digits of `\x`, before the brace or among the digits of `\u`, or in the white space behind a
backslash at the end of a line. -/
inductive Escape where
  | outside
  | backslash
  | octet
  | octetLow (high : Nat)
  | brace
  | point (count value : Nat)
  | continued
  deriving DecidableEq, Repr

/-- What one character does: the next state, and the character it adds to the text. -/
abbrev Escape.Step := Option (Escape × Option Char)

/-- Whether a number is a code point that a text can hold. -/
def isScalar (n : Nat) : Bool := n < 0xD800 || (0xDFFF < n && n < 0x110000)

/-- The character that a letter behind a backslash stands for. -/
def short (c : Char) : Option Char :=
  match c with
  | '\'' => some '\''
  | '"' => some '"'
  | '\\' => some '\\'
  | 'n' => some '\n'
  | 'r' => some '\r'
  | 't' => some '\t'
  | '0' => some '\x00'
  | _ => none

/-- One character of a literal that does not end it. `binary` literals allow every octet as `\x`
and have no `\u`. -/
def Escape.step (binary : Bool) (e : Escape) (c : Char) : Escape.Step :=
  match e with
  | .outside => if c == '\\' then some (.backslash, none) else some (.outside, some c)
  | .backslash =>
    if c == 'x' then some (.octet, none)
    else if c == 'u' then if binary then none else some (.brace, none)
    else if c == '\n' then some (.continued, none)
    else (short c).map fun d => (.outside, some d)
  | .octet => (hexDigit c).map fun d => (.octetLow d, none)
  | .octetLow high =>
    (hexDigit c).bind fun d =>
      let n := high * 16 + d
      if binary || n < 0x80 then some (.outside, some (Char.ofNat n)) else none
  | .brace => if c == '\x7b' then some (.point 0 0, none) else none
  | .point count value =>
    if c == '\x7d' then
      if 0 < count && isScalar value then some (.outside, some (Char.ofNat value)) else none
    else if count < 6 then (hexDigit c).map fun d => (.point (count + 1) (value * 16 + d), none)
    else none
  | .continued =>
    if isSpace c then some (.continued, none)
    else if c == '\\' then some (.backslash, none)
    else some (.outside, some c)

/-- Whether a double quote ends the literal here. -/
def Escape.atEnd : Escape → Bool
  | .outside => true
  | .continued => true
  | _ => false

/-- The rest of a quoted literal, behind `seen` in reverse. -/
def quotedFrom (binary : Bool) (e : Escape) (seen : List Char) :
    List Char → Option (List Char × List Char)
  | [] => none
  | c :: rest =>
    if c == '"' && e.atEnd then some (seen.reverse, rest)
    else match e.step binary c with
      | none => none
      | some (e, none) => quotedFrom binary e seen rest
      | some (e, some d) => quotedFrom binary e (d :: seen) rest

/-- A quoted literal, from behind its opening quote. -/
def quoted (binary : Bool) (s : List Char) : Option (List Char × List Char) :=
  quotedFrom binary .outside [] s

/-- The rest of a raw literal that ends with a quote and so many number signs. -/
def rawFrom (marks : Nat) (seen : List Char) : List Char → Option (List Char × List Char)
  | [] => none
  | c :: rest =>
    if c == '"' && (List.replicate marks '#').isPrefixOf rest then
      some (seen.reverse, rest.drop marks)
    else rawFrom marks (c :: seen) rest

/-- A raw literal, from behind its `r`. -/
def raw (s : List Char) : Option (List Char × List Char) :=
  let marks := (s.takeWhile (· == '#')).length
  match s.drop marks with
  | '"' :: rest => rawFrom marks [] rest
  | _ => none

/-- The text of the string literal at the start of a document. -/
def text (s : List Char) : Option (List Char × List Char) :=
  match s with
  | '"' :: rest => quoted false rest
  | 'r' :: rest => raw rest
  | _ => none

/-- What follows the octet string at the start of a document. -/
def octets (s : List Char) : Option (List Char) :=
  match s with
  | 'b' :: '"' :: rest => (quoted true rest).map (·.2)
  | 'b' :: 'r' :: rest => (raw rest).map (·.2)
  | _ => none

/-- The character that an escape stands for, from inside the escape. -/
def escaped (binary : Bool) (e : Escape) : List Char → Option (Char × List Char)
  | [] => none
  | c :: rest =>
    match e.step binary c with
    | none => none
    | some (.continued, _) => none
    | some (e, none) => escaped binary e rest
    | some (_, some d) => some (d, rest)

/-- What follows a literal of one character, from behind its opening quote. -/
def character (binary : Bool) (s : List Char) : Option (List Char) :=
  let one := match s with
    | [] => none
    | '\\' :: rest => escaped binary .backslash rest
    | c :: rest => if binary && 0x80 ≤ c.toNat then none else some (c, rest)
  match one with
  | some (_, '\'' :: rest) => some rest
  | _ => none

end Outbox.Ron
