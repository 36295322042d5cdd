import Outbox.Reply

/-! # Names of servers

The names that a secure connection can check a server against: DNS names and numeric addresses.

* `isDnsName`: labels of letters, digits, underscores and inner hyphens, 63 octets each and 253 in
  all; the last label is not a number.
* `isServerName`: a DNS name or an address of either version.
-/

set_option autoImplicit false

namespace Outbox.ServerName

/-- Where a scan of a DNS name stands: at the start of the first or a later label, behind digits
only, behind other characters, or behind a hyphen. -/
inductive Scan where
  | start
  | label
  | labelAfterNumber
  | number (len : Nat)
  | text (len : Nat)
  | hyphen (len : Nat)
  deriving DecidableEq, Repr

def Scan.length : Scan → Nat
  | number n => n
  | text n => n
  | hyphen n => n
  | _ => 0

/-- One character of a DNS name. -/
def Scan.step (s : Scan) (c : Char) : Option Scan :=
  if c == '.' then
    match s with
    | .text _ => some .label
    | .number _ => some .labelAfterNumber
    | _ => none
  else if 63 ≤ s.length then none
  else if c.isDigit then
    match s with
    | .start | .label | .labelAfterNumber | .number _ => some (.number (s.length + 1))
    | _ => some (.text (s.length + 1))
  else if c.isAlpha || c == '_' then some (.text (s.length + 1))
  else if c == '-' then
    match s with
    | .start | .label | .labelAfterNumber => none
    | _ => some (.hyphen (s.length + 1))
  else none

/-- Whether a name may end here. A final dot is allowed. -/
def Scan.atEnd : Scan → Bool
  | .text _ => true
  | .label => true
  | _ => false

def isDnsName (s : List Char) : Bool :=
  (Utf8.encodeChars s).length ≤ 253 &&
    (match s.foldl (fun st c => st.bind (·.step c)) (some Scan.start) with
      | some st => st.atEnd
      | none => false)

/-! ## Numeric addresses -/

/-- A decimal number below 256 without leading zeros. -/
def isOctet (s : List Char) : Bool :=
  !s.isEmpty && s.length ≤ 3 && s.all Char.isDigit && (s.length = 1 || s.head? != some '0') &&
    Reply.decimal s < 256

/-- Four octets between dots. -/
def isAddress4 (s : List Char) : Bool :=
  let parts := Reply.split (· == '.') s
  parts.length = 4 && parts.all isOctet

def isHexDigit (c : Char) : Bool :=
  c.isDigit || ('a' ≤ c && c ≤ 'f') || ('A' ≤ c && c ≤ 'F')

/-- One to four hexadecimal digits. -/
def isGroup (s : List Char) : Bool := !s.isEmpty && s.length ≤ 4 && s.all isHexDigit

/-- How many groups the parts between colons fill, the last one perhaps an address of four octets,
which fills two. -/
def groups : List (List Char) → Option Nat
  | [] => some 0
  | [p] => if isGroup p then some 1 else if isAddress4 p then some 2 else none
  | p :: ps => if isGroup p then (groups ps).map (· + 1) else none

/-- Splits at the first double colon. -/
def splitGap (before : List Char) : List Char → Option (List Char × List Char)
  | ':' :: ':' :: rest => some (before.reverse, rest)
  | c :: rest => splitGap (c :: before) rest
  | [] => none

/-- The parts between colons, none for an empty string. -/
def parts (s : List Char) : List (List Char) :=
  if s.isEmpty then [] else Reply.split (· == ':') s

/-- Eight groups, or fewer around a double colon. -/
def isAddress6 (s : List Char) : Bool :=
  match splitGap [] s with
  | none => groups (parts s) == some 8
  | some (a, b) =>
    match groups (parts a), groups (parts b) with
    | some n, some m => n + m ≤ 7 && (a.isEmpty || (parts a).all isGroup)
    | _, _ => false

/-- Whether a text names a server that a certificate can vouch for. -/
def isServerName (s : String) : Bool :=
  isDnsName s.toList || isAddress4 s.toList || isAddress6 s.toList

end Outbox.ServerName
