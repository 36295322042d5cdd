import Outbox.Base64
import Outbox.Text.Quoted
import Outbox.Text.Utf8

/-! # PEM bundles

A text file in which sections between `-----BEGIN label-----` and `-----END label-----` hold binary
data in Base64. What stands outside sections is ignored.

* `sections`: the sections of a bundle in order, up to the first fault.
* `write`: a section.
-/

set_option autoImplicit false

namespace Outbox.Pem

/-- Why a bundle cannot be read on. -/
inductive Fault where
  | endMissing (label : Bytes)
  | badStart (line : Bytes)
  | badCharacter (b : UInt8)
  | badPadding
  deriving DecidableEq, Repr

/-- Octets as a text, for messages only: what is not UTF-8 becomes one replacement character. -/
def show? (bytes : Bytes) : String :=
  match Utf8.decode bytes with
  | .ok s => s
  | .error _ => String.singleton (Char.ofNat 0xFFFD)

def Fault.message : Fault → String
  | endMissing label => "section end " ++ Text.quote (show? label) ++ " missing"
  | badStart line => "illegal section start: " ++ Text.quote (show? line)
  | badCharacter b => "InvalidCharacter(" ++ toString b.toNat ++ ")"
  | badPadding => "InvalidTrailingPadding"

/-- The fault as a list of platform faults shows it. -/
def Fault.describe : Fault → String
  | endMissing label =>
    "MissingSectionEnd \x7b end_marker: " ++ toString (label.map UInt8.toNat) ++ " \x7d"
  | badStart line =>
    "IllegalSectionStart \x7b line: " ++ toString (line.map UInt8.toNat) ++ " \x7d"
  | badCharacter b => "Base64Decode(\"InvalidCharacter(" ++ toString b.toNat ++ ")\")"
  | badPadding => "Base64Decode(\"InvalidTrailingPadding\")"

/-- A section's label and data. -/
structure Section where
  label : Bytes
  data : Bytes
  deriving DecidableEq, Repr

/-! ## Base64 -/

/-- The six bits of a Base64 character. -/
def sextet (b : UInt8) : Option Nat :=
  let n := b.toNat
  if 0x41 ≤ n && n ≤ 0x5A then some (n - 0x41)
  else if 0x61 ≤ n && n ≤ 0x7A then some (n - 0x61 + 26)
  else if 0x30 ≤ n && n ≤ 0x39 then some (n - 0x30 + 52)
  else if n = 0x2B then some 62
  else if n = 0x2F then some 63
  else none

def isBase64Blank (b : UInt8) : Bool := b = 32 || b = 9 || b = 10 || b = 13

/-- The octets of complete and final groups of six bits. -/
def join : List Nat → Bytes
  | a :: b :: c :: d :: rest =>
    let n := a * 262144 + b * 4096 + c * 64 + d
    UInt8.ofNat (n / 65536) :: UInt8.ofNat (n / 256 % 256) :: UInt8.ofNat (n % 256) :: join rest
  | [a, b, c] =>
    let n := a * 4096 + b * 64 + c
    [UInt8.ofNat (n / 1024), UInt8.ofNat (n / 4 % 256)]
  | [a, b] => [UInt8.ofNat ((a * 64 + b) / 16)]
  | _ => []

/-- The data of a section's text. White space does not count; padding fills up the last group. -/
def decode (s : Bytes) : Except Fault Bytes :=
  let s := s.filter fun b => !isBase64Blank b
  let body := s.takeWhile (· ≠ 0x3D)
  let padding := s.dropWhile (· ≠ 0x3D)
  match s.find? fun b => b ≠ 0x3D && (sextet b).isNone with
  | some b => .error (.badCharacter b)
  | none =>
    if padding.any (· ≠ 0x3D) || padding.length > 2 || (body.length + padding.length) % 4 ≠ 0 then
      .error .badPadding
    else .ok (join (body.filterMap sextet))

/-! ## Sections -/

def begins : Bytes := Utf8.encode "-----BEGIN "

def ends : Bytes := Utf8.encode "-----END "

def dashes : Bytes := Utf8.encode "-----"

/-- The labels whose sections hold data that must be Base64. -/
def knownLabels : List Bytes :=
  ["CERTIFICATE", "PUBLIC KEY", "RSA PRIVATE KEY", "PRIVATE KEY", "EC PRIVATE KEY", "X509 CRL",
    "CERTIFICATE REQUEST", "ECHCONFIG"].map Utf8.encode

/-- The lines of a bundle, each with its end, which is a CR or a LF. -/
def lines (line : Bytes) : Bytes → List Bytes
  | [] => if line.isEmpty then [] else [line.reverse]
  | b :: rest =>
    if b = 10 || b = 13 then (b :: line).reverse :: lines [] rest else lines (b :: line) rest

/-- The label in a line that starts a section: what is left without the dashes at both ends. -/
def labelOf (line : Bytes) : Option Bytes :=
  let trailing := line.reverse.takeWhile fun b => b = 45 || b = 10 || b = 13 || b = 32
  if (trailing.filter (· = 45)).length ≠ 5 then none
  else
    let kept := (trailing.reverse.dropWhile (· ≠ 45)).length
    some ((line.take (line.length - kept)).drop begins.length)

/-- Whether a line ends the section with a label. -/
def isEnd (label line : Bytes) : Bool := (ends ++ label ++ dashes).isPrefixOf line

/-- Reads on inside or outside a section; `inside` holds its label and the text so far in reverse. -/
def read (inside : Option (Bytes × List Bytes)) : List Bytes → List (Except Fault Section)
  | [] =>
    match inside with
    | some (label, _) => [.error (.endMissing label)]
    | none => []
  | line :: rest =>
    if begins.isPrefixOf line then
      match labelOf line with
      | none => [.error (.badStart line)]
      | some label => read (some (label, (inside.map (·.2)).getD [])) rest
    else match inside with
      | none => read none rest
      | some (label, text) =>
        if !isEnd label line then read (some (label, line :: text)) rest
        else if !knownLabels.contains label then read none rest
        else match decode text.reverse.flatten with
          | .error fault => [.error fault]
          | .ok data => .ok ⟨label, data⟩ :: read none rest

/-- The sections of a bundle with known labels, in order; a fault is the last entry. -/
def sections (bundle : Bytes) : List (Except Fault Section) := read none (lines [] bundle)

/-! ## Writing -/

/-- A section with its data on one line. -/
def write (label : String) (data : Bytes) : Bytes :=
  Utf8.encode ("-----BEGIN " ++ label ++ "-----\n" ++ Base64.encode data ++
    "\n-----END " ++ label ++ "-----\n")

end Outbox.Pem
