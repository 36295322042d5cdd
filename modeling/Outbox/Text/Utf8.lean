/-! # UTF-8

Octet strings, the UTF-8 form of a text, and the decoder that says where a text goes wrong:

* `encode`: one to four octets per character.
* `decode`: the characters of a well-formed octet string, or the first `Fault`: how many octets
  before it are well formed, and how long the ill-formed sequence is. A sequence that the end of
  the input cuts short has no length.

The lead octet fixes how many octets follow and the range of the first of them (`Lead`), which
keeps out overlong forms, surrogates and everything above U+10FFFF.
-/

set_option autoImplicit false

namespace Outbox

/-- An octet string, as it travels on a connection. -/
abbrev Bytes := List UInt8

namespace Utf8

/-! ## Encoding -/

/-- The octet that carries six low bits of a code point behind a lead octet. -/
def tail (n : Nat) : UInt8 := UInt8.ofNat (0x80 + n % 64)

/-- The UTF-8 form of one character. -/
def encodeChar (c : Char) : Bytes :=
  let n := c.toNat
  if n < 0x80 then [UInt8.ofNat n]
  else if n < 0x800 then [UInt8.ofNat (0xC0 + n / 64), tail n]
  else if n < 0x10000 then [UInt8.ofNat (0xE0 + n / 4096), tail (n / 64), tail n]
  else [UInt8.ofNat (0xF0 + n / 262144), tail (n / 4096), tail (n / 64), tail n]

/-- The UTF-8 form of a character string. -/
def encodeChars (cs : List Char) : Bytes := cs.flatMap encodeChar

/-- The UTF-8 form of a text. -/
def encode (s : String) : Bytes := encodeChars s.toList

/-! ## Decoding -/

/-- Where an octet string stops being UTF-8. -/
structure Fault where
  /-- Octets before the ill-formed sequence. -/
  validUpTo : Nat
  /-- Octets of the ill-formed sequence, none if the input ends inside it. -/
  length : Option Nat
  deriving DecidableEq, Repr

/-- The fault in words. -/
def Fault.message (f : Fault) : String :=
  match f.length with
  | some n =>
    "invalid utf-8 sequence of " ++ toString n ++ " bytes from index " ++ toString f.validUpTo
  | none => "incomplete utf-8 byte sequence from index " ++ toString f.validUpTo

/-- What a lead octet asks for: its payload bits, how many octets follow, and the range of the
first of them. -/
structure Lead where
  bits : Nat
  follow : Nat
  low : Nat
  high : Nat

/-- The octets that may start a character. -/
def lead (a : Nat) : Option Lead :=
  if a < 0x80 then some ⟨a, 0, 0, 0⟩
  else if a < 0xC2 then none
  else if a < 0xE0 then some ⟨a - 0xC0, 1, 0x80, 0xBF⟩
  else if a < 0xF0 then
    some ⟨a - 0xE0, 2, if a = 0xE0 then 0xA0 else 0x80, if a = 0xED then 0x9F else 0xBF⟩
  else if a < 0xF5 then
    some ⟨a - 0xF0, 3, if a = 0xF0 then 0x90 else 0x80, if a = 0xF4 then 0x8F else 0xBF⟩
  else none

/-- How an octet string starts: with a character, with an ill-formed sequence of some length, or
with a sequence that the end cuts short. -/
inductive Head where
  | char (c : Char) (size : Nat)
  | bad (size : Nat)
  | cut
  deriving DecidableEq, Repr

/-- Reads `n` more octets behind a lead octet, the first of them between `low` and `high`; `size`
octets are read so far and `bits` is what they carry. -/
def follow : Nat → Nat → Nat → Nat → Nat → Bytes → Head
  | 0, _, _, size, bits, _ => .char (Char.ofNat bits) size
  | _ + 1, _, _, _, _, [] => .cut
  | n + 1, low, high, size, bits, b :: rest =>
    if low ≤ b.toNat ∧ b.toNat ≤ high then
      follow n 0x80 0xBF (size + 1) (bits * 64 + b.toNat % 64) rest
    else .bad size

/-- How a non-empty octet string starts. -/
def head (a : UInt8) (rest : Bytes) : Head :=
  match lead a.toNat with
  | none => .bad 1
  | some l => follow l.follow l.low l.high 1 l.bits rest

/-- Decodes from octet `offset` on, with the characters `seen` before it in reverse; `skip` octets
belong to the last of them. -/
def decodeFrom (offset skip : Nat) (seen : List Char) : Bytes → Except Fault (List Char)
  | [] => .ok seen.reverse
  | a :: rest =>
    match skip with
    | k + 1 => decodeFrom (offset + 1) k seen rest
    | 0 =>
      match head a rest with
      | .char c size => decodeFrom (offset + 1) (size - 1) (c :: seen) rest
      | .bad size => .error ⟨offset, some size⟩
      | .cut => .error ⟨offset, none⟩

/-- The characters of an octet string, or where it stops being UTF-8. -/
def decodeChars (bytes : Bytes) : Except Fault (List Char) := decodeFrom 0 0 [] bytes

/-- The text of an octet string, or where it stops being UTF-8. -/
def decode (bytes : Bytes) : Except Fault String := (decodeChars bytes).map String.ofList

/-- Octets in the UTF-8 form of a text. -/
def size (s : String) : Nat := (encode s).length

end Utf8

end Outbox
