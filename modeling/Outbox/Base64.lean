import Outbox.Text.Utf8

/-! # Base64

The padded standard alphabet that carries credentials: three octets become four characters. The
alphabet holds no control character, so an encoded credential stays within its line.
-/

set_option autoImplicit false

namespace Outbox.Base64

/-- The character of a six-bit group. -/
def digit (n : Nat) : Char :=
  if n < 26 then Char.ofNat (0x41 + n)
  else if n < 52 then Char.ofNat (0x61 + (n - 26))
  else if n < 62 then Char.ofNat (0x30 + (n - 52))
  else if n = 62 then '+' else '/'

/-- Four characters per three octets, the last group filled up with `=`. -/
def encodeChars : Bytes → List Char
  | a :: b :: c :: rest =>
    let n := a.toNat * 65536 + b.toNat * 256 + c.toNat
    digit (n / 262144) :: digit (n / 4096 % 64) :: digit (n / 64 % 64) :: digit (n % 64) ::
      encodeChars rest
  | [a, b] =>
    let n := a.toNat * 1024 + b.toNat * 4
    [digit (n / 4096), digit (n / 64 % 64), digit (n % 64), '=']
  | [a] => [digit (a.toNat / 4), digit (a.toNat % 4 * 16), '=', '=']
  | [] => []

/-- The encoded form of an octet string. -/
def encode (bytes : Bytes) : String := String.ofList (encodeChars bytes)

end Outbox.Base64
