import Outbox.Proofs.Utf8
import Outbox.Session

/-!
# What travels, octet by octet

Texts, lines and credentials as the standards have them on a connection, written down without any
function of the program, and that the program's functions come to the same:

* `Wire.text`: the UTF-8 form by the core library. `Utf8.encode_eq` is the agreement.
* `Wire.base64`: bits in groups of six, a character of the alphabet for each, and filled up with
  equals signs. `Base64.encode_eq` is the agreement.
* `Wire.line`, `Wire.plain`: a line with its CRLF, and both credentials on one.
-/

set_option autoImplicit false

namespace Outbox

namespace Wire

/-- The octets of a text. -/
def text (s : String) : Bytes := s.toUTF8.data.toList

/-- A line with its end. -/
def line (s : String) : Bytes := text s ++ [13, 10]

/-! ## Base64 -/

/-- The bits of an octet, the highest first. -/
def bits (b : UInt8) : List Nat := [128, 64, 32, 16, 8, 4, 2, 1].map fun place => b.toNat / place % 2

/-- Groups of six bits, the last of which may be shorter. -/
def sextets : List Nat → List (List Nat)
  | a :: b :: c :: d :: e :: f :: rest => [a, b, c, d, e, f] :: sextets rest
  | [] => []
  | rest => [rest]

/-- The number that a group stands for. Bits that a short one lacks are zero. -/
def number (group : List Nat) : Nat :=
  (List.zipWith (· * ·) group [32, 16, 8, 4, 2, 1]).foldr (· + ·) 0

def alphabet : List Char :=
  "ABCDEFGHIJKLMNOPQRSTUVWXYZabcdefghijklmnopqrstuvwxyz0123456789+/".toList

/-- A character for each group. -/
def digits (bits : List Nat) : List Char :=
  (sextets bits).map fun group => alphabet.getD (number group) '='

/-- Characters filled up to a multiple of four. -/
def filled (cs : List Char) : List Char := cs ++ List.replicate ((4 - cs.length % 4) % 4) '='

/-- The digits of some octets, filled up. -/
def base64 (data : Bytes) : String := String.ofList (filled (digits (data.flatMap bits)))

/-- User name and password in one token, NUL before each. -/
def plain (username password : String) : String :=
  base64 (0 :: text username ++ 0 :: text password)

end Wire

/-! ## Texts -/

namespace Utf8

theorem tail_eq (n : Nat) : tail n = UInt8.ofNat (n % 64 + 128) := by rw [tail, Nat.add_comm]

theorem encodeChar_eq (c : Char) : encodeChar c = String.utf8EncodeChar c := by
  have bound : c.val.toNat < 1114112 := toNat_lt c
  simp only [encodeChar, String.utf8EncodeChar, tail_eq, ← Char.toNat_val]
  generalize c.val.toNat = n at bound ⊢
  -- the two spell the same bounds, one as `<` and one as `≤`
  by_cases one : n < 128
  · rw [if_pos one, if_pos (show n ≤ 127 by omega)]
  · rw [if_neg one, if_neg (show ¬n ≤ 127 by omega)]
    by_cases two : n < 2048
    · rw [if_pos two, if_pos (show n ≤ 2047 by omega), Nat.mod_eq_of_lt (show n / 64 < 32 by omega),
        Nat.add_comm]
    · rw [if_neg two, if_neg (show ¬n ≤ 2047 by omega)]
      by_cases three : n < 65536
      · rw [if_pos three, if_pos (show n ≤ 65535 by omega),
          Nat.mod_eq_of_lt (show n / 4096 < 16 by omega), Nat.add_comm]
      · rw [if_neg three, if_neg (show ¬n ≤ 65535 by omega),
          Nat.mod_eq_of_lt (show n / 262144 < 8 by omega), Nat.add_comm]

/-- **The UTF-8 form of a text** is that of the core library. -/
theorem encode_eq (s : String) : encode s = Wire.text s := by
  have same : encodeChar = String.utf8EncodeChar := funext encodeChar_eq
  rw [Wire.text, String.toUTF8, ← String.utf8Encode_toList, List.utf8Encode,
    List.data_toByteArray, encode, encodeChars, same]

end Utf8

/-! ## Credentials -/

namespace Base64

theorem digit_eq {n : Nat} (h : n < 64) : digit n = Wire.alphabet.getD n '=' := by
  have all : ∀ n < 64, digit n = Wire.alphabet.getD n '=' := by decide +kernel
  exact all n h

/-- Six bits are one digit. -/
theorem digits_six (a b c d e f : Nat) (bits : List Nat) :
    Wire.digits (a :: b :: c :: d :: e :: f :: bits) =
      Wire.alphabet.getD (a * 32 + (b * 16 + (c * 8 + (d * 4 + (e * 2 + f))))) '=' ::
        Wire.digits bits := by
  simp [Wire.digits, Wire.sextets, Wire.number]

/-- Four bits that are left over are one digit. -/
theorem digits_four (a b c d : Nat) : Wire.digits [a, b, c, d] =
    [Wire.alphabet.getD (a * 32 + (b * 16 + (c * 8 + (d * 4 + 0)))) '='] := by
  simp [Wire.digits, Wire.sextets, Wire.number]

/-- Two bits that are left over are one digit. -/
theorem digits_two_bits (a b : Nat) :
    Wire.digits [a, b] = [Wire.alphabet.getD (a * 32 + (b * 16 + 0)) '='] := by
  simp [Wire.digits, Wire.sextets, Wire.number]

/-! What the groups of the bits of octets come to: the upper six, four and two, and the lower two,
four and six, where others may follow. -/

theorem upper_six {a : Nat} (h : a < 256) : a / 128 % 2 * 32 + (a / 64 % 2 * 16 +
    (a / 32 % 2 * 8 + (a / 16 % 2 * 4 + (a / 8 % 2 * 2 + a / 4 % 2)))) = a / 4 := by
  omega

theorem upper_four {a : Nat} (h : a < 256) :
    a / 128 % 2 * 8 + (a / 64 % 2 * 4 + (a / 32 % 2 * 2 + a / 16 % 2)) = a / 16 := by
  omega

theorem upper_two {a : Nat} (h : a < 256) : a / 128 % 2 * 2 + a / 64 % 2 = a / 64 := by omega

theorem lower_two (a r : Nat) : a / 2 % 2 * 32 + (a / 1 % 2 * 16 + r) = a % 4 * 16 + r := by omega

theorem lower_four (a r : Nat) :
    a / 8 % 2 * 32 + (a / 4 % 2 * 16 + (a / 2 % 2 * 8 + (a / 1 % 2 * 4 + r))) = a % 16 * 4 + r := by
  omega

theorem lower_six (a : Nat) : a / 32 % 2 * 32 + (a / 16 % 2 * 16 + (a / 8 % 2 * 8 +
    (a / 4 % 2 * 4 + (a / 2 % 2 * 2 + a / 1 % 2)))) = a % 64 := by
  omega

/-- Three octets are four digits. -/
theorem digits_three (a b c : UInt8) (bits : List Nat) {n : Nat}
    (hn : n = a.toNat * 65536 + b.toNat * 256 + c.toNat) :
    Wire.digits (Wire.bits a ++ (Wire.bits b ++ (Wire.bits c ++ bits))) =
      digit (n / 262144) :: digit (n / 4096 % 64) :: digit (n / 64 % 64) :: digit (n % 64) ::
        Wire.digits bits := by
  have ha := a.toNat_lt
  have hb := b.toNat_lt
  have hc := c.toNat_lt
  have first : n / 262144 = a.toNat / 4 := by omega
  have second : n / 4096 % 64 = a.toNat % 4 * 16 + b.toNat / 16 := by omega
  have third : n / 64 % 64 = b.toNat % 16 * 4 + c.toNat / 64 := by omega
  have fourth : n % 64 = c.toNat % 64 := by omega
  simp only [Wire.bits, List.map_cons, List.map_nil, List.cons_append, List.nil_append, digits_six]
  rw [upper_six ha, upper_four hb, lower_two, upper_two hc, lower_four, lower_six, first, second,
    third, fourth, digit_eq (by omega), digit_eq (by omega), digit_eq (by omega), digit_eq (by omega)]

/-- Two octets that are left over are three digits. -/
theorem digits_two (a b : UInt8) {n : Nat} (hn : n = a.toNat * 1024 + b.toNat * 4) :
    Wire.digits (Wire.bits a ++ Wire.bits b) =
      [digit (n / 4096), digit (n / 64 % 64), digit (n % 64)] := by
  have ha := a.toNat_lt
  have hb := b.toNat_lt
  have first : n / 4096 = a.toNat / 4 := by omega
  have second : n / 64 % 64 = a.toNat % 4 * 16 + b.toNat / 16 := by omega
  have third : n % 64 = b.toNat % 16 * 4 + 0 := by omega
  simp only [Wire.bits, List.map_cons, List.map_nil, List.cons_append, List.nil_append, digits_six,
    digits_four]
  rw [upper_six ha, upper_four hb, lower_two, lower_four, first, second, third,
    digit_eq (by omega), digit_eq (by omega), digit_eq (by omega)]

/-- One octet that is left over is two digits. -/
theorem digits_one (a : UInt8) :
    Wire.digits (Wire.bits a) = [digit (a.toNat / 4), digit (a.toNat % 4 * 16)] := by
  have ha := a.toNat_lt
  simp only [Wire.bits, List.map_cons, List.map_nil, digits_six, digits_two_bits]
  rw [upper_six ha, lower_two, digit_eq (by omega), digit_eq (by omega), Nat.add_zero]

theorem filled_four (a b c d : Char) (cs : List Char) :
    Wire.filled (a :: b :: c :: d :: cs) = a :: b :: c :: d :: Wire.filled cs := by
  simp only [Wire.filled, List.length_cons, Nat.add_assoc, Nat.reduceAdd, Nat.add_mod_right,
    List.cons_append]

/-- **Base64** takes six bits at a time. -/
theorem encode_eq (data : Bytes) : encode data = Wire.base64 data := by
  have chars : encodeChars data = Wire.filled (Wire.digits (data.flatMap Wire.bits)) := by
    fun_induction encodeChars data with
    | case1 a b c rest n ih =>
      rw [List.flatMap_cons, List.flatMap_cons, List.flatMap_cons, digits_three a b c _ rfl,
        filled_four, ← ih]
    | case2 a b n =>
      rw [List.flatMap_cons, List.flatMap_singleton, digits_two a b rfl]
      rfl
    | case3 a =>
      rw [List.flatMap_singleton, digits_one]
      rfl
    | case4 => rfl
  rw [encode, Wire.base64, chars]

end Base64

theorem Talk.line_eq (s : String) : line s = Wire.line s := by
  rw [line, Wire.line, Utf8.encode_eq]
  rfl

theorem Talk.plainToken_eq (username password : String) :
    plainToken username password = Wire.plain username password := by
  rw [plainToken, Wire.plain, Base64.encode_eq, Utf8.encode_eq, Utf8.encode_eq]

example : Wire.plain "ann" "secret" = "AGFubgBzZWNyZXQ=" := by decide +kernel

end Outbox
