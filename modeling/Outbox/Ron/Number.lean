import Outbox.Text.IdentTail

/-! # Numbers of RON

Integers in four bases with an optional type suffix, and decimal fractions.

* `integer`: sign, magnitude and suffix of the integer at the start of a document, if it fits its
  type; without a suffix the type is a signed or unsigned word of 64 bits, as the sign asks.
* `number`: an integer or a fraction. A decimal integer too large for a word counts as a fraction.
-/

set_option autoImplicit false

namespace Outbox.Ron

/-- The type that a suffix names. -/
structure Width where
  signed : Bool
  bits : Nat
  deriving DecidableEq, Repr

/-- The suffixes of integer types. -/
def suffixes : List (List Char × Width) :=
  [(['i', '8'], ⟨true, 8⟩), (['i', '1', '6'], ⟨true, 16⟩), (['i', '3', '2'], ⟨true, 32⟩),
    (['i', '6', '4'], ⟨true, 64⟩), (['u', '8'], ⟨false, 8⟩), (['u', '1', '6'], ⟨false, 16⟩),
    (['u', '3', '2'], ⟨false, 32⟩), (['u', '6', '4'], ⟨false, 64⟩)]

/-- How many values a type has. -/
def Width.size (w : Width) : Nat := Nat.pow 2 w.bits

/-- Whether a signed magnitude is a value of a type. -/
def Width.fits (w : Width) (negative : Bool) (n : Nat) : Bool :=
  if w.signed then if negative then 2 * n ≤ w.size else 2 * n < w.size
  else if negative then n == 0 else n < w.size

/-- An integer as it was written. -/
structure Integer where
  negative : Bool
  magnitude : Nat
  width : Option Width
  deriving DecidableEq, Repr

/-! ## Integers -/

/-- The value of a hexadecimal digit. -/
def hexDigit (c : Char) : Option Nat :=
  let n := c.toNat
  if 0x30 ≤ n && n ≤ 0x39 then some (n - 0x30)
  else if 0x41 ≤ n && n ≤ 0x46 then some (n - 0x41 + 10)
  else if 0x61 ≤ n && n ≤ 0x66 then some (n - 0x61 + 10)
  else none

/-- What a run of digits consists of, in any base. -/
def isDigitOrGap (c : Char) : Bool := (hexDigit c).isSome || c == '_'

/-- The number that digits in a base spell; underscores between them do not count. -/
def digits (base : Nat) : Nat → List Char → Option Nat
  | n, [] => some n
  | n, c :: cs =>
    if c == '_' then digits base n cs
    else match hexDigit c with
      | some d => if d < base then digits base (n * base + d) cs else none
      | none => none

/-- The base that a document's start announces, and what follows the announcement. -/
def announced : List Char → Nat × List Char
  | '0' :: 'b' :: s => (2, s)
  | '0' :: 'o' :: s => (8, s)
  | '0' :: 'x' :: s => (16, s)
  | s => (10, s)

/-- The magnitude at the start of a document, which starts with a digit behind the base. -/
def magnitude (s : List Char) : Option (Nat × List Char) :=
  let (base, s) := announced s
  let run := s.takeWhile isDigitOrGap
  if run.isEmpty || run.head? == some '_' then none
  else (digits base 0 run).map fun n => (n, s.dropWhile isDigitOrGap)

/-- The suffix at the start of a document, as a word of its own. -/
def suffix (s : List Char) : Option (Width × List Char) :=
  suffixes.findSome? fun (name, w) =>
    if name.isPrefixOf s then
      let rest := s.drop name.length
      if (rest.head?.map Text.isIdentTail).getD false then none else some (w, rest)
    else none

/-- A document behind a sign, and whether the sign is a minus. -/
def sign : List Char → Bool × List Char
  | '+' :: s => (false, s)
  | '-' :: s => (true, s)
  | s => (false, s)

/-- The integer at the start of a document. A suffix counts only right behind the first run of
digits, so behind a binary or decimal integer. -/
def integer (s : List Char) : Option (Integer × List Char) :=
  let (negative, s) := sign s
  match magnitude s with
  | none => none
  | some (n, rest) =>
    match suffix (s.dropWhile isDigitOrGap) with
    | some (w, rest) =>
      if w.fits negative n then some (⟨negative, n, some w⟩, rest) else none
    | none =>
      if Width.fits ⟨negative, 64⟩ negative n then some (⟨negative, n, none⟩, rest) else none

/-! ## Fractions -/

/-- What a run of a fraction consists of. -/
def isFractionChar (c : Char) : Bool :=
  c.isDigit || c == 'e' || c == 'E' || c == '.' || c == '+' || c == '-' || c == '_'

/-- A run without its underscores, none if one stands where no digit or exponent mark precedes. -/
def ungrouped : Bool → List Char → Option (List Char)
  | _, [] => some []
  | allowed, c :: cs =>
    if c == '_' then if allowed then ungrouped allowed cs else none
    else
      let allowed := if c.isDigit || c == 'e' || c == 'E' then true
        else if c == '.' then false else allowed
      (ungrouped allowed cs).map (c :: ·)

/-- Whether what follows a fraction's digits is nothing or an exponent. -/
def isExponent : List Char → Bool
  | [] => true
  | c :: s =>
    (c == 'e' || c == 'E') &&
      (let ds := (sign s).2
       !ds.isEmpty && ds.all Char.isDigit)

/-- Whether a run is a decimal fraction: digits around at most one point, with at least one digit,
and an optional exponent. -/
def isFraction (s : List Char) : Bool :=
  let s := (sign s).2
  let whole := s.takeWhile Char.isDigit
  match s.dropWhile Char.isDigit with
  | '.' :: rest =>
    let part := rest.takeWhile Char.isDigit
    !(whole.isEmpty && part.isEmpty) && isExponent (rest.dropWhile Char.isDigit)
  | rest => !whole.isEmpty && isExponent rest

/-- A document behind a suffix `f32` or `f64`, if it starts with one as a word of its own. -/
def dropFractionSuffix (s : List Char) : List Char :=
  match s with
  | 'f' :: '3' :: '2' :: rest =>
    if (rest.head?.map Text.isIdentTail).getD false then s else rest
  | 'f' :: '6' :: '4' :: rest =>
    if (rest.head?.map Text.isIdentTail).getD false then s else rest
  | _ => s

/-- What follows a signed infinity or not-a-number at the start of a document. -/
def unbounded (s : List Char) : Option (List Char) :=
  let rest? := match s with
    | '+' :: 'i' :: 'n' :: 'f' :: rest => some rest
    | '-' :: 'i' :: 'n' :: 'f' :: rest => some rest
    | '+' :: 'N' :: 'a' :: 'N' :: rest => some rest
    | '-' :: 'N' :: 'a' :: 'N' :: rest => some rest
    | _ => none
  rest?.bind fun rest =>
    let rest := dropFractionSuffix rest
    if (rest.head?.map Text.isIdentTail).getD false then none else some rest

/-- What follows the fraction at the start of a document. -/
def fraction (s : List Char) : Option (List Char) :=
  match unbounded s with
  | some rest => some rest
  | none =>
    let run := s.takeWhile isFractionChar
    match ungrouped false run with
    | some plain =>
      if isFraction plain then some (dropFractionSuffix (s.dropWhile isFractionChar)) else none
    | none => none

/-- Whether the number at the start of a document can only be a fraction: it runs further than an
integer's digits would. -/
def looksFractional (s : List Char) : Bool :=
  let s := (sign s).2
  (s.takeWhile isDigitOrGap).length < (s.takeWhile isFractionChar).length

/-- The number at the start of a document, none inside standing for a fraction. -/
def number (s : List Char) : Option (Option Integer × List Char) :=
  match if looksFractional s then none else integer s with
  | some (i, rest) => some (some i, rest)
  | none => (fraction s).map fun rest => (none, rest)

end Outbox.Ron
